import Verdict.Plugin.Filesystem
import Verdict.Proofs.Evaluation.Visit

/-!
# Evaluation: the cache of facts

A run keeps the value of a fact under its name, so a leaf may be answered with what an earlier leaf
had calculated, whatever params it passes itself.

* `Run.Keeps`: the cache holds, for every fact, what the first leaf that named it and had it
  calculated successfully was given.  A walk keeps this (`keptByWalk_keeps`).
* `evaluate_served`: if facts answer by their params and the context alone, every leaf is found as
  it is alone in a fresh run, with the params of that first leaf in the place of its own.

The params of the first leaf differ from those of a later one only if two leaves of one fact pass
different params; otherwise the cache is not seen.
-/

namespace Verdict

/-- What the fact answers depends on its params and the context only, and it publishes nothing. -/
def Fact.IsPure (f : Fact) : Prop :=
  ∀ params ctx run, (f.calculate params ctx run).outcome = (f.calculate params ctx {}).outcome ∧
    (f.calculate params ctx run).published = []

namespace Registry

/-- All facts of the registry answer by their params and the context only. -/
def FactsArePure (r : Registry) : Prop :=
  ∀ name f, r.facts.get? name = some f → f.IsPure

/-- What a fact answers alone, in a fresh run. -/
def alone (r : Registry) (ctx : Context) (name : String) (params : Option (Table String Value)) :
    Except LeafFault Value :=
  (r.resolve ctx name params {}).1

/-- The first of the leaves that names the fact and has it answered successfully. -/
def firstAnswered (r : Registry) (ctx : Context) (name : String) (leaves : List Leaf) :
    Option Leaf :=
  leaves.find? fun l => l.fact == name && (r.alone ctx name l.params).isOk

end Registry

/-- The leaf as it is answered after others: with the params of the first that had its fact
calculated successfully, if there is one. -/
def Leaf.served (l : Leaf) (r : Registry) (ctx : Context) (earlier : List Leaf) : Leaf :=
  { l with params := ((r.firstAnswered ctx l.fact earlier).map (·.params)).getD l.params }

/-- The cache of the run holds what the first successful leaf of every fact was given.  The target
itself is never kept. -/
def Run.Keeps (r : Registry) (ctx : Context) (done : List Leaf) (run : Run) : Prop :=
  ∀ name, run.cache.get? name =
    if name = targetFact then none
    else (r.firstAnswered ctx name done).bind fun l => (r.alone ctx name l.params).toOption

section Resolve

variable {r : Registry} {ctx : Context}

/-! ### What resolving a fact answers and keeps -/

theorem Fact.run_answer (f : Fact) (name : String) (params : Option (Table String Value))
    (ctx : Context) (run : Run) :
    (f.run name params ctx run).1 =
      (f.calculate params ctx run).outcome.mapError (.factFailed name) := by
  cases h : (f.calculate params ctx run).outcome <;> simp [Fact.run, h, Except.mapError]

/-- The cache after a calculation that publishes nothing. -/
theorem Fact.run_cache {f : Fact} {params : Option (Table String Value)} {ctx : Context}
    {run : Run} (name : String) (silent : (f.calculate params ctx run).published = []) :
    (f.run name params ctx run).2.cache =
      match (f.run name params ctx run).1 with
      | .ok v => run.cache.insert name v
      | .error _ => run.cache := by
  cases h : (f.calculate params ctx run).outcome <;>
    simp [Fact.run, h, silent, Run.learn, Run.warn]

theorem Fact.IsPure.run_answer_eq {f : Fact} (hf : f.IsPure) (name : String)
    (params : Option (Table String Value)) (ctx : Context) (run : Run) :
    (f.run name params ctx run).1 = (f.run name params ctx {}).1 := by
  rw [Fact.run_answer, Fact.run_answer, (hf params ctx run).1]

/-- A fact that the run does not have is answered as in a fresh run. -/
theorem Registry.FactsArePure.resolve_eq_alone (hr : r.FactsArePure) {run : Run} {name : String}
    (params : Option (Table String Value)) (h : run.cache.get? name = none) :
    (r.resolve ctx name params run).1 = r.alone ctx name params := by
  simp only [Registry.alone, Registry.resolve, h, Table.get?_nil]
  split
  · rfl
  · split
    · rfl
    · rename_i f hf
      exact (hr name f hf).run_answer_eq name params ctx run

theorem Registry.resolve_of_kept {run : Run} {name : String} {v : Value}
    (params : Option (Table String Value)) (h : run.cache.get? name = some v) :
    r.resolve ctx name params run = (.ok v, run) := by
  simp only [Registry.resolve, h]

theorem Registry.resolve_target {run : Run} (params : Option (Table String Value))
    (h : run.cache.get? targetFact = none) :
    r.resolve ctx targetFact params run = (.ok ctx.current.toValue, run) := by
  simp only [Registry.resolve, h, if_true]

/-- Resolving a fact that the run does not have keeps its value, unless it is the target. -/
theorem Registry.FactsArePure.resolve_cache (hr : r.FactsArePure) {run : Run} {name : String}
    (params : Option (Table String Value)) (h : run.cache.get? name = none)
    (ht : name ≠ targetFact) :
    (r.resolve ctx name params run).2.cache =
      match r.alone ctx name params with
      | .ok v => run.cache.insert name v
      | .error _ => run.cache := by
  rw [← hr.resolve_eq_alone params h]
  simp only [Registry.resolve, h, if_neg ht]
  split
  · rfl
  · rename_i f hf
    exact Fact.run_cache name (hr name f hf params ctx run).2

theorem Registry.FactsArePure.get?_resolve_self (hr : r.FactsArePure) {run : Run} {name : String}
    (params : Option (Table String Value)) (h : run.cache.get? name = none)
    (ht : name ≠ targetFact) :
    (r.resolve ctx name params run).2.cache.get? name =
      (r.alone ctx name params).toOption := by
  rw [hr.resolve_cache params h ht]
  cases r.alone ctx name params with
  | ok v => exact Table.get?_insert_self _ _ _
  | error fault => exact h

theorem Registry.FactsArePure.get?_resolve_of_ne (hr : r.FactsArePure) (run : Run)
    {name other : String} (params : Option (Table String Value)) (hne : name ≠ other) :
    (r.resolve ctx name params run).2.cache.get? other = run.cache.get? other := by
  cases h : run.cache.get? name with
  | some v => rw [Registry.resolve_of_kept params h]
  | none =>
      by_cases ht : name = targetFact
      · subst ht
        rw [Registry.resolve_target params h]
      · rw [hr.resolve_cache params h ht]
        cases r.alone ctx name params with
        | ok v => exact Table.get?_insert_of_ne _ v hne
        | error fault => rfl

theorem Registry.firstAnswered_some {name : String} {leaves : List Leaf} {l : Leaf}
    (h : r.firstAnswered ctx name leaves = some l) :
    l ∈ leaves ∧ l.fact = name ∧ ∃ v, r.alone ctx name l.params = .ok v := by
  have hl := List.find?_some h
  simp only [Bool.and_eq_true, beq_iff_eq] at hl
  refine ⟨List.mem_of_find?_eq_some h, hl.1, ?_⟩
  cases ha : r.alone ctx name l.params with
  | ok v => exact ⟨v, rfl⟩
  | error fault => simp [ha, Except.isOk, Except.toBool] at hl

/-- A further leaf is the first that has its fact answered if no earlier one is, it names the fact
and is answered. -/
theorem Registry.firstAnswered_concat (name : String) (leaves : List Leaf) (l : Leaf) :
    r.firstAnswered ctx name (leaves ++ [l]) =
      (r.firstAnswered ctx name leaves).or
        (if l.fact == name && (r.alone ctx name l.params).isOk then some l else none) := by
  unfold Registry.firstAnswered
  rw [List.find?_append, List.find?_singleton]

/-! ### What the cache holds -/

/-- **An answer from the cache.**  A leaf is answered as its served leaf is alone. -/
theorem Run.Keeps.resolve_served {run : Run} {done : List Leaf} (h : run.Keeps r ctx done)
    (hr : r.FactsArePure) (l : Leaf) :
    (r.resolve ctx l.fact l.params run).1 =
      r.alone ctx l.fact (l.served r ctx done).params := by
  have hcache := h l.fact
  by_cases ht : l.fact = targetFact
  · rw [if_pos ht] at hcache
    rw [ht] at hcache ⊢
    rw [Registry.resolve_target _ hcache, Registry.alone, Registry.resolve_target _ rfl]
  · rw [if_neg ht] at hcache
    cases ha : r.firstAnswered ctx l.fact done with
    | none =>
        simp only [ha, Option.bind_none] at hcache
        rw [hr.resolve_eq_alone l.params hcache]
        simp [Leaf.served, ha]
    | some e =>
        obtain ⟨-, -, v, hv⟩ := Registry.firstAnswered_some ha
        simp only [ha, Option.bind_some, hv, Except.toOption] at hcache
        rw [Registry.resolve_of_kept _ hcache]
        simp [Leaf.served, ha, hv]

theorem Leaf.evaluate_cache (l : Leaf) (path : List String) (ctx : Context) (r : Registry)
    (run : Run) :
    (l.evaluate path ctx r run).2.cache = (r.resolve ctx l.fact l.params run).2.cache := by
  simp only [Leaf.evaluate, Leaf.find, Run.warn]
  split <;> simp [*]

/-- The evaluation of a leaf keeps what it adds to the cache. -/
theorem Run.Keeps.evaluate {run : Run} {done : List Leaf} (h : run.Keeps r ctx done)
    (hr : r.FactsArePure) (l : Leaf) (path : List String) :
    (l.evaluate path ctx r run).2.Keeps r ctx (done ++ [l]) := by
  intro name
  rw [Leaf.evaluate_cache, Registry.firstAnswered_concat]
  by_cases hne : l.fact = name
  · subst hne
    have hcache := h l.fact
    by_cases ht : l.fact = targetFact
    · -- the target is answered from the context, and never kept
      rw [if_pos ht] at hcache ⊢
      rw [ht] at hcache ⊢
      rw [Registry.resolve_target _ hcache, hcache]
    · rw [if_neg ht] at hcache ⊢
      cases ha : r.firstAnswered ctx l.fact done with
      | some e =>
          obtain ⟨-, -, v, hv⟩ := Registry.firstAnswered_some ha
          simp only [ha, Option.bind_some, hv, Except.toOption] at hcache
          rw [Registry.resolve_of_kept _ hcache, hcache]
          simp [hv, Except.toOption]
      | none =>
          simp only [ha, Option.bind_none] at hcache
          rw [hr.get?_resolve_self l.params hcache ht]
          cases hv : r.alone ctx l.fact l.params <;>
            simp [hv, Except.toOption, Except.isOk, Except.toBool]
  · rw [hr.get?_resolve_of_ne run l.params hne, h name]
    simp [hne]

/-! ### Leaves in a run and alone -/

theorem Leaf.find_fst (l : Leaf) (ctx : Context) (r : Registry) (run : Run) :
    (l.find ctx r run).1 =
      match (r.resolve ctx l.fact l.params run).1 with
      | .ok v => l.judge r v
      | .error fault => .unresolved fault := by
  unfold Leaf.find
  split <;> simp [*]

/-- Up to the params that it reports, a leaf gives what its served leaf gives alone. -/
theorem Run.Keeps.evaluate_as_served {run : Run} {done : List Leaf} (h : run.Keeps r ctx done)
    (hr : r.FactsArePure) (l : Leaf) (path : List String) :
    (l.evaluate path ctx r run).1 =
      { ((l.served r ctx done).evaluate path ctx r {}).1 with params := l.params } := by
  have hfind : (l.find ctx r run).1 = ((l.served r ctx done).find ctx r {}).1 := by
    rw [Leaf.find_fst, Leaf.find_fst, h.resolve_served hr l]
    rfl
  show l.report path (l.find ctx r run).1 = _
  rw [hfind]
  rfl

/-- A leaf whose fact no earlier leaf names with other params is served as it is. -/
theorem Leaf.served_eq_self {l : Leaf} {earlier : List Leaf}
    (h : ∀ e ∈ earlier, e.fact = l.fact → e.params = l.params) : l.served r ctx earlier = l := by
  unfold Leaf.served
  cases ha : r.firstAnswered ctx l.fact earlier with
  | none => rfl
  | some e =>
      obtain ⟨he, hfact, -⟩ := Registry.firstAnswered_some ha
      simp [h e he hfact]

/-- A leaf is served with the params of the very first leaf, if that has the same fact calculated
successfully. -/
theorem Leaf.served_cons {l e : Leaf} {rest : List Leaf} (hfact : e.fact = l.fact)
    (hok : (r.alone ctx l.fact e.params).isOk = true) :
    l.served r ctx (e :: rest) = { l with params := e.params } := by
  simp [Leaf.served, Registry.firstAnswered, hfact, hok]

theorem Registry.FactsArePure.keptByWalk_keeps (hr : r.FactsArePure) :
    Condition.KeptByWalk ctx r (fun done run => run.Keeps r ctx done) where
  warned := fun _ h => h
  evaluated := fun l path h => h.evaluate hr l path

end Resolve

namespace Condition

/-- **Leaves in a run and alone.**  If facts answer by their params and the context only, the walk
reports every leaf as it is alone in a fresh run, served with the params of the first leaf that had
the same fact calculated successfully.  A leaf whose fact no earlier leaf names with other params is
reported as it is alone.  Of operators nothing is supposed: by their type they are functions of the
two values that they compare. -/
theorem evaluate_served (r : Registry) (hr : r.FactsArePure) (c : Condition) (ctx : Context)
    (path : List String) (i : Nat) (l : Leaf) (hl : c.leaves[i]? = some l) :
    ∃ v, (c.visits ctx r path false {})[i]? = some v ∧ v.leaf = l ∧
      (c.evaluate ctx r path {}).1[i]? = some ((v.found ctx r).invertedIf v.negated) ∧
      v.found ctx r =
        { ((l.served r ctx (c.leaves.take i)).evaluate v.path ctx r {}).1 with
          params := l.params } ∧
      ((∀ e ∈ c.leaves.take i, e.fact = l.fact → e.params = l.params) →
        v.found ctx r = (l.evaluate v.path ctx r {}).1) := by
  have hmap := visits_leaves ctx r path false c {}
  obtain ⟨v, hv, rfl⟩ : ∃ v, (c.visits ctx r path false {})[i]? = some v ∧ v.leaf = l := by
    rw [← hmap, List.getElem?_map] at hl
    exact Option.map_eq_some_iff.mp hl
  have hfresh : Run.Keeps r ctx [] {} := fun name => by
    simp [Registry.firstAnswered]
  have hkeeps := (walk_invariant hr.keptByWalk_keeps path false c hfresh).2 i v hv
  have hserved := hkeeps.evaluate_as_served hr v.leaf v.path
  rw [List.nil_append] at hserved
  refine ⟨v, hv, rfl, ?_, hserved, fun hsame => ?_⟩
  · rw [evaluate_eq_visits, List.getElem?_map, hv]
    rfl
  · rw [Visit.found, hserved, Leaf.served_eq_self hsame]
    rfl

end Condition

/-! ### Two leaves that require different files -/

/-- The registry with nothing but the check for required files. -/
def Registry.requiredFiles : Registry where
  facts := [("missingRequiredFiles",
    { name := "missingRequiredFiles"
      calculate := fun params ctx _ => Plugin.missingRequiredFiles params ctx })]
  operators := [("hasMissingFiles",
    { name := "hasMissingFiles", evaluate := Plugin.hasMissingFiles })]

theorem Registry.requiredFiles_factsArePure : requiredFiles.FactsArePure := by
  intro name f hf
  simp only [requiredFiles, Table.get?] at hf
  split at hf
  · cases hf
    exact fun _ _ _ => ⟨rfl, rfl⟩
  · cases hf

/-- The project lacks a file. -/
def Leaf.lacks (file : String) : Leaf where
  fact := "missingRequiredFiles"
  operator := "hasMissingFiles"
  value := .bool true
  params := some [("requiredFiles", .texts [file])]

/-- Of two leaves that require different files the second is answered as the first. -/
theorem Condition.evaluate_served_lacks :
    let c : Condition := .all [.leaf (.lacks "b.txt"), .leaf (.lacks "a.txt")]
    let ctx := Context.ofTarget (.ofFiles [("a.txt", "")]) "a.txt"
    Registry.requiredFiles.FactsArePure ∧ c.leaves[1]? = some (.lacks "a.txt") ∧
      ∃ v, (c.visits ctx .requiredFiles rootPath false {})[1]? = some v ∧
        v.found ctx .requiredFiles =
          { ((Leaf.lacks "b.txt").evaluate v.path ctx .requiredFiles {}).1 with
            params := (Leaf.lacks "a.txt").params } := by
  intro c ctx
  obtain ⟨v, hv, -, -, hfound, -⟩ :=
    evaluate_served .requiredFiles Registry.requiredFiles_factsArePure c ctx rootPath 1
      (.lacks "a.txt") rfl
  have hserved : (Leaf.lacks "a.txt").served .requiredFiles ctx (c.leaves.take 1) =
      .lacks "b.txt" := by
    refine Leaf.served_cons rfl ?_
    simp [Registry.alone, Registry.resolve, Registry.requiredFiles, Table.get?, targetFact,
      Leaf.lacks, Fact.run, Plugin.missingRequiredFiles, Except.isOk, Except.toBool]
  rw [hserved] at hfound
  exact ⟨Registry.requiredFiles_factsArePure, rfl, v, hv, hfound⟩

/-- The second leaf holds in that run, and not alone: the file that it requires is there. -/
theorem Condition.found_ne_alone_of_lacks :
    let c : Condition := .all [.leaf (.lacks "b.txt"), .leaf (.lacks "a.txt")]
    let ctx := Context.ofTarget (.ofFiles [("a.txt", "")]) "a.txt"
    Registry.requiredFiles.FactsArePure ∧
      ((c.visits ctx .requiredFiles rootPath false {})[1]?.map
        fun v => (v.found ctx .requiredFiles).outcome) = some true ∧
      ((Leaf.lacks "a.txt").evaluate ["conditions", "all", "1"] ctx .requiredFiles {}).1.outcome =
        false :=
  ⟨Registry.requiredFiles_factsArePure, by decide, by decide⟩

end Verdict
