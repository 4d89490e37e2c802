import Mathlib.Data.Nat.Bits
import Verdict.Proofs.Evaluation.Visit

/-!
# Evaluation: sites

A site is a leaf of a tree together with its path.  The sites of a tree are known without a run:
they are where the walk comes to leaves (`visits_sites`), and a leaf stands below an odd number of
negations exactly if its path says so (`visits_negated`).

* `evaluate_eq_evaluateAll`: the walk evaluates the leaves of its sites one after another from the
  state in which it begins, and negates the outcomes of those whose paths below the root have an
  odd number of negations.

A fact is given the whole state of the run, of which the warnings are a part.  The walk warns of
invalid nodes, which the plain loop does not meet; so the two agree if the facts answer the same
whatever the run has warned of (`Registry.FactsIgnoreWarnings`).
-/

namespace Verdict

/-- Inversion touches the outcome only. -/
theorem LeafResult.invertedIf_eq (b : Bool) (r : LeafResult) :
    r.invertedIf b = { r with outcome := r.outcome ^^ b } := by
  cases b with
  | false => rw [Bool.xor_false]; rfl
  | true => rw [Bool.xor_true]; rfl

/-- A leaf with its path in a tree. -/
structure Site where
  leaf : Leaf
  path : List String

namespace Site

/-- The leaves of sites evaluated one after another. -/
def evaluateAll (ctx : Context) (r : Registry) : List Site → Run → List LeafResult × Run
  | [], run => ([], run)
  | s :: rest, run =>
    let (result, between) := s.leaf.evaluate s.path ctx r run
    let (others, after) := evaluateAll ctx r rest between
    (result :: others, after)

/-- The part of the path below the root has an odd number of negations. -/
def isNegatedBelow (root : List String) (s : Site) : Bool :=
  ((s.path.drop root.length).count NodeKind.not.key).bodd

variable {ctx : Context} {r : Registry}

theorem evaluateAll_append : ∀ (ss ts : List Site) (run : Run),
    evaluateAll ctx r (ss ++ ts) run =
      ((evaluateAll ctx r ss run).1 ++ (evaluateAll ctx r ts (evaluateAll ctx r ss run).2).1,
        (evaluateAll ctx r ts (evaluateAll ctx r ss run).2).2)
  | [], _, _ => rfl
  | s :: ss, ts, run => by
      simp only [List.cons_append, evaluateAll, evaluateAll_append ss ts]

/-- The plain loop has one result for every site, which carries the parts of its leaf. -/
theorem evaluateAll_carries : ∀ (ss : List Site) (run : Run) (i : Nat) (s : Site),
    ss[i]? = some s → ∃ found, (evaluateAll ctx r ss run).1[i]? = some found ∧
      found.path = s.path ∧ found.fact = s.leaf.fact ∧ found.operator = s.leaf.operator ∧
      found.operand = s.leaf.value ∧ found.params = s.leaf.params
  | _ :: _, _, 0, _, rfl => ⟨_, rfl, rfl, rfl, rfl, rfl, rfl⟩
  | _ :: ss, _, i + 1, t, h => evaluateAll_carries ss _ i t h

end Site

/-! ### States that differ in their warnings -/

/-- The runs have the same cache and the same calculations. -/
structure Run.Alike (a b : Run) : Prop where
  cache : a.cache = b.cache
  calculated : a.calculated = b.calculated

/-- No fact of the registry depends on what the run has warned of. -/
def Registry.FactsIgnoreWarnings (r : Registry) : Prop :=
  ∀ name f, r.facts.get? name = some f → ∀ params ctx (a b : Run), a.Alike b →
    f.calculate params ctx a = f.calculate params ctx b

namespace Run.Alike

variable {a b : Run}

theorem refl (run : Run) : run.Alike run := ⟨rfl, rfl⟩

theorem warn (h : a.Alike b) (ws vs : List String) : (a.warn ws).Alike (b.warn vs) :=
  ⟨h.cache, h.calculated⟩

theorem learn (h : a.Alike b) (name : String) (v : Value) :
    (a.learn name v).Alike (b.learn name v) :=
  ⟨congrArg (Table.insert · name v) h.cache, h.calculated⟩

theorem learnAll (pairs : List (String × Value)) : ∀ {a b : Run}, a.Alike b →
    (pairs.foldl (fun run (name, v) => run.learn name v) a).Alike
      (pairs.foldl (fun run (name, v) => run.learn name v) b) := by
  induction pairs with
  | nil => exact id
  | cons pair rest ih => exact fun h => ih (h.learn pair.1 pair.2)

theorem run {f : Fact} (h : a.Alike b) {params : Option (Table String Value)} {ctx : Context}
    (same : f.calculate params ctx a = f.calculate params ctx b) (name : String) :
    (f.run name params ctx a).1 = (f.run name params ctx b).1 ∧
      (f.run name params ctx a).2.Alike (f.run name params ctx b).2 := by
  have begun : ({ a with calculated := a.calculated ++ [name] } : Run).Alike
      { b with calculated := b.calculated ++ [name] } :=
    ⟨h.cache, congrArg (· ++ [name]) h.calculated⟩
  have published := learnAll (f.calculate params ctx b).published
    (begun.warn (f.calculate params ctx b).warnings (f.calculate params ctx b).warnings)
  simp only [Fact.run, same]
  split
  · exact ⟨rfl, published.learn _ _⟩
  · exact ⟨rfl, published⟩

theorem resolve {r : Registry} (hr : r.FactsIgnoreWarnings) (h : a.Alike b) (ctx : Context)
    (name : String) (params : Option (Table String Value)) :
    (r.resolve ctx name params a).1 = (r.resolve ctx name params b).1 ∧
      (r.resolve ctx name params a).2.Alike (r.resolve ctx name params b).2 := by
  unfold Registry.resolve
  rw [h.cache]
  split
  · exact ⟨rfl, h⟩
  · split
    · exact ⟨rfl, h⟩
    · split
      · exact ⟨rfl, h⟩
      · next f provided => exact h.run (hr name f provided params ctx a b h) name

theorem find {r : Registry} (hr : r.FactsIgnoreWarnings) (h : a.Alike b) (l : Leaf)
    (ctx : Context) :
    (l.find ctx r a).1 = (l.find ctx r b).1 ∧ (l.find ctx r a).2.Alike (l.find ctx r b).2 := by
  obtain ⟨answer, after⟩ := h.resolve hr ctx l.fact l.params
  unfold Leaf.find
  generalize r.resolve ctx l.fact l.params a = x at answer after ⊢
  generalize r.resolve ctx l.fact l.params b = y at answer after ⊢
  obtain ⟨x₁, x₂⟩ := x
  obtain ⟨y₁, y₂⟩ := y
  obtain rfl : x₁ = y₁ := answer
  cases x₁ with
  | ok v => exact ⟨rfl, after⟩
  | error fault => exact ⟨rfl, after⟩

theorem evaluate {r : Registry} (hr : r.FactsIgnoreWarnings) (h : a.Alike b) (l : Leaf)
    (path : List String) (ctx : Context) :
    (l.evaluate path ctx r a).1 = (l.evaluate path ctx r b).1 ∧
      (l.evaluate path ctx r a).2.Alike (l.evaluate path ctx r b).2 := by
  obtain ⟨found, after⟩ := h.find hr l ctx
  exact ⟨congrArg (l.report path) found, after.warn _ _⟩

end Run.Alike

namespace Condition

/-! ### The sites of a tree -/

mutual

/-- The leaves of a tree at a path, each with its own path. -/
def sites (path : List String) : Condition → List Site
  | .leaf l => [⟨l, path⟩]
  | .all children => sitesFrom (path ++ [NodeKind.all.key]) 0 children
  | .any children => sitesFrom (path ++ [NodeKind.any.key]) 0 children
  | .not child => sites (path ++ [NodeKind.not.key]) child
  | .invalid _ => []

/-- The leaves of siblings, the first of which has the given index. -/
def sitesFrom (path : List String) (index : Nat) : List Condition → List Site
  | [] => []
  | child :: rest => sites (path ++ [toString index]) child ++ sitesFrom path (index + 1) rest

end

variable (ctx : Context) (r : Registry)

mutual

theorem visits_sites : ∀ (path : List String) (negated : Bool) (c : Condition) (run : Run),
    (c.visits ctx r path negated run).map (fun v => ⟨v.leaf, v.path⟩) = c.sites path
  | _, _, .leaf _, _ => rfl
  | _, _, .all children, run | _, _, .any children, run => by
      simp only [visits, sites, visitsFrom_sites]
  | _, _, .not child, run => by simp only [visits, sites, visits_sites]
  | _, _, .invalid _, _ => rfl

theorem visitsFrom_sites : ∀ (path : List String) (negated : Bool) (index : Nat)
    (cs : List Condition) (run : Run),
    (visitsFrom ctx r path negated index cs run).map (fun v => ⟨v.leaf, v.path⟩) =
      sitesFrom path index cs
  | _, _, _, [], _ => rfl
  | path, negated, index, child :: rest, run => by
      simp only [visitsFrom, sitesFrom, List.map_append, visits_sites, visitsFrom_sites]

end

/-- An index is no negation. -/
theorem toString_ne_not (index : Nat) : toString index ≠ NodeKind.not.key := by
  intro h
  have digit : 'n' ∈ (toString index).toList := by rw [h]; decide
  rw [Nat.toString_eq_ofList_toDigits, String.toList_ofList] at digit
  exact absurd (Nat.isDigit_of_mem_toDigits (by decide) (by decide) digit) (by decide)

/-- A visit is negated if the visits of the walk are to be, or the negations below make it so. -/
def NegatedBelow (path : List String) (negated : Bool) (v : Visit) : Prop :=
  ∃ below, v.path = path ++ below ∧ v.negated = (negated ^^ (below.count NodeKind.not.key).bodd)

theorem NegatedBelow.of_step {path : List String} {negated : Bool} {v : Visit} {step : String}
    (other : step ≠ NodeKind.not.key) (h : NegatedBelow (path ++ [step]) negated v) :
    NegatedBelow path negated v := by
  obtain ⟨below, hpath, hnegated⟩ := h
  refine ⟨step :: below, by simp [hpath], ?_⟩
  rw [List.count_cons_of_ne other, hnegated]

mutual

theorem visits_negated : ∀ {path : List String} {negated : Bool} {c : Condition} {run : Run}
    {v : Visit}, v ∈ c.visits ctx r path negated run → NegatedBelow path negated v
  | path, _, .leaf _, _, v, h => by
      obtain rfl := List.mem_singleton.mp h
      exact ⟨[], by simp⟩
  | _, _, .all _, _, v, h => (visitsFrom_negated h).of_step (by decide)
  | _, _, .any _, _, v, h => (visitsFrom_negated h).of_step (by decide)
  | path, negated, .not child, run, v, h => by
      have hchild : v ∈ child.visits ctx r (path ++ [NodeKind.not.key]) (!negated) run := h
      obtain ⟨below, hpath, hnegated⟩ := visits_negated hchild
      refine ⟨NodeKind.not.key :: below, by simp [hpath], ?_⟩
      rw [List.count_cons_self, Nat.bodd_succ, hnegated]
      cases negated <;> simp
  | _, _, .invalid _, _, v, h => nomatch h

theorem visitsFrom_negated : ∀ {path : List String} {negated : Bool} {index : Nat}
    {cs : List Condition} {run : Run} {v : Visit},
    v ∈ visitsFrom ctx r path negated index cs run → NegatedBelow path negated v
  | _, _, _, [], _, v, h => nomatch h
  | _, _, index, child :: rest, _, v, h => by
      rcases List.mem_append.mp h with h | h
      · exact (visits_negated h).of_step (toString_ne_not index)
      · exact visitsFrom_negated h

end

/-! ### The walk as a plain loop -/

variable {ctx r}

mutual

/-- What a walk finds, and the state after it, are those of the plain loop over its sites. -/
theorem visits_found (hr : r.FactsIgnoreWarnings) : ∀ (path : List String) (negated : Bool)
    (c : Condition) {a b : Run}, a.Alike b →
    (c.visits ctx r path negated a).map (·.found ctx r) =
        (Site.evaluateAll ctx r (c.sites path) b).1 ∧
      (c.evaluate ctx r path a).2.Alike (Site.evaluateAll ctx r (c.sites path) b).2
  | path, _, .leaf l, _, _, h => by
      obtain ⟨found, after⟩ := h.evaluate hr l path ctx
      exact ⟨congrArg (fun result => [result]) found, after⟩
  | _, _, .all children, _, _, h | _, _, .any children, _, _, h =>
      visitsFrom_found hr _ _ _ children h
  | _, _, .not child, _, _, h => visits_found hr _ _ child h
  | _, _, .invalid _, a, b, h => ⟨rfl, h.cache, h.calculated⟩

theorem visitsFrom_found (hr : r.FactsIgnoreWarnings) : ∀ (path : List String) (negated : Bool)
    (index : Nat) (cs : List Condition) {a b : Run}, a.Alike b →
    (visitsFrom ctx r path negated index cs a).map (·.found ctx r) =
        (Site.evaluateAll ctx r (sitesFrom path index cs) b).1 ∧
      (evaluateFrom ctx r path index cs a).2.Alike
        (Site.evaluateAll ctx r (sitesFrom path index cs) b).2
  | _, _, _, [], _, _, h => ⟨rfl, h⟩
  | path, negated, index, child :: rest, _, _, h => by
      obtain ⟨first, between⟩ := visits_found hr (path ++ [toString index]) negated child h
      obtain ⟨others, after⟩ := visitsFrom_found hr path negated (index + 1) rest between
      simp only [visitsFrom, sitesFrom, Site.evaluateAll_append, List.map_append]
      exact ⟨congrArg₂ (· ++ ·) first others, after⟩

end

/-- **The walk as a plain loop.**  The walk evaluates the leaves of the tree in their order, one
after another from the state in which it begins: it comes to the same cache and the same
calculations, and its results are those of the plain loop, each with the parts of its leaf, the
outcome negated exactly if the path below the root has an odd number of negations. -/
theorem evaluate_eq_evaluateAll (c : Condition) (path : List String) (ctx : Context) (r : Registry)
    (hr : r.FactsIgnoreWarnings) (run : Run) :
    let sites := c.sites path
    let walk := c.evaluate ctx r path run
    let loop := Site.evaluateAll ctx r sites run
    sites.map (·.leaf) = c.leaves ∧
      walk.1.length = c.leaves.length ∧
      walk.2.cache = loop.2.cache ∧ walk.2.calculated = loop.2.calculated ∧
      ∀ (i : Nat) (s : Site), sites[i]? = some s → path <+: s.path ∧
        ∃ found : LeafResult, loop.1[i]? = some found ∧
        walk.1[i]? = some { found with outcome := found.outcome ^^ s.isNegatedBelow path } ∧
        found.path = s.path ∧ found.fact = s.leaf.fact ∧ found.operator = s.leaf.operator ∧
        found.operand = s.leaf.value ∧ found.params = s.leaf.params := by
  intro sites walk loop
  obtain ⟨hfound, after⟩ := @visits_found ctx r hr path false c _ _ (Run.Alike.refl run)
  have hsites : sites = (c.visits ctx r path false run).map fun v => ⟨v.leaf, v.path⟩ :=
    (visits_sites ctx r path false c run).symm
  have hwalk : walk.1 = (c.visits ctx r path false run).map (·.reported ctx r) :=
    evaluate_eq_visits ctx r path c run
  refine ⟨?_, ?_, after.cache, after.calculated, fun i s hs => ?_⟩
  · rw [hsites, List.map_map]
    exact visits_leaves ctx r path false c run
  · rw [hwalk, List.length_map, visits_length]
  · obtain ⟨found, hloop, carries⟩ := Site.evaluateAll_carries sites run i s hs
    rw [hsites, List.getElem?_map] at hs
    obtain ⟨v, hv, rfl⟩ := Option.map_eq_some_iff.mp hs
    obtain rfl : v.found ctx r = found := by
      rw [← hfound, List.getElem?_map, hv] at hloop
      exact Option.some.inj hloop
    obtain ⟨below, hpath, hnegated⟩ := visits_negated ctx r (List.mem_of_getElem? hv)
    have parity : Site.isNegatedBelow path ⟨v.leaf, v.path⟩ = v.negated := by
      simp [Site.isNegatedBelow, hpath, hnegated]
    refine ⟨⟨below, hpath.symm⟩, _, hloop, ?_, carries⟩
    rw [hwalk, List.getElem?_map, hv, parity]
    exact congrArg some (LeafResult.invertedIf_eq _ _)

end Condition

/-! ### A fact that counts -/

/-- A registry with a fact that fails and says how many calculations came before. -/
def Registry.counting : Registry where
  facts := [("count",
    { name := "count"
      calculate := fun _ _ run =>
        { outcome := .error ⟨"RuntimeError", toString run.calculated.length⟩ } })]

theorem Registry.counting_factsIgnoreWarnings : counting.FactsIgnoreWarnings := by
  intro name f provided params ctx a b h
  simp only [counting, Table.get?] at provided
  split at provided
  · cases provided
    simp only [h.calculated]
  · cases provided

/-- A condition on that fact. -/
def Leaf.counted : Leaf := { fact := "count", operator := Builtin.equal.name, value := .null }

/-- After an invalid node the second leaf, which is negated, finds that the first was calculated, as
it does in the plain loop. -/
theorem Condition.evaluate_counted :
    let c : Condition := .all [.leaf .counted, .invalid [], .not (.leaf .counted)]
    let ctx := Context.ofTarget (.ofFiles []) "a.txt"
    Registry.counting.FactsIgnoreWarnings ∧
      ∃ found : LeafResult,
        (Site.evaluateAll ctx .counting (c.sites rootPath) {}).1[1]? = some found ∧
        (c.evaluate ctx .counting rootPath {}).1[1]? =
          some { found with outcome := found.outcome ^^ true } ∧
        found.error = some "1" := by
  intro c ctx
  obtain ⟨-, -, -, -, each⟩ := evaluate_eq_evaluateAll c rootPath ctx .counting
    Registry.counting_factsIgnoreWarnings {}
  obtain ⟨-, found, hloop, hwalk, -⟩ := each 1 ⟨.counted, ["conditions", "all", "2", "not"]⟩ rfl
  refine ⟨Registry.counting_factsIgnoreWarnings, found, hloop, hwalk, ?_⟩
  have second : ((Site.evaluateAll ctx .counting (c.sites rootPath) {}).1[1]?.bind (·.error)) =
      some "1" := by
    decide
  rwa [hloop] at second

end Verdict
