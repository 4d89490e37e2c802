import Verdict.Proofs.Evaluation.Cache
import Verdict.Proofs.Plugin.Own

/-!
# Evaluation: the target under its name

The name of the target is looked up in the cache first, like that of any fact.  Of the facts of the
library only the analysis of the target publishes something under another name, which is chosen by
its params, and which may be that of the target.

* `Run.Guards`: a run has an analysis if a leaf was answered with one, and has something under the
  name of the target exactly if the params of the first such leaf say so.  A walk keeps this
  (`keptByWalk_guards`).
* `evaluate_target`: a leaf on the target is given the target, or else the results of that analysis;
  and every analysis that a run calculates is one of the target.
-/

namespace Verdict

/-- The fact that looks for patterns in the target. -/
def analysisFact : String := "repoFileAnalysis"

namespace Plugin

/-! ### What an analysis publishes -/

/-- The name under which an analysis with these params publishes its results. -/
def resultName? (params : Option (Table String Value)) : Option String :=
  match param? params "resultFact" with
  | some (.text name) => if name.isEmpty then none else some name
  | _ => none

/-- An analysis that fails publishes nothing; one that succeeds publishes the results of its report,
if the params give a name for them. -/
theorem fileAnalysis_cases (params : Option (Table String Value)) (ctx : Context) (run : Run) :
    (∃ failure, (fileAnalysis params ctx run).outcome = .error failure ∧
      (fileAnalysis params ctx run).published = []) ∨
    ∃ report results, (fileAnalysis params ctx run).outcome = .ok report ∧
      report.field? "result" = some results ∧
      (fileAnalysis params ctx run).published =
        (resultName? params).toList.map fun name => (name, results) := by
  unfold fileAnalysis
  simp only []
  split
  · exact .inl ⟨_, rfl, rfl⟩
  · split
    · exact .inl ⟨_, rfl, rfl⟩
    · refine .inr ⟨_, _, rfl, rfl, ?_⟩
      unfold resultName?
      generalize param? params "resultFact" = given
      cases given with
      | none => rfl
      | some v =>
          cases v with
          | atom a =>
              cases a with
              | text name =>
                  by_cases empty : name.isEmpty = true
                  · simp only [if_pos empty, Option.toList_none, List.map_nil]
                  · simp only [if_neg empty, Option.toList_some, List.map_cons, List.map_nil]
              | _ => rfl
          | _ => rfl

theorem contentIn_toValue (d : Descriptor) : contentIn d.toValue = .ok (.text d.content) := rfl

/-- An analysis in a run that has nothing else under the name of the target asks for the content of
the target only. -/
theorem fileAnalysis_of_content {ctx other : Context} {run : Run}
    (clear : run.cache.get? targetFact = none)
    (same : other.current.content = ctx.current.content) (params : Option (Table String Value)) :
    fileAnalysis params ctx run = fileAnalysis params other {} := by
  have content : contentIn (run.valueOf ctx targetFact) =
      contentIn (({} : Run).valueOf other targetFact) := by
    simp only [Run.valueOf, clear, Table.get?_nil, if_true]
    rw [contentIn_toValue, contentIn_toValue, same]
  simp only [fileAnalysis, content]

end Plugin

section Library

variable {r : Registry} {ctx : Context}

/-! ### What the facts of the library do to a run -/

theorem Registry.IsOwn.calculate_analysis (own : r.IsOwn) {f : Fact}
    (provided : r.facts.get? analysisFact = some f) : f.calculate = Plugin.fileAnalysis := by
  rcases Plugin.mem_ownFacts (own.facts _ f provided) with ⟨name, -⟩ | ⟨-, h⟩ | ⟨name, -⟩
  · exact absurd name (by decide)
  · exact h
  · exact absurd name (by decide)

theorem Registry.IsOwn.silent (own : r.IsOwn) {name : String} {f : Fact}
    (provided : r.facts.get? name = some f) (other : name ≠ analysisFact)
    (params : Option (Table String Value)) (run : Run) :
    (f.calculate params ctx run).published = [] := by
  rcases Plugin.mem_ownFacts (own.facts name f provided) with ⟨-, h⟩ | ⟨rfl, -⟩ | ⟨-, h⟩
  · simp only [h, Plugin.filesystemFacts]
  · exact absurd rfl other
  · simp only [h, Plugin.missingRequiredFiles]

/-- Whatever else is asked for, the run has the same under the names of the analysis and the
target. -/
theorem Registry.IsOwn.get?_resolve (own : r.IsOwn) {name key : String}
    (other : name ≠ analysisFact) (guarded : key = analysisFact ∨ key = targetFact)
    (params : Option (Table String Value)) (run : Run) :
    (r.resolve ctx name params run).2.cache.get? key = run.cache.get? key := by
  unfold Registry.resolve
  split
  · rfl
  · split
    · rfl
    · next untargeted =>
        split
        · rfl
        · next f provided =>
            have apart : name ≠ key := by
              rcases guarded with rfl | rfl
              · exact other
              · exact untargeted
            rw [Fact.run_cache name (own.silent provided other params run)]
            split
            · exact Table.get?_insert_of_ne _ _ apart
            · rfl

/-- What comes of an analysis that is calculated: it is that of a fresh run, and if it succeeds, its
results are kept under the name that the params give. -/
theorem Registry.IsOwn.resolve_analysis (own : r.IsOwn) {run : Run}
    (unknown : run.cache.get? analysisFact = none) (clear : run.cache.get? targetFact = none)
    (params : Option (Table String Value)) :
    (∃ fault, r.alone ctx analysisFact params = .error fault ∧
      (r.resolve ctx analysisFact params run).1 = .error fault ∧
      (r.resolve ctx analysisFact params run).2.cache = run.cache) ∨
    ∃ report results, r.alone ctx analysisFact params = .ok report ∧
      (r.resolve ctx analysisFact params run).1 = .ok report ∧
      report.field? "result" = some results ∧
      (r.resolve ctx analysisFact params run).2.cache =
        ((Plugin.resultName? params).elim run.cache (run.cache.insert · results)).insert
          analysisFact report := by
  have calculated : r.facts.get? analysisFact = none ∨ ∃ f : Fact,
      f.calculate = Plugin.fileAnalysis ∧
        r.alone ctx analysisFact params = (f.run analysisFact params ctx {}).1 ∧
        r.resolve ctx analysisFact params run = f.run analysisFact params ctx run := by
    cases provided : r.facts.get? analysisFact with
    | none => exact .inl rfl
    | some f =>
        refine .inr ⟨f, own.calculate_analysis provided, ?_, ?_⟩
        · simp only [Registry.alone, Registry.resolve, Table.get?_nil, provided]
          rw [if_neg (by decide)]
        · simp only [Registry.resolve, unknown, provided]
          rw [if_neg (by decide)]
  rcases calculated with absent | ⟨f, analysis, alone, resolved⟩
  · refine .inl ⟨.unknownFact analysisFact, ?_⟩
    simp only [Registry.alone, Registry.resolve, unknown, absent, Table.get?_nil]
    rw [if_neg (by decide)]
    exact ⟨rfl, rfl, rfl⟩
  · have same := Plugin.fileAnalysis_of_content clear (rfl : ctx.current.content = _) params
    rw [alone, resolved]
    simp only [Fact.run, analysis, same]
    rcases Plugin.fileAnalysis_cases params ctx {} with
      ⟨failure, failed, nothing⟩ | ⟨report, results, ok, field, published⟩
    · refine .inl ⟨.factFailed analysisFact failure, ?_⟩
      simp [failed, nothing, Run.warn]
    · refine .inr ⟨report, results, ?_⟩
      cases name : Plugin.resultName? params <;>
        simp [ok, published, field, name, Run.warn, Run.learn]

/-- The report of an analysis has results. -/
theorem Registry.IsOwn.results_of_alone (own : r.IsOwn) {params : Option (Table String Value)}
    {report : Value} (answered : r.alone ctx analysisFact params = .ok report) :
    ∃ results, report.field? "result" = some results := by
  rcases @Registry.IsOwn.resolve_analysis r ctx own {} rfl rfl params with
    ⟨fault, alone, -⟩ | ⟨_, results, alone, -, field, -⟩
  · cases alone.symm.trans answered
  · obtain rfl := Except.ok.inj (alone.symm.trans answered)
    exact ⟨results, field⟩

/-! ### The target in a walk -/

/-- What a run has under the name of the target after leaves: the results of the first analysis that
was answered, if its params say so. -/
def Registry.overTarget? (r : Registry) (ctx : Context) (done : List Leaf) : Option Value :=
  (r.firstAnswered ctx analysisFact done).bind fun e =>
    if Plugin.resultName? e.params = some targetFact then
      (r.alone ctx analysisFact e.params).toOption.bind (·.field? "result")
    else none

/-- The run has an analysis if one of the leaves was answered with one, and has under the name of
the target what the first of them put there. -/
structure Run.Guards (r : Registry) (ctx : Context) (done : List Leaf) (run : Run) : Prop where
  analysis : run.cache.get? analysisFact = none ↔ r.firstAnswered ctx analysisFact done = none
  target : run.cache.get? targetFact = r.overTarget? ctx done

theorem Run.guards_fresh (r : Registry) (ctx : Context) : Run.Guards r ctx [] {} where
  analysis := ⟨fun _ => rfl, fun _ => rfl⟩
  target := rfl

/-- Before an analysis is calculated the run has nothing under the name of the target. -/
theorem Run.Guards.clear {done : List Leaf} {run : Run} (guards : run.Guards r ctx done)
    (unknown : run.cache.get? analysisFact = none) : run.cache.get? targetFact = none := by
  rw [guards.target, Registry.overTarget?, guards.analysis.mp unknown]
  rfl

/-- A further leaf changes nothing if the first analysis is the same, and the run has the same under
both names. -/
theorem Run.Guards.kept {done : List Leaf} {run after : Run} {l : Leaf}
    (guards : run.Guards r ctx done)
    (first : r.firstAnswered ctx analysisFact (done ++ [l]) = r.firstAnswered ctx analysisFact done)
    (same : ∀ key, key = analysisFact ∨ key = targetFact →
      after.cache.get? key = run.cache.get? key) : after.Guards r ctx (done ++ [l]) where
  analysis := by
    rw [same analysisFact (.inl rfl), first]
    exact guards.analysis
  target := by
    rw [same targetFact (.inr rfl), guards.target]
    simp only [Registry.overTarget?, first]

/-- The first leaf that is answered with an analysis: its params say what the run has under the name
of the target afterwards. -/
theorem Run.Guards.of_first {done : List Leaf} {run after : Run} {l : Leaf} {report results : Value}
    (isFirst : r.firstAnswered ctx analysisFact done = some l)
    (alone : r.alone ctx analysisFact l.params = .ok report)
    (field : report.field? "result" = some results) (clear : run.cache.get? targetFact = none)
    (learned : after.cache =
      ((Plugin.resultName? l.params).elim run.cache (run.cache.insert · results)).insert
        analysisFact report) : after.Guards r ctx done where
  analysis := by
    rw [learned, Table.get?_insert_self, isFirst]
    exact ⟨nofun, nofun⟩
  target := by
    rw [learned, Table.get?_insert_of_ne _ _ (by decide), Registry.overTarget?, isFirst]
    simp only [Option.bind_some, alone, Except.toOption, field]
    cases Plugin.resultName? l.params with
    | none => exact clear
    | some name =>
        by_cases named : name = targetFact
        · rw [named, if_pos rfl]
          exact Table.get?_insert_self _ _ _
        · rw [if_neg (by simpa using named)]
          exact (Table.get?_insert_of_ne _ _ named).trans clear

/-- The evaluation of a leaf keeps what the run has under the two names. -/
theorem Run.Guards.evaluate {done : List Leaf} {run : Run} (guards : run.Guards r ctx done)
    (own : r.IsOwn) (l : Leaf) (path : List String) :
    (l.evaluate path ctx r run).2.Guards r ctx (done ++ [l]) := by
  have first : r.firstAnswered ctx analysisFact (done ++ [l]) = _ :=
    Registry.firstAnswered_concat analysisFact done l
  have cache := l.evaluate_cache path ctx r run
  by_cases analysis : l.fact = analysisFact
  · rw [analysis, beq_self_eq_true, Bool.true_and] at first
    rw [analysis] at cache
    cases known : run.cache.get? analysisFact with
    | some v =>
        -- the analysis is recalled, and the first is still the first
        have earlier : r.firstAnswered ctx analysisFact done ≠ none := by
          intro absent
          cases known.symm.trans (guards.analysis.mpr absent)
        rw [Registry.resolve_of_kept _ known] at cache
        refine guards.kept ?_ fun key _ => by rw [cache]
        rw [first, Option.or_of_isSome (Option.isSome_iff_ne_none.mpr earlier)]
    | none =>
        have none := guards.analysis.mp known
        rw [none, Option.none_or] at first
        rcases own.resolve_analysis known (guards.clear known) l.params with
          ⟨fault, alone, -, unchanged⟩ | ⟨report, results, alone, -, field, learned⟩
        · rw [alone] at first
          exact guards.kept (first.trans none.symm) fun key _ => by rw [cache, unchanged]
        · rw [alone] at first
          exact .of_first first alone field (guards.clear known) (cache.trans learned)
  · -- no other fact puts anything under these names
    refine guards.kept (by simp [first, analysis]) fun key guarded => ?_
    rw [cache, own.get?_resolve analysis guarded]

theorem Registry.IsOwn.keptByWalk_guards (own : r.IsOwn) :
    Condition.KeptByWalk ctx r (fun done run => run.Guards r ctx done) where
  warned _ guards := ⟨guards.analysis, guards.target⟩
  evaluated l path guards := guards.evaluate own l path

theorem Registry.overTarget?_eq_none {done : List Leaf}
    (unnamed : ∀ e, r.firstAnswered ctx analysisFact done = some e →
      Plugin.resultName? e.params ≠ some targetFact) : r.overTarget? ctx done = none := by
  rw [Registry.overTarget?, Option.bind_eq_none_iff]
  intro e first
  exact if_neg (unnamed e first)

theorem Registry.IsOwn.overTarget?_eq_some (own : r.IsOwn) {done : List Leaf} {e : Leaf}
    (first : r.firstAnswered ctx analysisFact done = some e)
    (named : Plugin.resultName? e.params = some targetFact) :
    ∃ report results, r.alone ctx analysisFact e.params = .ok report ∧
      report.field? "result" = some results ∧ r.overTarget? ctx done = some results := by
  obtain ⟨-, -, report, answered⟩ := Registry.firstAnswered_some first
  obtain ⟨results, field⟩ := own.results_of_alone answered
  refine ⟨report, results, answered, field, ?_⟩
  rw [Registry.overTarget?, first, Option.bind_some, if_pos named, answered]
  exact field

/-- A leaf on the target is given what the run has under its name, or else the target. -/
theorem Run.Guards.find_target {done : List Leaf} {run : Run} (guards : run.Guards r ctx done)
    {l : Leaf} (target : l.fact = targetFact) :
    (l.find ctx r run).1 = l.judge r ((r.overTarget? ctx done).getD ctx.current.toValue) := by
  rw [Leaf.find_fst, target]
  cases known : run.cache.get? targetFact with
  | some v => rw [Registry.resolve_of_kept _ known, ← guards.target, known, Option.getD_some]
  | none => rw [Registry.resolve_target _ known, ← guards.target, known, Option.getD_none]

/-- An analysis that is calculated is one of the content of the target. -/
theorem Run.Guards.analyses_target {done : List Leaf} {run : Run} (guards : run.Guards r ctx done)
    (own : r.IsOwn) (unknown : run.knows analysisFact = false)
    (params : Option (Table String Value)) :
    run.valueOf ctx targetFact = ctx.current.toValue ∧
      ∀ f, r.facts.get? analysisFact = some f → ∀ other : Context,
        other.current.content = ctx.current.content →
          f.calculate params ctx run = f.calculate params other {} := by
  have clear : run.cache.get? targetFact = none := by
    refine guards.clear ?_
    simpa [Run.knows, Table.has] using unknown
  refine ⟨by simp only [Run.valueOf, clear, if_true], ?_⟩
  intro f provided other same
  rw [own.calculate_analysis provided]
  exact Plugin.fileAnalysis_of_content clear same params

/-- **The target under its name.**  In a run with the facts of the library a leaf on the target is
given the target, unless the first leaf before it that was answered with an analysis has params that
publish the results under the name of the target: then it is given those.  Every analysis that the
run calculates is one of the content of the target. -/
theorem Condition.evaluate_target (r : Registry) (own : r.IsOwn) (c : Condition) (ctx : Context)
    (path : List String) (i : Nat) (l : Leaf) (hl : c.leaves[i]? = some l) :
    let first := r.firstAnswered ctx analysisFact (c.leaves.take i)
    ∃ v, (c.visits ctx r path false {})[i]? = some v ∧ v.leaf = l ∧
      (c.evaluate ctx r path {}).1[i]? = some ((v.found ctx r).invertedIf v.negated) ∧
      (l.fact = targetFact →
        ((∀ e, first = some e → Plugin.resultName? e.params ≠ some targetFact) →
          v.found ctx r = l.report v.path (l.judge r ctx.current.toValue)) ∧
        ∀ e, first = some e → Plugin.resultName? e.params = some targetFact →
          ∃ report results, r.alone ctx analysisFact e.params = .ok report ∧
            report.field? "result" = some results ∧
            v.found ctx r = l.report v.path (l.judge r results)) ∧
      (l.fact = analysisFact → v.before.knows analysisFact = false →
        v.before.valueOf ctx targetFact = ctx.current.toValue ∧
        ∀ f, r.facts.get? analysisFact = some f → ∀ other : Context,
          other.current.content = ctx.current.content →
            f.calculate l.params ctx v.before = f.calculate l.params other {}) := by
  intro first
  obtain ⟨v, hv, rfl, reported⟩ := exists_visit ctx r path c {} hl
  have guards : v.before.Guards r ctx (c.leaves.take i) :=
    (walk_invariant own.keptByWalk_guards path false c (Run.guards_fresh r ctx)).2 i v hv
  have found : v.found ctx r = v.leaf.report v.path (v.leaf.find ctx r v.before).1 := rfl
  refine ⟨v, hv, rfl, reported, fun target => ⟨?_, ?_⟩, ?_⟩
  · intro unnamed
    rw [found, guards.find_target target, Registry.overTarget?_eq_none unnamed, Option.getD_none]
  · intro e isFirst named
    obtain ⟨report, results, answered, field, put⟩ := own.overTarget?_eq_some isFirst named
    refine ⟨report, results, answered, field, ?_⟩
    rw [found, guards.find_target target, put, Option.getD_some]
  · intro _ unknown
    exact guards.analyses_target own unknown v.leaf.params

end Library

/-! ### An analysis before a leaf on the target -/

/-- An analysis whose results are published under a name. -/
def Leaf.analysing (resultName : String) : Leaf where
  fact := analysisFact
  operator := Builtin.notEqual.name
  value := .null
  params := some [("resultFact", .text resultName)]

/-- The name of the target is the given one. -/
def Leaf.targetNamed (name : String) : Leaf where
  fact := targetFact
  operator := Builtin.equal.name
  value := .text name
  selector := some "$.fileName"

/-- The second leaf is given the target if the results have a name of their own. -/
theorem Condition.evaluate_target_analysing :
    let c := Condition.all [.leaf (.analysing "found"), .leaf (.targetNamed "a.txt")]
    let ctx := Context.ofTarget (.ofFiles [("a.txt", "x")]) "a.txt"
    ∃ r, Registry.ofEnabled none = .ok r ∧ r.IsOwn ∧
      c.leaves[1]? = some (.targetNamed "a.txt") ∧
      ∃ v, (c.visits ctx r rootPath false {})[1]? = some v ∧
        v.found ctx r = (Leaf.targetNamed "a.txt").report v.path
          ((Leaf.targetNamed "a.txt").judge r ctx.current.toValue) := by
  intro c ctx
  obtain ⟨r, built⟩ : ∃ r, Registry.ofEnabled none = .ok r := ⟨_, rfl⟩
  have own := Registry.isOwn_of_ofEnabled built
  obtain ⟨v, hv, -, -, target, -⟩ :=
    evaluate_target r own c ctx rootPath 1 (.targetNamed "a.txt") rfl
  refine ⟨r, built, own, rfl, v, hv, (target rfl).1 fun e isFirst => ?_⟩
  have mem := (Registry.firstAnswered_some isFirst).1
  obtain rfl : e = .analysing "found" := List.mem_singleton.mp mem
  decide

/-- It is given the results, of which there are none, if they are published under the name of the
target. -/
theorem Condition.target_hidden :
    let c := Condition.all [.leaf (.analysing targetFact), .leaf (.targetNamed "a.txt")]
    let ctx := Context.ofTarget (.ofFiles [("a.txt", "x")]) "a.txt"
    ∃ r, Registry.ofEnabled none = .ok r ∧ ∃ v ∈ c.visits ctx r rootPath false {},
      v.leaf.fact = targetFact ∧
      (r.resolve ctx v.leaf.fact v.leaf.params v.before).1 ≠ .ok ctx.current.toValue := by
  refine ⟨_, rfl, _, .tail _ (.head _), rfl, fun given => ?_⟩
  cases given

end Verdict
