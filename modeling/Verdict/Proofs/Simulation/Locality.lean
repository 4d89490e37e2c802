import Verdict.Proofs.Evaluation.Context
import Verdict.Proofs.Plugin.Own
import Verdict.Proofs.Simulation.Inquiry

/-!
# Simulation: rules that are local to their target

Two facts of the library are about the whole project (`Plugin.projectFacts`).  A rule that names
neither of them sees the content of its target and nothing else of a project.

* `Snapshot.run_congr`: runs of one rule for one target are equal if their contexts agree on the
  leaves of the rule.
* `Engine.simulate_local`: so a local rule is simulated over a loaded project as it is over the
  content of its target alone, and two projects in which the target has the same content lead to the
  same answer, whatever their other files, their manifests and their names are.
-/

namespace Verdict

/-- The rule names no fact about the whole project. -/
def RuleInput.IsLocal (input : RuleInput) : Prop :=
  ∀ rule c, input.read = .ok rule → rule.conditions = some c →
    ∀ l ∈ c.leaves, l.fact ∉ Plugin.projectFacts

/-- Contexts of one target agree on leaves that name no fact about the whole project. -/
theorem Registry.IsOwn.agreeOn_of_current {r : Registry} (own : r.IsOwn) {l : Leaf}
    (narrow : l.fact ∉ Plugin.projectFacts) {ctx other : Context}
    (current : ctx.current = other.current) : ctx.AgreeOn r l other where
  current
  answers _ provided run := own.calculate_of_current provided narrow current l.params run

/-- The target of a run with a content of its own has that content. -/
theorem Project.describe_ofFiles_singleton (file content : String) :
    (ofFiles [(file, content)]).describe file = ⟨file, content⟩ := by
  have found : (ofFiles [(file, content)]).files.get? file = some content :=
    Table.get?_ofPairs_of_mem (by simp) (List.mem_singleton_self _)
  simp only [describe, contentOf, found, Option.getD_some]

namespace Snapshot

variable {s t : Snapshot} {q : RunRequest} {own : Option Project} {extra : Table String String}
  {p p' : Project}

/-- **Runs that cannot be told apart.**  The rule, the target and the options are the same, and the
contexts agree on every leaf of the rule. -/
theorem run_congr (ready : s.ready = t.ready) (registry : s.registry = t.registry)
    (given : s.projectFor q = some p) (given' : t.projectFor { q with own, extra } = some p')
    (agree : ∀ rule c, q.input.read = .ok rule → rule.conditions = some c → ∀ l ∈ c.leaves,
      (Context.ofTarget p q.target (some q.options)).AgreeOn s.registry l
        (.ofTarget p' q.target (some q.options))) :
    s.run q = t.run { q with own, extra } := by
  -- both runs meet the same obstacles, in the same order, up to the walk
  simp only [run, ← ready, ← registry, given, given', usualContext]
  cases read : q.input.read with
  | error message => rfl
  | ok rule =>
      cases conditions : rule.conditions with
      | none => simp only [conditions]
      | some c =>
          have walk := c.evaluate_congr rootPath {} (agree rule c read conditions)
          simp only [conditions, walk]

end Snapshot

namespace Engine

variable {enabled : Option (List String)} {e : Engine} {p : Project} {input : RuleInput}

/-- **A local rule sees its target only.**  With plugins of the library, its run for a file of the
loaded project is the run for the content of that file alone, which is empty if the project lacks
it.  It is also the run in every engine with the same plugins and with a project in which the file
has the same content. -/
theorem simulate_local (h : Registry.ofEnabled enabled = .ok e.setup.registry)
    (loaded : e.project = some p) (narrow : input.IsLocal) (file : String) (options : Options) :
    e.simulate input file options = e.simulateContent input file (p.contentOf file) options ∧
      ∀ (other : Engine) (p' : Project), other.setup.registry = e.setup.registry →
        other.ready = e.ready → other.project = some p' → p'.contentOf file = p.contentOf file →
        e.simulate input file options = other.simulate input file options := by
  have own : e.setup.registry.IsOwn := Registry.isOwn_of_ofEnabled h
  have given : e.snapshot.projectFor { input, target := file, options } = some p := by
    simp only [Snapshot.projectFor, snapshot, loaded, Option.map_some, List.isEmpty_nil, if_true]
  constructor
  · refine Snapshot.run_congr rfl rfl given rfl fun rule c read conditions l hl => ?_
    refine own.agreeOn_of_current (narrow rule c read conditions l hl) ?_
    exact (Project.describe_ofFiles_singleton file _).symm
  · intro other p' registry ready loaded' content
    have given' : other.snapshot.projectFor { input, target := file, options } = some p' := by
      simp only [Snapshot.projectFor, snapshot, loaded', Option.map_some, List.isEmpty_nil, if_true]
    refine Snapshot.run_congr ready.symm registry.symm given given' ?_
    intro rule c read conditions l hl
    refine own.agreeOn_of_current (narrow rule c read conditions l hl) ?_
    exact congrArg (Descriptor.mk file) content.symm

/-- A rule about the content of the target is simulated alike in two projects that share no more
than the target. -/
theorem simulate_local_content :
    let rule : Rule :=
      { name := "content"
        conditions := some (.not (.leaf
          { fact := targetFact, operator := Builtin.equal.name, value := .text "x"
            selector := some "$.content" }))
        event := ⟨.warning, "Rule fired", []⟩
        priority := none }
    let p := Project.ofFiles [("a.txt", "x"), ("b.txt", "y")]
    let p' := Project.ofFiles [("a.txt", "x")] [("name", .text "other")]
    ∃ r, Registry.ofEnabled none = .ok r ∧ (RuleInput.rule rule).IsLocal ∧
      (readyWith r p).simulate (.rule rule) "a.txt" =
        (readyWith r p).simulateContent (.rule rule) "a.txt" "x" ∧
      (readyWith r p).simulate (.rule rule) "a.txt" =
        (readyWith r p').simulate (.rule rule) "a.txt" := by
  intro rule p p'
  obtain ⟨r, enabled⟩ : ∃ r, Registry.ofEnabled none = .ok r := ⟨_, rfl⟩
  have narrow : (RuleInput.rule rule).IsLocal := by
    rintro _ _ ⟨⟩ ⟨⟩ l hl
    obtain rfl := List.mem_singleton.mp hl
    decide
  have alike := simulate_local (e := readyWith r p) enabled rfl narrow "a.txt" {}
  exact ⟨r, enabled, narrow, alike.1, alike.2 (readyWith r p') p' rfl rfl rfl rfl⟩

end Engine

end Verdict
