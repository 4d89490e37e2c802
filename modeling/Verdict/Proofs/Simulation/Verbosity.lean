import Verdict.Proofs.Evaluation.Context
import Verdict.Proofs.Plugin.Own
import Verdict.Proofs.Simulation.Inquiry

/-!
# Simulation: verbosity

A verbose run is decided by its leaves in any case; one that is not verbose is demoted to an error
if the errors of its leaves put the decision in doubt.  The option is a part of the context that
every fact is given, but the facts of the library do not ask for it.

* `Snapshot.run_quiet`: the run that is not verbose is the verbose one, demoted.
* `Inquiry.verbosity`: what that means for the parts of an answer.
-/

namespace Verdict

/-- The result, as an error with the same trace if the errors of leaves put it in doubt. -/
def RunResult.demoted (r : RunResult) : RunResult :=
  if hasFaults r.leafResults then .obstructed r.fileName .faults r.leafResults else r

/-- The options of a run are to be verbose, or are not. -/
def RunRequest.withVerbose (q : RunRequest) (verbose : Bool) : RunRequest :=
  { q with options := { q.options with verbose } }

section Request

variable (q : RunRequest) (b : Bool)

@[simp] theorem RunRequest.withVerbose_input : (q.withVerbose b).input = q.input := rfl

@[simp] theorem RunRequest.withVerbose_target : (q.withVerbose b).target = q.target := rfl

@[simp] theorem Snapshot.projectFor_withVerbose (s : Snapshot) :
    s.projectFor (q.withVerbose b) = s.projectFor q := rfl

end Request

/-- Contexts that differ in their options agree on every leaf. -/
theorem Registry.IsOwn.agreeOn_of_options {r : Registry} (own : r.IsOwn) (l : Leaf)
    (project : Project) (current : Descriptor) (options others : Option Options) :
    Context.AgreeOn r l ⟨project, current, options⟩ ⟨project, current, others⟩ where
  current := rfl
  answers _ provided run := own.calculate_of_options provided project current options others _ run

/-! ### Demotion -/

namespace RunResult

@[simp] theorem demoted_leafResults (r : RunResult) : r.demoted.leafResults = r.leafResults := by
  unfold demoted
  split <;> rfl

/-- What has no trace is not demoted. -/
theorem demoted_obstructed (target : String) (o : Obstacle) :
    (obstructed target o).demoted = obstructed target o :=
  rfl

/-- A demotion leaves the ending and the event alone, or makes the result an error. -/
theorem demoted_cases (r : RunResult) :
    r.demoted.ending = r.ending ∧ r.demoted.event = r.event ∨ r.demoted.ending = .error := by
  unfold demoted
  split
  · exact .inr rfl
  · exact .inl ⟨rfl, rfl⟩

end RunResult

/-- What the leaves decide without the option is what they decide with it, demoted. -/
theorem Rule.decide_quiet (rule : Rule) (c : Condition) (target : String) (options : Options)
    (leaves : List LeafResult) :
    rule.decide c target { options with verbose := false } leaves =
      (rule.decide c target { options with verbose := true } leaves).demoted := by
  cases faulted : hasFaults leaves <;> simp [Rule.decide, RunResult.demoted, faulted]

namespace Snapshot

/-- What stands in the way of a run does so whether or not it is verbose; otherwise the run walks. -/
theorem obstructed_or_walks_either (s : Snapshot) (q : RunRequest) :
    (∃ o, ∀ b, s.run (q.withVerbose b) = (.obstructed q.target o, {})) ∨
      ∃ rule c p, ∀ b, s.Walks (q.withVerbose b) usualContext rule c
        (.ofTarget p q.target (some (q.withVerbose b).options)) := by
  cases ready : s.ready with
  | false => exact .inl ⟨.notReady, fun b => by simp [run, ready]⟩
  | true =>
      cases read : q.input.read with
      | error message => exact .inl ⟨.badRule message, fun b => by simp [run, ready, read]⟩
      | ok rule =>
          cases conditions : rule.conditions with
          | none =>
              exact .inl ⟨.noConditions, fun b => by simp [run, ready, read, conditions]⟩
          | some c =>
              cases given : s.projectFor q with
              | none =>
                  exact .inl ⟨.noProject, fun b => by simp [run, ready, read, conditions, given]⟩
              | some p => exact .inr ⟨rule, c, p, fun _ => ⟨ready, read, conditions, p, given, rfl⟩⟩

/-- **The run that is not verbose** is the verbose one, demoted, and both end in the same state. -/
theorem run_quiet {s : Snapshot} (own : s.registry.IsOwn) (q : RunRequest) :
    s.run (q.withVerbose false) =
      ((s.run (q.withVerbose true)).1.demoted, (s.run (q.withVerbose true)).2) := by
  rcases s.obstructed_or_walks_either q with ⟨o, obstructed⟩ | ⟨rule, c, p, walks⟩
  · rw [obstructed false, obstructed true, RunResult.demoted_obstructed]
  -- the walks differ in the options of their contexts only, and end in the same leaves and state
  · have same := c.evaluate_congr rootPath {} fun l _ =>
      own.agreeOn_of_options l p (p.describe q.target)
        (some (q.withVerbose false).options) (some (q.withVerbose true).options)
    rw [(walks false).run_eq, (walks true).run_eq, Context.ofTarget, Context.ofTarget, same]
    exact congrArg (·, _) (rule.decide_quiet c q.target q.options _)

/-- A verbose run of a rule with conditions succeeds if the engine is ready and has a project. -/
theorem run_loud_success {s : Snapshot} {q : RunRequest} (ready : s.ready = true) {rule : Rule}
    {c : Condition} {p : Project} (read : q.input.read = .ok rule)
    (conditions : rule.conditions = some c) (given : s.projectFor q = some p) :
    (s.run (q.withVerbose true)).1.success = true := by
  have walks : s.Walks (q.withVerbose true) usualContext rule c _ :=
    ⟨ready, read, conditions, p, given, rfl⟩
  rw [walks.run_eq]
  simp [Rule.decide, RunRequest.withVerbose]

end Snapshot

namespace Inquiry

/-- The engine is asked for a verbose answer, or for one that is not. -/
def withVerbose (verbose : Bool) : Inquiry → Inquiry
  | .file input path options => .file input path { options with verbose }
  | .content input path text options => .content input path text { options with verbose }
  | .whole input extra options make => .whole input extra { options with verbose } make

theorem withVerbose_on (q : Inquiry) (b : Bool) (e : Engine) :
    (q.withVerbose b).on e = e.snapshot.run (q.request.withVerbose b) q.makeContext := by
  cases q <;> rfl

/-- **Verbosity changes the demotion only.**  With plugins of the library, the verbose answer and
the other have the same results of leaves.  The verbose one is a success whenever the engine is
ready, the rule is valid and has conditions, and there is a project.  The other is the verbose one,
or the same trace with an error instead of the decision; the latter exactly if the errors of leaves
put the decision in doubt. -/
theorem verbosity {enabled : Option (List String)} {e : Engine}
    (h : Registry.ofEnabled enabled = .ok e.setup.registry) (q : Inquiry)
    (usual : q.makeContext = usualContext) :
    let loud := ((q.withVerbose true).on e).1
    let quiet := ((q.withVerbose false).on e).1
    quiet.leafResults = loud.leafResults ∧
      (e.ready = true → ∀ rule c p, q.request.input.read = .ok rule → rule.conditions = some c →
        e.snapshot.projectFor q.request = some p → loud.success = true) ∧
      (quiet.ending = loud.ending ∧ quiet.event = loud.event ∨
        quiet.ending = .error ∧ quiet.leafResults = loud.leafResults) ∧
      quiet = if hasFaults loud.leafResults then
        .obstructed q.request.target .faults loud.leafResults else loud := by
  intro loud quiet
  have own : e.snapshot.registry.IsOwn := Registry.isOwn_of_ofEnabled h
  have loud_eq : loud = (e.snapshot.run (q.request.withVerbose true)).1 := by
    simp only [loud, withVerbose_on, usual]
  have quiet_eq : quiet = loud.demoted := by
    simp only [quiet, withVerbose_on, usual, Snapshot.run_quiet own, loud_eq]
  have target : loud.fileName = q.request.target := by
    have coherent := on_coherent (q.withVerbose true) e
    rw [coherent.target]
    cases q <;> rfl
  have trace : quiet.leafResults = loud.leafResults := by
    rw [quiet_eq, RunResult.demoted_leafResults]
  refine ⟨trace, ?_, ?_, ?_⟩
  · intro ready rule c p read conditions given
    rw [loud_eq]
    exact Snapshot.run_loud_success ready read conditions given
  · rcases loud.demoted_cases with unchanged | demoted
    · exact .inl (quiet_eq ▸ unchanged)
    · exact .inr ⟨quiet_eq ▸ demoted, trace⟩
  · rw [quiet_eq, RunResult.demoted, target]

/-- A rule with a pattern that cannot be read. -/
def badPatternRule : Rule where
  name := "pattern"
  conditions := some
    (.any [.leaf { fact := targetFact, operator := "regexMatch", value := .text "*" }])
  event := ⟨.warning, "Rule fired", []⟩
  priority := none

/-- The verbose answer for that rule is a success, and the other is an error with the same trace. -/
theorem verbosity_badPattern :
    let q := Inquiry.file (.rule badPatternRule) "a.txt" {}
    ∃ r, Registry.ofEnabled none = .ok r ∧
      let e := Engine.readyWith r (.ofFiles [("a.txt", "x")])
      ((q.withVerbose true).on e).1.success = true ∧
        ((q.withVerbose false).on e).1.ending = .error ∧
        ((q.withVerbose false).on e).1.leafResults = ((q.withVerbose true).on e).1.leafResults := by
  intro q
  refine ⟨_, rfl, ?_⟩
  intro e
  have enabled : Registry.ofEnabled none = .ok e.setup.registry := rfl
  obtain ⟨trace, success, -, -⟩ := verbosity enabled q rfl
  have demoted : ((q.withVerbose false).on e).1.ending = .error := by decide
  exact ⟨success rfl badPatternRule _ _ rfl rfl rfl, demoted, trace⟩

end Inquiry

end Verdict
