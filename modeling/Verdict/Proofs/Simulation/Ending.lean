import Verdict.Proofs.Evaluation.Fault
import Verdict.Simulation.Run

/-!
# Simulation: how runs end

A run that gets as far as its conditions (`Snapshot.Walks`) walks over them and is decided; any
other is obstructed before.

* `run_ending_error_iff`: a walk that is not verbose ends the run in an error exactly if a leaf
  below an even number of negations ended with an error and some leaf failed evidently.  The second
  part may be wanting although something failed: then every failure said that something is unknown,
  and passes for a gap (`ending_of_unknown_pretended`).
* `projectFor_of_error`: a run says that no project is loaded only if there is none for it.
-/

namespace Verdict

/-- A run comes to walk over the conditions of its rule. -/
structure Snapshot.Walks (s : Snapshot) (q : RunRequest) (make : MakeContext) (rule : Rule)
    (c : Condition) (ctx : Context) : Prop where
  ready : s.ready = true
  read : q.input.read = .ok rule
  conditions : rule.conditions = some c
  context : ∃ project, s.projectFor q = some project ∧ make project q.target q.options = .ok ctx

namespace Rule

theorem decide_ending_error_iff {rule : Rule} {c : Condition} {target : String}
    {options : Options} {leaves : List LeafResult} :
    (rule.decide c target options leaves).ending = .error ↔
      options.verbose = false ∧ hasFaults leaves = true := by
  unfold Rule.decide
  split
  · next faulted => simpa [RunResult.obstructed] using faulted
  · next sound =>
      have decided : ∀ b : Bool, (if b then Ending.triggered else .notTriggered) ≠ .error := by
        decide
      simpa [decided] using sound

end Rule

namespace Snapshot

variable {s : Snapshot} {q : RunRequest} {make : MakeContext} {rule : Rule} {c : Condition}
  {ctx : Context}

theorem Walks.run_eq (h : s.Walks q make rule c ctx) :
    s.run q make =
      (rule.decide c q.target q.options (c.evaluate ctx s.registry rootPath {}).1,
        (c.evaluate ctx s.registry rootPath {}).2) := by
  obtain ⟨ready, read, conditions, project, own, made⟩ := h
  simp only [run, ready, read, conditions, own, made, Bool.not_true, Bool.false_eq_true, if_false]

/-- **When a walk ends the run in an error.**  Some leaf below an even number of negations ended
with an error, and some leaf failed evidently.  That is so whenever something failed, unless every
failure said that something is unknown. -/
theorem run_ending_error_iff (h : s.Walks q make rule c ctx) (quiet : q.options.verbose = false) :
    let visits := c.visits ctx s.registry rootPath false {}
    let errs := ∃ v ∈ visits, v.negated = false ∧ (v.found ctx s.registry).isErrored = true
    let fails := ∃ v ∈ visits, v.errsBy ctx s.registry LeafFault.isFailure = true
    let failsEvidently := ∃ v ∈ visits, v.errsBy ctx s.registry LeafFault.isEvident = true
    ((s.run q make).1.ending = .error ↔ errs ∧ failsEvidently) ∧
      (((s.run q make).1.ending = .error ↔ errs ∧ fails) ↔ (errs ∧ fails → failsEvidently)) := by
  intro visits errs fails failsEvidently
  have exact_ : (s.run q make).1.ending = .error ↔ errs ∧ failsEvidently := by
    rw [h.run_eq, Rule.decide_ending_error_iff, and_iff_right quiet]
    exact hasFaults_evaluate c ctx s.registry rootPath {}
  have fails_of_evident : failsEvidently → fails := fun ⟨v, hv, errsBy⟩ =>
    ⟨v, hv, Visit.errsBy_mono (fun _ => LeafFault.isFailure_of_isEvident) errsBy⟩
  refine ⟨exact_, ?_⟩
  rw [exact_]
  constructor
  · intro same both
    exact (same.mpr both).2
  · intro evident
    exact ⟨fun both => ⟨both.1, fails_of_evident both.2⟩, fun both => ⟨both.1, evident both⟩⟩

/-- An engine that is ready, with a fact that fails and says so. -/
def withFailure (message : String) : Snapshot where
  ready := true
  project := some (.ofFiles [])
  registry :=
    let backend : Fact :=
      { name := "backend"
        calculate := fun _ _ _ => { outcome := .error ⟨"RuntimeError", message⟩ } }
    { facts := [(backend.name, backend)] }

/-- A rule with one condition on that fact. -/
def backendRule : Rule where
  name := "backend"
  conditions := some
    (.all [.leaf { fact := "backend", operator := Builtin.equal.name, value := .int 1 }])
  event := ⟨.warning, "Rule fired", []⟩
  priority := none

/-- A fact that says it is unavailable ends the run in an error. -/
theorem run_ending_of_unavailable :
    let s := withFailure "backend unavailable"
    let q : RunRequest := { input := .rule backendRule, target := "a.txt" }
    let ctx := Context.ofTarget (.ofFiles []) "a.txt" (some {})
    q.options.verbose = false ∧
      ∃ c, s.Walks q usualContext backendRule c ctx ∧
        ((s.run q).1.ending = .error ↔
          (∃ v ∈ c.visits ctx s.registry rootPath false {},
            v.negated = false ∧ (v.found ctx s.registry).isErrored = true) ∧
          ∃ v ∈ c.visits ctx s.registry rootPath false {},
            v.errsBy ctx s.registry LeafFault.isEvident = true) := by
  intro s q ctx
  have walks : s.Walks q usualContext backendRule _ ctx := ⟨rfl, rfl, rfl, _, rfl, rfl⟩
  exact ⟨rfl, _, walks, (run_ending_error_iff walks rfl).1⟩

/-- A fact that fails and says that something is unknown: its leaf ended with an error because it
failed, and the run does not end in an error. -/
theorem ending_of_unknown_pretended :
    let s := withFailure "Unknown fact: pretend"
    let q : RunRequest := { input := .rule backendRule, target := "a.txt" }
    let ctx := Context.ofTarget (.ofFiles []) "a.txt" (some {})
    ∃ c, s.Walks q usualContext backendRule c ctx ∧ q.options.verbose = false ∧
      (∃ v ∈ c.visits ctx s.registry rootPath false {},
        v.negated = false ∧ (v.found ctx s.registry).isErrored = true) ∧
      (∃ v ∈ c.visits ctx s.registry rootPath false {},
        v.errsBy ctx s.registry LeafFault.isFailure = true) ∧
      ¬ (s.run q).1.ending = .error := by
  intro s q ctx
  have walks : s.Walks q usualContext backendRule _ ctx := ⟨rfl, rfl, rfl, _, rfl, rfl⟩
  refine ⟨_, walks, rfl, ?_, ?_, ?_⟩ <;> decide

/-! ### Runs without a project -/

/-- The obstacles with a text of their own. -/
theorem noProject_message_ne :
    Obstacle.notReady.message ≠ Obstacle.noProject.message ∧
      Obstacle.noConditions.message ≠ Obstacle.noProject.message ∧
      Obstacle.faults.message ≠ Obstacle.noProject.message := by
  decide

/-- A text with a colon is not the one about the project. -/
theorem ne_noProject_message_of_colon {text : String} (h : ':' ∈ text.toList) :
    text ≠ Obstacle.noProject.message := by
  rintro rfl
  exact absurd h (by decide)

theorem ne_noProject_message_of_read {input : RuleInput} {message : String}
    (h : input.read = .error message) : message ≠ Obstacle.noProject.message := by
  have refused : ∃ issues, message = Rule.refusal issues := by
    unfold RuleInput.read at h
    split at h
    · cases h
    · split at h
      · cases h
      · exact ⟨_, (Except.error.inj h).symm⟩
  obtain ⟨issues, rfl⟩ := refused
  refine ne_noProject_message_of_colon ?_
  rw [Rule.refusal, String.toList_append]
  exact List.mem_append_left _ (by decide)

theorem brokenDown_message_ne (lead message : String) :
    (Obstacle.brokenDown lead message).message ≠ Obstacle.noProject.message := by
  refine ne_noProject_message_of_colon ?_
  simp only [Obstacle.message, String.toList_append]
  exact List.mem_append_left _ (List.mem_append_right _ (by decide))

theorem decide_error_ne {target : String} {options : Options} {leaves : List LeafResult} :
    (rule.decide c target options leaves).error ≠ some Obstacle.noProject.message := by
  unfold Rule.decide
  split
  · exact fun h => noProject_message_ne.2.2 (Option.some.inj h)
  · nofun

/-- **No project.**  A run says that no project is loaded only if the engine is ready and has none
for it. -/
theorem projectFor_of_error (h : (s.run q make).1.error = some Obstacle.noProject.message) :
    s.ready = true ∧ s.projectFor q = none := by
  unfold run at h
  split at h
  · exact absurd (Option.some.inj h) noProject_message_ne.1
  · next ready =>
      split at h
      · next read => exact absurd (Option.some.inj h) (ne_noProject_message_of_read read)
      · split at h
        · exact absurd (Option.some.inj h) noProject_message_ne.2.1
        · next without => exact ⟨by simpa using ready, without⟩
        · split at h
          · exact absurd (Option.some.inj h) (brokenDown_message_ne _ _)
          · exact absurd h decide_error_ne

end Snapshot

end Verdict
