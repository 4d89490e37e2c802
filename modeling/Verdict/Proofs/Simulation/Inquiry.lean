import Verdict.Proofs.Simulation.Ending
import Verdict.Simulation.Engine

/-!
# Simulation: what an engine answers

An engine is asked for a file that is loaded, for a file with a content of its own, or for the whole
project.

* `Snapshot.obstructed_or_walks`: a run is obstructed before it comes to the conditions of its rule,
  or walks over them and is decided.
* `RunResult.Coherent`: the parts of a result agree with each other, with what was asked, and with
  the rule.
* `Inquiry.on_coherent`: every answer does so, whatever the rule, the plugins and the state of the
  engine are.
-/

namespace Verdict

/-- An engine that is ready with a project. -/
def Engine.readyWith (r : Registry) (p : Project) : Engine :=
  { start { registry := r, load := fun _ => { outcome := .error .silent } } with
    project := some p
    ready := true }

/-- What an engine is asked for. -/
inductive Inquiry where
  | file (input : RuleInput) (file : String) (options : Options)
  | content (input : RuleInput) (file content : String) (options : Options)
  | whole (input : RuleInput) (extra : Table String String) (options : Options)
      (makeContext : MakeContext)

namespace Inquiry

/-- The answer of an engine, and the state of the run at its end. -/
def on (e : Engine) : Inquiry → RunResult × Run
  | .file input path options => e.simulate input path options
  | .content input path text options => e.simulateContent input path text options
  | .whole input extra options make => e.simulateGlobal input extra options make

/-- The run that is asked for. -/
def request : Inquiry → RunRequest
  | .file input path options => { input, target := path, options }
  | .content input path text options =>
    { input, target := path, options, own := some (.ofFiles [(path, text)]) }
  | .whole input extra options _ =>
    { input, target := globalTarget, options, extra, breakdown := "Global simulation failed" }

/-- How the context of the run comes about. -/
def makeContext : Inquiry → MakeContext
  | .file .. | .content .. => usualContext
  | .whole _ _ _ make => make

theorem on_eq (q : Inquiry) (e : Engine) : q.on e = e.snapshot.run q.request q.makeContext := by
  cases q <;> rfl

end Inquiry

/-! ### How a run gets on -/

namespace Snapshot

/-- **A run is obstructed, or walks.** -/
theorem obstructed_or_walks (s : Snapshot) (q : RunRequest) (make : MakeContext) :
    (∃ o, s.run q make = (.obstructed q.target o, {})) ∨
      ∃ rule c ctx, s.Walks q make rule c ctx := by
  cases ready : s.ready with
  | false => exact .inl ⟨.notReady, by simp [run, ready]⟩
  | true =>
      cases read : q.input.read with
      | error message => exact .inl ⟨.badRule message, by simp [run, ready, read]⟩
      | ok rule =>
          cases conditions : rule.conditions with
          | none => exact .inl ⟨.noConditions, by simp [run, ready, read, conditions]⟩
          | some c =>
              cases own : s.projectFor q with
              | none => exact .inl ⟨.noProject, by simp [run, ready, read, conditions, own]⟩
              | some project =>
                  cases made : make project q.target q.options with
                  | error failure =>
                      exact .inl ⟨.brokenDown q.breakdown failure.message,
                        by simp [run, ready, read, conditions, own, made]⟩
                  | ok ctx => exact .inr ⟨rule, c, ctx, ready, read, conditions, project, own, made⟩

end Snapshot

/-! ### What is in an answer -/

/-- **A result that is in order** for the rule and the target that were asked for. -/
structure RunResult.Coherent (input : RuleInput) (target : String) (r : RunResult) : Prop where
  target : r.fileName = target
  success : r.success = true ↔ r.ending ≠ .error
  error : r.error = none ↔ r.ending ≠ .error
  event : r.event.isSome = true ↔ r.ending = .triggered
  ownEvent : ∀ event, r.event = some event → ∃ rule, input.read = .ok rule ∧ event = rule.event
  triggered : r.ending = .triggered ↔ r.success = true ∧ ∃ rule conditions,
    input.read = .ok rule ∧ rule.conditions = some conditions ∧
      conditions.isMet r.leafResults = true
  trace : r.ending = .error → r.leafResults ≠ [] → r.error = some Obstacle.faults.message

namespace RunResult

variable {input : RuleInput} {target : String}

/-- A result of an obstacle is in order if only faults of leaves leave results of leaves. -/
theorem coherent_obstructed {o : Obstacle} {leaves : List LeafResult}
    (faults : leaves ≠ [] → o = .faults) :
    (obstructed target o leaves).Coherent input target where
  target := rfl
  success := by simp [obstructed]
  error := by simp [obstructed]
  event := by simp [obstructed]
  ownEvent := by simp [obstructed]
  triggered := by simp [obstructed]
  trace _ given := by rw [obstructed, faults given]

/-- A result that is decided is in order. -/
theorem coherent_decide {rule : Rule} {c : Condition} {options : Options}
    {leaves : List LeafResult} (read : input.read = .ok rule)
    (conditions : rule.conditions = some c) :
    (rule.decide c target options leaves).Coherent input target := by
  unfold Rule.decide
  split
  · exact coherent_obstructed fun _ => rfl
  · cases met : c.isMet leaves with
    | true => constructor <;> simp [met, read, conditions]
    | false => constructor <;> simp [met, read, conditions]

end RunResult

namespace Inquiry

/-- **Every answer is in order**: whatever the engine is asked for, and whatever its plugins do, it
answers for the target, and the parts of the answer agree. -/
theorem on_coherent (q : Inquiry) (e : Engine) :
    (q.on e).1.Coherent q.request.input q.request.target := by
  rw [on_eq]
  rcases e.snapshot.obstructed_or_walks q.request q.makeContext with ⟨o, obstructed⟩ | ⟨_, _, _, h⟩
  · rw [obstructed]
    exact RunResult.coherent_obstructed (absurd rfl)
  · rw [h.run_eq]
    exact RunResult.coherent_decide h.read h.conditions

end Inquiry

end Verdict
