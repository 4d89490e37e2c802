import Verdict.Evaluation.Walk
import Verdict.Plugin.Registry
import Verdict.Rule.Reading

/-!
# Simulation: runs

A run simulates a rule for a target. It takes what it needs from the engine at its beginning, a
snapshot, and always ends in a result: the rule fired, it did not, or something stood in the way.
-/

namespace Verdict

/-- What is simulated: a rule, or a value that has to be one. -/
inductive RuleInput where
  | rule (rule : Rule)
  | value (v : Value)

/-- The rule, or what is said of a value that is none. -/
def RuleInput.read : RuleInput → Except String Rule
  | .rule r => .ok r
  | .value v =>
    match Rule.read v with
    | .ok r => .ok r
    | .faulty issues => .error (Rule.refusal issues)

/-- What a run takes from the engine. -/
structure Snapshot where
  ready : Bool
  project : Option Project
  registry : Registry

/-- What a run is asked for: a rule and a target; a project of its own or files to lay over the one
that is loaded; options; and what is said first if the run breaks down. -/
structure RunRequest where
  input : RuleInput
  target : String
  own : Option Project := none
  extra : Table String String := []
  options : Options := {}
  breakdown : String := "Simulation failed"

/-- What stands in the way of a run. -/
inductive Obstacle where
  | notReady
  | badRule (message : String)
  | noConditions
  | noProject
  | faults
  | brokenDown (lead message : String)

/-- The wording of an obstacle. -/
def Obstacle.message : Obstacle → String
  | .notReady => "Simulation engine not initialized. Please wait for initialization to complete."
  | .badRule message => message
  | .noConditions => "Invalid rule: missing conditions"
  | .noProject => "No fixture data loaded"
  | .faults =>
    "One or more conditions failed to evaluate. Check condition results for details."
  | .brokenDown lead message => lead ++ ": " ++ message

/-- The result of a run that something stood in the way of. -/
def RunResult.obstructed (target : String) (o : Obstacle) (leaves : List LeafResult := []) :
    RunResult where
  success := false
  fileName := target
  leafResults := leaves
  ending := .error
  error := some o.message

/-- The result of a run by the results of its leaves. A verbose run is decided in any case. -/
def Rule.decide (rule : Rule) (conditions : Condition) (target : String) (options : Options)
    (leaves : List LeafResult) : RunResult :=
  if !options.verbose && hasFaults leaves then .obstructed target .faults leaves
  else
    let triggered := conditions.isMet leaves
    { success := true
      fileName := target
      leafResults := leaves
      ending := if triggered then .triggered else .notTriggered
      event := if triggered then some rule.event else none }

/-- How the context of a run comes about; it may break the run down. -/
abbrev MakeContext := Project → String → Options → Except Failure Context

/-- The context of a target in a project. -/
def usualContext : MakeContext := fun project target options =>
  .ok (Context.ofTarget project target (some options))

namespace Snapshot

/-- The project that a run is about. -/
def projectFor (s : Snapshot) (q : RunRequest) : Option Project :=
  match q.own with
  | some p => some p
  | none => s.project.map fun p => if q.extra.isEmpty then p else p.withFiles q.extra

/-- The result of a run and its state at the end. -/
def run (s : Snapshot) (q : RunRequest) (makeContext : MakeContext := usualContext) :
    RunResult × Run :=
  let obstructed (o : Obstacle) : RunResult × Run := (.obstructed q.target o, {})
  if !s.ready then obstructed .notReady
  else match q.input.read with
    | .error message => obstructed (.badRule message)
    | .ok rule =>
      match rule.conditions, s.projectFor q with
      | none, _ => obstructed .noConditions
      | some _, none => obstructed .noProject
      | some conditions, some project =>
        match makeContext project q.target q.options with
        | .error failure => obstructed (.brokenDown q.breakdown failure.message)
        | .ok context =>
          let (leaves, after) := conditions.evaluate context s.registry rootPath {}
          (rule.decide conditions q.target q.options leaves, after)

end Snapshot

end Verdict
