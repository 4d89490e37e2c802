import Verdict.Number.Reading
import Verdict.Operator
import Verdict.Plugin.Registry
import Verdict.Value.Selector

/-!
# Evaluation: leaves

The result of a leaf: the fact is resolved, the selected part of its value is taken, and the
operator is applied to it and the operand of the leaf. A fault on the way gives the outcome false
and its message.
-/

namespace Verdict

/-! ## Facts

The answer of a fact in a run. A value that the run already has is taken from its cache; the fact
that answers with the target is never calculated; any other is calculated by the plugin that
provides it, and a value is kept for the rest of the run. A failure is not kept.
-/

/-- Why a leaf has no proper outcome. The first two name something that nothing provides; in the
others something failed. -/
inductive LeafFault where
  | unknownFact (name : String)
  | unknownOperator (name : String)
  | factFailed (name : String) (failure : Failure)
  | operatorFailed (name : String) (failure : Failure)
  | selectorFailed (fault : Number.IntegerFault)
deriving DecidableEq, Repr

namespace LeafFault

/-- How messages about unknown facts begin. -/
def unknownFactMark : String := "Unknown fact"

/-- How messages about unknown operators begin. -/
def unknownOperatorMark : String := "Unknown operator"

/-- The wording of a fault. -/
def message : LeafFault → String
  | .unknownFact name =>
    unknownFactMark ++ ": " ++ name ++ ". This fact is not provided by any registered plugin."
  | .unknownOperator name =>
    unknownOperatorMark ++ ": " ++ name ++
      ". This operator is not provided by any registered plugin."
  | .factFailed _ failure => failure.text
  | .operatorFailed _ failure => failure.text
  | .selectorFailed fault => fault.message

/-- The warnings that come with a fault of the leaf at a path. -/
def warnings (target : String) (path : List String) : LeafFault → List String
  | .factFailed name failure =>
    ["Error executing fact '" ++ name ++ "' for " ++ target ++ ": " ++ failure.message]
  | .operatorFailed name failure => ["Operator '" ++ name ++ "' failed: " ++ failure.message]
  | .selectorFailed _ => ["Unexpected error evaluating condition at " ++ ".".intercalate path]
  | _ => []

end LeafFault

namespace Fact

/-- Calculates a fact in a run. What it publishes is kept also if it fails; its own value is kept
only if it succeeds, over anything it published under its own name. -/
def run (f : Fact) (name : String) (params : Option (Table String Value)) (ctx : Context)
    (run : Run) : Except LeafFault Value × Run :=
  let answer := f.calculate params ctx run
  let after := answer.published.foldl (fun r (name, v) => r.learn name v)
    ({ run with calculated := run.calculated ++ [name] }.warn answer.warnings)
  match answer.outcome with
  | .ok v => (.ok v, after.learn name v)
  | .error failure => (.error (.factFailed name failure), after)

end Fact

/-- The value of a fact in a run, and the state of the run after it. -/
def Registry.resolve (r : Registry) (ctx : Context) (name : String)
    (params : Option (Table String Value)) (run : Run) : Except LeafFault Value × Run :=
  match run.cache.get? name with
  | some v => (.ok v, run)
  | none =>
    if name = targetFact then (.ok ctx.current.toValue, run)
    else match r.facts.get? name with
      | none => (.error (.unknownFact name), run)
      | some f => f.run name params ctx run

/-! ## Leaves -/

/-- Applies the operator of a name. The operators that are always there come first. -/
def Registry.apply (r : Registry) (name : String) (a b : Value) : Except LeafFault Bool :=
  match Builtin.named? name with
  | some op => .ok (op.holds a b)
  | none =>
    match r.operators.get? name with
    | none => .error (.unknownOperator name)
    | some op =>
      match op.evaluate a b with
      | .ok v => .ok v.truthy
      | .error failure => .error (.operatorFailed name failure)

namespace Leaf

/-- How far the evaluation of a leaf came: it has no value to judge, or a value and what the
operator says of it. -/
inductive Finding where
  | unresolved (fault : LeafFault)
  | judged (value : Value) (answer : Except LeafFault Bool)

/-- The value of a leaf, judged by its operator. -/
def judge (l : Leaf) (r : Registry) (value : Value) : Finding :=
  match value.select? l.selector with
  | .error fault => .unresolved (.selectorFailed fault)
  | .ok part => .judged part (r.apply l.operator part l.value)

/-- What is found for a leaf in a run. -/
def find (l : Leaf) (ctx : Context) (r : Registry) (run : Run) : Finding × Run :=
  match r.resolve ctx l.fact l.params run with
  | (.ok v, after) => (l.judge r v, after)
  | (.error fault, after) => (.unresolved fault, after)

/-- The fault in a finding. -/
def Finding.fault? : Finding → Option LeafFault
  | .unresolved fault => some fault
  | .judged _ (.error fault) => some fault
  | .judged _ (.ok _) => none

/-- The outcome of a finding. -/
def Finding.outcome : Finding → Bool
  | .judged _ (.ok b) => b
  | _ => false

/-- The value of a finding. -/
def Finding.value? : Finding → Option Value
  | .judged v _ => some v
  | .unresolved _ => none

/-- The result that reports a finding for a leaf at a path. The selector is reported with a value. -/
def report (l : Leaf) (path : List String) (found : Finding) : LeafResult where
  path
  fact := l.fact
  factValue := found.value?.getD .null
  operator := l.operator
  operand := l.value
  outcome := found.outcome
  error := found.fault?.map LeafFault.message
  selector := if found.value?.isSome then l.selector else none
  params := l.params

/-- The result of a leaf at a path, and the state of the run after it. -/
def evaluate (l : Leaf) (path : List String) (ctx : Context) (r : Registry) (run : Run) :
    LeafResult × Run :=
  let (found, after) := l.find ctx r run
  (l.report path found, after.warn ((found.fault?.map (·.warnings ctx.target path)).getD []))

end Leaf

end Verdict
