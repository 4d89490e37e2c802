import Verdict.Rule.Basic
import Verdict.Value.Wire

/-!
# Results

What a simulation takes as options and what it answers: one result for every leaf in document order,
and the result of the run.
-/

namespace Verdict

/-- The options of a run. A verbose run does not turn the faults of leaves into an error. -/
structure Options where
  verbose : Bool := false
  timeout : Option Number.Binary64 := none
  skipAst : Bool := false

/-- The result of a leaf. `outcome` counts the negations above the leaf; `path` is the leaf's position
in its rule. -/
structure LeafResult where
  path : List String
  fact : String
  factValue : Value := .null
  operator : String
  operand : Value := .null
  outcome : Bool
  error : Option String := none
  duration : Number.Binary64 := .zero false
  selector : Option String := none
  params : Option (Table String Value) := none

namespace LeafResult

/-- The same result with the opposite outcome. -/
def inverted (r : LeafResult) : LeafResult :=
  { r with outcome := !r.outcome }

/-- The leaf ended with an error; an empty text is none. -/
def isErrored (r : LeafResult) : Bool :=
  r.error.any (!·.isEmpty)

end LeafResult

/-- How a run ended. -/
inductive Ending where
  | triggered
  | notTriggered
  | error
deriving DecidableEq, Repr

/-- The word for the end of a run. -/
def Ending.word : Ending → String
  | .triggered => "triggered"
  | .notTriggered => "not-triggered"
  | .error => "error"

/-- The ends of a run in the order in which they are listed. -/
def Ending.every : List Ending := [.triggered, .notTriggered, .error]

/-- The beginning of the year 1970 in universal time. -/
def Moment.epoch : Moment := ⟨⟨1970, 1, 1⟩, 0, 0, 0, 0, some 0⟩

/-- The result of a run. The timestamp is the epoch until the result is stamped. -/
structure RunResult where
  success : Bool
  fileName : String
  timestamp : Moment := .epoch
  duration : Number.Binary64 := .zero false
  leafResults : List LeafResult := []
  ending : Ending
  event : Option Event := none
  error : Option String := none

namespace RunResult

/-- The result with the moment at which it was recorded. -/
def stampedAt (r : RunResult) (now : Moment) : RunResult :=
  { r with timestamp := now }

/-- The rule fired. -/
def isTriggered (r : RunResult) : Bool :=
  r.ending == .triggered

/-- The leaves whose outcome is false. -/
def failed (r : RunResult) : List LeafResult :=
  r.leafResults.filter (!·.outcome)

/-- The leaves that ended with an error. -/
def errored (r : RunResult) : List LeafResult :=
  r.leafResults.filter (·.isErrored)

end RunResult

/-! ### Results as values

Options and results as values. A leaf's result is a record with its own field names; in wire form
it is a mapping with the wire names, and its values are in wire form too.
-/

/-- Options as a value. -/
def Options.toValue (o : Options) : Value :=
  .ofPairs [("verbose", .bool o.verbose), ("timeout", .ofOption .float o.timeout),
    ("skipAst", .bool o.skipAst)]

/-- The result of a leaf as a record. -/
def LeafResult.toValue (r : LeafResult) : Value :=
  .record .leafResult [
    (.text "path", .texts r.path),
    (.text "fact_name", .text r.fact),
    (.text "fact_value", r.factValue),
    (.text "operator", .text r.operator),
    (.text "compare_value", r.operand),
    (.text "result", .bool r.outcome),
    (.text "error", .optionalText r.error),
    (.text "duration", .float r.duration),
    (.text "json_path", .optionalText r.selector),
    (.text "params", .ofOption .ofTable r.params)]

/-- The result of a leaf in wire form. -/
def LeafResult.wire (joining : Value.KeyJoining) (r : LeafResult) : Except WireFault Value := do
  let factValue ← r.factValue.wire joining
  let operand ← r.operand.wire joining
  let params ← r.params.mapM (·.wire joining)
  return .ofPairs [
    ("path", .texts r.path),
    ("factName", .text r.fact),
    ("factValue", factValue),
    ("operator", .text r.operator),
    ("compareValue", operand),
    ("result", .bool r.outcome),
    ("error", .optionalText r.error),
    ("duration", .float r.duration),
    ("jsonPath", .optionalText r.selector),
    ("params", .ofOption id params)]

/-- An event in wire form. -/
def Event.wire (joining : Value.KeyJoining) (e : Event) : Except WireFault Value := do
  return .ofPairs [("type", .text e.severity.word), ("message", .text e.message),
    ("params", ← e.params.wire joining)]

/-- The result of a run in wire form. -/
def RunResult.wire (joining : Value.KeyJoining) (r : RunResult) : Except WireFault Value := do
  let leaves ← r.leafResults.mapM (·.wire joining)
  let event ← r.event.mapM (·.wire joining)
  return .ofPairs [
    ("success", .bool r.success),
    ("fileName", .text r.fileName),
    ("timestamp", .text r.timestamp.wire),
    ("duration", .float r.duration),
    ("conditionResults", .list leaves),
    ("finalResult", .text r.ending.word),
    ("event", .ofOption id event),
    ("error", .optionalText r.error)]

end Verdict
