import Verdict.Rule.Condition

/-!
# Rules

A rule has a name, a tree of conditions and the event that it fires. A rule whose conditions are
absent is still being written.
-/

namespace Verdict

/-- How grave an event is. -/
inductive Severity where
  | warning
  | fatality
  | info
deriving DecidableEq, Repr

/-- The word for a severity. -/
def Severity.word : Severity → String
  | .warning => "warning"
  | .fatality => "fatality"
  | .info => "info"

/-- The severities in the order in which they are listed. -/
def Severity.every : List Severity := [.warning, .fatality, .info]

/-- What a rule fires. -/
structure Event where
  severity : Severity
  message : String
  params : Table String Value

/-- A rule. The conditions, where present, are a group or a negation. -/
structure Rule where
  name : String
  conditions : Option Condition
  event : Event
  priority : Option Int

/-! ### Rules as values

Rules and conditions as values, with every field present.
-/

/-- A leaf as a value. -/
def Leaf.toValue (l : Leaf) : Value :=
  .ofPairs [("fact", .text l.fact), ("operator", .text l.operator), ("value", l.value),
    ("path", .optionalText l.selector), ("params", .ofOption .ofTable l.params),
    ("priority", .ofOption .int l.priority)]

namespace Condition

mutual

/-- A condition as a value. -/
def toValue : Condition → Value
  | .leaf l => l.toValue
  | .all children => .ofPairs [("all", .list (toValues children))]
  | .any children => .ofPairs [("any", .list (toValues children))]
  | .not child => .ofPairs [("not", toValue child)]
  | .invalid keys => .ofTable keys

/-- Conditions as values. -/
def toValues : List Condition → List Value
  | [] => []
  | c :: rest => toValue c :: toValues rest

end

end Condition

/-- An event as a value. -/
def Event.toValue (e : Event) : Value :=
  .ofPairs [("type", .text e.severity.word), ("message", .text e.message),
    ("params", .ofTable e.params)]

/-- A rule as a value. -/
def Rule.toValue (r : Rule) : Value :=
  .ofPairs [("name", .text r.name), ("conditions", .ofOption Condition.toValue r.conditions),
    ("event", r.event.toValue), ("priority", .ofOption .int r.priority)]

end Verdict
