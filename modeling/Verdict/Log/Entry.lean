import Verdict.Log.Redaction
import Verdict.Value.Display

/-!
# Log: entries

What is logged: an event with its level and fields. Entries below the level asked for are passed
over, and secrets are redacted in all fields.
-/

namespace Verdict.Log

/-- How important an entry is. -/
inductive Level where
  | debug
  | info
  | warning
  | error
  | critical
deriving DecidableEq, Repr

namespace Level

/-- The word for a level. -/
def word : Level → String
  | .debug => "debug"
  | .info => "info"
  | .warning => "warning"
  | .error => "error"
  | .critical => "critical"

/-- The levels from the least important on. -/
def every : List Level := [.debug, .info, .warning, .error, .critical]

/-- Further words for levels. -/
def otherWords : Table String Level :=
  [("warn", .warning), ("exception", .error), ("fatal", .critical), ("msg", .info)]

/-- The level of a word. -/
def named? (word : String) : Option Level :=
  (every.find? (·.word == word)).or (otherWords.get? word)

/-- Entries of the level are written: all in a verbose log, otherwise all but those for debugging. -/
def isWritten (verbose : Bool) (level : Level) : Bool :=
  verbose || level != .debug

end Level

/-- An event to be logged. One that is null is not written. -/
structure Entry where
  level : Level
  event : Value
  fields : Table String Value

/-- The name of the field that holds the level. -/
def levelField : String := "level"

/-- The name of the field that holds the event. -/
def eventField : String := "event"

/-- The names of fields that are not written: the moment of an entry is added where it is written,
and what else is asked of the log has no place in a line. -/
def unwrittenFields : List String := ["timestamp", "stack_info", "exc_info"]

mutual

/-- A value as it stands in a line: tuples are lists, records and sets are shown. -/
def lineValue : Value → Value
  | .list items => .list (lineItems items)
  | .tuple items => .list (lineItems items)
  | .mapping pairs => .mapping (linePairs pairs)
  | .record kind fields => .text (Value.record kind fields).display
  | .set members => .text (Value.set members).display
  | v => v

/-- Items as they stand in a line. -/
def lineItems : List Value → List Value
  | [] => []
  | v :: rest => lineValue v :: lineItems rest

/-- Pairs as they stand in a line. -/
def linePairs : List (Atom × Value) → List (Atom × Value)
  | [] => []
  | (k, v) :: rest => (k, lineValue v) :: linePairs rest

end

/-- The line of an entry: its fields, the event and the level, without secrets. -/
def Entry.line (e : Entry) : Value :=
  let fields : Table String Value :=
    e.fields.filter fun (name, _) => !unwrittenFields.contains name
  let named := match e.event with
    | .null => fields
    | event => fields.insert eventField event
  lineValue (Redaction.redact (.ofPairs (named.insert levelField (.text e.level.word))))

/-- The lines of the entries that are written. -/
def lines (verbose : Bool) (entries : List Entry) : List Value :=
  (entries.filter (·.level.isWritten verbose)).map Entry.line

/-! ### What is logged about runs -/

/-- Why a value has no place in an entry. -/
inductive Misfit where
  | notSeries
  | notText (index : Nat) (kind : String)
  | notNumber (kind : String)
deriving DecidableEq, Repr

/-- The wording of a misfit. -/
def Misfit.message : Misfit → String
  | .notSeries => "can only join an iterable"
  | .notText index kind =>
    "sequence item " ++ toString index ++ ": expected str instance, " ++ kind ++ " found"
  | .notNumber kind => "type " ++ kind ++ " doesn't define __round__ method"

/-- The texts among items, from an index on; all have to be texts. -/
def textsFrom (index : Nat) : List Value → Except Misfit (List String)
  | [] => .ok []
  | .text s :: rest => (s :: ·) <$> textsFrom (index + 1) rest
  | v :: _ => .error (.notText index v.kindName)

/-- The parts of a path: the items of a list, the characters of a text, or the keys of a mapping. -/
def partsOf : Value → Except Misfit (List String)
  | .list items => textsFrom 0 items
  | .tuple items => textsFrom 0 items
  | .set members => textsFrom 0 (members.map .atom)
  | .mapping pairs => textsFrom 0 (pairs.map fun (k, _) => .atom k)
  | .text s => .ok (s.toList.map Char.toString)
  | .record .leafResult _ => .error (.notText 0 "tuple")
  | _ => .error .notSeries

/-- A duration with two places. -/
def roundDuration : Value → Except Misfit Value
  | .float x => .ok (.float (x.roundPlaces 2))
  | .bool b => .ok (.int (if b then 1 else 0))
  | .int n => .ok (.int n)
  | v => .error (.notNumber v.kindName)

/-- The entry about a leaf that was evaluated. Of its value a preview is logged. -/
def leafEvaluated (path : List String) (fact operator outcome factValue error : Value) : Entry where
  level := .debug
  event := .text "condition_evaluated"
  fields := [("path", .text (".".intercalate path)), ("fact", fact), ("operator", operator),
    ("result", outcome), ("fact_value", .text factValue.preview), ("error", error)]

/-- The entry about a run that ended. One that ended in an error is a warning. -/
def runCompleted (rule target ending leaves duration error : Value) : Entry where
  level := if ending.text? = some "error" then .warning else .info
  event := .text "simulation_complete"
  fields := [("rule", rule), ("target", target), ("final_result", ending),
    ("conditions_evaluated", leaves), ("duration_ms", duration), ("error", error)]

end Verdict.Log
