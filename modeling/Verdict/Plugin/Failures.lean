import Verdict.Number.Reading
import Verdict.Pattern.Fault
import Verdict.Plugin.Basic
import Verdict.Value.Display

/-!
# Plugins: failures

The failures that the facts and operators of the library itself can end in.
-/

namespace Verdict.Failure

/-- A value of the wrong kind. -/
def wrongKind (message : String) : Failure := ⟨"TypeError", message⟩

/-- A value that is not what its kind allows. -/
def badValue (message : String) : Failure := ⟨"ValueError", message⟩

/-- A number beyond a limit. -/
def tooLarge (message : String) : Failure := ⟨"OverflowError", message⟩

/-- A part that a value of this kind does not have. -/
def noPart (v : Value) (part : String) : Failure :=
  ⟨"AttributeError", "'" ++ v.kindName ++ "' object has no attribute '" ++ part ++ "'"⟩

/-- A pattern that cannot be read. -/
def badPattern (source : String) (fault : Pattern.Fault) : Failure :=
  let message := fault.message source
  match fault.defect.kind with
  | .malformed => ⟨"error", message⟩
  | .tooLarge => tooLarge message
  | .invalid => badValue message
  | .unusable => ⟨"RuntimeError", message⟩

/-- A text that is not an integer. -/
def badInteger (fault : Number.IntegerFault) : Failure :=
  badValue fault.message

end Verdict.Failure

namespace Verdict.Value

/-- The integer that a value stands for: a number without its fraction, or a text in digits. -/
def toInteger : Value → Except Failure Int
  | .int n => .ok n
  | .bool b => .ok (if b then 1 else 0)
  | .float x =>
    match x.truncate? with
    | some n => .ok n
    | none =>
      if x == .nan then .error (.badValue "cannot convert float NaN to integer")
      else .error (.tooLarge "cannot convert float infinity to integer")
  | .text s => (Number.readInteger s).mapError .badInteger
  | v =>
    .error (.wrongKind ("int() argument must be a string, a bytes-like object or a real number, not '" ++
      v.kindName ++ "'"))

end Verdict.Value
