import Verdict.Number.Format
import Verdict.Text.Quoted

/-!
# Schemas: issues

What a schema holds against a value, and where. A reading of a value is `Checked`: the result, or
all issues in the order of the schema. Combining two readings keeps the issues of both.
-/

namespace Verdict.Schema

/-- What is wrong with a value. -/
inductive Defect where
  | missing
  | unexpected
  | keyNotText
  | notText
  | notUnicode
  | tooShort (least : Nat)
  | notInteger
  | notIntegerText
  | fractional
  | notFiniteInteger
  | oversizedInteger
  | notBoolean
  | notBooleanText
  | notNumber
  | notNumberText
  | notAbove (bound : String)
  | notAtMost (bound : String)
  | notList
  | notMapping
  | notRecord (name : String)
  | notChoice (choices : List String)
  | notLiteral (literal : String)
  | notMoment
  | impossibleMoment (reason : String)
  | badMoment (reason : String)
  | tooDeep
  | cyclic
  | mixedCondition
  | notGroup
  | refused (reason : String)
deriving DecidableEq, Repr

/-- Choices as they are listed: commas, and "or" before the last. -/
def listChoices : List String → String
  | [] => ""
  | [c] => c
  | [c, d] => c ++ " or " ++ d
  | c :: rest => c ++ ", " ++ listChoices rest

namespace Defect

/-- The short name of a kind of defect. -/
def code : Defect → String
  | .missing => "missing"
  | .unexpected => "extra_forbidden"
  | .keyNotText => "invalid_key"
  | .notText => "string_type"
  | .notUnicode => "string_unicode"
  | .tooShort _ => "string_too_short"
  | .notInteger => "int_type"
  | .notIntegerText => "int_parsing"
  | .fractional => "int_from_float"
  | .notFiniteInteger => "finite_number"
  | .oversizedInteger => "int_parsing_size"
  | .notBoolean => "bool_type"
  | .notBooleanText => "bool_parsing"
  | .notNumber => "float_type"
  | .notNumberText => "float_parsing"
  | .notAbove _ => "greater_than"
  | .notAtMost _ => "less_than_equal"
  | .notList => "list_type"
  | .notMapping => "dict_type"
  | .notRecord _ => "model_type"
  | .notChoice _ => "enum"
  | .notLiteral _ => "literal_error"
  | .notMoment => "datetime_type"
  | .impossibleMoment _ => "datetime_parsing"
  | .badMoment _ => "datetime_from_date_parsing"
  | .tooDeep | .cyclic => "recursion_loop"
  | .mixedCondition => "invalid_condition"
  | .notGroup => "invalid_condition_group"
  | .refused _ => "value_error"

/-- The wording of a defect. -/
def message : Defect → String
  | .missing => "Field required"
  | .unexpected => "Extra inputs are not permitted"
  | .keyNotText => "Keys should be strings"
  | .notText => "Input should be a valid string"
  | .notUnicode => "Input should be a valid string, unable to parse raw data as a unicode string"
  | .tooShort least =>
    "String should have at least " ++ toString least ++
      (if least = 1 then " character" else " characters")
  | .notInteger => "Input should be a valid integer"
  | .notIntegerText => "Input should be a valid integer, unable to parse string as an integer"
  | .fractional => "Input should be a valid integer, got a number with a fractional part"
  | .notFiniteInteger => "Input should be a finite number"
  | .oversizedInteger => "Unable to parse input string as an integer, exceeded maximum size"
  | .notBoolean => "Input should be a valid boolean"
  | .notBooleanText => "Input should be a valid boolean, unable to interpret input"
  | .notNumber => "Input should be a valid number"
  | .notNumberText => "Input should be a valid number, unable to parse string as a number"
  | .notAbove bound => "Input should be greater than " ++ bound
  | .notAtMost bound => "Input should be less than or equal to " ++ bound
  | .notList => "Input should be a valid list"
  | .notMapping => "Input should be a valid dictionary"
  | .notRecord name => "Input should be a valid dictionary or instance of " ++ name
  | .notChoice choices => "Input should be " ++ listChoices (choices.map Text.quoted)
  | .notLiteral literal => "Input should be " ++ literal
  | .notMoment => "Input should be a valid datetime"
  | .impossibleMoment reason => "Input should be a valid datetime, " ++ reason
  | .tooDeep => "Recursion error - maximum validation depth exceeded"
  | .cyclic => "Recursion error - cyclic reference detected"
  | .badMoment reason => "Input should be a valid datetime or date, " ++ reason
  | .mixedCondition => "Condition must not mix 'fact', 'all', 'any' and 'not'"
  | .notGroup => "Rule conditions must have exactly one of 'all', 'any' or 'not'"
  | .refused reason => "Value error, " ++ reason

end Defect

/-- A defect and the way to it from the root of the value. -/
structure Issue where
  location : List String
  defect : Defect
deriving DecidableEq, Repr

/-- An issue on one line: the location, a colon and the wording. -/
def Issue.line (i : Issue) : String :=
  ".".intercalate i.location ++ ": " ++ i.defect.message

/-- The outcome of reading a value by a schema. -/
inductive Checked (α : Type) where
  | ok (a : α)
  | faulty (issues : List Issue)

namespace Checked

variable {α β : Type}

/-- A single issue at the root. -/
def fail (d : Defect) : Checked α := .faulty [⟨[], d⟩]

/-- The issues, none if the reading succeeded. -/
def issues : Checked α → List Issue
  | .ok _ => []
  | .faulty is => is

/-- The result of a reading that succeeded. -/
def toOption : Checked α → Option α
  | .ok a => some a
  | .faulty _ => none

/-- The result transformed. -/
def map (f : α → β) : Checked α → Checked β
  | .ok a => .ok (f a)
  | .faulty is => .faulty is

/-- Both results, or the issues of both. -/
def apply (f : Checked (α → β)) (x : Checked α) : Checked β :=
  match f, x with
  | .ok g, .ok a => .ok (g a)
  | .ok _, .faulty is => .faulty is
  | .faulty is, .ok _ => .faulty is
  | .faulty is, .faulty js => .faulty (is ++ js)

instance : Functor Checked := ⟨map, fun a x => map (fun _ => a) x⟩

instance : Pure Checked := ⟨.ok⟩

instance : Seq Checked := ⟨fun f x => apply f (x ())⟩

/-- A further reading of the result, made only if the reading succeeded. -/
def andThen (x : Checked α) (read : α → Checked β) : Checked β :=
  match x with
  | .ok a => read a
  | .faulty is => .faulty is

/-- A further check of the result, made only if the reading succeeded. -/
def check (x : Checked α) (test : α → Option Defect) : Checked α :=
  match x with
  | .ok a => match test a with
    | some d => fail d
    | none => .ok a
  | .faulty is => .faulty is

/-- The result, if a second reading has no issue either. -/
def andAlso (x : Checked α) (y : Checked Unit) : Checked α :=
  apply (map (fun a _ => a) x) y

/-- The same outcome one step further from the root. -/
def under (part : String) : Checked α → Checked α
  | .ok a => .ok a
  | .faulty is => .faulty (is.map fun i => ⟨part :: i.location, i.defect⟩)

end Checked

end Verdict.Schema
