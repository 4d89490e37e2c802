import Verdict.Number.Reading
import Verdict.Schema.Issue
import Verdict.Text.Search
import Verdict.Text.Utf8
import Verdict.Value

/-!
# Schemas: scalars

The readings of single values. They are lenient: a number may be written as text, a whole number
may carry a zero fraction, and a boolean may be written in words.
-/

namespace Verdict.Schema

/-- The blanks that may surround a number in a text. -/
def isNumberBlank (c : Char) : Bool :=
  Text.isBlank c && !(0x1C ≤ c.toNat && c.toNat ≤ 0x1F)

/-- The text of bytes, or a defect if they are none. -/
def textOfBytes (defect : Defect) (bytes : List UInt8) : Checked String :=
  match Text.decode bytes with
  | .ok chars => .ok (String.ofList chars)
  | .error _ => .fail defect

/-- A text, also from its bytes. -/
def readText : Value → Checked String
  | .text s => .ok s
  | .atom (.bytes bs) => textOfBytes .notUnicode bs
  | _ => .fail .notText

/-- A text with at least the given number of characters. -/
def readTextOf (least : Nat) (v : Value) : Checked String :=
  (readText v).check fun s => if s.length < least then some (.tooShort least) else none

/-- Any value. -/
def readAny (v : Value) : Checked Value := .ok v

/-- A reading that also takes the absent value. -/
def nullable {α : Type} (read : Value → Checked α) : Value → Checked (Option α)
  | .null => .ok none
  | v => (read v).map some

/-- Digits without the zeros before the first other digit, which may have underscores among them. If
there is no other digit, or a point comes first, the character before that is kept. -/
def dropLeadingZeros : (last : Char) → List Char → Option (List Char)
  | last, [] => some [last]
  | last, c :: rest =>
    if c == '0' || c == '_' then dropLeadingZeros c rest
    else if c.isDigit then some (c :: rest)
    else if c == '.' then some (last :: c :: rest)
    else none

/-- A number without a fraction of zeros. -/
def dropZeroFraction (s : List Char) : List Char :=
  match s.span (· != '.') with
  | (whole, '.' :: zeros) => if !zeros.isEmpty && zeros.all (· == '0') then whole else s
  | _ => s

/-- A text without its underscores, if each of them stands alone between other characters. -/
def joinUnderscored? (s : List Char) : Option (List Char) :=
  let parts := Text.splitAt '_' s
  if parts.length = 1 || parts.any (·.isEmpty) then none else some parts.flatten

/-- The digits of a whole number: without zeros before them, with a fraction of zeros, and with single
underscores among them. -/
def wholeDigits? (s : List Char) : Option (List Char) := do
  let body ← match s with
    | '0' :: rest => dropLeadingZeros '0' rest
    | s => some s
  let whole := dropZeroFraction body
  let digits := (joinUnderscored? whole).getD whole
  if !digits.isEmpty && digits.all Char.isDigit then some digits else none

/-- The integer written in a text. A minus sign counts among its digits where they are too many. -/
def integerOfText (s : String) : Checked Int :=
  let (negative, body) := Number.scanSign (Text.trimBy isNumberBlank s.toList)
  match wholeDigits? body with
  | none => .fail .notIntegerText
  | some ds =>
    if Number.maxIntegerDigits < ds.length + (if negative then 1 else 0) then
      .fail .oversizedInteger
    else
      let n : Int := Number.natOfDigits ds
      .ok (if negative then -n else n)

/-- The bound of the integers of 64 bits, 2⁶³. -/
def wordBound : Int := 9223372036854775808

/-- The integer that a floating-point number stands for, if it fits in 64 bits. -/
def integerOfFloat (x : Number.Binary64) : Checked Int :=
  match x.truncate? with
  | none => .fail .notFiniteInteger
  | some n =>
    if !x.isWhole then .fail .fractional
    else if -wordBound < n ∧ n < wordBound then .ok n
    else .fail .oversizedInteger

/-- An integer. -/
def readInteger : Value → Checked Int
  | .int n => .ok n
  | .bool b => .ok (if b then 1 else 0)
  | .float x => integerOfFloat x
  | .text s => integerOfText s
  | .atom (.bytes bs) => (textOfBytes .notIntegerText bs).andThen integerOfText
  | _ => .fail .notInteger

/-- The words for false and for true. -/
def booleanWords : List String × List String :=
  (["0", "off", "f", "false", "n", "no"], ["1", "on", "t", "true", "y", "yes"])

/-- The boolean that a number stands for. -/
def booleanOfInteger (n : Int) : Checked Bool :=
  if n = 0 then .ok false else if n = 1 then .ok true else .fail .notBooleanText

/-- The boolean that a word stands for. -/
def booleanOfText (s : String) : Checked Bool :=
  let word := String.ofList (s.toList.map Char.toLower)
  if booleanWords.1.contains word then .ok false
  else if booleanWords.2.contains word then .ok true
  else .fail .notBooleanText

/-- A boolean. -/
def readBoolean : Value → Checked Bool
  | .bool b => .ok b
  | .int n =>
    if -wordBound ≤ n ∧ n < wordBound then booleanOfInteger n else .fail .notBoolean
  | .float x =>
    match integerOfFloat x with
    | .ok n => booleanOfInteger n
    | .faulty _ => .fail .notBoolean
  | .text s => booleanOfText s
  | .atom (.bytes bs) => (textOfBytes .notBooleanText bs).andThen booleanOfText
  | _ => .fail .notBoolean

/-- A number written without underscores. -/
def unbrokenNumber? (s : List Char) : Option Number.Binary64 :=
  if s.contains '_' then none else Number.readFloat? s

/-- The number written in a text: between blanks, or else with underscores. -/
def numberOfText (s : String) : Checked Number.Binary64 :=
  let found := (unbrokenNumber? (Text.trimBy isNumberBlank s.toList)).or
    ((joinUnderscored? s.toList).bind unbrokenNumber?)
  match found with
  | some x => .ok x
  | none => .fail .notNumberText

/-- A floating-point number. -/
def readNumber : Value → Checked Number.Binary64
  | .float x => .ok x
  | .int n =>
    let x := Number.Binary64.ofInt n
    if x.isFinite then .ok x else .fail .notNumber
  | .bool b => .ok (.ofInt (if b then 1 else 0))
  | .text s => numberOfText s
  | .atom (.bytes bs) => (textOfBytes .notNumberText bs).andThen numberOfText
  | _ => .fail .notNumber

/-- A bound that a number has to exceed, which NaN does not. -/
def aboveBound (bound : Int) (x : Number.Binary64) : Option Defect :=
  if (Num.int bound).less (.float x) then none else some (.notAbove (toString bound))

/-- A bound that a number must not exceed; NaN has to stay below it too, and does not. -/
def atMostBound (bound : Int) (x : Number.Binary64) : Option Defect :=
  if (Num.float x).lessOrSame (.int bound) then none else some (.notAtMost (toString bound))

/-- One of a list of words. -/
def readChoice {α : Type} (choices : List (String × α)) (v : Value) : Checked α :=
  match (readText v).toOption.bind fun s => choices.find? (·.1 == s) with
  | some (_, a) => .ok a
  | none => .fail (.notChoice (choices.map (·.1)))

/-- A fixed number, however it is written. -/
def readLiteral (n : Int) (v : Value) : Checked Int :=
  match v with
  | .atom a => if a.same (.int n) then .ok n else .fail (.notLiteral (toString n))
  | _ => .fail (.notLiteral (toString n))

end Verdict.Schema
