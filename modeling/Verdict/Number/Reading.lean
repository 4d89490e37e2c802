import Verdict.Number.Shortest
import Verdict.Text.CharacterSet
import Verdict.Text.Digit
import Verdict.Text.Quoted

/-!
# Numbers: reading

The binary64 number nearest to a written decimal, and the reading of free text as an integer:
surrounding blanks, a sign, digits of any script and single underscores between digits. The text of
an integer has at most `maxIntegerDigits` digits.
-/

namespace Verdict.Number

/-- The value of a run of ASCII digits. -/
def natOfDigits (ds : List Char) : Nat :=
  ds.foldl (fun n c => 10 * n + (c.toNat - '0'.toNat)) 0

/-- The number nearest to `digits · 10 ^ exponent`. Decimals outside the range of all numbers are
not expanded. -/
def Decimal.nearest (negative : Bool) (d : Decimal) : Binary64 :=
  if d.digits = 0 then .zero negative
  else
    let position := d.pointPosition
    if 310 < position then .infinity negative
    else if position < -330 then .zero negative
    else .ofQuotient negative (d.digits * tenTo d.exponent.toNat) (tenTo (-d.exponent).toNat)

/-- Digits, a fraction and an exponent as written. -/
def Decimal.ofParts (whole fraction : List Char) (exponent : Int) : Decimal :=
  ⟨natOfDigits (whole ++ fraction), exponent - fraction.length⟩

/-- The most digits that the text of an integer may have. -/
def maxIntegerDigits : Nat := 4300

/-- Why a text is not read as an integer. -/
inductive IntegerFault where
  | malformed (base : Nat) (text : String)
  | tooManyDigits (count : Nat)
deriving DecidableEq, Repr

/-- The wording of a fault. A long text is cut. -/
def IntegerFault.message : IntegerFault → String
  | .malformed base text =>
    "invalid literal for int() with base " ++ toString base ++ ": " ++
      String.ofList ((Text.quoted text).toList.take 200)
  | .tooManyDigits count =>
    "Exceeds the limit (" ++ toString maxIntegerDigits ++
      " digits) for integer string conversion: value has " ++ toString count ++
      " digits; use sys.set_int_max_str_digits() to increase the limit"

/-- Digits and blanks of any script as those of ASCII; the text ends before any other character
beyond ASCII, which leaves a mark that no number holds. -/
def toAsciiDigits : List Char → List Char
  | [] => []
  | c :: rest =>
    if c.toNat < 0x7F then c :: toAsciiDigits rest
    else if Text.isBlank c then ' ' :: toAsciiDigits rest
    else match Text.digitValue? c with
      | some d => Char.ofNat ('0'.toNat + d) :: toAsciiDigits rest
      | none => ['?']

/-- A run of digits with single underscores between them, and what follows it. The flag tells that
no underscore may come next. -/
def scanDigits (underscored : Bool) : List Char → Option (List Char × List Char)
  | [] => if underscored then none else some ([], [])
  | c :: rest =>
    if c == '_' then if underscored then none else scanDigits true rest
    else if c.isDigit then (scanDigits false rest).map fun (ds, r) => (c :: ds, r)
    else if underscored then none
    else some ([], c :: rest)

/-- A sign and what follows it. -/
def scanSign : List Char → Bool × List Char
  | '-' :: rest => (true, rest)
  | '+' :: rest => (false, rest)
  | rest => (false, rest)

/-- The integer that a free text stands for. -/
def readInteger (s : String) : Except IntegerFault Int :=
  let chars := (toAsciiDigits s.toList).dropWhile Text.isAsciiBlank
  let (negative, body) := scanSign chars
  match scanDigits true body with
  | none => .error (.malformed 10 s)
  | some (ds, rest) =>
    if maxIntegerDigits < ds.length then .error (.tooManyDigits ds.length)
    else if !rest.all Text.isAsciiBlank then .error (.malformed 10 s)
    else
      let n : Int := natOfDigits ds
      .ok (if negative then -n else n)

/-- The names of numbers that digits cannot write. -/
def namedNumber? (word : List Char) : Option (Bool → Binary64) :=
  match String.ofList (word.map Char.toLower) with
  | "inf" => some .infinity
  | "infinity" => some .infinity
  | "nan" => some fun _ => .nan
  | _ => none

/-- Digits with single underscores between them, possibly none at all. -/
def optionalDigits (s : List Char) : Option (List Char × List Char) :=
  match s with
  | c :: _ => if c.isDigit then scanDigits false s else some ([], s)
  | [] => some ([], [])

/-- The exponent at the end of a number. -/
def finalExponent? : List Char → Option Int
  | [] => some 0
  | c :: rest =>
    if c == 'e' || c == 'E' then
      let (negative, digits) := scanSign rest
      match scanDigits true digits with
      | some (ds, []) =>
        let n : Int := natOfDigits ds
        some (if negative then -n else n)
      | _ => none
    else none

/-- A decimal number: digits before or after a point, and an exponent. -/
def decimal? (s : List Char) : Option Decimal := do
  let (whole, rest) ← optionalDigits s
  let (fraction, rest) ← match rest with
    | '.' :: rest => optionalDigits rest
    | rest => some ([], rest)
  if whole.isEmpty && fraction.isEmpty then none
  else return .ofParts whole fraction (← finalExponent? rest)

/-- The floating-point number written in a text without blanks around it. -/
def readFloat? (s : List Char) : Option Binary64 :=
  let (negative, body) := scanSign s
  match namedNumber? body with
  | some make => some (make negative)
  | none => (decimal? body).map (·.nearest negative)

/-- The floating-point number that a free text stands for: blanks around it are passed over, and its
digits may be of any script. -/
def readFreeFloat? (s : List Char) : Option Binary64 :=
  readFloat? (Text.trimBy Text.isAsciiBlank (toAsciiDigits s))

/-- The value of a digit of a base up to sixteen. -/
def digitIn? (base : Nat) (c : Char) : Option Nat :=
  let value? : Option Nat :=
    if c.isDigit then some (c.toNat - '0'.toNat)
    else if 'a' ≤ c && c ≤ 'f' then some (c.toNat - 'a'.toNat + 10)
    else if 'A' ≤ c && c ≤ 'F' then some (c.toNat - 'A'.toNat + 10)
    else none
  value?.filter (· < base)

/-- The letter that may stand for a base before the digits. -/
def baseLetter? : Nat → Option Char
  | 2 => some 'b'
  | 8 => some 'o'
  | 16 => some 'x'
  | _ => none

/-- Digits without the sign of their base before them. -/
def dropBase (base : Nat) : List Char → List Char
  | '0' :: letter :: digits =>
    if baseLetter? base == some letter.toLower then digits else '0' :: letter :: digits
  | digits => digits

/-- The integer that a text in digits of a base stands for. -/
def readIntegerIn (base : Nat) (s : String) : Except IntegerFault Int :=
  let (negative, body) := scanSign (Text.trimBy Text.isAsciiBlank (toAsciiDigits s.toList))
  match (dropBase base body).mapM (digitIn? base) with
  | some (d :: ds) =>
    let n : Nat := (d :: ds).foldl (fun n d => base * n + d) 0
    .ok (if negative then -n else n)
  | _ => .error (.malformed base s)

end Verdict.Number
