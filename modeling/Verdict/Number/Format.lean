import Verdict.Number.Shortest

/-!
# Numbers: written forms

How a finite number is written: in positional notation with a decimal point while the point stands
near the digits, otherwise with an exponent. A `DecimalFormat` holds the decisions of one format.
-/

namespace Verdict.Number

/-- The decisions of a number format. -/
structure DecimalFormat where
  /-- Positional when the point position is above this bound … -/
  above : Int
  /-- … and at most this one. -/
  upTo : Int
  /-- A positive exponent has a plus sign. -/
  plusSign : Bool
  /-- The least number of digits of an exponent. -/
  exponentDigits : Nat

/-- The format of values shown to people and of plain JSON: positional from 10⁻⁴ up to 10¹⁶,
exponents with a sign and two digits. -/
def DecimalFormat.shown : DecimalFormat := ⟨-4, 16, true, 2⟩

/-- The format of serialized results: positional from 10⁻⁵ up to 10¹⁶, bare exponents. -/
def DecimalFormat.wire : DecimalFormat := ⟨-5, 16, false, 1⟩

/-- An exponent with its mark and sign. -/
def DecimalFormat.exponent (n : DecimalFormat) (e : Int) : List Char :=
  let digits := Nat.toDigits 10 e.natAbs
  let sign := if e < 0 then ['-'] else if n.plusSign then ['+'] else []
  'e' :: sign ++ List.replicate (n.exponentDigits - digits.length) '0' ++ digits

/-- A decimal without trailing zeros in a format. -/
def DecimalFormat.decimal (n : DecimalFormat) (d : Decimal) : List Char :=
  let digits := d.digitChars
  let position := d.pointPosition
  if d.digits = 0 then ['0', '.', '0']
  else if n.above < position ∧ position ≤ n.upTo then
    if position ≤ 0 then '0' :: '.' :: List.replicate (-position).toNat '0' ++ digits
    else
      let whole := position.toNat
      if digits.length ≤ whole then
        digits ++ List.replicate (whole - digits.length) '0' ++ ['.', '0']
      else digits.take whole ++ '.' :: digits.drop whole
  else
    match digits with
    | [single] => single :: n.exponent (position - 1)
    | first :: rest => first :: '.' :: rest ++ n.exponent (position - 1)
    | [] => []

/-- A finite number in a format, by its shortest decimal. -/
def DecimalFormat.finite (n : DecimalFormat) (negative : Bool) (significand : Nat) (exponent : Int) : String :=
  let body := n.decimal (shortestDecimal significand exponent)
  String.ofList (if negative then '-' :: body else body)

/-- The text of a number as people read it. -/
def Binary64.text : Binary64 → String
  | .nan => "nan"
  | .infinity negative => if negative then "-inf" else "inf"
  | .finite negative significand exponent _ => DecimalFormat.shown.finite negative significand exponent

/-- The text of a number with a fixed count of decimal places; a tie goes to the even last digit. -/
def Binary64.fixed (places : Nat) : Binary64 → String
  | .finite negative significand exponent _ =>
    let (num, den) := quotientOf significand exponent
    let digits := Nat.toDigits 10 (roundQuotient (num * tenTo places) den)
    let digits := List.replicate (places + 1 - digits.length) '0' ++ digits
    let whole := digits.length - places
    let body := digits.take whole ++ (if places = 0 then [] else '.' :: digits.drop whole)
    String.ofList (if negative then '-' :: body else body)
  | x => x.text

end Verdict.Number
