import Verdict.Number.Binary64

/-!
# Numbers: shortest decimals

The decimal with the fewest digits that reads back as a given binary64 number, and of those with
equally few digits the one nearest to it. The reals that round to a number form an interval; for
one digit, two digits and so on the two neighbours of the number on that decimal grid are tested
against it, in whole numbers throughout.
-/

namespace Verdict.Number

/-- A decimal number `digits · 10 ^ exponent`. -/
structure Decimal where
  digits : Nat
  exponent : Int
deriving DecidableEq, Repr

namespace Decimal

/-- Moves trailing zeros of the digits into the exponent, at most as many as the given bound. -/
def trimWithin : Nat → Decimal → Decimal
  | 0, d => d
  | bound + 1, d =>
    if d.digits % 10 = 0 then trimWithin bound ⟨d.digits / 10, d.exponent + 1⟩ else d

/-- The decimal without trailing zeros. -/
def trim (d : Decimal) : Decimal :=
  if d.digits = 0 then d else trimWithin (Nat.toDigits 10 d.digits).length d

/-- The digits as characters. -/
def digitChars (d : Decimal) : List Char :=
  Nat.toDigits 10 d.digits

/-- How many digits stand before the decimal point in positional writing. -/
def pointPosition (d : Decimal) : Int :=
  d.digitChars.length + d.exponent

end Decimal

/-- The reals that round to one number, over a common denominator: the number itself, the ends,
and whether the ends belong. -/
structure RoundingInterval where
  low : Nat
  value : Nat
  high : Nat
  den : Nat
  closed : Bool

namespace RoundingInterval

/-- The interval of a positive finite number. Below a power of two the gap is half as wide; the
ends round to the number when its significand is even. -/
def ofFinite (significand : Nat) (exponent : Int) : RoundingInterval :=
  let unit := exponent - 2
  let scale := twoTo unit.toNat
  let below := if significand = twoTo 52 ∧ -1074 < exponent then 1 else 2
  { low := (4 * significand - below) * scale
    value := 4 * significand * scale
    high := (4 * significand + 2) * scale
    den := twoTo (-unit).toNat
    closed := significand % 2 == 0 }

/-- `num / den` lies in the interval. -/
def contains (i : RoundingInterval) (num den : Nat) : Bool :=
  if i.closed then i.low * den ≤ num * i.den && num * i.den ≤ i.high * den
  else i.low * den < num * i.den && num * i.den < i.high * den

/-- The `k` with `10 ^ (k - 1) ≤ value < 10 ^ k`. -/
def pointPosition (i : RoundingInterval) : Int :=
  if i.den ≤ i.value then (Nat.toDigits 10 (i.value / i.den)).length
  else
    let t := (Nat.toDigits 10 (i.den / i.value)).length
    if i.den ≤ i.value * tenTo (t - 1) then 2 - (t : Int) else 1 - (t : Int)

/-- The point of the grid of step `10 ^ step` nearest to the value among those in the interval;
a tie goes to the even one. -/
def nearest? (i : RoundingInterval) (step : Int) : Option Decimal :=
  let num := i.value * tenTo (-step).toNat
  let den := i.den * tenTo step.toNat
  let below := num / den
  let inside (d : Nat) := i.contains (d * tenTo step.toNat) (tenTo (-step).toNat)
  match inside below, inside (below + 1) with
  | true, true => some ⟨roundBetween (num % den) den below, step⟩
  | true, false => some ⟨below, step⟩
  | false, true => some ⟨below + 1, step⟩
  | false, false => none
where
  roundBetween (rest den below : Nat) : Nat :=
    if 2 * rest < den then below
    else if den < 2 * rest then below + 1
    else if below % 2 = 0 then below else below + 1

/-- The first grid with a hit, of those with `count`, `count + 1`, … digits. -/
def search (i : RoundingInterval) (position : Int) : (fuel count : Nat) → Decimal
  | 0, count => ⟨i.value * tenTo (count - position).toNat / (i.den * tenTo (position - count).toNat),
      position - count⟩
  | fuel + 1, count =>
    match i.nearest? (position - count) with
    | some d => d
    | none => search i position fuel (count + 1)

/-- The shortest decimal in the interval. Seventeen digits always have a hit. -/
def shortest (i : RoundingInterval) : Decimal :=
  (i.search i.pointPosition 17 1).trim

end RoundingInterval

/-- The shortest decimal that reads back as a finite magnitude. -/
def shortestDecimal (significand : Nat) (exponent : Int) : Decimal :=
  if significand = 0 then ⟨0, 0⟩ else (RoundingInterval.ofFinite significand exponent).shortest

end Verdict.Number
