/-!
# Numbers: binary64

Floating-point numbers of 64 bits as exact dyadic values. A finite number is a sign, a significand
below 2⁵³ and an exponent, in the one form in which the significand is at least 2⁵² unless the
exponent is the least one; so two finite numbers of one sign are equal exactly when their fields
are. `ofQuotient` takes the number nearest to a quotient, a tie going to the even significand.

A finite sum or product is the number nearest to the exact one; a sum that is zero is positive unless
both summands are negative.
-/

namespace Verdict.Number

/-! ### Powers -/

/-- A power of two. -/
def twoTo (n : Nat) : Nat := Nat.pow 2 n

/-- A power of ten. -/
def tenTo (n : Nat) : Nat := Nat.pow 10 n

/-! ### Numbers of 64 bits -/

/-- A significand and an exponent in the form every finite binary64 number has exactly once. -/
def Canonical (significand : Nat) (exponent : Int) : Prop :=
  significand < twoTo 53 ∧ -1074 ≤ exponent ∧ exponent ≤ 971 ∧
    (twoTo 52 ≤ significand ∨ exponent = -1074)

instance (significand : Nat) (exponent : Int) : Decidable (Canonical significand exponent) :=
  inferInstanceAs (Decidable (_ ∧ _))

/-- A floating-point number of 64 bits. There is one NaN. -/
inductive Binary64 where
  | nan
  | infinity (negative : Bool)
  | finite (negative : Bool) (significand : Nat) (exponent : Int)
      (canonical : Canonical significand exponent)
deriving DecidableEq

namespace Binary64

/-- Zero with a sign. -/
def zero (negative : Bool) : Binary64 :=
  .finite negative 0 (-1074) (by decide)

instance : Inhabited Binary64 := ⟨zero false⟩

/-- The number of the given parts; parts beyond the largest finite number are infinite. -/
def ofParts (negative : Bool) (significand : Nat) (exponent : Int) : Binary64 :=
  if h : Canonical significand exponent then .finite negative significand exponent h
  else .infinity negative

/-- The quotient rounded to the nearest whole number, a tie to the even one. -/
def roundQuotient (num den : Nat) : Nat :=
  let q := num / den
  let r := num % den
  if 2 * r < den then q
  else if den < 2 * r then q + 1
  else if q % 2 = 0 then q else q + 1

/-- The largest `k` with `2 ^ k ≤ num / den`, for positive arguments. -/
def floorLog2 (num den : Nat) : Int :=
  let k := (num.log2 : Int) - den.log2
  if den * twoTo k.toNat ≤ num * twoTo (-k).toNat then k else k - 1

/-- The binary64 number nearest to `num / den`, a tie going to the even significand. -/
def ofQuotient (negative : Bool) (num den : Nat) : Binary64 :=
  if num = 0 then zero negative
  else
    let exponent := max (floorLog2 num den - 52) (-1074)
    let significand := roundQuotient (num * twoTo (-exponent).toNat) (den * twoTo exponent.toNat)
    if significand = twoTo 53 then ofParts negative (twoTo 52) (exponent + 1)
    else ofParts negative significand exponent

/-- The number nearest to an integer. -/
def ofInt (n : Int) : Binary64 :=
  ofQuotient (n < 0) n.natAbs 1

/-- The magnitude of a finite number as a quotient of natural numbers. -/
def quotientOf (significand : Nat) (exponent : Int) : Nat × Nat :=
  (significand * twoTo exponent.toNat, twoTo (-exponent).toNat)

/-- The exact value of a finite number. -/
def exactOf (negative : Bool) (significand : Nat) (exponent : Int) : Rat :=
  let (num, den) := quotientOf significand exponent
  mkRat (if negative then -(num : Int) else num) den

/-- The value, where it is finite. -/
def value? : Binary64 → Option Rat
  | .finite negative significand exponent _ => some (exactOf negative significand exponent)
  | _ => none

/-- Neither infinite nor NaN. -/
def isFinite : Binary64 → Bool
  | .finite .. => true
  | _ => false

/-- The number is zero of either sign. -/
def isZero : Binary64 → Bool
  | .finite _ significand _ _ => significand == 0
  | _ => false

/-- The finite number rounded toward zero. -/
def truncate? : Binary64 → Option Int
  | .finite negative significand exponent _ =>
    let (num, den) := quotientOf significand exponent
    some (if negative then -((num / den : Nat) : Int) else ((num / den : Nat) : Int))
  | _ => none

/-- The number has no fractional part. -/
def isWhole : Binary64 → Bool
  | .finite _ significand exponent _ =>
    let (num, den) := quotientOf significand exponent
    num % den == 0
  | _ => false

/-- The number nearest to this one among those with the given count of decimal places; a tie
between decimals goes to the even last digit. -/
def roundPlaces (places : Nat) : Binary64 → Binary64
  | .finite negative significand exponent _ =>
    let (num, den) := quotientOf significand exponent
    ofQuotient negative (roundQuotient (num * tenTo places) den) (tenTo places)
  | x => x

/-! ### Arithmetic -/

/-- The sign is negative. -/
def isNegative : Binary64 → Bool
  | .nan => false
  | .infinity negative => negative
  | .finite negative _ _ _ => negative

/-- The number nearest to a quotient of integers, zero with the given sign. -/
def nearest (negative : Bool) (r : Rat) : Binary64 :=
  if r = 0 then zero negative else ofQuotient (r < 0) r.num.natAbs r.den

/-- The number with the other sign. -/
def negated : Binary64 → Binary64
  | .nan => .nan
  | .infinity negative => .infinity (!negative)
  | .finite negative significand exponent canonical =>
    .finite (!negative) significand exponent canonical

/-- The sum. -/
def add (x y : Binary64) : Binary64 :=
  match x, y with
  | .nan, _ => .nan
  | _, .nan => .nan
  | .infinity m, .infinity n => if m = n then .infinity m else .nan
  | .infinity m, _ => .infinity m
  | _, .infinity n => .infinity n
  | x, y => nearest (x.isNegative && y.isNegative) ((x.value?.getD 0) + (y.value?.getD 0))

/-- The product. -/
def mul (x y : Binary64) : Binary64 :=
  let negative := x.isNegative != y.isNegative
  match x, y with
  | .nan, _ => .nan
  | _, .nan => .nan
  | .infinity _, y => if y.isZero then .nan else .infinity negative
  | x, .infinity _ => if x.isZero then .nan else .infinity negative
  | x, y => nearest negative ((x.value?.getD 0) * (y.value?.getD 0))

end Binary64

end Verdict.Number
