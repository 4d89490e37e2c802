import Verdict.Number.Binary64

/-!
# Numbers: order by exact value

Integers of any size and floating-point numbers compared by the values they stand for. A number's
place on the line is a rational or one of the two infinities; NaN has no place, so every comparison
with it is false.
-/

namespace Verdict

/-- A number of a rule or of a fact: an integer of any size or a floating-point number. -/
inductive Num where
  | int (n : Int)
  | float (x : Number.Binary64)
deriving DecidableEq

namespace Number

/-- A place on the number line. -/
inductive Place where
  | negativeInfinity
  | at (r : Rat)
  | positiveInfinity
deriving DecidableEq

namespace Place

/-- The first place lies before the second. -/
def before : Place → Place → Bool
  | .at r, .at s => decide (r < s)
  | .negativeInfinity, .negativeInfinity => false
  | .negativeInfinity, _ => true
  | .positiveInfinity, _ => false
  | .at _, .positiveInfinity => true
  | .at _, .negativeInfinity => false

end Place

end Number

namespace Num

/-- Where a number lies; NaN lies nowhere. -/
def place? : Num → Option Number.Place
  | .int n => some (.at n)
  | .float .nan => none
  | .float (.infinity true) => some .negativeInfinity
  | .float (.infinity false) => some .positiveInfinity
  | .float (.finite negative significand exponent _) =>
    some (.at (Number.Binary64.exactOf negative significand exponent))

/-- A comparison of places, false when one of the numbers has none. -/
def relate (r : Number.Place → Number.Place → Bool) (a b : Num) : Bool :=
  match a.place?, b.place? with
  | some p, some q => r p q
  | _, _ => false

/-- The numbers have the same value. -/
def same (a b : Num) : Bool := relate (fun p q => decide (p = q)) a b

/-- The first value is smaller. -/
def less (a b : Num) : Bool := relate Number.Place.before a b

/-- The first value is smaller, or the two are the same. -/
def lessOrSame (a b : Num) : Bool := relate (fun p q => !q.before p) a b

end Num

end Verdict
