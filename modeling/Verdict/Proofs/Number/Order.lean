import Mathlib.Algebra.Order.Field.Rat
import Mathlib.Order.WithBot
import Verdict.Number.Order

/-!
# Numbers: what they stand for

The numbers of rules and facts stand for extended rationals (`Num.value?`): an integer for itself, a
finite floating-point number for its significand times a power of two, an infinity for an end of the
line.  NaN stands for nothing.

* `Binary64.exactOf_eq`, `Num.value?_eq`: the place of a number is where its value lies.
* `Num.same_iff_eq`, `Num.less_iff`, `Num.lessOrSame_iff`: so numbers are compared by these values,
  and a number that stands for nothing compares with none.
-/

namespace Verdict

namespace Number

/-- The rationals and the two ends of their line. -/
abbrev Extended := WithBot (WithTop ℚ)

theorem twoTo_cast (n : Nat) : (twoTo n : ℚ) = 2 ^ n := by
  show ((2 ^ n : Nat) : ℚ) = 2 ^ n
  exact Nat.cast_pow 2 n

/-- A power of two as a quotient, of which one part is `1`. -/
theorem twoTo_div_twoTo (e : Int) : (twoTo e.toNat / twoTo (-e).toNat : ℚ) = 2 ^ e := by
  rw [twoTo_cast, twoTo_cast, ← zpow_natCast, ← zpow_natCast, ← zpow_sub₀ two_ne_zero,
    Int.toNat_sub_toNat_neg]

/-- The exact value of a finite number is its significand, with the sign, times a power of two. -/
theorem Binary64.exactOf_eq (negative : Bool) (significand : Nat) (exponent : Int) :
    exactOf negative significand exponent =
      (if negative then -1 else 1) * significand * 2 ^ exponent := by
  simp only [exactOf, quotientOf, Rat.mkRat_eq_div, ← twoTo_div_twoTo]
  cases negative with
  | false => simp [mul_div_assoc]
  | true => simp [mul_div_assoc, neg_div]

namespace Place

/-- The extended rational at a place. -/
def value : Place → Extended
  | .negativeInfinity => ⊥
  | .at r => ((r : WithTop ℚ) : Extended)
  | .positiveInfinity => ⊤

theorem value_inj (p q : Place) : p.value = q.value ↔ p = q := by
  cases p <;> cases q <;> simp [value]

/-- Places follow one another as their values do. -/
theorem before_iff (p q : Place) : p.before q = true ↔ p.value < q.value := by
  have below_top (r : ℚ) : ((r : WithTop ℚ) : Extended) < ⊤ :=
    WithBot.coe_lt_coe.mpr (WithTop.coe_lt_top r)
  cases p <;> cases q <;> simp [before, value, below_top]

end Place

end Number

namespace Num

open Number

/-- The extended rational that a number stands for. -/
def value? : Num → Option Extended
  | .int n => some ((n : ℚ) : WithTop ℚ)
  | .float .nan => none
  | .float (.infinity negative) => some (if negative then ⊥ else ⊤)
  | .float (.finite negative significand exponent _) =>
    some (((if negative then -1 else 1) * significand * 2 ^ exponent : ℚ) : WithTop ℚ)

theorem value?_eq (n : Num) : n.value? = n.place?.map Place.value := by
  match n with
  | .int n => rfl
  | .float .nan => rfl
  | .float (.infinity true) | .float (.infinity false) => rfl
  | .float (.finite negative significand exponent _) =>
      rw [value?, place?, Option.map_some, Place.value, Binary64.exactOf_eq]

/-- What is asked of places is asked of values. -/
theorem relate_iff {r : Place → Place → Bool} {R : Extended → Extended → Prop}
    (h : ∀ p q, r p q = true ↔ R p.value q.value) (m n : Num) :
    relate r m n = true ↔ ∃ x y, m.value? = some x ∧ n.value? = some y ∧ R x y := by
  rw [relate, value?_eq, value?_eq]
  cases m.place? <;> cases n.place? <;> simp [h]

theorem same_iff_eq (m n : Num) :
    m.same n = true ↔ ∃ x y, m.value? = some x ∧ n.value? = some y ∧ x = y :=
  relate_iff (fun p q => by rw [decide_eq_true_iff, Place.value_inj]) m n

theorem less_iff (m n : Num) :
    m.less n = true ↔ ∃ x y, m.value? = some x ∧ n.value? = some y ∧ x < y :=
  relate_iff Place.before_iff m n

theorem lessOrSame_iff (m n : Num) :
    m.lessOrSame n = true ↔ ∃ x y, m.value? = some x ∧ n.value? = some y ∧ x ≤ y := by
  refine relate_iff (fun p q => ?_) m n
  rw [Bool.not_eq_true', ← Bool.not_eq_true, Place.before_iff, not_lt]

end Num

end Verdict
