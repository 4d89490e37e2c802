import Mathlib.Tactic.Linarith
import Mathlib.Tactic.Positivity
import Mathlib.Data.Nat.Cast.Order.Field
import Mathlib.Tactic.Ring
import Verdict.Number.Reading
import Verdict.Proofs.Number.Order

/-!
# Numbers: nearest and shortest

The rationals that round to a finite number are those between it and its neighbours, up to halfway
(`Binary64.RoundsTo`).

* `Binary64.ofQuotient_of_roundsTo`, `Decimal.nearest_of_roundsTo`: a quotient, or a decimal, that
  rounds to a number is read as that number.
* `RoundingInterval.exists_nearest`: with seventeen digits a decimal grid has a point that rounds to
  the number.
* `roundsTo_shortestDecimal`: so the shortest decimal of a number rounds to it, and is read as it.
-/

namespace Verdict.Number

/-! ### Rounding quotients -/

namespace Binary64

/-- A whole number is the quotient rounded if it is no further away than a half, and nearer if it is
odd. -/
theorem roundQuotient_eq {num den n : Nat} (positive : 0 < den)
    (low : 2 * n * den ≤ 2 * num + den) (high : 2 * num ≤ (2 * n + 1) * den)
    (odd : n % 2 = 1 → 2 * n * den < 2 * num + den ∧ 2 * num < (2 * n + 1) * den) :
    roundQuotient num den = n := by
  have parts : den * (num / den) + num % den = num := Nat.div_add_mod num den
  have small : num % den < den := Nat.mod_lt num positive
  unfold roundQuotient
  generalize num / den = q at parts ⊢
  generalize num % den = r at parts small ⊢
  have notAbove : q ≤ n := by
    by_contra above
    have : den * (n + 1) ≤ den * q := Nat.mul_le_mul_left den (by omega)
    nlinarith
  have notBelow : n ≤ q + 1 := by
    by_contra below
    have : den * (q + 2) ≤ den * n := Nat.mul_le_mul_left den (by omega)
    nlinarith
  obtain rfl | rfl : n = q ∨ n = q + 1 := by omega
  · have half : 2 * r ≤ den := by nlinarith
    have tie : n % 2 = 1 → 2 * r < den := fun h => by nlinarith [(odd h).2]
    dsimp only
    split_ifs <;> omega
  · have half : den ≤ 2 * r := by nlinarith
    have tie : (q + 1) % 2 = 1 → den < 2 * r := fun h => by nlinarith [(odd h).1]
    dsimp only
    split_ifs <;> omega

/-- A power of two is reached by a quotient. -/
theorem twoTo_le_iff {num den : Nat} (hden : 0 < den) (k : Int) :
    den * twoTo k.toNat ≤ num * twoTo (-k).toNat ↔ (2 : ℚ) ^ k ≤ num / den := by
  have hden' : (0 : ℚ) < den := Nat.cast_pos.mpr hden
  have positive : (0 : ℚ) < twoTo (-k).toNat := by rw [twoTo_cast]; positivity
  rw [← twoTo_div_twoTo, div_le_div_iff₀ positive hden', ← Nat.cast_mul, ← Nat.cast_mul,
    Nat.cast_le, Nat.mul_comm den]

/-- **The exponent of a quotient** is that of the greatest power of two that it reaches. -/
theorem floorLog2_spec {num den : Nat} (hnum : 0 < num) (hden : 0 < den) :
    (2 : ℚ) ^ floorLog2 num den ≤ num / den ∧
      (num / den : ℚ) < 2 ^ (floorLog2 num den + 1) := by
  have hden' : (0 : ℚ) < den := Nat.cast_pos.mpr hden
  -- both are between powers of two, so the quotient is between two that are neighbours but one
  have between {n : Nat} (positive : 0 < n) :
      (2 : ℚ) ^ (n.log2 : Int) ≤ n ∧ (n : ℚ) < 2 ^ ((n.log2 : Int) + 1) := by
    rw [zpow_natCast, zpow_add_one₀ two_ne_zero, zpow_natCast, ← pow_succ]
    exact ⟨mod_cast Nat.log2_self_le (by omega), mod_cast Nat.lt_log2_self⟩
  obtain ⟨numLow, numHigh⟩ := between hnum
  obtain ⟨denLow, denHigh⟩ := between hden
  have above : (num / den : ℚ) < 2 ^ ((num.log2 : Int) - den.log2 + 1) := by
    rw [div_lt_iff₀ hden']
    calc (num : ℚ) < 2 ^ ((num.log2 : Int) + 1) := numHigh
      _ = 2 ^ ((num.log2 : Int) - den.log2 + 1) * 2 ^ (den.log2 : Int) := by
        rw [← zpow_add₀ two_ne_zero]
        congr 1
        omega
      _ ≤ _ := mul_le_mul_of_nonneg_left denLow (zpow_nonneg zero_le_two _)
  have below : (2 : ℚ) ^ ((num.log2 : Int) - den.log2 - 1) ≤ num / den := by
    rw [le_div_iff₀ hden']
    calc (2 : ℚ) ^ ((num.log2 : Int) - den.log2 - 1) * den
        ≤ 2 ^ ((num.log2 : Int) - den.log2 - 1) * 2 ^ ((den.log2 : Int) + 1) :=
          mul_le_mul_of_nonneg_left denHigh.le (zpow_nonneg zero_le_two _)
      _ = 2 ^ (num.log2 : Int) := by
        rw [← zpow_add₀ two_ne_zero]
        congr 1
        omega
      _ ≤ num := numLow
  unfold floorLog2
  dsimp only
  split
  · next reached => exact ⟨(twoTo_le_iff hden _).mp reached, above⟩
  · next missed =>
      rw [twoTo_le_iff hden, not_le] at missed
      exact ⟨below, by simpa using missed⟩

theorem floorLog2_lt_iff {num den : Nat} (hnum : 0 < num) (hden : 0 < den) (k : Int) :
    floorLog2 num den < k ↔ (num / den : ℚ) < 2 ^ k := by
  obtain ⟨reached, missed⟩ := floorLog2_spec hnum hden
  constructor
  · intro less
    exact missed.trans_le (zpow_le_zpow_right₀ one_le_two less)
  · intro less
    exact (zpow_lt_zpow_iff_right₀ one_lt_two).mp (reached.trans_lt less)

/-- A quotient on the grid of a power of two, rounded. -/
theorem roundQuotient_scaled {num den n : Nat} (hden : 0 < den) (e : Int)
    (low : (n - 1 / 2 : ℚ) * 2 ^ e ≤ num / den) (high : (num / den : ℚ) ≤ (n + 1 / 2) * 2 ^ e)
    (odd : n % 2 = 1 → (n - 1 / 2 : ℚ) * 2 ^ e < num / den ∧
      (num / den : ℚ) < (n + 1 / 2) * 2 ^ e) :
    roundQuotient (num * twoTo (-e).toNat) (den * twoTo e.toNat) = n := by
  have hden' : (0 : ℚ) < den := Nat.cast_pos.mpr hden
  have up : 0 < twoTo e.toNat := Nat.pow_pos (by decide)
  have up' : (0 : ℚ) < twoTo e.toNat := Nat.cast_pos.mpr up
  have down : (0 : ℚ) < twoTo (-e).toNat := by rw [twoTo_cast]; positivity
  rw [← twoTo_div_twoTo, mul_div_assoc', div_le_div_iff₀ down hden'] at low
  rw [← twoTo_div_twoTo, mul_div_assoc', div_le_div_iff₀ hden' down] at high
  rw [← twoTo_div_twoTo, mul_div_assoc', mul_div_assoc', div_lt_div_iff₀ down hden',
    div_lt_div_iff₀ hden' down] at odd
  generalize twoTo e.toNat = a at *
  generalize twoTo (-e).toNat = b at *
  have low' : (2 * n * (den * a) : ℚ) ≤ 2 * (num * b) + den * a := by linarith
  have high' : (2 * (num * b) : ℚ) ≤ (2 * n + 1) * (den * a) := by linarith
  refine roundQuotient_eq (Nat.mul_pos hden up) (mod_cast low') (mod_cast high') fun isOdd => ?_
  obtain ⟨less, more⟩ := odd isOdd
  have less' : (2 * n * (den * a) : ℚ) < 2 * (num * b) + den * a := by linarith
  have more' : (2 * (num * b) : ℚ) < (2 * n + 1) * (den * a) := by linarith
  exact ⟨mod_cast less', mod_cast more'⟩

/-- The rationals that round to a positive finite number: those that are nearer to it than to its
neighbours, and those halfway between if the significand is even.  Below a power of two the
neighbour is half as far away. -/
structure RoundsTo (significand : Nat) (exponent : Int) (x : ℚ) : Prop where
  low : (significand - 1 / 2 : ℚ) * 2 ^ exponent ≤ x
  lowest : significand = 2 ^ 52 → -1074 < exponent →
    (significand - 1 / 4 : ℚ) * 2 ^ exponent ≤ x
  high : x ≤ (significand + 1 / 2) * 2 ^ exponent
  odd : significand % 2 = 1 → (significand - 1 / 2 : ℚ) * 2 ^ exponent < x ∧
    x < (significand + 1 / 2) * 2 ^ exponent

namespace RoundsTo

variable {significand : Nat} {exponent : Int} {x : ℚ}

theorem positive (h : RoundsTo significand exponent x) (positive : 0 < significand) : 0 < x := by
  have one_le : (1 : ℚ) ≤ significand := mod_cast positive
  exact lt_of_lt_of_le (mul_pos (by linarith) (zpow_pos two_pos _)) h.low

/-- Where numbers begin. -/
theorem twoTo_le (h : RoundsTo significand exponent x) (canonical : Canonical significand exponent)
    (positive : 0 < significand) : (2 : ℚ) ^ (-1075 : Int) ≤ x := by
  have one_le : (1 : ℚ) ≤ significand := mod_cast positive
  have least : (2 : ℚ) ^ (-1074 : Int) ≤ 2 ^ exponent :=
    zpow_le_zpow_right₀ one_le_two canonical.2.1
  have half : (2 : ℚ) ^ (-1075 : Int) = 1 / 2 * 2 ^ (-1074 : Int) := by
    rw [show (-1075 : Int) = -1 + -1074 from rfl, zpow_add₀ two_ne_zero]
    norm_num
  calc (2 : ℚ) ^ (-1075 : Int) = 1 / 2 * 2 ^ (-1074 : Int) := half
    _ ≤ (significand - 1 / 2) * 2 ^ exponent :=
      mul_le_mul (by linarith) least (zpow_nonneg zero_le_two _) (by linarith)
    _ ≤ x := h.low

/-- Where numbers end. -/
theorem lt_twoTo_add (h : RoundsTo significand exponent x)
    (canonical : Canonical significand exponent) : x < 2 ^ (53 + exponent) := by
  have small : significand < 2 ^ 53 := canonical.1
  have small : (significand : ℚ) + 1 ≤ 2 ^ 53 := mod_cast small
  rw [zpow_add₀ two_ne_zero]
  refine h.high.trans_lt (mul_lt_mul_of_pos_right ?_ (zpow_pos two_pos _))
  norm_num at small ⊢
  linarith

theorem lt_twoTo (h : RoundsTo significand exponent x)
    (canonical : Canonical significand exponent) : x < 2 ^ (1024 : Int) := by
  have most : exponent ≤ 971 := canonical.2.2.1
  exact (h.lt_twoTo_add canonical).trans_le (zpow_le_zpow_right₀ one_le_two (by omega))

/-- What is less than the numbers with the exponent rounds to the least of them only. -/
theorem eq_of_lt (h : RoundsTo significand exponent x) (normal : 2 ^ 52 ≤ significand)
    (missed : x < 2 ^ (52 + exponent)) : significand = 2 ^ 52 := by
  by_contra other
  have more : (2 ^ 52 + 1 : ℚ) ≤ significand := by
    have : 2 ^ 52 + 1 ≤ significand := by omega
    exact mod_cast this
  have reached : (2 : ℚ) ^ (52 + exponent) ≤ x := by
    rw [zpow_add₀ two_ne_zero]
    refine (mul_le_mul_of_nonneg_right ?_ (zpow_nonneg zero_le_two _)).trans h.low
    norm_num
    linarith
  exact absurd reached (not_le.mpr missed)

end RoundsTo

/-- Just below a power of two a quotient has the exponent before, and is rounded up. -/
theorem roundQuotient_carried {num den : Nat} (hden : 0 < den) (exponent : Int)
    (close : (2 ^ 52 - 1 / 4 : ℚ) * 2 ^ exponent ≤ num / den)
    (missed : (num / den : ℚ) < 2 ^ (52 + exponent)) :
    roundQuotient (num * twoTo (-(exponent - 1)).toNat) (den * twoTo (exponent - 1).toNat) =
      2 ^ 53 := by
  have unit : (0 : ℚ) < 2 ^ (exponent - 1) := zpow_pos two_pos _
  have half : (2 : ℚ) ^ exponent = 2 * 2 ^ (exponent - 1) := by
    rw [zpow_sub_one₀ two_ne_zero]
    ring
  rw [zpow_add₀ two_ne_zero] at missed
  rw [half] at close missed
  refine roundQuotient_scaled hden (exponent - 1) ?_ ?_ (by norm_num)
  · norm_num at close ⊢
    linarith
  · norm_num at missed ⊢
    linarith

/-- **The number nearest to a quotient** is the one to which the quotient rounds. -/
theorem ofQuotient_of_roundsTo {significand num den : Nat} {exponent : Int}
    (canonical : Canonical significand exponent) (positive : 0 < significand) (hden : 0 < den)
    (rounds : RoundsTo significand exponent (num / den)) (negative : Bool) :
    ofQuotient negative num den = .finite negative significand exponent canonical := by
  have small : significand < 2 ^ 53 := canonical.1
  have least : -1074 ≤ exponent := canonical.2.1
  have normal : 2 ^ 52 ≤ significand ∨ exponent = -1074 := canonical.2.2.2
  have hden' : (0 : ℚ) < den := Nat.cast_pos.mpr hden
  have unit : (0 : ℚ) < 2 ^ exponent := zpow_pos two_pos exponent
  have hx : (0 : ℚ) < num / den := rounds.positive positive
  have hnum : 0 < num := by
    rw [div_pos_iff_of_pos_right hden'] at hx
    exact mod_cast hx
  have below := (floorLog2_lt_iff hnum hden _).mpr (rounds.lt_twoTo_add canonical)
  unfold ofQuotient
  rw [if_neg hnum.ne']
  dsimp only
  by_cases inside : exponent = -1074 ∨ (2 : ℚ) ^ (52 + exponent) ≤ num / den
  · -- the exponent of the quotient is that of the number, and so is its significand
    have exponent_eq : max (floorLog2 num den - 52) (-1074) = exponent := by
      rcases inside with rfl | reached
      · omega
      · have := (floorLog2_lt_iff hnum hden (52 + exponent)).not.mpr (not_lt.mpr reached)
        omega
    rw [exponent_eq, roundQuotient_scaled hden exponent rounds.low rounds.high rounds.odd,
      if_neg (show significand ≠ twoTo 53 from small.ne), ofParts, dif_pos canonical]
  · -- just below a power of two the quotient is rounded up to it
    obtain ⟨notLeast, missed⟩ := not_or.mp inside
    rw [not_le] at missed
    have exact : significand = 2 ^ 52 := rounds.eq_of_lt (normal.resolve_right notLeast) missed
    have close : (2 ^ 52 - 1 / 4 : ℚ) * 2 ^ exponent ≤ num / den := by
      have close := rounds.lowest exact (by omega)
      rw [exact] at close
      exact mod_cast close
    have exponent_eq : max (floorLog2 num den - 52) (-1074) = exponent - 1 := by
      have less := (floorLog2_lt_iff hnum hden _).mpr missed
      have reached : (2 : ℚ) ^ (51 + exponent) ≤ num / den := by
        rw [zpow_add₀ two_ne_zero]
        exact (mul_le_mul_of_nonneg_right (by norm_num) unit.le).trans close
      have := (floorLog2_lt_iff hnum hden (51 + exponent)).not.mpr (not_lt.mpr reached)
      omega
    have same : twoTo 52 = significand := exact.symm
    rw [exponent_eq, roundQuotient_carried hden exponent close missed,
      if_pos (show 2 ^ 53 = twoTo 53 from rfl), Int.sub_add_cancel, same, ofParts,
      dif_pos canonical]

end Binary64

/-! ### Decimals -/

theorem tenTo_cast (n : Nat) : (tenTo n : ℚ) = 10 ^ n := by
  show ((10 ^ n : Nat) : ℚ) = 10 ^ n
  exact Nat.cast_pow 10 n

theorem tenTo_pos (n : Nat) : 0 < tenTo n := Nat.pow_pos (by norm_num)

/-- A power of ten as a quotient, of which one part is `1`. -/
theorem tenTo_div_tenTo (e : Int) : (tenTo e.toNat / tenTo (-e).toNat : ℚ) = 10 ^ e := by
  rw [tenTo_cast, tenTo_cast, ← zpow_natCast, ← zpow_natCast, ← zpow_sub₀ (by norm_num),
    Int.toNat_sub_toNat_neg]

/-- A number with so many digits lies between two powers of ten. -/
theorem toDigits_bounds {n : Nat} (positive : 0 < n) :
    (10 : ℚ) ^ ((Nat.toDigits 10 n).length - 1 : Int) ≤ n ∧
      (n : ℚ) < 10 ^ ((Nat.toDigits 10 n).length : Int) := by
  have length : 0 < (Nat.toDigits 10 n).length := Nat.length_toDigits_pos
  constructor
  · obtain ⟨k, hk⟩ := Nat.exists_eq_succ_of_ne_zero length.ne'
    rw [hk, Nat.succ_eq_add_one, Nat.cast_add_one, add_sub_cancel_right, zpow_natCast]
    by_cases zero : k = 0
    · subst zero
      exact mod_cast positive
    · have : ¬(Nat.toDigits 10 n).length ≤ k := by omega
      rw [Nat.length_toDigits_le_iff (by norm_num) (by omega), not_lt] at this
      exact mod_cast this
  · rw [zpow_natCast]
    exact mod_cast (Nat.length_toDigits_le_iff (by norm_num) length).mp le_rfl

namespace Decimal

/-- The rational that a decimal stands for. -/
def value (d : Decimal) : ℚ := d.digits * 10 ^ d.exponent

/-- A decimal as a quotient of whole numbers. -/
theorem quotient_eq_value (d : Decimal) :
    ((d.digits * tenTo d.exponent.toNat : Nat) / (tenTo (-d.exponent).toNat : Nat) : ℚ) =
      d.value := by
  rw [value, ← tenTo_div_tenTo]
  push_cast
  ring

theorem value_bounds {d : Decimal} (positive : 0 < d.digits) :
    (10 : ℚ) ^ (d.pointPosition - 1) ≤ d.value ∧ d.value < 10 ^ d.pointPosition := by
  obtain ⟨low, high⟩ := toDigits_bounds positive
  have unit : (0 : ℚ) < 10 ^ d.exponent := zpow_pos (by norm_num) _
  constructor
  · calc (10 : ℚ) ^ (d.pointPosition - 1)
        = 10 ^ ((Nat.toDigits 10 d.digits).length - 1 : Int) * 10 ^ d.exponent := by
          rw [← zpow_add₀ (by norm_num), pointPosition, digitChars]
          congr 1
          omega
      _ ≤ d.value := mul_le_mul_of_nonneg_right low unit.le
  · calc d.value < 10 ^ ((Nat.toDigits 10 d.digits).length : Int) * 10 ^ d.exponent :=
          mul_lt_mul_of_pos_right high unit
      _ = 10 ^ d.pointPosition := by rw [← zpow_add₀ (by norm_num)]; rfl

theorem value_trimWithin (bound : Nat) (d : Decimal) : (d.trimWithin bound).value = d.value := by
  induction bound generalizing d with
  | zero => rfl
  | succ bound ih =>
      rw [trimWithin]
      split
      · next whole =>
          obtain ⟨n, hn⟩ := Nat.dvd_of_mod_eq_zero whole
          rw [ih, value, value, hn, Nat.mul_div_cancel_left n (by norm_num),
            zpow_add_one₀ (by norm_num)]
          push_cast
          ring
      · rfl

theorem value_trim (d : Decimal) : d.trim.value = d.value := by
  unfold trim
  split
  · rfl
  · exact value_trimWithin _ d

/-- **A decimal that rounds to a number** is read as the number. -/
theorem nearest_of_roundsTo {d : Decimal} {significand : Nat} {exponent : Int}
    (canonical : Canonical significand exponent) (positive : 0 < significand)
    (rounds : Binary64.RoundsTo significand exponent d.value) (negative : Bool) :
    d.nearest negative = .finite negative significand exponent canonical := by
  have hvalue : 0 < d.value := rounds.positive positive
  have digits : 0 < d.digits := by
    rcases Nat.eq_zero_or_pos d.digits with zero | more
    · simp [value, zero] at hvalue
    · exact more
  obtain ⟨reached, missed⟩ := value_bounds digits
  -- decimals outside of the range of all numbers round to none of them
  have notLarge : d.pointPosition ≤ 309 := by
    have less : (10 : ℚ) ^ (d.pointPosition - 1) < 10 ^ (309 : Int) :=
      reached.trans_lt ((rounds.lt_twoTo canonical).trans (by
        have : 2 ^ 1024 < 10 ^ 309 := by decide +kernel
        exact mod_cast this))
    have := (zpow_lt_zpow_iff_right₀ (by norm_num)).mp less
    omega
  have notSmall : -324 < d.pointPosition := by
    have less : (10 : ℚ) ^ (-324 : Int) < 10 ^ d.pointPosition :=
      lt_of_lt_of_le (by
        have : 2 ^ 1075 < 10 ^ 324 := by decide +kernel
        rw [zpow_neg, zpow_neg]
        exact inv_strictAnti₀ (zpow_pos two_pos _) (mod_cast this))
        ((rounds.twoTo_le canonical positive).trans missed.le)
    exact (zpow_lt_zpow_iff_right₀ (by norm_num)).mp less
  rw [nearest, if_neg digits.ne', if_neg (by omega), if_neg (by omega)]
  exact Binary64.ofQuotient_of_roundsTo canonical positive (Nat.pow_pos (by norm_num))
    (d.quotient_eq_value ▸ rounds) negative

end Decimal

/-! ### The interval of a number -/

namespace RoundingInterval

open Binary64 (RoundsTo)

variable {significand : Nat} {exponent : Int}

section Contains

variable {num den : Nat}

/-- Intervals are measured in quarters of the unit of a number. -/
theorem quarter (exponent : Int) : (2 : ℚ) ^ exponent = 4 * 2 ^ (exponent - 2) := by
  rw [zpow_sub₀ two_ne_zero]
  norm_num
  ring

/-- A bound of an interval, in units of a power of two. -/
theorem mul_twoTo_le_iff (hden : 0 < den) (n : Nat) (unit : Int) :
    n * twoTo unit.toNat * den ≤ num * twoTo (-unit).toNat ↔ (n * 2 ^ unit : ℚ) ≤ num / den := by
  have hden' : (0 : ℚ) < den := Nat.cast_pos.mpr hden
  have down : (0 : ℚ) < twoTo (-unit).toNat := by rw [twoTo_cast]; positivity
  rw [← twoTo_div_twoTo, mul_div_assoc', div_le_div_iff₀ down hden']
  norm_cast

theorem le_mul_twoTo_iff (hden : 0 < den) (n : Nat) (unit : Int) :
    num * twoTo (-unit).toNat ≤ n * twoTo unit.toNat * den ↔ (num / den : ℚ) ≤ n * 2 ^ unit := by
  have hden' : (0 : ℚ) < den := Nat.cast_pos.mpr hden
  have down : (0 : ℚ) < twoTo (-unit).toNat := by rw [twoTo_cast]; positivity
  rw [← twoTo_div_twoTo, mul_div_assoc', div_le_div_iff₀ hden' down]
  norm_cast

theorem mul_twoTo_lt_iff (hden : 0 < den) (n : Nat) (unit : Int) :
    n * twoTo unit.toNat * den < num * twoTo (-unit).toNat ↔ (n * 2 ^ unit : ℚ) < num / den := by
  rw [← not_le, le_mul_twoTo_iff hden, not_le]

theorem lt_mul_twoTo_iff (hden : 0 < den) (n : Nat) (unit : Int) :
    num * twoTo (-unit).toNat < n * twoTo unit.toNat * den ↔ (num / den : ℚ) < n * 2 ^ unit := by
  rw [← not_le, mul_twoTo_le_iff hden, not_le]

/-- The quarters between a positive number and the lower bound of its interval. -/
theorem cast_quarters (positive : 0 < significand) {below : Nat} (few : below ≤ 2) :
    ((4 * significand - below : Nat) : ℚ) = 4 * significand - below := by
  rw [Nat.cast_sub (by omega)]
  push_cast
  ring

theorem cast_quarters_above (significand : Nat) :
    ((4 * significand + 2 : Nat) : ℚ) = 4 * significand + 2 := by
  push_cast
  ring

/-- The ends of the interval of an odd significand, which is no power of two, do not belong. -/
theorem contains_ofFinite_odd (odd : significand % 2 = 1) (positive : 0 < significand)
    (hden : 0 < den) :
    (ofFinite significand exponent).contains num den = true ↔
      RoundsTo significand exponent (num / den) := by
  have other : ¬(significand = twoTo 52 ∧ -1074 < exponent) := by
    rintro ⟨rfl, -⟩
    exact absurd odd (by decide)
  unfold contains ofFinite
  simp only [odd, if_neg other, mul_twoTo_lt_iff hden, lt_mul_twoTo_iff hden,
    cast_quarters_above, cast_quarters positive le_rfl, Nat.cast_ofNat,
    Bool.and_eq_true, decide_eq_true_eq, Nat.reduceBEq, Bool.false_eq_true, if_false]
  constructor
  · rintro ⟨low, high⟩
    refine ⟨?_, fun h h' => absurd ⟨h, h'⟩ other, ?_, fun _ => ⟨?_, ?_⟩⟩ <;>
      rw [quarter] <;> linarith
  · intro h
    obtain ⟨low, high⟩ := h.odd odd
    rw [quarter] at low high
    constructor <;> linarith

/-- The ends of the interval of an even significand belong. -/
theorem contains_ofFinite_even (even : significand % 2 = 0) (positive : 0 < significand)
    (hden : 0 < den) :
    (ofFinite significand exponent).contains num den = true ↔
      RoundsTo significand exponent (num / den) := by
  have notOdd : ¬significand % 2 = 1 := by omega
  unfold contains ofFinite
  simp only [even, beq_self_eq_true, if_true, Bool.and_eq_true, decide_eq_true_eq,
    mul_twoTo_le_iff hden, le_mul_twoTo_iff hden, cast_quarters_above]
  split
  · next exact =>
    -- below a power of two the bound is nearer
    rw [cast_quarters positive (by norm_num), Nat.cast_one]
    constructor
    · rintro ⟨low, high⟩
      refine ⟨?_, fun _ _ => ?_, ?_, fun h => absurd h notOdd⟩ <;> rw [quarter] <;> linarith
    · intro h
      have low := h.lowest exact.1 exact.2
      have high := h.high
      rw [quarter] at low high
      constructor <;> linarith
  · next other =>
    rw [cast_quarters positive le_rfl, Nat.cast_ofNat]
    constructor
    · rintro ⟨low, high⟩
      refine ⟨?_, fun h h' => absurd ⟨h, h'⟩ other, ?_, fun h => absurd h notOdd⟩ <;>
        rw [quarter] <;> linarith
    · intro h
      have low := h.low
      have high := h.high
      rw [quarter] at low high
      constructor <;> linarith

/-- **What the interval of a number contains** rounds to the number. -/
theorem contains_ofFinite (positive : 0 < significand) (hden : 0 < den) :
    (ofFinite significand exponent).contains num den = true ↔
      RoundsTo significand exponent (num / den) := by
  rcases Nat.mod_two_eq_zero_or_one significand with even | odd
  · exact contains_ofFinite_even even positive hden
  · exact contains_ofFinite_odd odd positive hden

end Contains

/-! ### Grids -/

/-- The interval contains a point of a decimal grid if the decimal rounds to the number. -/
theorem contains_decimal (positive : 0 < significand) (d : Decimal) :
    (ofFinite significand exponent).contains (d.digits * tenTo d.exponent.toNat)
      (tenTo (-d.exponent).toNat) = true ↔ RoundsTo significand exponent d.value := by
  rw [contains_ofFinite positive (tenTo_pos _), d.quotient_eq_value]

/-- What is taken from a grid rounds to the number. -/
theorem roundsTo_of_nearest (positive : 0 < significand) {step : Int} {d : Decimal}
    (found : (ofFinite significand exponent).nearest? step = some d) :
    RoundsTo significand exponent d.value := by
  have inside (n : Nat) : (ofFinite significand exponent).contains (n * tenTo step.toNat)
      (tenTo (-step).toNat) = true ↔ RoundsTo significand exponent (Decimal.value ⟨n, step⟩) :=
    contains_decimal positive ⟨n, step⟩
  unfold nearest? at found
  dsimp only at found
  split at found
  · next low high =>
      obtain rfl := Option.some.inj found
      unfold nearest?.roundBetween
      split_ifs
      · exact (inside _).mp low
      · exact (inside _).mp high
      · exact (inside _).mp low
      · exact (inside _).mp high
  · next low _ => exact Option.some.inj found ▸ (inside _).mp low
  · next _ high => exact Option.some.inj found ▸ (inside _).mp high
  · cases found

/-- The number itself. -/
theorem value_div_den (significand : Nat) (exponent : Int) :
    ((ofFinite significand exponent).value / (ofFinite significand exponent).den : ℚ) =
      significand * 2 ^ exponent := by
  rw [quarter, ← twoTo_div_twoTo]
  show ((4 * significand * twoTo (exponent - 2).toNat : Nat) : ℚ) /
    (twoTo (-(exponent - 2)).toNat : Nat) = _
  push_cast
  ring

/-- The two points of a grid around a number. -/
theorem grid_bounds (significand : Nat) (exponent step : Int) :
    let i := ofFinite significand exponent
    let below := i.value * tenTo (-step).toNat / (i.den * tenTo step.toNat)
    (below * 10 ^ step : ℚ) ≤ significand * 2 ^ exponent ∧
      (significand * 2 ^ exponent : ℚ) < (below + 1) * 10 ^ step := by
  intro i below
  have twos : (0 : ℚ) < i.den := Nat.cast_pos.mpr (Nat.pow_pos (by norm_num))
  have tens : (0 : ℚ) < tenTo (-step).toNat := Nat.cast_pos.mpr (tenTo_pos _)
  have positive : 0 < i.den * tenTo step.toNat :=
    Nat.mul_pos (Nat.pow_pos (by norm_num)) (tenTo_pos _)
  have low : below * (i.den * tenTo step.toNat) ≤ i.value * tenTo (-step).toNat :=
    Nat.div_mul_le_self _ _
  have high : i.value * tenTo (-step).toNat < (below + 1) * (i.den * tenTo step.toNat) :=
    Nat.lt_mul_of_div_lt (Nat.lt_succ_self below) positive
  have low' : (below * (i.den * tenTo step.toNat) : ℚ) ≤ i.value * tenTo (-step).toNat :=
    mod_cast low
  have high' : (i.value * tenTo (-step).toNat : ℚ) < (below + 1) * (i.den * tenTo step.toNat) :=
    mod_cast high
  rw [← value_div_den, ← tenTo_div_tenTo, mul_div_assoc', mul_div_assoc', div_le_div_iff₀ tens twos,
    div_lt_div_iff₀ twos tens]
  constructor <;> linarith

/-- Of two points around a number that are closer than numbers are to each other, one rounds to
it. -/
theorem roundsTo_or {below step : ℚ} (canonical : Canonical significand exponent)
    (low : below ≤ significand * 2 ^ exponent) (high : significand * 2 ^ exponent < below + step)
    (fine : step * 10 ^ 16 ≤ significand * 2 ^ exponent) :
    RoundsTo significand exponent below ∨ RoundsTo significand exponent (below + step) := by
  have small : (significand : ℚ) + 1 ≤ 2 ^ 53 := mod_cast canonical.1
  have unit : (0 : ℚ) < 2 ^ exponent := zpow_pos two_pos _
  have width : (significand + 1 : ℚ) * 2 ^ exponent ≤ 2 ^ 53 * 2 ^ exponent :=
    mul_le_mul_of_nonneg_right small unit.le
  norm_num at fine width
  by_cases close : significand * 2 ^ exponent - below < 1 / 2 * (2 : ℚ) ^ exponent ∧
      (significand = 2 ^ 52 → significand * 2 ^ exponent - below ≤ 1 / 4 * (2 : ℚ) ^ exponent)
  · obtain ⟨half, fourth⟩ := close
    exact .inl ⟨by linarith, fun exact _ => by linarith [fourth exact], by linarith,
      fun _ => ⟨by linarith, by linarith⟩⟩
  · right
    have within_ : below + step < significand * 2 ^ exponent + 1 / 2 * (2 : ℚ) ^ exponent := by
      rcases not_and_or.mp close with far | far
      · linarith
      · obtain ⟨exact, far⟩ := Classical.not_imp.mp far
        rw [exact] at fine far ⊢
        norm_num at fine far ⊢
        linarith
    exact ⟨by linarith, fun _ _ => by linarith, by linarith, fun _ => ⟨by linarith, by linarith⟩⟩

/-- **A fine grid has a point that rounds to the number.** -/
theorem exists_nearest (canonical : Canonical significand exponent) (positive : 0 < significand)
    {step : Int} (fine : (10 : ℚ) ^ (step + 16) ≤ significand * 2 ^ exponent) :
    ∃ d, (ofFinite significand exponent).nearest? step = some d := by
  let i := ofFinite significand exponent
  let below := i.value * tenTo (-step).toNat / (i.den * tenTo step.toNat)
  obtain ⟨low, high⟩ : (below * 10 ^ step : ℚ) ≤ significand * 2 ^ exponent ∧
      (significand * 2 ^ exponent : ℚ) < (below + 1) * 10 ^ step :=
    grid_bounds significand exponent step
  have inside (n : Nat) : i.contains (n * tenTo step.toNat) (tenTo (-step).toNat) = true ↔
      RoundsTo significand exponent (Decimal.value ⟨n, step⟩) := contains_decimal positive ⟨n, step⟩
  -- the step of the grid is less than the width of the interval
  have near : i.contains (below * tenTo step.toNat) (tenTo (-step).toNat) = true ∨
      i.contains ((below + 1) * tenTo step.toNat) (tenTo (-step).toNat) = true := by
    have next : (((below + 1 : Nat) : ℚ) * 10 ^ step) = below * 10 ^ step + 10 ^ step := by
      push_cast
      ring
    rw [add_mul, one_mul] at high
    rw [zpow_add₀ (by norm_num)] at fine
    rw [inside, inside, Decimal.value, Decimal.value, next]
    exact roundsTo_or canonical low high (mod_cast fine)
  unfold nearest?
  dsimp only
  split
  · exact ⟨_, rfl⟩
  · exact ⟨_, rfl⟩
  · exact ⟨_, rfl⟩
  · next miss miss' =>
      rcases near with hit | hit
      · cases miss.symm.trans hit
      · cases miss'.symm.trans hit

/-- A number reaches the power of ten before the position of its point. -/
theorem pointPosition_reached {i : RoundingInterval} (hvalue : 0 < i.value) (hden : 0 < i.den) :
    (10 : ℚ) ^ (i.pointPosition - 1) ≤ i.value / i.den := by
  have hden' : (0 : ℚ) < i.den := Nat.cast_pos.mpr hden
  -- a power of ten below one is reached if its inverse, taken so often, reaches the denominator
  have inverse {n : Nat} (reaches : i.den ≤ i.value * tenTo n) :
      (10 : ℚ) ^ (-n : Int) ≤ i.value / i.den := by
    have tens : (0 : ℚ) < 10 ^ n := by positivity
    rw [zpow_neg, zpow_natCast, inv_eq_one_div, div_le_div_iff₀ tens hden', ← tenTo_cast, one_mul]
    exact mod_cast reaches
  unfold pointPosition
  split
  · next large =>
      obtain ⟨low, -⟩ := toDigits_bounds (Nat.div_pos large hden)
      exact low.trans Nat.cast_div_le
  · next small =>
      dsimp only
      have length : 0 < (Nat.toDigits 10 (i.den / i.value)).length := Nat.length_toDigits_pos
      split
      · next reaches =>
          convert inverse reaches using 2
          omega
      · have missed : i.den / i.value < 10 ^ (Nat.toDigits 10 (i.den / i.value)).length :=
          (Nat.length_toDigits_le_iff (by norm_num) length).mp le_rfl
        have reaches : i.den ≤ i.value * tenTo (Nat.toDigits 10 (i.den / i.value)).length := by
          rw [Nat.mul_comm]
          exact (Nat.lt_mul_of_div_lt missed hvalue).le
        convert inverse reaches using 2
        omega

/-- The search ends with a decimal that rounds to the number. -/
theorem roundsTo_search (canonical : Canonical significand exponent) (positive : 0 < significand)
    (fuel count : Nat) (enough : fuel + count = 17) :
    RoundsTo significand exponent ((ofFinite significand exponent).search
      (ofFinite significand exponent).pointPosition (fuel + 1) count).value := by
  induction fuel generalizing count with
  | zero =>
      -- with seventeen digits the grid is fine enough
      obtain rfl : count = 17 := by omega
      have reached := pointPosition_reached (i := ofFinite significand exponent)
        (Nat.mul_pos (by omega) (Nat.pow_pos (by norm_num))) (Nat.pow_pos (by norm_num))
      rw [value_div_den] at reached
      obtain ⟨d, found⟩ : ∃ d, (ofFinite significand exponent).nearest?
          ((ofFinite significand exponent).pointPosition - (17 : Nat)) = some d :=
        exists_nearest canonical positive (by convert reached using 2; omega)
      rw [search, found]
      exact roundsTo_of_nearest positive found
  | succ fuel ih =>
      rw [search]
      split
      · next found => exact roundsTo_of_nearest positive found
      · exact ih _ (by omega)

end RoundingInterval

/-- **The shortest decimal of a number** rounds to the number. -/
theorem roundsTo_shortestDecimal {significand : Nat} {exponent : Int}
    (canonical : Canonical significand exponent) (positive : 0 < significand) :
    Binary64.RoundsTo significand exponent (shortestDecimal significand exponent).value := by
  rw [shortestDecimal, if_neg positive.ne', RoundingInterval.shortest, Decimal.value_trim]
  exact RoundingInterval.roundsTo_search canonical positive 16 1 rfl

end Verdict.Number
