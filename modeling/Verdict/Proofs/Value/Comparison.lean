import Verdict.Operator
import Verdict.Proofs.Number.Order

/-!
# Values: comparisons

The numbers among values, which booleans and NaN are not (`Value.IsNumber`), stand for extended
rationals (`Value.extended?`).

* `equals_iff_extended`: numbers are equal if they stand for the same.
* `holds_iff_relation`: an operator that compares asks for one relation of what its operands stand
  for (`Builtin.relation?`), and is false if one of them stands for nothing.
* `comparisons_ordered`: so these operators, and equality, speak of one total order.
-/

namespace Verdict

open Number (Extended)

namespace Value

/-- An integer, or a floating-point number that is not NaN. -/
inductive IsNumber : Value → Prop
  | int (n : Int) : IsNumber (.int n)
  | float {x : Number.Binary64} (h : x ≠ .nan) : IsNumber (.float x)

/-- What a value stands for as a number. -/
def extended? (v : Value) : Option Extended := v.num?.bind Num.value?

theorem isNumber_iff {v : Value} : v.IsNumber ↔ ∃ x, v.extended? = some x := by
  constructor
  · rintro (n | h)
    · exact ⟨_, rfl⟩
    · next x =>
        cases x with
        | nan => exact absurd rfl h
        | infinity | finite => exact ⟨_, rfl⟩
  · rintro ⟨x, h⟩
    obtain ⟨n, num, value⟩ := Option.bind_eq_some_iff.mp h
    unfold num? at num
    split at num <;> cases num
    · exact .int _
    · refine .float ?_
      rintro rfl
      cases value

/-- A number equals what its number is the same as. -/
theorem equals_of_num? {a b : Value} {m n : Num} (ha : a.num? = some m) (hb : b.num? = some n) :
    a.equals b = m.same n := by
  unfold num? at ha hb
  split at ha <;> cases ha <;> split at hb <;> cases hb <;> rfl

/-- Numbers are equal if they stand for the same. -/
theorem equals_iff_extended {a b : Value} {x y : Extended} (ha : a.extended? = some x)
    (hb : b.extended? = some y) : a.equals b = true ↔ x = y := by
  obtain ⟨m, numA, valueA⟩ := Option.bind_eq_some_iff.mp ha
  obtain ⟨n, numB, valueB⟩ := Option.bind_eq_some_iff.mp hb
  rw [equals_of_num? numA numB, Num.same_iff_eq, valueA, valueB]
  simp [eq_comm]

end Value

namespace Builtin

/-- The operators that compare. -/
def comparisons : List Builtin :=
  [.lessThan, .lessThanInclusive, .greaterThan, .greaterThanInclusive]

/-- What an operator that compares asks of what its operands stand for. -/
def relation? : Builtin → Option (Extended → Extended → Prop)
  | .lessThan => some (· < ·)
  | .lessThanInclusive => some (· ≤ ·)
  | .greaterThan => some (· > ·)
  | .greaterThanInclusive => some (· ≥ ·)
  | _ => none

/-- What is asked of numbers is asked of what they stand for. -/
theorem compare_iff {test : Num → Num → Bool} {R : Extended → Extended → Prop}
    (h : ∀ m n, test m n = true ↔ ∃ x y, m.value? = some x ∧ n.value? = some y ∧ R x y)
    (a b : Value) :
    compare test a b = true ↔ ∃ x y, a.extended? = some x ∧ b.extended? = some y ∧ R x y := by
  unfold compare Value.extended?
  cases a.num? <;> cases b.num? <;> simp [h]

/-- **What a comparison asks.** -/
theorem holds_iff_relation {op : Builtin} {R : Extended → Extended → Prop}
    (known : op.relation? = some R) (a b : Value) :
    op.holds a b = true ↔ ∃ x y, a.extended? = some x ∧ b.extended? = some y ∧ R x y := by
  have swapped {test : Num → Num → Bool} {S : Extended → Extended → Prop}
      (h : ∀ m n, test m n = true ↔ ∃ x y, m.value? = some x ∧ n.value? = some y ∧ S x y) :
      compare test b a = true ↔ ∃ x y, a.extended? = some x ∧ b.extended? = some y ∧ S y x := by
    rw [compare_iff h]
    constructor
    · rintro ⟨y, x, hb, ha, related⟩
      exact ⟨x, y, ha, hb, related⟩
    · rintro ⟨x, y, ha, hb, related⟩
      exact ⟨y, x, hb, ha, related⟩
  cases op with
  | lessThan =>
      obtain rfl := Option.some.inj known
      exact compare_iff Num.less_iff a b
  | lessThanInclusive =>
      obtain rfl := Option.some.inj known
      exact compare_iff Num.lessOrSame_iff a b
  | greaterThan =>
      obtain rfl := Option.some.inj known
      exact swapped Num.less_iff
  | greaterThanInclusive =>
      obtain rfl := Option.some.inj known
      exact swapped Num.lessOrSame_iff
  | equal | notEqual | isIn | notIn | contains | doesNotContain => cases known

theorem holds_iff_of_extended {op : Builtin} {R : Extended → Extended → Prop}
    (known : op.relation? = some R) {a b : Value} {x y : Extended} (ha : a.extended? = some x)
    (hb : b.extended? = some y) : op.holds a b = true ↔ R x y := by
  rw [holds_iff_relation known, ha, hb]
  simp

/-- Of less, equal and greater exactly one holds between numbers. -/
theorem existsUnique_holds {a b : Value} {x y : Extended} (ha : a.extended? = some x)
    (hb : b.extended? = some y) :
    ∃! op, op ∈ [lessThan, equal, greaterThan] ∧ op.holds a b = true := by
  have less : lessThan.holds a b = true ↔ x < y := holds_iff_of_extended rfl ha hb
  have same : equal.holds a b = true ↔ x = y := Value.equals_iff_extended ha hb
  have greater : greaterThan.holds a b = true ↔ x > y := holds_iff_of_extended rfl ha hb
  have of_mem {op : Builtin} (hop : op ∈ [lessThan, equal, greaterThan]) :
      op = lessThan ∨ op = equal ∨ op = greaterThan := by simpa using hop
  rcases lt_trichotomy x y with below | here | above
  · refine ⟨lessThan, ⟨by simp, less.mpr below⟩, ?_⟩
    rintro op ⟨hop, holds⟩
    rcases of_mem hop with rfl | rfl | rfl
    · rfl
    · exact absurd (same.mp holds) below.ne
    · exact absurd (greater.mp holds) below.asymm
  · refine ⟨equal, ⟨by simp, same.mpr here⟩, ?_⟩
    rintro op ⟨hop, holds⟩
    rcases of_mem hop with rfl | rfl | rfl
    · exact absurd here (less.mp holds).ne
    · rfl
    · exact absurd here (greater.mp holds).ne'
  · refine ⟨greaterThan, ⟨by simp, greater.mpr above⟩, ?_⟩
    rintro op ⟨hop, holds⟩
    rcases of_mem hop with rfl | rfl | rfl
    · exact absurd (less.mp holds) above.asymm
    · exact absurd (same.mp holds) above.ne'
    · rfl

/-- **One total order.**  Of two numbers the first is less than the second, equal to it or greater,
and only one of these, as their exact values are; the inclusive operators add equality to the
others.  What is less than another is what the other is greater than, and what is less than
something less is less.  Anything but numbers compares with nothing. -/
theorem comparisons_ordered (a b c : Value) :
    (a.IsNumber → b.IsNumber →
        (∃! op, op ∈ [lessThan, equal, greaterThan] ∧ op.holds a b = true) ∧
        (lessThanInclusive.holds a b = true ↔
          lessThan.holds a b = true ∨ equal.holds a b = true) ∧
        (greaterThanInclusive.holds a b = true ↔
          greaterThan.holds a b = true ∨ equal.holds a b = true) ∧
        ∃ x y, a.extended? = some x ∧ b.extended? = some y ∧
          (lessThan.holds a b = true ↔ x < y) ∧ (equal.holds a b = true ↔ x = y)) ∧
      (lessThan.holds a b = true ↔ greaterThan.holds b a = true) ∧
      (lessThan.holds a b = true → lessThan.holds b c = true → lessThan.holds a c = true) ∧
      (¬(a.IsNumber ∧ b.IsNumber) → ∀ op ∈ comparisons, op.holds a b = false) := by
  refine ⟨fun numberA numberB => ?_, Iff.rfl, fun first second => ?_, fun other op hop => ?_⟩
  · obtain ⟨x, ha⟩ := Value.isNumber_iff.mp numberA
    obtain ⟨y, hb⟩ := Value.isNumber_iff.mp numberB
    have less : lessThan.holds a b = true ↔ x < y := holds_iff_of_extended rfl ha hb
    have greater : greaterThan.holds a b = true ↔ x > y := holds_iff_of_extended rfl ha hb
    have same : equal.holds a b = true ↔ x = y := Value.equals_iff_extended ha hb
    have lessOrSame : lessThanInclusive.holds a b = true ↔ x ≤ y := holds_iff_of_extended rfl ha hb
    have greaterOrSame : greaterThanInclusive.holds a b = true ↔ x ≥ y :=
      holds_iff_of_extended rfl ha hb
    refine ⟨existsUnique_holds ha hb, ?_, ?_, x, y, ha, hb, less, same⟩
    · rw [lessOrSame, less, same, le_iff_lt_or_eq]
    · rw [greaterOrSame, greater, same, ge_iff_le, gt_iff_lt, le_iff_lt_or_eq, @eq_comm _ y x]
  · obtain ⟨x, y, ha, hb, below⟩ := (holds_iff_relation rfl a b).mp first
    obtain ⟨y', z, hb', hc, beyond⟩ := (holds_iff_relation rfl b c).mp second
    obtain rfl : y = y' := Option.some.inj (hb.symm.trans hb')
    exact (holds_iff_relation rfl a c).mpr ⟨x, z, ha, hc, lt_trans below beyond⟩
  · have compares : ∀ op ∈ comparisons, op.relation?.isSome = true := by decide
    obtain ⟨R, known⟩ := Option.isSome_iff_exists.mp (compares op hop)
    rw [← Bool.not_eq_true, holds_iff_relation known]
    rintro ⟨x, y, ha, hb, -⟩
    exact other ⟨Value.isNumber_iff.mpr ⟨x, ha⟩, Value.isNumber_iff.mpr ⟨y, hb⟩⟩

/-- An integer that is no floating-point number lies between its neighbours that are. -/
theorem comparisons_ordered_between :
    let a := Value.float (.finite false 4503599627370496 1 (by decide))
    let b := Value.int 9007199254740993
    let c := Value.float (.finite false 4503599627370497 1 (by decide))
    a.IsNumber ∧ b.IsNumber ∧ (∃! op, op ∈ [lessThan, equal, greaterThan] ∧ op.holds a b = true) ∧
      lessThan.holds a b = true ∧ lessThan.holds b c = true ∧ lessThan.holds a c = true ∧
      ¬(Value.bool true).IsNumber ∧ lessThan.holds (.bool true) b = false := by
  intro a b c
  have numberA : a.IsNumber := .float nofun
  have numberB : b.IsNumber := .int _
  have noNumber : ¬(Value.bool true).IsNumber := nofun
  have below : lessThan.holds a b = true := by decide
  have above : lessThan.holds b c = true := by decide
  obtain ⟨one, -, chain, -⟩ := comparisons_ordered a b c
  obtain ⟨-, -, -, silent⟩ := comparisons_ordered (.bool true) b c
  exact ⟨numberA, numberB, (one numberA numberB).1, below, above, chain below above, noNumber,
    silent (fun numbers => noNumber numbers.1) lessThan (by decide)⟩

end Builtin

end Verdict
