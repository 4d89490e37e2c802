import Mathlib.Data.List.Basic
import Mathlib.Tactic.IntervalCases
import Verdict.Number.Reading

/-!
# Numbers: runs of digits

A run of digits of ASCII is read as the number that it writes (`readInteger_digits`), if it is not
too long; so a written natural number is read back (`readInteger_toString`).  The same holds of
decimal digits of any script (`readInteger_decimals`).  A run with a digit that is not decimal, such
as a superscript, is no integer (`readInteger_digits_error`).
-/

namespace Verdict.Number

/-! ### Digits -/

/-- What holds of the ten digits holds of a digit. -/
theorem of_isDigit (P : Char → Prop) [DecidablePred P]
    (ten : ['0', '1', '2', '3', '4', '5', '6', '7', '8', '9'].all (fun d => decide (P d)) = true)
    {c : Char} (h : c.isDigit = true) : P c := by
  refine of_decide_eq_true (List.all_eq_true.mp ten c ?_)
  obtain ⟨least, most⟩ : 48 ≤ c.toNat ∧ c.toNat ≤ 57 := by
    simp only [Char.isDigit, Bool.and_eq_true, decide_eq_true_eq, UInt32.le_iff_toNat_le] at h
    exact h
  rw [← Char.ofNat_toNat c]
  interval_cases c.toNat <;> decide

theorem toAsciiDigits_of_ascii {s : List Char} (h : ∀ c ∈ s, c.toNat < 0x7F) :
    toAsciiDigits s = s := by
  induction s with
  | nil => rfl
  | cons c rest ih =>
      rw [toAsciiDigits, if_pos (h c List.mem_cons_self),
        ih fun d hd => h d (List.mem_cons_of_mem _ hd)]

theorem scanSign_of_isDigit {c : Char} (h : c.isDigit = true) (rest : List Char) :
    scanSign (c :: rest) = (false, c :: rest) :=
  of_isDigit (fun c => scanSign (c :: rest) = (false, c :: rest)) (by simp [scanSign]) h

/-- A run of digits is divided from what follows it. -/
theorem takeWhile_isDigit {ds rest : List Char} (digits : ∀ c ∈ ds, c.isDigit = true)
    (stops : ∀ c ∈ rest.head?, c.isDigit = false) :
    (ds ++ rest).takeWhile Char.isDigit = ds ∧ (ds ++ rest).dropWhile Char.isDigit = rest := by
  have none : rest.takeWhile Char.isDigit = [] ∧ rest.dropWhile Char.isDigit = rest := by
    cases rest with
    | nil => exact ⟨rfl, rfl⟩
    | cons c rest => simp [stops c rfl]
  rw [List.takeWhile_append_of_pos digits, List.dropWhile_append_of_pos digits, none.1, none.2,
    List.append_nil]
  exact ⟨rfl, rfl⟩

/-- A run of digits is taken up to what is neither a digit nor an underscore. -/
theorem scanDigits_append {ds rest : List Char} (hds : ∀ c ∈ ds, c.isDigit = true)
    (stop : ∀ c, rest.head? = some c → c.isDigit = false ∧ c ≠ '_') (underscored : Bool)
    (hne : underscored = true → ds ≠ []) :
    scanDigits underscored (ds ++ rest) = some (ds, rest) := by
  induction ds generalizing underscored with
  | nil =>
      obtain rfl : underscored = false := by simpa using hne
      cases rest with
      | nil => rfl
      | cons c rest =>
          obtain ⟨hdigit, hunder⟩ := stop c rfl
          simp [scanDigits, hdigit, hunder]
  | cons c ds ih =>
      have hc : c.isDigit = true := hds c List.mem_cons_self
      have hunder : c ≠ '_' := of_isDigit (· ≠ '_') (by decide) hc
      have hrest := ih (fun d hd => hds d (List.mem_cons_of_mem _ hd)) false (by simp)
      simp [scanDigits, hc, hunder, hrest]

/-! ### Written numbers -/

theorem natOfDigits_toDigits (n : Nat) : natOfDigits (Nat.toDigits 10 n) = n :=
  Nat.ofDigitChars_ten_toDigits

/-- Zeros before the digits do not count. -/
theorem natOfDigits_zeros_append (k : Nat) (ds : List Char) :
    natOfDigits (List.replicate k '0' ++ ds) = natOfDigits ds := by
  show Nat.ofDigitChars 10 (List.replicate k '0' ++ ds) 0 = Nat.ofDigitChars 10 ds 0
  rw [Nat.ofDigitChars_append, Nat.ofDigitChars_replicate_zero, Nat.mul_zero]

/-- Each zero after the digits counts ten times. -/
theorem natOfDigits_append_zeros (ds : List Char) (k : Nat) :
    natOfDigits (ds ++ List.replicate k '0') = 10 ^ k * natOfDigits ds := by
  show Nat.ofDigitChars 10 (ds ++ List.replicate k '0') 0 = 10 ^ k * Nat.ofDigitChars 10 ds 0
  rw [Nat.ofDigitChars_append, Nat.ofDigitChars_replicate_zero]

/-- The digits of a positive number do not begin with a zero. -/
theorem head?_toDigits {n : Nat} (positive : 0 < n) : (Nat.toDigits 10 n).head? ≠ some '0' := by
  induction n using Nat.strongRecOn with
  | ind n ih =>
      by_cases small : n < 10
      · rw [Nat.toDigits_of_lt_base small]
        interval_cases n <;> decide
      · rw [Nat.toDigits_of_base_le (by decide) (Nat.not_lt.mp small),
          List.head?_append_of_ne_nil _ Nat.toDigits_ne_nil]
        exact ih (n / 10) (by omega) (by omega)

/-! ### Integers -/

/-- A text that comes to a run of digits of ASCII is read as the number that it writes, unless the
run is too long. -/
theorem readInteger_of_ascii {s : String} {ds : List Char} (ascii : toAsciiDigits s.toList = ds)
    (hds : ∀ c ∈ ds, c.isDigit = true) (hne : ds ≠ []) :
    readInteger s = if maxIntegerDigits < ds.length then .error (.tooManyDigits ds.length)
      else .ok (natOfDigits ds) := by
  obtain ⟨c, rest, rfl⟩ := List.exists_cons_of_ne_nil hne
  have hc : c.isDigit = true := hds c List.mem_cons_self
  have blank : Text.isAsciiBlank c = false :=
    of_isDigit (Text.isAsciiBlank · = false) (by decide) hc
  have scanned : scanDigits true (c :: rest ++ []) = some (c :: rest, []) :=
    scanDigits_append hds (by simp) true (by simp)
  rw [List.append_nil] at scanned
  simp only [readInteger, ascii, List.dropWhile_cons, blank, Bool.false_eq_true, if_false,
    scanSign_of_isDigit hc, scanned, List.all_nil, Bool.not_true]

/-- **A run of digits** is read as the number that it writes. -/
theorem readInteger_digits {ds : List Char} (hds : ∀ c ∈ ds, c.isDigit = true) (hne : ds ≠ [])
    (hlen : ds.length ≤ maxIntegerDigits) :
    readInteger (String.ofList ds) = .ok (natOfDigits ds) := by
  have ascii : toAsciiDigits (String.ofList ds).toList = ds := by
    rw [String.toList_ofList]
    exact toAsciiDigits_of_ascii fun c hc => of_isDigit (·.toNat < 0x7F) (by decide) (hds c hc)
  rw [readInteger_of_ascii ascii hds hne, if_neg (Nat.not_lt.mpr hlen)]

/-- A written natural number is read back. -/
theorem readInteger_toString {n : Nat} (h : (toString n).length ≤ maxIntegerDigits) :
    readInteger (toString n) = .ok n := by
  rw [Nat.toString_eq_ofList_toDigits, String.length_ofList] at h
  rw [Nat.toString_eq_ofList_toDigits, readInteger_digits
    (fun c hc => Nat.isDigit_of_mem_toDigits (by decide) (by decide) hc) Nat.toDigits_ne_nil h]
  exact congrArg (fun m : Nat => Except.ok (m : Int)) Nat.ofDigitChars_ten_toDigits

/-! ### Digits of any script -/

/-- The digit of ASCII with the value of a decimal digit. -/
def asciiDigit (c : Char) : Char := Char.ofNat ('0'.toNat + (Text.digitValue? c).getD 0)

/-- The number that decimal digits of any script write. -/
def decimalValue (cs : List Char) : Nat :=
  cs.foldl (fun n c => 10 * n + (Text.digitValue? c).getD 0) 0

/-- A decimal digit stands so far after the zero of its script as its value says. -/
theorem digitValue?_eq_some {c : Char} {d : Nat} (h : Text.digitValue? c = some d) :
    ∃ z ∈ Text.decimalZeros, c.toNat = z + d ∧ d < 10 := by
  obtain ⟨z, found, rfl⟩ := Option.map_eq_some_iff.mp h
  have near := List.find?_some found
  simp only [Bool.and_eq_true, decide_eq_true_eq] at near
  exact ⟨z, List.mem_of_find?_eq_some found, by omega, by omega⟩

theorem asciiDigit_of_value {c : Char} {d : Nat} (h : Text.digitValue? c = some d) :
    (asciiDigit c).isDigit = true ∧ (asciiDigit c).toNat - '0'.toNat = d := by
  obtain ⟨-, -, -, small⟩ := digitValue?_eq_some h
  have every : ∀ d : Fin 10, (Char.ofNat ('0'.toNat + d.val)).isDigit = true ∧
      (Char.ofNat ('0'.toNat + d.val)).toNat - '0'.toNat = d.val := by decide
  rw [asciiDigit, h]
  exact every ⟨d, small⟩

/-- A decimal digit of any script gives way to that of ASCII. -/
theorem toAsciiDigits_decimal {c : Char} (h : Text.isDecimal c = true) (rest : List Char) :
    toAsciiDigits (c :: rest) = asciiDigit c :: toAsciiDigits rest := by
  obtain ⟨d, value⟩ := Option.isSome_iff_exists.mp h
  obtain ⟨z, hz, place, small⟩ := digitValue?_eq_some value
  rw [toAsciiDigits]
  split
  · next ascii =>
      have zero : ∀ z ∈ Text.decimalZeros, z < 0x7F → z = '0'.toNat := by decide
      have same : c = asciiDigit c := by
        rw [asciiDigit, value, Option.getD_some, ← zero z hz (by omega), ← place,
          Char.ofNat_toNat]
      rw [← same]
  · have noBlank : Text.isBlank c = false := by
      have every : ∀ z ∈ Text.decimalZeros, ∀ d : Fin 10,
          Text.isBlank (Char.ofNat (z + d.val)) = false := by decide
      rw [← Char.ofNat_toNat c, place]
      exact every z hz ⟨d, small⟩
    simp only [noBlank, value, asciiDigit, Bool.false_eq_true, if_false, Option.getD_some]

theorem toAsciiDigits_decimals {cs : List Char} (h : ∀ c ∈ cs, Text.isDecimal c = true) :
    toAsciiDigits cs = cs.map asciiDigit := by
  induction cs with
  | nil => rfl
  | cons c rest ih =>
      rw [toAsciiDigits_decimal (h c List.mem_cons_self),
        ih fun d hd => h d (List.mem_cons_of_mem _ hd), List.map_cons]

theorem isDigit_asciiDigit {c : Char} (h : Text.isDecimal c = true) :
    (asciiDigit c).isDigit = true := by
  obtain ⟨d, value⟩ := Option.isSome_iff_exists.mp h
  exact (asciiDigit_of_value value).1

/-- The digits of ASCII write the same number. -/
theorem natOfDigits_asciiDigits {cs : List Char} (h : ∀ c ∈ cs, Text.isDecimal c = true) :
    natOfDigits (cs.map asciiDigit) = decimalValue cs := by
  rw [natOfDigits, List.foldl_map, decimalValue]
  refine List.foldl_ext _ _ _ fun n c hc => ?_
  obtain ⟨d, value⟩ := Option.isSome_iff_exists.mp (h c hc)
  rw [(asciiDigit_of_value value).2, value, Option.getD_some]

/-- **Decimal digits** of any script are read as the number that they write, unless they are too
many. -/
theorem readInteger_decimals {s : String} (h : ∀ c ∈ s.toList, Text.isDecimal c = true)
    (hne : s ≠ "") :
    readInteger s = if maxIntegerDigits < s.length then .error (.tooManyDigits s.length)
      else .ok (decimalValue s.toList) := by
  have nonempty : s.toList.map asciiDigit ≠ [] := by simpa using hne
  rw [readInteger_of_ascii (toAsciiDigits_decimals h) ?_ nonempty, natOfDigits_asciiDigits h,
    List.length_map, String.length_toList]
  simp only [List.mem_map]
  rintro _ ⟨c, hc, rfl⟩
  exact isDigit_asciiDigit (h c hc)

/-- A digit that is not decimal is neither a character of ASCII nor a blank. -/
theorem beyond_of_otherDigit {c : Char} (h : Text.otherDigits.contains c = true) :
    0x7F ≤ c.toNat ∧ Text.isBlank c = false := by
  obtain ⟨p, hp, least, most⟩ := Text.Ranges.contains_iff.mp h
  have far : ∀ p ∈ Text.otherDigits, 0x7F ≤ p.1 := by decide
  have every : ∀ p ∈ Text.otherDigits, ∀ i ∈ List.range (p.2 - p.1 + 1),
      Text.isBlank (Char.ofNat (p.1 + i)) = false := by decide
  have noBlank := every p hp (c.toNat - p.1) (List.mem_range.mpr (by omega))
  rw [Nat.add_sub_cancel' least, Char.ofNat_toNat] at noBlank
  exact ⟨(far p hp).trans least, noBlank⟩

/-- Digits end before the first of them that is not decimal, with a mark that no number holds. -/
theorem toAsciiDigits_digits {cs : List Char} (digits : ∀ c ∈ cs, Text.isDigit c = true)
    (other : ∃ c ∈ cs, Text.isDecimal c = false) :
    ∃ ds, (∀ d ∈ ds, d.isDigit = true) ∧ toAsciiDigits cs = ds ++ ['?'] := by
  induction cs with
  | nil => simp at other
  | cons c rest ih =>
      obtain ⟨digit, digits⟩ := List.forall_mem_cons.mp digits
      by_cases decimal : Text.isDecimal c = true
      · have other : ∃ d ∈ rest, Text.isDecimal d = false := by
          obtain ⟨d, hd, no⟩ := other
          rcases List.mem_cons.mp hd with rfl | hd
          · simp [decimal] at no
          · exact ⟨d, hd, no⟩
        obtain ⟨ds, hds, ascii⟩ := ih digits other
        refine ⟨asciiDigit c :: ds, ?_, by rw [toAsciiDigits_decimal decimal, ascii]; rfl⟩
        exact List.forall_mem_cons.mpr ⟨isDigit_asciiDigit decimal, hds⟩
      · refine ⟨[], by simp, ?_⟩
        have among : Text.otherDigits.contains c = true := by
          simpa [Text.isDigit, decimal] using digit
        obtain ⟨far, noBlank⟩ := beyond_of_otherDigit among
        have value : Text.digitValue? c = none := by simpa [Text.isDecimal] using decimal
        simp [toAsciiDigits, Nat.not_lt.mpr far, noBlank, value]

/-- **Digits of which one is not decimal** are no integer. -/
theorem readInteger_digits_error {s : String} (digits : ∀ c ∈ s.toList, Text.isDigit c = true)
    (other : ∃ c ∈ s.toList, Text.isDecimal c = false) :
    ∃ fault, readInteger s = .error fault := by
  obtain ⟨ds, hds, ascii⟩ := toAsciiDigits_digits digits other
  simp only [readInteger, ascii]
  cases ds with
  | nil => exact ⟨_, rfl⟩
  | cons d ds =>
      have hd : d.isDigit = true := hds d List.mem_cons_self
      have blank : Text.isAsciiBlank d = false :=
        of_isDigit (Text.isAsciiBlank · = false) (by decide) hd
      have scanned : scanDigits true (d :: ds ++ ['?']) = some (d :: ds, ['?']) :=
        scanDigits_append hds (by simp) true (by simp)
      rw [List.cons_append] at scanned
      simp only [List.cons_append, List.dropWhile_cons, blank, Bool.false_eq_true, if_false,
        scanSign_of_isDigit hd, scanned]
      split
      · exact ⟨_, rfl⟩
      · exact ⟨_, rfl⟩

end Verdict.Number
