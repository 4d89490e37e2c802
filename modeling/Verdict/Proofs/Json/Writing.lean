import Verdict.Json.Writer
import Verdict.Proofs.Json.Spelling
import Verdict.Proofs.Number.Nearest
import Verdict.Proofs.Value.Parts

/-!
# JSON: what is written

The text that is written for a value spells the value.

* `writesDecimal_decimal`: a decimal in a format is a numeral of the same value.
* `spellsAtom_finite`: so a finite number, written by its shortest decimal, is read as itself.
* `spells_writeAt`: values of JSON with finite numbers are spelled by what is written for them.
-/

namespace Verdict

namespace Json

open Number

theorem isDigits_toDigits (n : Nat) : IsDigits (Nat.toDigits 10 n) :=
  ⟨Nat.toDigits_ne_nil, fun _ hc => Nat.isDigit_of_mem_toDigits (by decide) (by decide) hc⟩

theorem isDigits_zeros_append (k : Nat) {ds : List Char} (h : IsDigits ds) :
    IsDigits (List.replicate k '0' ++ ds) := by
  refine ⟨List.append_ne_nil_of_right_ne_nil _ h.1, fun c hc => ?_⟩
  rcases List.mem_append.mp hc with zero | digit
  · rw [List.eq_of_mem_replicate zero]
    rfl
  · exact h.2 c digit

/-- A part of digits. -/
theorem IsDigits.part {ds part : List Char} (h : IsDigits ds) (sub : part.Sublist ds)
    (nonempty : part ≠ []) : IsDigits part :=
  ⟨nonempty, fun c hc => h.2 c (sub.subset hc)⟩

/-! ### Decimals in a format -/

/-- What is written for an exponent. -/
theorem writesExponent (f : DecimalFormat) (e : Int) : WritesExponent (f.exponent e) (some e) := by
  unfold DecimalFormat.exponent
  generalize hzeros : f.exponentDigits - (Nat.toDigits 10 e.natAbs).length = zeros
  have digits := isDigits_zeros_append zeros (isDigits_toDigits e.natAbs)
  have value : (natOfDigits (List.replicate zeros '0' ++ Nat.toDigits 10 e.natAbs) : Int) =
      e.natAbs := by
    rw [natOfDigits_zeros_append, natOfDigits_toDigits]
  generalize hsign : (if e < 0 then ['-'] else if f.plusSign then ['+'] else []) = sign
  have among : sign ∈ [[], ['+'], ['-']] := by
    rw [← hsign]
    split_ifs <;> simp
  have same : (if sign = ['-'] then -(e.natAbs : Int) else e.natAbs) = e := by
    rw [← hsign]
    by_cases negative : e < 0
    · simp only [negative, if_true]
      omega
    · simp only [negative, if_false]
      rw [if_neg (by split <;> decide)]
      omega
  have written := WritesExponent.present (.inl rfl) among digits
  rw [value, same] at written
  simpa [hzeros, hsign] using written

/-- The characters write the decimal, as no integer and without a sign. -/
def WritesDecimal (s : List Char) (d : Decimal) : Prop :=
  ∃ n : Numeral, WritesNumeral s n ∧ n.negative = false ∧ ¬n.IsInteger ∧
    n.decimal.value = d.value

theorem WritesDecimal.congr {s : List Char} {d e : Decimal} (h : WritesDecimal s d)
    (same : d.value = e.value) : WritesDecimal s e := by
  obtain ⟨n, writes, unsigned, noInteger, value⟩ := h
  exact ⟨n, writes, unsigned, noInteger, value.trans same⟩

section

variable {whole fraction suffix : List Char} (digits : IsDigits whole)
  (leading : whole = ['0'] ∨ whole.head? ≠ some '0')

include digits leading

theorem writesDecimal_fraction (fractionDigits : IsDigits fraction) {exponent : Option Int}
    (writes : WritesExponent suffix exponent) :
    WritesDecimal (whole ++ '.' :: fraction ++ suffix)
      (.ofParts whole fraction (exponent.getD 0)) :=
  ⟨⟨false, whole, some fraction, exponent⟩,
    ⟨digits, leading, by rintro _ ⟨⟩; exact fractionDigits, suffix, writes, rfl⟩, rfl,
    by rintro ⟨⟨⟩, -⟩, rfl⟩

theorem writesDecimal_exponent {e : Int} (writes : WritesExponent suffix (some e)) :
    WritesDecimal (whole ++ suffix) (.ofParts whole [] e) :=
  ⟨⟨false, whole, none, some e⟩, ⟨digits, leading, nofun, suffix, writes, by simp [fractionChars]⟩,
    rfl, by rintro ⟨-, ⟨⟩⟩, rfl⟩

end

/-- A decimal is made of its digits wherever the point is put among them, if the exponent makes up
for it. -/
theorem ofParts_value {d : Decimal} {whole fraction : List Char} {e : Int}
    (digits : natOfDigits (whole ++ fraction) = d.digits)
    (exponent : e = d.exponent + fraction.length) :
    (Decimal.ofParts whole fraction e).value = d.value := by
  rw [Decimal.value, Decimal.value, Decimal.ofParts, digits, exponent, Int.add_sub_cancel]

theorem isDigits_zero : IsDigits ['0'] := ⟨by simp, List.forall_mem_singleton.mpr rfl⟩

section Placed

variable {d : Decimal} {ds : List Char} (digits : IsDigits ds) (leading : ds.head? ≠ some '0')
  (value : natOfDigits ds = d.digits)

include digits value

/-- The point stands before the digits. -/
theorem writesDecimal_before {zeros : Nat} (place : d.exponent + ds.length + zeros = 0) :
    WritesDecimal ('0' :: '.' :: List.replicate zeros '0' ++ ds) d := by
  have fraction := isDigits_zeros_append zeros digits
  have writes := writesDecimal_fraction isDigits_zero (.inl rfl) fraction .absent
  refine .congr (by simpa using writes) (ofParts_value ?_ ?_)
  · exact (natOfDigits_zeros_append (zeros + 1) ds).trans value
  · simp
    omega

include leading

/-- The point stands after the digits and zeros. -/
theorem writesDecimal_after {zeros : Nat} (place : d.exponent = zeros) :
    WritesDecimal (ds ++ List.replicate zeros '0' ++ ['.', '0']) d := by
  have wholeDigits : IsDigits (ds ++ List.replicate zeros '0') := by
    refine ⟨List.append_ne_nil_of_left_ne_nil digits.1 _, fun c hc => ?_⟩
    exact (isDigits_zeros_append zeros digits).2 c (List.perm_append_comm.mem_iff.mp hc)
  have wholeLeading : (ds ++ List.replicate zeros '0').head? ≠ some '0' := by
    rwa [List.head?_append_of_ne_nil _ digits.1]
  have writes := writesDecimal_fraction wholeDigits (.inr wholeLeading) isDigits_zero .absent
  have more : natOfDigits (ds ++ List.replicate zeros '0' ++ ['0']) =
      10 ^ (zeros + 1) * d.digits := by
    rw [← value, ← natOfDigits_append_zeros, List.replicate_succ', List.append_assoc]
  refine .congr (by simpa using writes) ?_
  rw [Decimal.value, Decimal.value, Decimal.ofParts, more, place]
  simp [pow_succ]
  ring

/-- The point stands among the digits. -/
theorem writesDecimal_among {whole : Nat} (place : d.exponent + ds.length = whole)
    (some_ : 0 < whole) (fewer : whole < ds.length) :
    WritesDecimal (ds.take whole ++ '.' :: ds.drop whole) d := by
  have front : IsDigits (ds.take whole) :=
    digits.part (List.take_sublist ..) (by simp [digits.1]; omega)
  have back : IsDigits (ds.drop whole) := digits.part (List.drop_sublist ..) (by simpa using fewer)
  have frontLeading : (ds.take whole).head? ≠ some '0' := by
    rwa [List.head?_take, if_neg some_.ne']
  have writes := writesDecimal_fraction front (.inr frontLeading) back .absent
  refine .congr (by simpa using writes) (ofParts_value ?_ ?_)
  · rw [List.take_append_drop, value]
  · rw [List.length_drop]
    omega

end Placed

/-- **A decimal in a format** is written, with the same value. -/
theorem writesDecimal_decimal (f : DecimalFormat) (d : Decimal) :
    WritesDecimal (f.decimal d) d := by
  have digits := isDigits_toDigits d.digits
  have value := natOfDigits_toDigits d.digits
  have position : d.pointPosition = (Nat.toDigits 10 d.digits).length + d.exponent := rfl
  unfold DecimalFormat.decimal
  dsimp only
  rw [Decimal.digitChars]
  split
  · next noDigits =>
      refine (writesDecimal_fraction isDigits_zero (.inl rfl) isDigits_zero .absent).congr ?_
      simp [Decimal.value, noDigits, Decimal.ofParts, natOfDigits]
  next positive =>
  have leading := head?_toDigits (Nat.pos_of_ne_zero positive)
  generalize Nat.toDigits 10 d.digits = ds at *
  split
  · next positional =>
      split
      · exact writesDecimal_before digits value (by omega)
      · split
        · exact writesDecimal_after digits leading value (by omega)
        · exact writesDecimal_among digits leading value (by omega) (by omega) (by omega)
  · next exponential =>
      have writes := writesExponent f (d.pointPosition - 1)
      rcases ds with _ | ⟨first, _ | ⟨second, rest⟩⟩
      · exact absurd rfl digits.1
      · refine (writesDecimal_exponent digits (.inr leading) writes).congr (ofParts_value ?_ ?_)
        · rw [List.append_nil, value]
        · rw [position]
          simp
      · have front : IsDigits [first] := digits.part (by simp) (by simp)
        have back : IsDigits (second :: rest) := digits.part (by simp) (by simp)
        refine (writesDecimal_fraction front (.inr leading) back writes).congr
          (ofParts_value value ?_)
        rw [position]
        simp
        omega

/-! ### Atoms -/

/-- **A finite number** in a format is written by its shortest decimal, and read as itself. -/
theorem spellsAtom_finite (digits : Nat) (f : DecimalFormat) (negative : Bool) {significand : Nat}
    {exponent : Int} (canonical : Canonical significand exponent) :
    SpellsAtom digits (f.finite negative significand exponent).toList
      (.float (.finite negative significand exponent canonical)) := by
  obtain ⟨n, writes, unsigned, noInteger, value⟩ :=
    writesDecimal_decimal f (shortestDecimal significand exponent)
  have nearest : n.decimal.nearest negative = .finite negative significand exponent canonical := by
    rcases Nat.eq_zero_or_pos significand with rfl | positive
    · obtain rfl : exponent = -1074 := canonical.2.2.2.resolve_left (by decide)
      have noDigits : n.decimal.digits = 0 := by
        have : n.decimal.value = 0 := value.trans (by simp [shortestDecimal, Decimal.value])
        simpa [Decimal.value, zpow_ne_zero] using this
      rw [Decimal.nearest, if_pos noDigits]
      rfl
    · refine Decimal.nearest_of_roundsTo canonical positive ?_ negative
      rw [value]
      exact roundsTo_shortestDecimal canonical positive
  obtain ⟨suffix, exponentWrites, written⟩ := writes.parts
  let signed : Numeral := { n with negative }
  have signedWrites : WritesNumeral (f.finite negative significand exponent).toList signed := by
    refine ⟨writes.whole, writes.leading, writes.fraction, suffix, exponentWrites, ?_⟩
    rw [DecimalFormat.finite, String.toList_ofList, written, unsigned]
    cases negative <;> simp [signed]
  have same : signed.value = .float (.finite negative significand exponent canonical) := by
    rw [Numeral.value, if_neg (show ¬signed.IsInteger from noInteger)]
    exact congrArg Atom.float nearest
  exact same ▸ .numeral signedWrites fun integer => absurd integer noInteger

/-- An integer is written by its digits. -/
theorem spellsAtom_int {digits : Nat} {i : Int}
    (short : (Nat.toDigits 10 i.natAbs).length ≤ digits) :
    SpellsAtom digits (toString i).toList (.int i) := by
  let n : Numeral := ⟨decide (i < 0), Nat.toDigits 10 i.natAbs, none, none⟩
  have leading : n.whole = ['0'] ∨ n.whole.head? ≠ some '0' := by
    rcases Nat.eq_zero_or_pos i.natAbs with zero | positive
    · exact .inl (by simp [n, zero])
    · exact .inr (head?_toDigits positive)
  have written : (toString i).toList = (if i < 0 then ['-'] else []) ++ n.whole := by
    cases i with
    | ofNat m => exact Nat.toList_repr
    | negSucc m =>
        rw [if_pos (Int.negSucc_lt_zero m)]
        show ("-" ++ Nat.repr (m + 1)).toList = ['-'] ++ Nat.toDigits 10 (m + 1)
        rw [String.toList_append, Nat.toList_repr]
        rfl
  have writes : WritesNumeral (toString i).toList n :=
    ⟨isDigits_toDigits _, leading, nofun, [], .absent, by rw [written]; simp [fractionChars, n]⟩
  have same : n.value = .int i := by
    rw [Numeral.value, if_pos ⟨rfl, rfl⟩, natOfDigits_toDigits]
    refine congrArg Atom.int ?_
    by_cases negative : i < 0
    · simp only [n, negative, decide_true, if_true]
      omega
    · simp only [n, negative, decide_false, Bool.false_eq_true, if_false]
      omega
  exact same ▸ .numeral writes fun _ => short

/-! ### Texts -/

theorem charOfUnit_toNat (c : Char) : charOfUnit c.toNat = c ∧ isHighSurrogate c.toNat = false := by
  have valid : c.toNat < 0xD800 ∨ 0xDFFF < c.toNat := c.valid.imp_right And.left
  have high : isHighSurrogate c.toNat = false := by
    simp only [isHighSurrogate, Bool.and_eq_false_iff, decide_eq_false_iff_not]
    omega
  have low : isLowSurrogate c.toNat = false := by
    simp only [isLowSurrogate, Bool.and_eq_false_iff, decide_eq_false_iff_not]
    omega
  rw [charOfUnit, high, low]
  exact ⟨Char.ofNat_toNat c, rfl⟩

/-- No character is half of a pair of units. -/
theorem charsOfUnits_toNat : ∀ cs : List Char, charsOfUnits (cs.map Char.toNat) = cs
  | [] => rfl
  | [c] => congrArg (fun d => [d]) (charOfUnit_toNat c).1
  | c :: d :: rest => by
      obtain ⟨same, noHigh⟩ := charOfUnit_toNat c
      have tail := charsOfUnits_toNat (d :: rest)
      rw [List.map_cons] at tail
      rw [List.map_cons, List.map_cons, charsOfUnits, noHigh, if_neg (by simp), same, tail]

/-- The four digits of an escape are read as its code. -/
theorem hexQuad_hexPadded {n : Nat} (control : n < 0x20) :
    ∃ a b c d, Text.hexPadded 4 n = [a, b, c, d] ∧ hexQuad? a b c d = some n := by
  interval_cases n <;> exact ⟨_, _, _, _, rfl, rfl⟩

/-- A character is written as it is or as an escape. -/
theorem WritesUnits.escapeChar (c : Char) {body : List Char} {units : List Nat}
    (rest : WritesUnits body units) :
    WritesUnits (Json.escapeChar false c ++ body) (c.toNat :: units) := by
  unfold Json.escapeChar
  split
  case h_8 noQuote noEscape _ _ _ _ _ =>
    dsimp only
    split
    · next control =>
        obtain ⟨a, b, c', d, four, code⟩ := hexQuad_hexPadded control
        rw [escapeUnit, four]
        exact .code code rest
    · next noControl => exact .char noQuote noEscape (Nat.not_lt.mp noControl) rest
  all_goals exact .short rfl rest

theorem writesUnits_flatMap (cs : List Char) :
    WritesUnits (cs.flatMap (escapeChar false)) (cs.map Char.toNat) := by
  induction cs with
  | nil => exact .nil
  | cons c cs ih => exact ih.escapeChar c

/-- A text is written between quotation marks. -/
theorem spellsAtom_text (digits : Nat) (s : String) :
    SpellsAtom digits (writeText false s) (.text s) := by
  have spelled : SpellsAtom digits (writeText false s) _ := .text (writesUnits_flatMap s.toList)
  rwa [charsOfUnits_toNat, String.ofList_toList] at spelled

theorem spellsName_text (s : String) : SpellsName (writeText false s) s := by
  have spelled := SpellsName.text (writesUnits_flatMap s.toList)
  rwa [charsOfUnits_toNat, String.ofList_toList] at spelled

end Json

/-! ### Values -/

/-- An atom of JSON: a finite number, an integer of at most so many digits, or no number. -/
def Atom.Fits (digits : Nat) : Atom → Prop
  | .null | .bool _ | .text _ => True
  | .int n => (Nat.toDigits 10 n.natAbs).length ≤ digits
  | .float x => x.isFinite = true
  | .date _ | .moment _ | .bytes _ => False

/-- A value of JSON with finite numbers, with at most so many digits in an integer and at most so
many values one inside the other. -/
inductive Value.Fits (digits : Nat) : (levels : Nat) → Value → Prop where
  | atom {levels : Nat} {a : Atom} (h : a.Fits digits) : Fits digits (levels + 1) (.atom a)
  | list {levels : Nat} {items : List Value} (h : ∀ v ∈ items, Fits digits levels v) :
      Fits digits (levels + 1) (.list items)
  | mapping {levels : Nat} {table : Table String Value} (distinct : table.keys.Nodup)
      (h : ∀ p ∈ table, Fits digits levels p.2) : Fits digits (levels + 1) (.ofTable table)

theorem Atom.Fits.isJson {digits : Nat} {a : Atom} (h : a.Fits digits) : a.isJson = true := by
  cases a with
  | date | moment | bytes => exact h.elim
  | _ => rfl

theorem Atom.Fits.mono {digits digits' : Nat} {a : Atom} (h : a.Fits digits)
    (more : digits ≤ digits') : a.Fits digits' := by
  cases a with
  | int => exact Nat.le_trans h more
  | _ => exact h

namespace Value.Fits

variable {digits digits' levels levels' : Nat} {v : Value}

theorem isJson (h : v.Fits digits levels) : v.IsJson := by
  induction h with
  | atom h => exact .atom h.isJson
  | list _ ih => exact .list ih
  | mapping distinct _ ih => exact .mapping distinct ih

theorem mono (h : v.Fits digits levels) (moreDigits : digits ≤ digits')
    (moreLevels : levels ≤ levels') : v.Fits digits' levels' := by
  induction h generalizing levels' with
  | atom h =>
      match levels', moreLevels with
      | _ + 1, _ => exact .atom (h.mono moreDigits)
  | list _ ih =>
      match levels', moreLevels with
      | _ + 1, more => exact .list fun v hv => ih v hv (Nat.le_of_succ_le_succ more)
  | mapping distinct _ ih =>
      match levels', moreLevels with
      | _ + 1, more => exact .mapping distinct fun p hp => ih p hp (Nat.le_of_succ_le_succ more)

end Value.Fits

namespace Json

theorem spellsAtom_atom {digits : Nat} {a : Atom} (fits : a.Fits digits) (indent : Option Nat) :
    SpellsAtom digits ((Style.wire indent).atom a) a := by
  cases a with
  | null => exact .null
  | bool b => cases b <;> [exact .false; exact .true]
  | int i => exact spellsAtom_int fits
  | float x =>
      cases x with
      | finite negative significand exponent canonical =>
          exact spellsAtom_finite digits .wire negative canonical
      | nan | infinity => cases fits
  | text s => exact spellsAtom_text digits s
  | date | moment | bytes => exact fits.elim

section

variable {digits levels : Nat}

theorem Spells.beforeAll {blanks s : List Char} {v : Value} (h : Spells digits levels s v)
    (areBlanks : ∀ c ∈ blanks, isSpace c = true) : Spells digits levels (blanks ++ s) v := by
  induction blanks with
  | nil => exact h
  | cons c blanks ih =>
      obtain ⟨blank, areBlanks⟩ := List.forall_mem_cons.mp areBlanks
      exact .before blank (ih areBlanks)

theorem Spells.afterAll {blanks s : List Char} {v : Value} (h : Spells digits levels s v)
    (areBlanks : ∀ c ∈ blanks, isSpace c = true) : Spells digits levels (s ++ blanks) v := by
  induction blanks generalizing s with
  | nil => rwa [List.append_nil]
  | cons c blanks ih =>
      obtain ⟨blank, areBlanks⟩ := List.forall_mem_cons.mp areBlanks
      rw [List.append_cons]
      exact ih (h.after blank) areBlanks

theorem SpellsName.beforeAll {blanks s : List Char} {name : String} (h : SpellsName s name)
    (areBlanks : ∀ c ∈ blanks, isSpace c = true) : SpellsName (blanks ++ s) name := by
  induction blanks with
  | nil => exact h
  | cons c blanks ih =>
      obtain ⟨blank, areBlanks⟩ := List.forall_mem_cons.mp areBlanks
      exact .before blank (ih areBlanks)

variable (indent : Option Nat) (depth : Nat)

theorem isSpace_break : ∀ c ∈ (Style.wire indent).break depth, isSpace c = true := by
  cases indent with
  | none => exact nofun
  | some n =>
      simp only [Style.wire, Style.break, List.forall_mem_cons]
      exact ⟨rfl, fun c hc => List.eq_of_mem_replicate hc ▸ rfl⟩

/-- The mark between a key and its value is a colon and blanks. -/
theorem exists_colon : ∃ blanks, (Style.wire indent).colon = ':' :: blanks ∧
    ∀ c ∈ blanks, isSpace c = true := by
  cases indent with
  | none => exact ⟨[], rfl, nofun⟩
  | some n => exact ⟨[' '], rfl, List.forall_mem_singleton.mpr rfl⟩

/-- The items of a list are spelled up to its closing bracket. -/
theorem exists_spellsItems {items : List Value}
    (each : ∀ v ∈ items, Spells digits levels (writeAt (Style.wire indent) (depth + 1) v) v) :
    ∀ {s : List Char} {v : Value}, Spells digits levels s v → ∃ t,
      SpellsItems digits levels t (v :: items) ∧
        s ++ writeMoreItems (Style.wire indent) depth items = t ++ [']'] := by
  induction items with
  | nil =>
      intro s v h
      exact ⟨_, .last (h.afterAll (isSpace_break indent depth)),
        by rw [writeMoreItems, List.append_assoc]⟩
  | cons w rest ih =>
      intro s v h
      obtain ⟨first, each⟩ := List.forall_mem_cons.mp each
      obtain ⟨t, more, written⟩ := ih each (first.beforeAll (isSpace_break indent (depth + 1)))
      have same : s ++ ',' :: t ++ [']'] = s ++ ',' :: (t ++ [']']) := by simp
      refine ⟨_, .more h more, ?_⟩
      rw [same, ← written, writeMoreItems]
      rfl

/-- The members of a mapping are spelled up to its closing brace. -/
theorem exists_spellsMembers {table : Table String Value}
    (each : ∀ p ∈ table, Spells digits levels (writeAt (Style.wire indent) (depth + 1) p.2) p.2) :
    ∀ {k s : List Char} {name : String} {v : Value}, SpellsName k name → Spells digits levels s v →
      ∃ t, SpellsMembers digits levels t
          ((.text name, v) :: table.map fun (key, w) => (.text key, w)) ∧
        k ++ (Style.wire indent).colon ++ s ++ writeMorePairs (Style.wire indent) depth
          (table.map fun (key, w) => (.text key, w)) = t ++ ['\x7d'] := by
  obtain ⟨blanks, colon, areBlanks⟩ := exists_colon indent
  induction table with
  | nil =>
      intro k s name v named h
      refine ⟨_, .last named ((h.beforeAll areBlanks).afterAll (isSpace_break indent depth)), ?_⟩
      simp [writeMorePairs, colon]
  | cons p rest ih =>
      intro k s name v named h
      obtain ⟨first, each⟩ := List.forall_mem_cons.mp each
      have nextNamed := (spellsName_text p.1).beforeAll (isSpace_break indent (depth + 1))
      obtain ⟨t, more, written⟩ := ih each nextNamed first
      have same : k ++ ':' :: (blanks ++ s ++ ',' :: t) ++ ['\x7d'] =
          k ++ (':' :: blanks) ++ s ++ ',' :: (t ++ ['\x7d']) := by simp
      refine ⟨_, .more named (h.beforeAll areBlanks) more, ?_⟩
      rw [same, ← written, List.map_cons, writeMorePairs, colon]
      rfl

end

/-- **What is written for a value** of JSON with finite numbers spells the value. -/
theorem spells_writeAt {digits levels : Nat} {v : Value} (fits : v.Fits digits levels)
    (indent : Option Nat) (depth : Nat) :
    Spells digits levels (writeAt (Style.wire indent) depth v) v := by
  induction fits generalizing depth with
  | atom h => exact .atom (spellsAtom_atom h indent)
  | @list levels items _ ih =>
      cases items with
      | nil => exact .emptyList (s := []) (by simp)
      | cons v rest =>
          obtain ⟨first, each⟩ := List.forall_mem_cons.mp fun w hw => ih w hw (depth + 1)
          obtain ⟨t, spelled, written⟩ := exists_spellsItems indent depth each
            (first.beforeAll (isSpace_break indent (depth + 1)))
          have same : writeAt (Style.wire indent) depth (.list (v :: rest)) =
              '[' :: t ++ [']'] := by
            rw [List.cons_append, ← written, writeAt, writeItems]
            rfl
          exact same ▸ .list spelled
  | @mapping levels table distinct _ ih =>
      cases table with
      | nil => exact .emptyMapping (s := []) (by simp)
      | cons p rest =>
          obtain ⟨first, each⟩ := List.forall_mem_cons.mp fun q hq => ih q hq (depth + 1)
          obtain ⟨t, spelled, written⟩ := exists_spellsMembers indent depth each
            ((spellsName_text p.1).beforeAll (isSpace_break indent (depth + 1))) first
          have same : writeAt (Style.wire indent) depth (.ofTable (p :: rest)) =
              '\x7b' :: t ++ ['\x7d'] := by
            rw [List.cons_append, ← written, Value.ofTable, Value.ofPairs, List.map_cons, writeAt,
              writePairs]
            rfl
          have table : Value.ofTable (p :: rest) = .mapping (Table.ofPairs
              ((.text p.1, p.2) :: rest.map fun (key, w) => (.text key, w))) :=
            congrArg Value.mapping (Value.ofPairs_ofTable distinct).symm
          rw [same, table]
          exact .mapping spelled

end Json

end Verdict
