import Mathlib.Data.List.TakeDrop
import Verdict.Proofs.Json.Lexeme
import Verdict.Proofs.Number.Decimal
import Verdict.Proofs.Yaml.Composing

/-!
# YAML: numbers and words of JSON

A number that is written in JSON stands for the same number as a plain scalar of YAML, if its
exponent has a sign and comes after a fraction (`sharesScalar`); so do the words for the absent
value and for booleans.
-/

namespace Verdict.Yaml

open Json (Numeral WritesNumeral IsDigits)
open Number (IsNumeralChar)

/-- An exponent has a sign and comes after a fraction. -/
def hasFullExponent (written : List Char) : Bool :=
  match written.dropWhile fun c => !(c == 'e' || c == 'E') with
  | [] => true
  | _ :: sign :: _ => (sign == '+' || sign == '-') && written.contains '.'
  | _ => false

/-- The scalar of JSON is written in a way that YAML shares: a word other than the names of numbers,
or a number of which an exponent is written in full. -/
def sharesScalar (written : List Char) : Bool :=
  ["null", "true", "false"].any (·.toList == written) ||
    ((unsigned written).head?.any Char.isDigit && hasFullExponent written)

/-! ### Shared numbers -/

/-- The sign of a number. -/
def minus (negative : Bool) : List Char :=
  if negative then ['-'] else []

/-- The characters write an exponent in full, or none. -/
inductive WritesFullExponent : List Char → Int → Prop where
  | absent : WritesFullExponent [] 0
  | present {letter sign : Char} {ds : List Char} (hletter : letter = 'e' ∨ letter = 'E')
      (hsign : sign = '+' ∨ sign = '-') (digits : IsDigits ds) :
      WritesFullExponent (letter :: sign :: ds)
        (if sign = '-' then -(Number.natOfDigits ds : Int) else Number.natOfDigits ds)

/-- The characters write the number in a way that both notations share. -/
inductive SharesNumber : List Char → Atom → Prop where
  | integer {whole : List Char} (negative : Bool) (digits : IsDigits whole)
      (leading : whole = ['0'] ∨ whole.head? ≠ some '0')
      (short : whole.length ≤ Number.maxIntegerDigits) : SharesNumber (minus negative ++ whole)
        (.int (if negative then -(Number.natOfDigits whole : Int) else Number.natOfDigits whole))
  | decimal {whole fraction suffix : List Char} {exponent : Int} (negative : Bool)
      (digits : IsDigits whole) (fractionDigits : IsDigits fraction)
      (full : WritesFullExponent suffix exponent) :
      SharesNumber (minus negative ++ (whole ++ '.' :: (fraction ++ suffix)))
        (.float ((Number.Decimal.ofParts whole fraction exponent).nearest negative))

/-- The characters before an exponent, of which none is its letter. -/
theorem hasFullExponent_append {front : List Char}
    (h : ∀ c ∈ front, c.isDigit = true ∨ c = '-' ∨ c = '.') (letter sign : Char) (ds : List Char)
    (hletter : letter = 'e' ∨ letter = 'E') :
    hasFullExponent (front ++ letter :: sign :: ds) =
      ((sign == '+' || sign == '-') && (front ++ letter :: sign :: ds).contains '.') := by
  have noLetter : ∀ c ∈ front, (!(c == 'e' || c == 'E')) = true := by
    intro c hc
    rcases h c hc with digit | rfl | rfl
    · exact Number.of_isDigit (fun c => (!(c == 'e' || c == 'E')) = true) (by decide) digit
    · rfl
    · rfl
  unfold hasFullExponent
  rw [List.dropWhile_append_of_pos noLetter]
  rcases hletter with rfl | rfl <;> rfl

theorem not_mem_point {ds : List Char} (h : IsDigits ds) : '.' ∉ ds := fun point =>
  absurd (h.2 '.' point) (by decide)

/-- An exponent is written in full only with a sign, and after a point. -/
theorem sign_of_hasFullExponent {front sign ds : List Char} {letter : Char}
    (h : ∀ c ∈ front, c.isDigit = true ∨ c = '-' ∨ c = '.')
    (hletter : letter = 'e' ∨ letter = 'E') (hsign : sign ∈ [[], ['+'], ['-']])
    (digits : IsDigits ds) (full : hasFullExponent (front ++ letter :: (sign ++ ds)) = true) :
    ∃ c, sign = [c] ∧ (c = '+' ∨ c = '-') ∧ '.' ∈ front := by
  rcases sign with _ | ⟨c, _ | _⟩
  · -- a digit comes after the letter
    obtain ⟨d, more, rfl⟩ := List.exists_cons_of_ne_nil digits.1
    have noSign : (d == '+' || d == '-') = false :=
      Number.of_isDigit (fun d => (d == '+' || d == '-') = false) (by decide)
        (digits.2 d List.mem_cons_self)
    rw [List.nil_append, hasFullExponent_append h letter d more hletter, noSign] at full
    cases full
  · have signs : c = '+' ∨ c = '-' := by simpa using hsign
    refine ⟨c, rfl, signs, ?_⟩
    rw [List.cons_append, List.nil_append, hasFullExponent_append h letter c ds hletter,
      Bool.and_eq_true, List.contains_iff_mem] at full
    have noLetter : '.' ≠ letter := by rcases hletter with rfl | rfl <;> decide
    have noSign : '.' ≠ c := by rcases signs with rfl | rfl <;> decide
    simpa [noLetter, noSign, not_mem_point digits] using full.2
  · simp at hsign

theorem sharesNumber_of_writesNumeral {written : List Char} {n : Numeral} {a : Atom}
    (h : WritesNumeral written n) (token : n.token = .scalar a)
    (full : hasFullExponent written = true) : SharesNumber written a := by
  obtain ⟨negative, whole, fraction, exponent⟩ := n
  obtain ⟨digits, leading, fractionDigits, suffix, writes, rfl⟩ := h
  cases writes with
  | absent =>
      cases fraction with
      | none =>
          simp only [Numeral.token] at token
          split at token
          · cases token
          · next short =>
              cases token
              rw [List.append_nil, Json.fractionChars, List.append_nil]
              exact .integer negative digits leading (Nat.le_of_not_lt short)
      | some ds =>
          cases token
          simpa [Json.fractionChars, minus] using
            SharesNumber.decimal negative digits (fractionDigits ds rfl) .absent
  | @present letter sign ds hletter hsign exponentDigits =>
      have front : ∀ c ∈ minus negative ++ whole ++ Json.fractionChars fraction,
          c.isDigit = true ∨ c = '-' ∨ c = '.' := by
        simp only [List.forall_mem_append]
        refine ⟨⟨?_, fun c hc => .inl (digits.2 c hc)⟩, ?_⟩
        · cases negative <;> simp [minus]
        · cases fraction with
          | none => simp [Json.fractionChars]
          | some fds =>
              exact List.forall_mem_cons.mpr
                ⟨.inr (.inr rfl), fun c hc => .inl ((fractionDigits fds rfl).2 c hc)⟩
      obtain ⟨sign, rfl, signs, point⟩ :=
        sign_of_hasFullExponent front hletter hsign exponentDigits full
      cases fraction with
      | none =>
          have noMinus : '.' ∉ minus negative := by cases negative <;> simp [minus]
          simp [Json.fractionChars, noMinus, not_mem_point digits] at point
      | some fds =>
          cases token
          simpa [Json.fractionChars, minus] using SharesNumber.decimal negative digits
            (fractionDigits fds rfl) (.present hletter signs exponentDigits)

/-! ### The kind of a number -/

theorem SharesNumber.chars {written : List Char} {a : Atom} (h : SharesNumber written a) :
    ∀ c ∈ written, IsNumeralChar c := by
  have isDigits {ds : List Char} (h : IsDigits ds) : ∀ c ∈ ds, IsNumeralChar c :=
    fun c hc => .inl (h.2 c hc)
  have sign (negative : Bool) : ∀ c ∈ minus negative, IsNumeralChar c := by
    cases negative
    · simp [minus]
    · exact fun c hc => .inr (by simp_all [minus])
  cases h with
  | integer negative digits =>
      exact List.forall_mem_append.mpr ⟨sign negative, isDigits digits⟩
  | @decimal whole fraction suffix exponent negative digits fractionDigits full =>
      have suffixChars : ∀ c ∈ suffix, IsNumeralChar c := by
        cases full with
        | absent => simp
        | present hletter hsign ds =>
            simp only [List.forall_mem_cons]
            refine ⟨.inr ?_, .inr ?_, isDigits ds⟩
            · rcases hletter with rfl | rfl <;> decide
            · rcases hsign with rfl | rfl <;> decide
      simp only [List.forall_mem_append, List.forall_mem_cons]
      exact ⟨sign negative, isDigits digits, .inr (by decide), isDigits fractionDigits, suffixChars⟩

theorem unsigned_minus {c : Char} (digit : c.isDigit = true) (negative : Bool) (rest : List Char) :
    unsigned (minus negative ++ c :: rest) = c :: rest := by
  cases negative with
  | true => rfl
  | false =>
      exact Number.of_isDigit (fun c => unsigned (c :: rest) = c :: rest) (by simp [unsigned]) digit

/-- A digit comes first, or after the sign. -/
theorem SharesNumber.begins {written : List Char} {a : Atom} (h : SharesNumber written a) :
    ∃ negative c rest, c.isDigit = true ∧ written = minus negative ++ c :: rest := by
  cases h with
  | @integer whole negative digits =>
      obtain ⟨c, whole, rfl⟩ := List.exists_cons_of_ne_nil digits.1
      exact ⟨negative, c, whole, digits.2 c List.mem_cons_self, rfl⟩
  | @decimal whole fraction suffix exponent negative digits =>
      obtain ⟨c, whole, rfl⟩ := List.exists_cons_of_ne_nil digits.1
      exact ⟨negative, c, _, digits.2 c List.mem_cons_self, rfl⟩

/-- A character with which no number begins. -/
def beginsNoNumber (c : Char) : Bool :=
  !(c == '-' || c.isDigit)

theorem ne_number {name : String} (other : name.toList.head?.any beginsNoNumber = true) {c : Char}
    (digit : c.isDigit = true) (negative : Bool) (rest : List Char) :
    name.toList ≠ minus negative ++ c :: rest := by
  intro same
  rw [same] at other
  cases negative with
  | true => cases other
  | false => simp [minus, beginsNoNumber, digit] at other

/-- A number is none of the names. -/
theorem not_named {names : List String}
    (others : ∀ name ∈ names, name.toList.head?.any beginsNoNumber = true) {c : Char}
    (digit : c.isDigit = true) (negative : Bool) (rest : List Char) :
    names.any (·.toList == minus negative ++ c :: rest) = false := by
  rw [List.any_eq_false]
  intro name hname same
  exact ne_number (others name hname) digit negative rest (beq_iff_eq.mp same)

theorem not_isBool {c : Char} (digit : c.isDigit = true) (negative : Bool) (rest : List Char) :
    isBool (minus negative ++ c :: rest) = false := by
  have letters : ∀ word ∈ boolWords, ∀ w ∈ casings word.1,
      w.toList.head?.any beginsNoNumber = true := by
    decide +kernel
  rw [isBool, List.any_eq_false]
  rintro ⟨word, b⟩ hword
  dsimp only
  rw [not_named (letters _ hword) digit negative rest]
  exact Bool.false_ne_true

/-- The kind of a number is found by its notation. -/
theorem tagOfPlain_number {written : List Char} {a : Atom} (h : SharesNumber written a)
    (whole : isFloat written = false → isInt written = true) :
    tagOfPlain (String.ofList written) = if isFloat written then .float else .int := by
  -- words and a lone line feed come before numbers among the kinds
  have noFeed : '\n' ∉ written := fun feed => absurd (h.chars _ feed) (by simp [IsNumeralChar])
  have notFeed : (String.ofList written == "\n") = false := by
    rw [beq_eq_false_iff_ne]
    intro same
    have chars := congrArg String.toList same
    rw [String.toList_ofList] at chars
    exact noFeed (by rw [chars]; decide)
  have noFinal : dropFinalBreak written = written := by
    refine if_neg fun final => noFeed ?_
    exact List.mem_of_getLast? (by simpa using final)
  have noBool : isBool written = false := by
    obtain ⟨negative, c, rest, digit, rfl⟩ := h.begins
    exact not_isBool digit negative rest
  unfold tagOfPlain
  simp only [notFeed, Bool.false_eq_true, if_false, String.toList_ofList, noFinal, noBool]
  cases float : isFloat written with
  | true => rfl
  | false => simp [whole float]

/-! ### Integers -/

theorem isPadded_of_isDigit {c : Char} (h : c.isDigit = true) : isPadded c = true := by
  simp [isPadded, h]

theorem isDigits_of_isDigits {ds : List Char} (h : IsDigits ds) : Yaml.isDigits ds = true := by
  obtain ⟨c, ds, rfl⟩ := List.exists_cons_of_ne_nil h.1
  have padded : ∀ d ∈ c :: ds, isPadded d = true := fun d hd => isPadded_of_isDigit (h.2 d hd)
  rw [Yaml.isDigits, List.all_eq_true.mpr padded]
  simpa using h.2 c List.mem_cons_self

/-- What comes before the point of a number, and what comes from there on. -/
theorem span_point {ds : List Char} (h : IsDigits ds) (rest : List Char)
    (stop : ∀ c ∈ rest.head?, c = '.') : (ds ++ rest).span (· != '.') = (ds, rest) := by
  have others : ∀ c ∈ ds, (c != '.') = true := fun c hc =>
    Number.of_isDigit (fun c => (c != '.') = true) (by decide) (h.2 c hc)
  rw [List.span_eq_takeWhile_dropWhile, List.takeWhile_append_of_pos others,
    List.dropWhile_append_of_pos others]
  cases rest with
  | nil => simp
  | cons c rest =>
      obtain rfl := stop c rfl
      simp

theorem isInt_integer {whole : List Char} (digits : IsDigits whole)
    (leading : whole = ['0'] ∨ whole.head? ≠ some '0') (negative : Bool) :
    isInt (minus negative ++ whole) = true := by
  obtain ⟨c, rest, rfl⟩ := List.exists_cons_of_ne_nil digits.1
  rw [isInt, unsigned_minus (digits.2 c List.mem_cons_self)]
  rcases leading with zero | nonzero
  · rw [zero]
    rfl
  · have other : c ≠ '0' := by simpa using nonzero
    have decimal : isDecimal (c :: rest) = true := by
      rw [isDecimal, isDigits_of_isDigits digits]
      simpa using other
    simp [other, decimal]

/-! ### Floating-point numbers -/

theorem not_isFloat {whole : List Char} (digits : IsDigits whole) (negative : Bool) :
    isFloat (minus negative ++ whole) = false := by
  have span := span_point digits [] (by simp)
  rw [List.append_nil] at span
  obtain ⟨c, rest, rfl⟩ := List.exists_cons_of_ne_nil digits.1
  have digit := digits.2 c List.mem_cons_self
  have noInfinity : [".inf", ".Inf", ".INF"].any (·.toList == c :: rest) = false :=
    not_named (by decide) digit false rest
  have noNumber : [".nan", ".NaN", ".NAN"].any (·.toList == minus negative ++ c :: rest) = false :=
    not_named (by decide) digit negative rest
  unfold isFloat
  rw [unsigned_minus digit]
  dsimp only
  rw [noInfinity, noNumber, span]
  rfl

theorem isFloat_point {whole fraction : List Char} (digits : IsDigits whole) (negative : Bool)
    (h : isFraction true fraction = true) :
    isFloat (minus negative ++ (whole ++ '.' :: fraction)) = true := by
  have span := span_point digits ('.' :: fraction) (by simp)
  have isDigits := isDigits_of_isDigits digits
  obtain ⟨c, rest, rfl⟩ := List.exists_cons_of_ne_nil digits.1
  rw [List.cons_append] at span ⊢
  unfold isFloat
  rw [unsigned_minus (digits.2 c List.mem_cons_self)]
  dsimp only
  rw [span]
  simp [isDigits, h]

theorem isFraction_written {fraction suffix : List Char} {exponent : Int}
    (digits : IsDigits fraction) (full : WritesFullExponent suffix exponent) :
    isFraction true (fraction ++ suffix) = true := by
  have padded : ∀ c ∈ fraction, isPadded c = true := fun c hc => isPadded_of_isDigit (digits.2 c hc)
  rw [isFraction, if_pos rfl, List.dropWhile_append_of_pos padded]
  cases full with
  | absent => rfl
  | @present letter sign ds hletter hsign exponentDigits =>
      have run : isRun Char.isDigit ds = true := by
        simp [isRun, exponentDigits.1, List.all_eq_true.mpr exponentDigits.2]
      have noPad : isPadded letter = false := by rcases hletter with rfl | rfl <;> rfl
      rw [List.dropWhile_cons_of_neg (by simp [noPad]), isExponent, run]
      rcases hletter with rfl | rfl <;> rcases hsign with rfl | rfl <;> rfl

/-! ### The value of a number -/

theorem withoutPadding_number {written : List Char} {a : Atom} (h : SharesNumber written a) :
    withoutPadding (String.ofList written) = written := by
  rw [withoutPadding, String.toList_ofList, List.filter_eq_self]
  exact fun c hc => (h.chars c hc).of_all (fun c => (c != '_') = true) (by decide) (by decide)

theorem head_minus {c : Char} (digit : c.isDigit = true) (negative : Bool) (rest : List Char) :
    ((minus negative ++ c :: rest).head? == some '-') = negative := by
  cases negative with
  | true => rfl
  | false =>
      exact Number.of_isDigit (fun c => (some c == some '-') = false) (by decide) digit

theorem magnitude_integer {whole : List Char} (digits : IsDigits whole)
    (leading : whole = ['0'] ∨ whole.head? ≠ some '0')
    (short : whole.length ≤ Number.maxIntegerDigits) :
    magnitude whole = .ok (Number.natOfDigits whole : Int) := by
  rcases leading with rfl | nonzero
  · rfl
  · obtain ⟨c, rest, rfl⟩ := List.exists_cons_of_ne_nil digits.1
    have other : c ≠ '0' := by simpa using nonzero
    have noColon : (c :: rest).contains ':' = false := by
      rw [Bool.eq_false_iff]
      exact fun colon => absurd (digits.2 ':' (List.contains_iff_mem.mp colon)) (by decide)
    have reads : integerIn 10 (c :: rest) = .ok (Number.natOfDigits (c :: rest) : Int) := by
      rw [integerIn, if_pos rfl, Number.readInteger_digits digits.2 digits.1 short]
      rfl
    unfold magnitude
    split
    · next none => cases none
    · next zero => cases zero; exact absurd rfl other
    · next zero => cases zero; exact absurd rfl other
    · next zero => cases zero; exact absurd rfl other
    · next zero => cases zero; exact absurd rfl other
    · rw [noColon, if_neg Bool.false_ne_true, reads]

theorem integerOf_integer {whole : List Char} (negative : Bool) (digits : IsDigits whole)
    (leading : whole = ['0'] ∨ whole.head? ≠ some '0')
    (short : whole.length ≤ Number.maxIntegerDigits) :
    integerOf (String.ofList (minus negative ++ whole)) =
      .ok (if negative then -(Number.natOfDigits whole : Int) else Number.natOfDigits whole) := by
  have plain := withoutPadding_number (.integer negative digits leading short)
  have reads := magnitude_integer digits leading short
  obtain ⟨c, rest, rfl⟩ := List.exists_cons_of_ne_nil digits.1
  have digit := digits.2 c List.mem_cons_self
  have nonempty : (minus negative ++ c :: rest).isEmpty = false := by simp
  unfold integerOf
  rw [plain]
  simp only [nonempty, unsigned_minus digit, reads, head_minus digit]
  rfl

/-- The characters of a number in small letters. -/
theorem lower_ascii {s : List Char} (h : ∀ c ∈ s, c.toNat < 0x80) :
    (Text.lower (String.ofList s)).toList = s.map Char.toLower := by
  have chars : ∀ (s before : List Char), (∀ c ∈ s, c.toNat < 0x80) →
      Text.lowerFrom before s = s.map Char.toLower := by
    intro s
    induction s with
    | nil => intros; rfl
    | cons c s ih =>
        intro before small
        obtain ⟨here, small⟩ := List.forall_mem_cons.mp small
        have other (d : Char) (large : ¬d.toNat < 0x80) : (c == d) = false :=
          beq_eq_false_iff_ne.mpr fun same => large (same ▸ here)
        have noSigma : (c == 'Σ') = false := other _ (by decide)
        have noDotted : (c == 'İ') = false := other _ (by decide)
        simp [Text.lowerFrom, noSigma, noDotted, Text.lowerChar, here, ih _ small]
  rw [Text.lower, String.toList_ofList, String.toList_ofList, chars s [] h]

theorem map_toLower_of_isDigits {ds : List Char} (h : IsDigits ds) : ds.map Char.toLower = ds := by
  have same : ∀ c ∈ ds, c.toLower = id c := fun c hc =>
    Number.of_isDigit (fun c => c.toLower = id c) (by decide) (h.2 c hc)
  rw [List.map_congr_left same, List.map_id]

theorem WritesFullExponent.final {suffix : List Char} {exponent : Int}
    (h : WritesFullExponent suffix exponent) :
    Number.WritesFinal (suffix.map Char.toLower) exponent := by
  cases h with
  | absent => exact .absent
  | @present letter sign ds hletter hsign digits =>
      have lowerLetter : letter.toLower = 'e' := by rcases hletter with rfl | rfl <;> rfl
      have lowerSign : sign.toLower = sign := by rcases hsign with rfl | rfl <;> rfl
      rw [List.map_cons, List.map_cons, lowerLetter, lowerSign, map_toLower_of_isDigits digits]
      exact .present hsign digits.1 digits.2

/-- A number without its sign, in small letters, is read as that number. -/
theorem floatIn_decimal {whole fraction suffix : List Char} {exponent : Int}
    (digits : IsDigits whole) (fractionDigits : IsDigits fraction)
    (full : WritesFullExponent suffix exponent) :
    floatIn (whole ++ '.' :: (fraction ++ suffix.map Char.toLower)) =
      .ok ((Number.Decimal.ofParts whole fraction exponent).nearest false) := by
  rw [floatIn, Number.readFreeFloat_written digits.1 digits.2 fractionDigits.1 fractionDigits.2
    full.final]

theorem floatOf_decimal {whole fraction suffix : List Char} {exponent : Int} (negative : Bool)
    (digits : IsDigits whole) (fractionDigits : IsDigits fraction)
    (full : WritesFullExponent suffix exponent) :
    floatOf (String.ofList (minus negative ++ (whole ++ '.' :: (fraction ++ suffix)))) =
      .ok ((Number.Decimal.ofParts whole fraction exponent).nearest negative) := by
  have shares := SharesNumber.decimal negative digits fractionDigits full
  have plain := withoutPadding_number shares
  have ascii : ∀ c ∈ minus negative ++ (whole ++ '.' :: (fraction ++ suffix)), c.toNat < 0x80 :=
    fun c hc => (shares.chars c hc).of_all (·.toNat < 0x80) (by decide) (by decide)
  have lowered : (minus negative ++ (whole ++ '.' :: (fraction ++ suffix))).map Char.toLower =
      minus negative ++ (whole ++ '.' :: (fraction ++ suffix.map Char.toLower)) := by
    have sign : (minus negative).map Char.toLower = minus negative := by cases negative <;> rfl
    simp only [List.map_append, List.map_cons, sign, map_toLower_of_isDigits digits,
      map_toLower_of_isDigits fractionDigits]
    rfl
  -- a colon would make a number in base sixty
  have noColon : (whole ++ '.' :: (fraction ++ suffix.map Char.toLower)).contains ':' = false := by
    rw [Bool.eq_false_iff]
    intro colon
    have among : ':' ∈ minus negative ++ (whole ++ '.' :: (fraction ++ suffix.map Char.toLower)) :=
      List.mem_append_right _ (List.contains_iff_mem.mp colon)
    rw [← lowered] at among
    obtain ⟨c, hc, same⟩ := List.mem_map.mp among
    exact (shares.chars c hc).of_all (fun c => c.toLower ≠ ':') (by decide) (by decide) same
  have reads := floatIn_decimal digits fractionDigits full
  have begins : ∃ c body, c.isDigit = true ∧
      whole ++ '.' :: (fraction ++ suffix.map Char.toLower) = c :: body := by
    obtain ⟨c, rest, rfl⟩ := List.exists_cons_of_ne_nil digits.1
    exact ⟨c, _, digits.2 c List.mem_cons_self, rfl⟩
  obtain ⟨c, body, digit, hbody⟩ := begins
  have noInfinity : (c :: body == ".inf".toList) = false :=
    beq_eq_false_iff_ne.mpr (ne_number (by decide) digit false body).symm
  have noNumber : (c :: body == ".nan".toList) = false :=
    beq_eq_false_iff_ne.mpr (ne_number (by decide) digit false body).symm
  have nonempty : (minus negative ++ c :: body).isEmpty = false := by simp
  unfold floatOf
  rw [plain, lower_ascii ascii, lowered, hbody]
  rw [hbody] at noColon reads
  simp only [nonempty, unsigned_minus digit, noInfinity, noNumber, noColon, reads, head_minus digit,
    Bool.false_eq_true, if_false]
  cases negative with
  | false => rfl
  | true => exact congrArg Except.ok (Number.negated_nearest _)

/-! ### Shared scalars -/

theorem writesPlain_of_tag {written : String} {tag : Tag} {a : Atom}
    (kind : tagOfPlain written = tag) (single : tag.isCollection = false)
    (atom : tag.atom written = .ok a) : WritesPlain written a := by
  subst kind
  exact ⟨single, atom⟩

theorem writesPlain_null : WritesPlain "null" .null :=
  writesPlain_of_tag (show tagOfPlain _ = .null by decide +kernel) rfl rfl

theorem writesPlain_bool (b : Bool) : WritesPlain (if b then "true" else "false") (.bool b) := by
  cases b
  · exact writesPlain_of_tag (show tagOfPlain _ = .bool by decide +kernel) rfl rfl
  · exact writesPlain_of_tag (show tagOfPlain _ = .bool by decide +kernel) rfl rfl

/-- **A number that both notations share** stands for itself as a plain scalar. -/
theorem SharesNumber.writesPlain {written : List Char} {a : Atom} (h : SharesNumber written a) :
    WritesPlain (String.ofList written) a := by
  cases id h with
  | @integer whole negative digits leading short =>
      have noPoint : isFloat (minus negative ++ whole) = false := not_isFloat digits negative
      have kind := tagOfPlain_number h fun _ => isInt_integer digits leading negative
      rw [noPoint, if_neg Bool.false_ne_true] at kind
      refine writesPlain_of_tag kind rfl ?_
      rw [Tag.atom, integerOf_integer negative digits leading short]
      rfl
  | decimal negative digits fractionDigits full =>
      have point := isFloat_point digits negative (isFraction_written fractionDigits full)
      have kind := tagOfPlain_number h fun noPoint => absurd (point.symm.trans noPoint) (by decide)
      rw [point, if_pos rfl] at kind
      refine writesPlain_of_tag kind rfl ?_
      rw [Tag.atom, floatOf_decimal negative digits fractionDigits full]
      rfl

end Verdict.Yaml
