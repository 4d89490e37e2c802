import Verdict.Number.Binary64
import Verdict.Proofs.Number.Digits

/-!
# Numbers: written decimals

A number that is written with a point, and maybe with an exponent that has a sign, is read as the
decimal of its parts (`readFreeFloat_written`); a minus sign before it gives the number of the same
decimal with the other sign (`negated_nearest`).
-/

namespace Verdict.Number

/-! ### Signs -/

theorem negated_ofParts (significand : Nat) (exponent : Int) :
    (Binary64.ofParts false significand exponent).negated = .ofParts true significand exponent := by
  unfold Binary64.ofParts
  split <;> rfl

theorem negated_ofQuotient (num den : Nat) :
    (Binary64.ofQuotient false num den).negated = .ofQuotient true num den := by
  unfold Binary64.ofQuotient
  split
  · rfl
  · dsimp only
    split <;> exact negated_ofParts _ _

/-- The number nearest to a decimal with a minus sign. -/
theorem negated_nearest (d : Decimal) : (d.nearest false).negated = d.nearest true := by
  unfold Decimal.nearest
  dsimp only
  split
  · rfl
  · split
    · rfl
    · split
      · rfl
      · exact negated_ofQuotient _ _

/-! ### Characters of numbers -/

/-- A digit, or one of the other characters that numbers are written with. -/
def IsNumeralChar (c : Char) : Prop :=
  c.isDigit = true ∨ c ∈ ['-', '+', '.', 'e', 'E']

/-- What holds of the ten digits and the five others holds of such a character. -/
theorem IsNumeralChar.of_all (P : Char → Prop) [DecidablePred P]
    (ten : ['0', '1', '2', '3', '4', '5', '6', '7', '8', '9'].all (fun d => decide (P d)) = true)
    (five : ['-', '+', '.', 'e', 'E'].all (fun c => decide (P c)) = true) {c : Char}
    (h : IsNumeralChar c) : P c :=
  h.elim (of_isDigit P ten) fun among => of_decide_eq_true (List.all_eq_true.mp five c among)

/-! ### Reading -/

/-- The characters after which an exponent has a sign, or no exponent. -/
inductive WritesFinal : List Char → Int → Prop where
  | absent : WritesFinal [] 0
  | present {sign : Char} {ds : List Char} (hsign : sign = '+' ∨ sign = '-') (nonempty : ds ≠ [])
      (digits : ∀ c ∈ ds, c.isDigit = true) : WritesFinal ('e' :: sign :: ds)
        (if sign = '-' then -(natOfDigits ds : Int) else natOfDigits ds)

theorem finalExponent_written {suffix : List Char} {exponent : Int}
    (h : WritesFinal suffix exponent) : finalExponent? suffix = some exponent := by
  cases h with
  | absent => rfl
  | @present sign ds hsign nonempty digits =>
      have scanned : scanDigits true (ds ++ []) = some (ds, []) :=
        scanDigits_append digits (by simp) true (by simp [nonempty])
      rw [List.append_nil] at scanned
      rcases hsign with rfl | rfl <;> simp [finalExponent?, scanSign, scanned]

theorem optionalDigits_append {ds rest : List Char} (nonempty : ds ≠ [])
    (digits : ∀ c ∈ ds, c.isDigit = true)
    (stop : ∀ c, rest.head? = some c → c.isDigit = false ∧ c ≠ '_') :
    optionalDigits (ds ++ rest) = some (ds, rest) := by
  obtain ⟨c, ds, rfl⟩ := List.exists_cons_of_ne_nil nonempty
  rw [List.cons_append, optionalDigits, if_pos (digits c List.mem_cons_self), ← List.cons_append]
  exact scanDigits_append digits stop false (by simp)

/-- The parts of a decimal. -/
theorem decimal_written {whole fraction suffix : List Char} {exponent : Int} (hwhole : whole ≠ [])
    (wholeDigits : ∀ c ∈ whole, c.isDigit = true) (hfraction : fraction ≠ [])
    (fractionDigits : ∀ c ∈ fraction, c.isDigit = true) (h : WritesFinal suffix exponent) :
    decimal? (whole ++ '.' :: (fraction ++ suffix)) = some (.ofParts whole fraction exponent) := by
  have stop : ∀ c, suffix.head? = some c → c.isDigit = false ∧ c ≠ '_' := by
    cases h with
    | absent => simp
    | present => rintro _ ⟨⟩; decide
  unfold decimal?
  rw [optionalDigits_append hwhole wholeDigits (by rintro _ ⟨⟩; decide)]
  show (optionalDigits (fraction ++ suffix) >>= fun p => _) = _
  rw [optionalDigits_append hfraction fractionDigits stop]
  simp [hwhole, finalExponent_written h]

/-- What begins with a digit is not the name of a number. -/
theorem namedNumber_digit {c : Char} (digit : c.isDigit = true) (rest : List Char) :
    namedNumber? (c :: rest) = none := by
  have other (word : String) (hword : word.toList.head?.any Char.isDigit = false) :
      String.ofList ((c :: rest).map Char.toLower) ≠ word := by
    rintro rfl
    rw [String.toList_ofList] at hword
    have lower : c.toLower = c := of_isDigit (fun c => c.toLower = c) (by decide) digit
    simp [lower, digit] at hword
  unfold namedNumber?
  split
  · next h => exact absurd h (other _ (by decide))
  · next h => exact absurd h (other _ (by decide))
  · next h => exact absurd h (other _ (by decide))
  · rfl

theorem trimBy_of_none {p : Char → Bool} {s : List Char} (h : ∀ c ∈ s, p c = false) :
    Text.trimBy p s = s := by
  have same {t : List Char} (ht : ∀ c ∈ t, p c = false) : t.dropWhile p = t := by
    cases t with
    | nil => rfl
    | cons c t => rw [List.dropWhile_cons_of_neg (by simp [ht c])]
  rw [Text.trimBy, same h, same (by simpa using h), List.reverse_reverse]

/-- **A number that is written with a point** is read as the decimal of its parts. -/
theorem readFreeFloat_written {whole fraction suffix : List Char} {exponent : Int}
    (hwhole : whole ≠ []) (wholeDigits : ∀ c ∈ whole, c.isDigit = true) (hfraction : fraction ≠ [])
    (fractionDigits : ∀ c ∈ fraction, c.isDigit = true) (h : WritesFinal suffix exponent) :
    readFreeFloat? (whole ++ '.' :: (fraction ++ suffix)) =
      some ((Decimal.ofParts whole fraction exponent).nearest false) := by
  have chars : ∀ c ∈ whole ++ '.' :: (fraction ++ suffix), IsNumeralChar c := by
    have suffixChars : ∀ c ∈ suffix, IsNumeralChar c := by
      cases h with
      | absent => simp
      | present hsign _ digits =>
          simp only [List.forall_mem_cons]
          exact ⟨.inr (by decide), .inr (by rcases hsign with rfl | rfl <;> decide),
            fun c hc => .inl (digits c hc)⟩
    simp only [List.forall_mem_append, List.forall_mem_cons]
    exact ⟨fun c hc => .inl (wholeDigits c hc), .inr (by decide),
      fun c hc => .inl (fractionDigits c hc), suffixChars⟩
  -- digits of other scripts and blanks around are read too, but there are none here
  have ascii : toAsciiDigits (whole ++ '.' :: (fraction ++ suffix)) = _ :=
    toAsciiDigits_of_ascii fun c hc =>
      (chars c hc).of_all (·.toNat < 0x7F) (by decide) (by decide)
  have noBlank : ∀ c ∈ whole ++ '.' :: (fraction ++ suffix), Text.isAsciiBlank c = false :=
    fun c hc => (chars c hc).of_all (Text.isAsciiBlank · = false) (by decide) (by decide)
  have decimal := decimal_written hwhole wholeDigits hfraction fractionDigits h
  rw [readFreeFloat?, ascii, trimBy_of_none noBlank]
  obtain ⟨c, whole, rfl⟩ := List.exists_cons_of_ne_nil hwhole
  have digit : c.isDigit = true := wholeDigits c List.mem_cons_self
  rw [List.cons_append] at decimal ⊢
  rw [readFloat?, scanSign_of_isDigit digit]
  dsimp only
  rw [namedNumber_digit digit, decimal]
  rfl

end Verdict.Number
