import Verdict.Proofs.Yaml.Numeral
import Verdict.Proofs.Yaml.Sharing

/-!
# YAML: the notation of JSON that it shares

When a text of JSON is written in a way that YAML shares (`Json.isShared`): no tabs, no line breaks
within strings, no pairs of escapes for one character, exponents in full, none of the names of
numbers, and names of members with their colon near by.  Its lexemes are scanned as the tokens that
they are in JSON (`shares_of_isShared`), and its plain scalars stand for the same atoms
(`shares_scalar`).
-/

namespace Verdict.Json

/-! ### The notation that YAML shares -/

/-- A character that YAML allows and that has no meaning of its own there: it is no tab, which may
not stand between tokens, and no line break that JSON takes for a character. -/
def isSharedChar (c : Char) : Bool :=
  Yaml.isAllowed c && c != '\t' && !(c.toNat == 0x85 || c.toNat == 0x2028 || c.toNat == 0x2029)

/-- A string in which no two escapes are the halves of one character. -/
def hasNoPairs (written : List Char) : Bool :=
  match scanString written.tail with
  | .closed units _ => Yaml.isUnpaired units
  | _ => false

/-- What the lexeme writes is written in a way that YAML shares. -/
def Lexeme.isShared (l : Lexeme) : Bool :=
  match l.token with
  | .text _ => hasNoPairs l.written
  | .scalar _ => Yaml.sharesScalar l.written
  | _ => true

/-- The next lexeme is no colon, or one that makes a key of what is written before it: it is on the
same line and not too far from the beginning of that. -/
def reaches (written : List Char) (next : Lexeme) : Bool :=
  match next.token with
  | .colon => next.blanks.all (· == ' ') &&
      decide (written.length + next.blanks.length ≤ Yaml.Scanning.keyReach)
  | _ => true

/-- The lexemes are written in a way that YAML shares. -/
def areShared : List Lexeme → Bool
  | [] => true
  | l :: rest => l.isShared && rest.head?.all (reaches l.written) && areShared rest

/-- The text of JSON is written in a way that YAML shares. -/
def isShared (text : List Char) : Bool :=
  text.all isSharedChar && areShared (lexemes text)

/-! ### Lexemes -/

theorem not_isBreak_of_isSharedChar {c : Char} (shared : isSharedChar c = true)
    (noControl : 0x20 ≤ c.toNat) : Yaml.isBreak c = false := by
  simp only [isSharedChar, Bool.and_eq_true, Bool.not_eq_true', Bool.or_eq_false_iff] at shared
  obtain ⟨-, ⟨noNext, noLine⟩, noParagraph⟩ := shared
  have other (d : Char) (control : ¬0x20 ≤ d.toNat) : (c == d) = false :=
    beq_eq_false_iff_ne.mpr fun same => control (same ▸ noControl)
  have noFeed : (c == '\n') = false := other _ (by decide)
  have noReturn : (c == '\r') = false := other _ (by decide)
  simp [Yaml.isBreak, noFeed, noReturn, noNext, noLine, noParagraph]

theorem not_scalar_of_mark {c : Char} {t : Token} (h : mark? c = some t) (a : Atom) :
    t ≠ .scalar a := by
  unfold mark? at h
  split at h <;> first | (cases h; nofun) | cases h

/-- A number in shared notation. -/
theorem sharesNumber_of_sharesScalar {written : List Char} {n : Numeral} {a : Atom}
    (h : WritesNumeral written n) (token : n.token = .scalar a)
    (shared : Yaml.sharesScalar written = true) : Yaml.SharesNumber written a := by
  refine Yaml.sharesNumber_of_writesNumeral h token ?_
  rw [Yaml.sharesScalar, Bool.or_eq_true, Bool.and_eq_true] at shared
  rcases shared with word | ⟨-, full⟩
  · obtain ⟨word, among, same⟩ := List.any_eq_true.mp word
    obtain ⟨suffix, -, hwritten⟩ := h.parts
    obtain ⟨c, whole, hwhole⟩ := List.exists_cons_of_ne_nil h.whole.1
    have digit : c.isDigit = true := h.whole.2 c (by rw [hwhole]; exact List.mem_cons_self)
    have letters : ∀ word ∈ ["null", "true", "false"],
        word.toList.head?.any Yaml.beginsNoNumber = true := by decide
    refine absurd ?_ (Yaml.ne_number (letters word among) digit n.negative
      (whole ++ Json.fractionChars n.fraction ++ suffix))
    rw [beq_iff_eq.mp same, hwritten, hwhole]
    simp [Yaml.minus]
  · exact full

/-- A scalar in shared notation is scanned as a plain scalar, which stands for its atom. -/
theorem shares_scalar {written : List Char} {a : Atom} (writes : Writes written (.scalar a))
    (shared : Yaml.sharesScalar written = true) :
    Yaml.Shares written (.scalar a) ∧ Yaml.WritesPlain (String.ofList written) a := by
  generalize htoken : Token.scalar a = t at writes
  cases writes with
  | mark h => exact absurd htoken.symm (not_scalar_of_mark h a)
  | text => cases htoken
  | @word _ b h =>
      cases htoken
      simp only [words, List.mem_cons, Prod.mk.injEq, List.not_mem_nil, or_false] at h
      rcases h with ⟨rfl, rfl⟩ | ⟨rfl, rfl⟩ | ⟨rfl, rfl⟩ | ⟨rfl, rfl⟩ | ⟨rfl, rfl⟩ | ⟨rfl, rfl⟩
      · exact ⟨.word .null (c := 'n') (by decide) (by decide), Yaml.writesPlain_null⟩
      · exact ⟨.word _ (c := 't') (by decide) (by decide), Yaml.writesPlain_bool true⟩
      · exact ⟨.word _ (c := 'f') (by decide) (by decide), Yaml.writesPlain_bool false⟩
      all_goals exact absurd shared (by decide)
  | numeral h =>
      have number := sharesNumber_of_sharesScalar h htoken.symm shared
      have chars : ∀ c ∈ written, Yaml.isPlainChar c = true := fun c hc =>
        (number.chars c hc).of_all (Yaml.isPlainChar · = true) (by decide) (by decide)
      obtain ⟨negative, c, rest, digit, hwritten⟩ := number.begins
      have letter : c.isAlphanum = true := by simp [Char.isAlphanum, digit]
      have begins : written = c :: rest ∨ written = '-' :: c :: rest := by
        cases negative with
        | true => exact .inr hwritten
        | false => exact .inl hwritten
      rw [← htoken]
      exact ⟨.scalar a letter chars begins, number.writesPlain⟩

/-- A string in shared notation is scanned as the same string. -/
theorem shares_text {body : List Char} {units : List Nat} (h : WritesUnits body units)
    (shared : hasNoPairs ('"' :: body ++ ['"']) = true)
    (chars : ∀ c ∈ body, isSharedChar c = true) :
    Yaml.Shares ('"' :: body ++ ['"']) (.text (String.ofList (charsOfUnits units))) := by
  have scanned : scanString (body ++ ['"']) = .closed units [] := scanString_of_writesUnits h []
  simp only [hasNoPairs, List.cons_append, List.tail_cons, scanned] at shared
  exact .text h shared fun c hc => not_isBreak_of_isSharedChar (chars c hc) (h.noControl c hc)

theorem Numeral.token_cases (n : Numeral) :
    (∃ a, n.token = .scalar a) ∨ ∃ fault, n.token = .broken false fault := by
  unfold token
  split
  · split
    · exact .inr ⟨_, rfl⟩
    · exact .inl ⟨_, rfl⟩
  · exact .inl ⟨_, rfl⟩

/-- What is written is a mark, a string, another scalar, or a number that is too long. -/
theorem Writes.kinds : ∀ {written : List Char} {t : Token}, Writes written t →
    (∃ c, written = [c] ∧ mark? c = some t) ∨
    (∃ body units, written = '"' :: body ++ ['"'] ∧ t = .text (String.ofList (charsOfUnits units)) ∧
      WritesUnits body units) ∨
    (∃ a, t = .scalar a) ∨ ∃ fault, t = .broken false fault
  | _, _, .mark h => .inl ⟨_, rfl, h⟩
  | _, _, .text h => .inr (.inl ⟨_, _, rfl, rfl, h⟩)
  | _, _, .word _ => .inr (.inr (.inl ⟨_, rfl⟩))
  | _, _, .numeral _ => .inr (.inr (Numeral.token_cases _))

theorem shares_mark {c : Char} {t : Token} (h : mark? c = some t) : Yaml.Shares [c] t := by
  unfold mark? at h
  split at h <;> cases h <;> constructor

/-- A lexeme in shared notation is scanned as the token that it is in JSON. -/
theorem shares_of_isShared {l : Lexeme} (writes : Writes l.written l.token)
    (proper : l.token.IsProper) (shared : l.isShared = true)
    (chars : ∀ c ∈ l.written, isSharedChar c = true) : Yaml.Shares l.written l.token := by
  obtain ⟨blanks, written, t⟩ := l
  rcases writes.kinds with ⟨c, rfl, h⟩ | ⟨body, units, rfl, rfl, h⟩ | ⟨a, rfl⟩ | ⟨fault, rfl⟩
  · exact shares_mark h
  · exact shares_text h shared fun c hc => chars c (by simp [hc])
  · exact (shares_scalar writes shared).1
  · exact proper.elim

theorem isShared_of_mem {ls : List Lexeme} (shared : areShared ls = true) :
    ∀ l ∈ ls, l.isShared = true := by
  induction ls with
  | nil => simp
  | cons l ls ih =>
      simp only [areShared, Bool.and_eq_true] at shared
      exact List.forall_mem_cons.mpr ⟨shared.1.1, ih shared.2⟩

/-- The plain scalars among lexemes in shared notation stand for their atoms. -/
theorem arePlain_of_areShared {ls : List Lexeme} (shared : areShared ls = true)
    (written : ∀ l ∈ ls, l.IsWritten) : Yaml.ArePlain (ls.map Lexeme.sign) := by
  intro a characters hsign
  obtain ⟨⟨blanks, chars, t⟩, hl, hsign⟩ := List.mem_map.mp hsign
  have here := isShared_of_mem shared _ hl
  have writes := (written _ hl).writes
  cases t with
  | scalar b =>
      cases hsign
      exact (shares_scalar writes here).2
  | _ => cases hsign

end Verdict.Json
