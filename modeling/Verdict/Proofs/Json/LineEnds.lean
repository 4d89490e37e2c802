import Mathlib.Data.List.Find
import Verdict.Proofs.Json.Lexeme
import Verdict.Proofs.Text.LineEnds

/-!
# JSON: line ends

A text stands for the same in JSON when its line ends become line feeds (`read_unifyLineEnds`).
Between tokens every line end is a blank; within them there is none, since a string that holds one
is refused.  What changes is where a fault is found.
-/

namespace Verdict.Json

open Text

/-! ### Numbers -/

theorem splitDigits_unifyLineEnds (s : List Char) :
    splitDigits (unifyLineEnds s) = ((splitDigits s).1, unifyLineEnds (splitDigits s).2) := by
  rw [splitDigits, takeWhile_unifyLineEnds (by decide) (by decide),
    dropWhile_unifyLineEnds (by decide)]
  rfl

theorem ne_return_of_isDigit {c : Char} (digit : c.isDigit = true) : c ≠ '\r' := by
  rintro rfl
  cases digit

theorem scanWhole_unifyLineEnds (s : List Char) : scanWhole (unifyLineEnds s) =
    (scanWhole s).map fun (whole, rest) => (whole, unifyLineEnds rest) := by
  fun_cases scanWhole s with
  | case1 rest => rw [unifyLineEnds_cons (by decide)]; rfl
  | case2 c rest noZero digit =>
      have split := splitDigits_unifyLineEnds (c :: rest)
      rw [unifyLineEnds_cons (ne_return_of_isDigit digit)] at split ⊢
      rw [scanWhole, if_pos digit, split]
      · rfl
      · exact noZero
  | case3 c rest noZero noDigit =>
      obtain ⟨d, rest', unified, rfl | rfl⟩ := exists_unifyLineEnds_cons c rest
      · rw [unified, scanWhole, if_neg noDigit]
        · rfl
        · exact noZero
      · rw [unified]
        rfl
  | case4 => rfl

theorem scanFraction_unifyLineEnds (s : List Char) : scanFraction (unifyLineEnds s) =
    ((scanFraction s).1, unifyLineEnds (scanFraction s).2) := by
  fun_cases scanFraction s with
  | case1 c rest digit ds rest' split =>
      have split' := splitDigits_unifyLineEnds (c :: rest)
      rw [unifyLineEnds_cons (ne_return_of_isDigit digit), split] at split'
      rw [unifyLineEnds_cons (by decide), unifyLineEnds_cons (ne_return_of_isDigit digit),
        scanFraction, if_pos digit, split']
  | case2 c rest noDigit =>
      rw [unifyLineEnds_cons (by decide)]
      obtain ⟨d, rest', unified, rfl | rfl⟩ := exists_unifyLineEnds_cons c rest
      · rw [unified, scanFraction, if_neg noDigit]
      · rw [unified]
        rfl
  | case3 s noFraction =>
      rw [scanFraction]
      intro c rest begins
      obtain ⟨rest', rfl, unified⟩ := eq_append_of_unifyLineEnds ['.'] (by decide) begins
      cases rest' with
      | nil => cases unified
      | cons c rest => exact noFraction c rest rfl

theorem scanSign_unifyLineEnds (s : List Char) : Number.scanSign (unifyLineEnds s) =
    ((Number.scanSign s).1, unifyLineEnds (Number.scanSign s).2) := by
  fun_cases Number.scanSign s with
  | case1 rest | case2 rest => rw [unifyLineEnds_cons (by decide)]; rfl
  | case3 s noMinus noPlus =>
      rw [Number.scanSign]
      · intro rest begins
        obtain ⟨rest', rfl, -⟩ := eq_append_of_unifyLineEnds ['-'] (by decide) begins
        exact noMinus rest' rfl
      · intro rest begins
        obtain ⟨rest', rfl, -⟩ := eq_append_of_unifyLineEnds ['+'] (by decide) begins
        exact noPlus rest' rfl

theorem scanExponent_unifyLineEnds (s : List Char) : scanExponent (unifyLineEnds s) =
    ((scanExponent s).1, unifyLineEnds (scanExponent s).2) := by
  have isLetter {c : Char} (letter : (c == 'e' || c == 'E') = true) : c ≠ '\r' := by
    rintro rfl
    cases letter
  have signed {rest digits : List Char} {negative : Bool}
      (sign : Number.scanSign rest = (negative, digits)) :
      Number.scanSign (unifyLineEnds rest) = (negative, unifyLineEnds digits) := by
    rw [scanSign_unifyLineEnds, sign]
  fun_cases scanExponent s with
  | case1 c rest letter negative digits sign _ split =>
      have split' := splitDigits_unifyLineEnds digits
      rw [split] at split'
      rw [unifyLineEnds_cons (isLetter letter), scanExponent, if_pos letter]
      simp only [signed sign, split']
  | case2 c rest letter negative digits sign ds rest' nonempty split =>
      have split' := splitDigits_unifyLineEnds digits
      rw [split] at split'
      rw [unifyLineEnds_cons (isLetter letter), scanExponent, if_pos letter]
      simp only [signed sign, split']
      rfl
  | case3 c rest noLetter =>
      obtain ⟨d, rest', unified, rfl | rfl⟩ := exists_unifyLineEnds_cons c rest
      · rw [unified, scanExponent, if_neg noLetter]
      · rw [unified]
        rfl
  | case4 => rfl

theorem scanUnsigned_unifyLineEnds (negative : Bool) (s : List Char) :
    scanUnsigned negative (unifyLineEnds s) =
      (scanUnsigned negative s).map fun (numeral, rest) => (numeral, unifyLineEnds rest) := by
  rw [scanUnsigned, scanUnsigned, scanWhole_unifyLineEnds]
  cases scanWhole s with
  | none => rfl
  | some whole =>
      simp only [Option.map_some, scanFraction_unifyLineEnds, scanExponent_unifyLineEnds]

theorem scanNumeral_unifyLineEnds (s : List Char) : scanNumeral (unifyLineEnds s) =
    (scanNumeral s).map fun (numeral, rest) => (numeral, unifyLineEnds rest) := by
  by_cases minus : s.head? = some '-'
  · obtain ⟨rest, rfl⟩ := List.head?_eq_some_iff.mp minus
    rw [unifyLineEnds_cons (by decide)]
    exact scanUnsigned_unifyLineEnds true rest
  · have noMinus : (unifyLineEnds s).head? ≠ some '-' := by
      intro begins
      obtain ⟨rest, begins⟩ := List.head?_eq_some_iff.mp begins
      obtain ⟨rest', rfl, -⟩ := eq_append_of_unifyLineEnds ['-'] (by decide) begins
      exact minus rfl
    rw [scanNumeral_unsigned minus, scanNumeral_unsigned noMinus, scanUnsigned_unifyLineEnds]

/-! ### Strings -/

theorem WritesUnits.noLineEnd {body : List Char} {units : List Nat} (h : WritesUnits body units)
    {c : Char} (control : c.toNat < 0x20) : c ∉ body :=
  fun among => Nat.not_lt.mpr (h.noControl c among) control

/-- A string is closed in both, and with the same units, or in neither. -/
theorem scanString_unifyLineEnds {s : List Char} {units : List Nat} {rest : List Char} :
    scanString (unifyLineEnds s) = .closed units rest ↔
      ∃ rest', scanString s = .closed units rest' ∧ unifyLineEnds rest' = rest := by
  constructor
  · intro closed
    obtain ⟨body, unified, writes⟩ := writesUnits_of_scanString closed
    obtain ⟨closing, rfl, closes⟩ :=
      eq_append_of_unifyLineEnds body (writes.noLineEnd (by decide)) unified
    obtain ⟨rest', rfl, same⟩ := eq_append_of_unifyLineEnds ['"'] (by decide) closes
    exact ⟨rest', scanString_of_writesUnits writes rest', same⟩
  · rintro ⟨rest', closed, rfl⟩
    obtain ⟨body, rfl, writes⟩ := writesUnits_of_scanString closed
    rw [unifyLineEnds_of_notMem (writes.noLineEnd (by decide)), unifyLineEnds_cons (by decide)]
    exact scanString_of_writesUnits writes _

/-! ### Tokens -/

/-- Tokens that differ at most in the place and the kind of a fault of a string. -/
inductive Token.Alike : Token → Token → Prop where
  | same (t : Token) : Alike t t
  | broken (kind kind' : FaultKind) (offset offset' : Nat) :
      Alike (.broken true (.syntactic kind offset)) (.broken true (.syntactic kind' offset'))

theorem words_noLineEnd : ∀ p ∈ words, '\r' ∉ p.1 ∧ '\n' ∉ p.1 := by
  decide

/-- The same word is at the front of a text with line feeds. -/
theorem find?_words_unifyLineEnds (s : List Char) :
    (words.find? fun (word, _) => word.isPrefixOf (unifyLineEnds s)) =
      words.find? fun (word, _) => word.isPrefixOf s := by
  refine List.find?_congr fun p among => ?_
  obtain ⟨noReturn, noFeed⟩ := words_noLineEnd p among
  rw [Bool.eq_iff_iff, List.isPrefixOf_iff_prefix, List.isPrefixOf_iff_prefix]
  constructor
  · rintro ⟨tail, front⟩
    obtain ⟨rest, rfl, -⟩ := eq_append_of_unifyLineEnds p.1 noFeed front.symm
    exact List.prefix_append _ _
  · rintro ⟨rest, rfl⟩
    rw [unifyLineEnds_of_notMem noReturn]
    exact List.prefix_append _ _

/-- A token uses up a character. -/
theorem scanToken_length_lt {size : Nat} {c : Char} {s rest : List Char} {t : Token}
    (h : scanToken size (c :: s) = (t, rest)) : rest.length < (c :: s).length := by
  have shorter {written : List Char} (nonempty : written ≠ []) (parts : c :: s = written ++ rest) :
      rest.length < (c :: s).length := by
    have := List.length_pos_iff.mpr nonempty
    rw [parts, List.length_append]
    omega
  by_cases quote : c = '"'
  · subst quote
    rcases scanToken_quote size s with ⟨units, rest, closed, read⟩ | ⟨-, _, _, read⟩
    · obtain ⟨-, rfl⟩ := Prod.mk.inj (read.symm.trans h)
      obtain ⟨body, rfl, -⟩ := writesUnits_of_scanString closed
      have parts : '"' :: (body ++ '"' :: rest) = '"' :: body ++ ['"'] ++ rest := by simp
      exact shorter (by simp) parts
    · obtain ⟨-, rfl⟩ := Prod.mk.inj (read.symm.trans h)
      simp
  · rw [scanToken_of_ne_quote size quote] at h
    split at h
    · obtain ⟨-, rfl⟩ := Prod.mk.inj h
      simp
    · split at h
      · next word a found =>
          obtain ⟨-, rfl⟩ := Prod.mk.inj h
          obtain ⟨rest, front⟩ : word <+: c :: s := by simpa using List.find?_some found
          refine shorter (Writes.word (List.mem_of_find?_eq_some found)).ne_nil ?_
          rw [← front, List.drop_left]
      · split at h
        · next numeral rest' scanned =>
            obtain ⟨-, rfl⟩ := Prod.mk.inj h
            obtain ⟨written, parts, writes⟩ := writesNumeral_of_scanNumeral scanned
            exact shorter (Writes.numeral writes).ne_nil parts
        · obtain ⟨-, rfl⟩ := Prod.mk.inj h
          simp

/-- **The token at the front** of a text that begins with no blank is alike with line feeds, and so
is what follows it. -/
theorem scanToken_unifyLineEnds (size size' : Nat) {c : Char} (noBlank : isSpace c = false)
    (s : List Char) : ∃ t rest t', scanToken size (c :: s) = (t, rest) ∧
      scanToken size' (unifyLineEnds (c :: s)) = (t', unifyLineEnds rest) ∧ t.Alike t' := by
  have unified : unifyLineEnds (c :: s) = c :: unifyLineEnds s := by
    refine unifyLineEnds_cons ?_ s
    rintro rfl
    cases noBlank
  by_cases quote : c = '"'
  -- a string is closed in both texts or in neither; its fault alone may differ
  · subst quote
    rw [unified]
    rcases scanToken_quote size s with ⟨units, rest, closed, read⟩ | ⟨unclosed, _, _, read⟩ <;>
      rcases scanToken_quote size' (unifyLineEnds s) with
        ⟨units', rest', closed', read'⟩ | ⟨unclosed', _, _, read'⟩
    · have same := scanString_unifyLineEnds.mpr ⟨rest, closed, rfl⟩
      obtain ⟨rfl, rfl⟩ := StringScan.closed.inj (closed'.symm.trans same)
      exact ⟨_, rest, _, read, read', .same _⟩
    · exact absurd (scanString_unifyLineEnds.mpr ⟨rest, closed, rfl⟩) (unclosed' _ _)
    · obtain ⟨rest, closed, -⟩ := scanString_unifyLineEnds.mp closed'
      exact absurd closed (unclosed _ _)
    · exact ⟨_, [], _, read, read', .broken ..⟩
  · rw [scanToken_of_ne_quote size quote, unified, scanToken_of_ne_quote size' quote, ← unified,
      find?_words_unifyLineEnds, scanNumeral_unifyLineEnds]
    cases mark? c with
    | some t => exact ⟨t, s, t, rfl, rfl, .same t⟩
    | none =>
        cases found : words.find? fun (word, _) => word.isPrefixOf (c :: s) with
        | some p =>
            obtain ⟨word, a⟩ := p
            obtain ⟨rest, front⟩ : word <+: c :: s := by simpa using List.find?_some found
            obtain ⟨noReturn, -⟩ := words_noLineEnd _ (List.mem_of_find?_eq_some found)
            refine ⟨.scalar a, rest, .scalar a, ?_, ?_, .same _⟩
            · simp only [← front, List.drop_left]
            · simp only [← front, unifyLineEnds_of_notMem noReturn, List.drop_left]
        | none =>
            cases scanNumeral (c :: s) with
            | none => exact ⟨.junk, [], .junk, rfl, rfl, .same _⟩
            | some p => exact ⟨p.1.token, p.2, p.1.token, rfl, rfl, .same _⟩

/-- The tokens of a text are alike with line feeds. -/
theorem tokensWithin_unifyLineEnds (size size' : Nat) : ∀ {fuel fuel' : Nat} {s : List Char},
    s.length ≤ fuel → (unifyLineEnds s).length ≤ fuel' →
    List.Forall₂ (fun p q => p.token.Alike q.token) (tokensWithin size fuel s)
      (tokensWithin size' fuel' (unifyLineEnds s))
  | 0, fuel', s, enough, _ => by
      obtain rfl := List.length_eq_zero_iff.mp (Nat.le_zero.mp enough)
      cases fuel' <;> exact .nil
  | fuel + 1, fuel', s, enough, enough' => by
      have front := dropWhile_unifyLineEnds (p := isSpace) (by decide) s
      have within := (s.dropWhile_sublist isSpace).length_le
      have within' := ((unifyLineEnds s).dropWhile_sublist isSpace).length_le
      cases afterBlanks : s.dropWhile isSpace with
      | nil =>
          rw [afterBlanks] at front
          have front : (unifyLineEnds s).dropWhile isSpace = [] := front
          rw [tokensWithin, afterBlanks]
          cases fuel' with
          | zero => exact .nil
          | succ fuel' => rw [tokensWithin, front]; exact .nil
      | cons c rest =>
          have noBlank : isSpace c = false := by
            have := List.head?_dropWhile_not isSpace s
            rw [afterBlanks] at this
            simpa using this
          obtain ⟨t, rest', t', read, read', alike⟩ :=
            scanToken_unifyLineEnds size size' noBlank rest
          rw [afterBlanks] at front within
          rw [front] at within'
          have shorter := scanToken_length_lt read
          -- the text with line feeds begins with a character too, so its token is shorter as well
          obtain ⟨d, rest'', unified, -⟩ := exists_unifyLineEnds_cons c rest
          rw [unified] at read' front within'
          have shorter' := scanToken_length_lt read'
          cases fuel' with
          | zero => simp at within'; omega
          | succ fuel' =>
              simp only [tokensWithin, afterBlanks, front, read, read']
              exact .cons alike (tokensWithin_unifyLineEnds size size' (by omega) (by omega))

/-! ### Values -/

/-- What a text has too much of, if that is the fault. -/
def Fault.excess? : Fault → Option Excess
  | .excessive excess => some excess
  | .syntactic .. => none

namespace Machine

theorem advance_broken (m : Machine) (isText : Bool) (fault : Fault) :
    m.advance (.broken isText fault) = none := by
  obtain ⟨frames, ready⟩ := m
  cases ready <;> rfl

theorem faultAt_excess (ready : Ready) {p q : Placed} (same : p.token = q.token) :
    (faultAt ready p).excess? = (faultAt ready q).excess? := by
  unfold faultAt
  rw [same]
  split <;> rfl

theorem faultAt_broken (ready : Ready) {p : Placed} {kind : FaultKind} {offset : Nat}
    (h : p.token = .broken true (.syntactic kind offset)) : (faultAt ready p).excess? = none := by
  unfold faultAt
  rw [h]
  split <;> first | rfl | (next broken => cases broken; rfl)

/-- Tokens that are alike lead to the same value, or are refused for the same excess, if for any. -/
theorem run_alike {size size' : Nat} {ps qs : List Placed}
    (alike : List.Forall₂ (fun p q => p.token.Alike q.token) ps qs) : ∀ m : Machine,
    (m.run size ps).mapError Fault.excess? = (m.run size' qs).mapError Fault.excess? := by
  induction alike with
  | nil =>
      intro m
      unfold run
      split <;> rfl
  | @cons p q ps qs head _ ih =>
      intro m
      generalize hp : p.token = t at head
      generalize hq : q.token = t' at head
      cases head with
      | same =>
          simp only [run, hp, hq]
          cases m.advance t with
          | none => exact congrArg Except.error (faultAt_excess m.ready (hp.trans hq.symm))
          | some next =>
              cases excessive : next.excess? with
              | none => simpa only [excessive] using ih next
              | some excess => simp only [excessive]
      | broken =>
          simp only [run, hp, hq, advance_broken]
          have none_ := faultAt_broken m.ready hp
          have none_' := faultAt_broken m.ready hq
          exact congrArg Except.error (none_.trans none_'.symm)

end Machine

/-- **Line ends do not matter** in JSON: a text with line feeds for its line ends stands for the
same value, or is refused for the same excess, if for any. -/
theorem read_unifyLineEnds (s : List Char) : (read (unifyLineEnds s)).mapError Fault.excess? =
    (read s).mapError Fault.excess? := by
  have same : (readText (unifyLineEnds s)).mapError Fault.excess? =
      (readText s).mapError Fault.excess? :=
    (Machine.run_alike (tokensWithin_unifyLineEnds _ _ (Nat.le_refl _) (Nat.le_refl _)) _).symm
  by_cases mark : ∃ rest, s = '\uFEFF' :: rest
  · obtain ⟨rest, rfl⟩ := mark
    rw [unifyLineEnds_cons (by decide)]
    rfl
  · have noMark : ∀ rest, s ≠ '\uFEFF' :: rest := not_exists.mp mark
    rw [read, read, same]
    · exact noMark
    · intro rest begins
      obtain ⟨rest', rfl, -⟩ := eq_append_of_unifyLineEnds ['\uFEFF'] (by decide) begins
      exact noMark rest' rfl

end Verdict.Json
