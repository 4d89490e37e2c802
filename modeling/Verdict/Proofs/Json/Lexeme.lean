import Verdict.Json.Reader
import Verdict.Proofs.Number.Digits

/-!
# JSON: lexemes

A text as a list of lexemes: tokens with the characters that write them and the blanks before these.

* `Writes`: the characters that write a token, with the parts of a string and of a number.
* `writes_of_scanToken`: the token that is read at the front of a text is written there.
* `splits_lexemes`: a text of which every token can be read is its lexemes one after another, and
  blanks.
-/

namespace Verdict.Json

/-! ### What writes a token -/

/-- The characters between quotation marks write the units. -/
inductive WritesUnits : List Char → List Nat → Prop where
  | nil : WritesUnits [] []
  | code {a b c d : Char} {unit : Nat} {body : List Char} {units : List Nat}
      (digits : hexQuad? a b c d = some unit) (rest : WritesUnits body units) :
      WritesUnits ('\\' :: 'u' :: a :: b :: c :: d :: body) (unit :: units)
  | short {c e : Char} {body : List Char} {units : List Nat} (letter : shortEscape? c = some e)
      (rest : WritesUnits body units) : WritesUnits ('\\' :: c :: body) (e.toNat :: units)
  | char {c : Char} {body : List Char} {units : List Nat} (noMark : c ≠ '"') (noEscape : c ≠ '\\')
      (noControl : 0x20 ≤ c.toNat) (rest : WritesUnits body units) :
      WritesUnits (c :: body) (c.toNat :: units)

/-- Digits, at least one. -/
def IsDigits (ds : List Char) : Prop :=
  ds ≠ [] ∧ ∀ c ∈ ds, c.isDigit = true

/-- The characters of a fraction. -/
def fractionChars : Option (List Char) → List Char
  | none => []
  | some ds => '.' :: ds

/-- The characters write an exponent, which may be absent. -/
inductive WritesExponent : List Char → Option Int → Prop where
  | absent : WritesExponent [] none
  | present {letter : Char} {sign ds : List Char} (hletter : letter = 'e' ∨ letter = 'E')
      (hsign : sign ∈ [[], ['+'], ['-']]) (digits : IsDigits ds) :
      WritesExponent (letter :: (sign ++ ds))
        (some (if sign = ['-'] then -(Number.natOfDigits ds : Int) else Number.natOfDigits ds))

/-- The characters write the numeral. -/
structure WritesNumeral (written : List Char) (n : Numeral) : Prop where
  whole : IsDigits n.whole
  leading : n.whole = ['0'] ∨ n.whole.head? ≠ some '0'
  fraction : ∀ ds, n.fraction = some ds → IsDigits ds
  parts : ∃ suffix, WritesExponent suffix n.exponent ∧
    written = (if n.negative then ['-'] else []) ++ n.whole ++ fractionChars n.fraction ++ suffix

/-- The characters write the token. -/
inductive Writes : List Char → Token → Prop where
  | mark {c : Char} {t : Token} (h : mark? c = some t) : Writes [c] t
  | text {body : List Char} {units : List Nat} (h : WritesUnits body units) :
      Writes ('"' :: body ++ ['"']) (.text (String.ofList (charsOfUnits units)))
  | word {w : List Char} {a : Atom} (h : (w, a) ∈ words) : Writes w (.scalar a)
  | numeral {written : List Char} {n : Numeral} (h : WritesNumeral written n) :
      Writes written n.token

theorem hexDigit_noControl {c : Char} {n : Nat} (h : hexDigit? c = some n) : 0x20 ≤ c.toNat := by
  refine Nat.le_of_not_lt fun control => ?_
  unfold hexDigit? at h
  split at h
  · next digit =>
      exact Number.of_isDigit (fun c => ¬c.toNat < 0x20) (by decide) digit control
  · split at h
    · next lower =>
        have least : 97 ≤ c.toNat := lower.1
        omega
    · split at h
      · next upper =>
          have least : 65 ≤ c.toNat := upper.1
          omega
      · cases h

/-- What is written between quotation marks has no control characters. -/
theorem WritesUnits.noControl {body : List Char} {units : List Nat} (h : WritesUnits body units) :
    ∀ c ∈ body, 0x20 ≤ c.toNat := by
  induction h with
  | nil => simp
  | @code a b c d unit body units digits _ ih =>
      simp only [hexQuad?, Option.bind_eq_bind, Option.bind_eq_some_iff] at digits
      obtain ⟨_, ha, _, hb, _, hc, _, hd, -⟩ := digits
      simp only [List.forall_mem_cons]
      exact ⟨by decide, by decide, hexDigit_noControl ha, hexDigit_noControl hb,
        hexDigit_noControl hc, hexDigit_noControl hd, ih⟩
  | @short c e body units letter _ ih =>
      have noControl : 0x20 ≤ c.toNat := by
        unfold shortEscape? at letter
        split at letter <;> first | decide | cases letter
      exact List.forall_mem_cons.mpr ⟨by decide, List.forall_mem_cons.mpr ⟨noControl, ih⟩⟩
  | char _ _ noControl _ ih => exact List.forall_mem_cons.mpr ⟨noControl, ih⟩

/-! ### Reading what is written -/

theorem StringScan.cons_eq_closed {scan : StringScan} {n : Nat} {units : List Nat}
    {rest : List Char} :
    scan.cons n = .closed units rest ↔ ∃ us, scan = .closed us rest ∧ n :: us = units := by
  cases scan with
  | closed us r =>
      simp only [cons, closed.injEq]
      exact ⟨fun ⟨h, hr⟩ => ⟨us, ⟨rfl, hr⟩, h⟩, fun ⟨_, ⟨same, hr⟩, h⟩ => ⟨same ▸ h, hr⟩⟩
  | «open» | fault => simp [cons]

/-- What is read of a string is written up to its closing quotation mark. -/
theorem writesUnits_of_scanString {s : List Char} : ∀ {units : List Nat} {rest : List Char},
    scanString s = .closed units rest →
      ∃ body, s = body ++ '"' :: rest ∧ WritesUnits body units := by
  -- the scan is closed at a mark, and goes on at an escape and at a character of the string
  fun_induction scanString s with
  | case2 tail =>
      rintro units rest ⟨⟩
      exact ⟨[], rfl, .nil⟩
  | case4 a b c d tail unit digits _ ih =>
      intro units rest closed
      obtain ⟨us, inner, rfl⟩ := StringScan.cons_eq_closed.mp closed
      obtain ⟨body, rfl, writes⟩ := ih inner
      exact ⟨_, rfl, .code digits writes⟩
  | case7 c tail _ _ e letter ih =>
      intro units rest closed
      obtain ⟨us, inner, rfl⟩ := StringScan.cons_eq_closed.mp closed
      obtain ⟨body, rfl, writes⟩ := ih inner
      exact ⟨_, rfl, .short letter writes⟩
  | case10 c tail noMark noEnd _ _ noEscape control ih =>
      intro units rest closed
      obtain ⟨us, inner, rfl⟩ := StringScan.cons_eq_closed.mp closed
      obtain ⟨body, rfl, writes⟩ := ih inner
      refine ⟨_, rfl, .char noMark (fun h => ?_) (Nat.not_lt.mp control) writes⟩
      cases body with
      | nil => exact noEscape _ _ h rfl
      | cons d body => exact noEscape _ _ h rfl
  | _ => intro units rest closed; cases closed

/-- The string that units are written in is read as these units. -/
theorem scanString_of_writesUnits {body : List Char} {units : List Nat} (h : WritesUnits body units)
    (rest : List Char) : scanString (body ++ '"' :: rest) = .closed units rest := by
  induction h with
  | nil => rfl
  | @code a b c d unit body units digits _ ih =>
      -- the closing mark comes yet, so the text does not break off in the escape
      have more : (body ++ '"' :: rest).isEmpty = false := by cases body <;> rfl
      simp [scanString, digits, more, ih, StringScan.cons]
  | @short c e body units letter _ ih =>
      have noCode : c ≠ 'u' := fun h => by
        subst h
        cases letter
      rw [List.cons_append, List.cons_append, scanString]
      · rw [letter, ih]
        rfl
      · exact fun _ _ _ _ _ same _ => noCode same
      · exact noCode
  | @char c body units noMark noEscape noControl _ ih =>
      rw [List.cons_append, scanString]
      · rw [if_neg (Nat.not_lt.mpr noControl), ih, StringScan.cons]
      all_goals simp [noMark, noEscape]

theorem splitDigits_eq {s ds rest : List Char} (h : splitDigits s = (ds, rest)) :
    s = ds ++ rest ∧ ∀ c ∈ ds, c.isDigit = true := by
  obtain ⟨rfl, rfl⟩ := Prod.mk.inj h
  exact ⟨List.takeWhile_append_dropWhile.symm, List.all_eq_true.mp List.all_takeWhile⟩

theorem splitDigits_cons {c : Char} {tail ds rest : List Char} (digit : c.isDigit = true)
    (h : splitDigits (c :: tail) = (ds, rest)) :
    c :: tail = ds ++ rest ∧ IsDigits ds ∧ ds.head? = some c := by
  obtain ⟨parts, digits⟩ := splitDigits_eq h
  have first : ds = c :: tail.takeWhile Char.isDigit := by
    rw [← (Prod.mk.inj h).1, List.takeWhile_cons_of_pos digit]
  exact ⟨parts, ⟨by simp [first], digits⟩, by rw [first]; rfl⟩

theorem scanWhole_eq_some {s whole rest : List Char} (h : scanWhole s = some (whole, rest)) :
    s = whole ++ rest ∧ IsDigits whole ∧ (whole = ['0'] ∨ whole.head? ≠ some '0') := by
  unfold scanWhole at h
  split at h
  · cases h
    exact ⟨rfl, ⟨by simp, by simp [Char.isDigit]⟩, .inl rfl⟩
  · next c tail noZero =>
      split at h
      · next digit =>
          obtain ⟨parts, digits, head⟩ := splitDigits_cons digit (Option.some.inj h)
          refine ⟨parts, digits, .inr ?_⟩
          rw [head]
          exact fun zero => noZero (Option.some.inj zero)
      · cases h
  · cases h

theorem scanFraction_eq {s rest : List Char} {fraction : Option (List Char)}
    (h : scanFraction s = (fraction, rest)) :
    s = fractionChars fraction ++ rest ∧ ∀ ds, fraction = some ds → IsDigits ds := by
  unfold scanFraction at h
  split at h
  · next c tail =>
      split at h
      · next digit =>
          generalize hsplit : splitDigits (c :: tail) = split at h
          obtain ⟨ds, rest'⟩ := split
          obtain ⟨parts, digits, -⟩ := splitDigits_cons digit hsplit
          cases h
          exact ⟨by rw [parts]; rfl, by rintro _ ⟨⟩; exact digits⟩
      · cases h
        exact ⟨rfl, nofun⟩
  · cases h
    exact ⟨rfl, nofun⟩

theorem scanSign_eq {s rest : List Char} {negative : Bool}
    (h : Number.scanSign s = (negative, rest)) : ∃ sign, sign ∈ [[], ['+'], ['-']] ∧
      s = sign ++ rest ∧ negative = decide (sign = ['-']) := by
  unfold Number.scanSign at h
  split at h
  · cases h
    exact ⟨['-'], by simp, rfl, rfl⟩
  · cases h
    exact ⟨['+'], by simp, rfl, rfl⟩
  · cases h
    exact ⟨[], by simp, rfl, rfl⟩

theorem scanExponent_eq {s rest : List Char} {exponent : Option Int}
    (h : scanExponent s = (exponent, rest)) :
    ∃ suffix, s = suffix ++ rest ∧ WritesExponent suffix exponent := by
  unfold scanExponent at h
  split at h
  · next letter tail =>
      split at h
      · next hletter =>
          generalize hsign : Number.scanSign tail = parts at h
          obtain ⟨negative, digits⟩ := parts
          obtain ⟨sign, among, rfl, rfl⟩ := scanSign_eq hsign
          simp only at h
          split at h
          · cases h
            exact ⟨[], rfl, .absent⟩
          · next ds rest' nonempty hsplit =>
              obtain ⟨rfl, digits⟩ := splitDigits_eq hsplit
              cases h
              have letters : letter = 'e' ∨ letter = 'E' := by simpa using hletter
              refine ⟨letter :: (sign ++ ds), by simp, ?_⟩
              simpa using WritesExponent.present letters among ⟨nonempty, digits⟩
      · cases h
        exact ⟨[], rfl, .absent⟩
  · cases h
    exact ⟨[], rfl, .absent⟩

/-- A numeral after its sign. -/
def scanUnsigned (negative : Bool) (body : List Char) : Option (Numeral × List Char) :=
  match scanWhole body with
  | none => none
  | some (whole, rest) =>
    let (fraction, rest) := scanFraction rest
    let (exponent, rest) := scanExponent rest
    some (⟨negative, whole, fraction, exponent⟩, rest)

theorem scanNumeral_eq (s : List Char) : ∃ negative body,
    s = (if negative then ['-'] else []) ++ body ∧ scanNumeral s = scanUnsigned negative body := by
  unfold scanNumeral
  split
  next negative body hbody =>
    split at hbody
    · cases hbody
      exact ⟨true, _, rfl, rfl⟩
    · cases hbody
      exact ⟨false, _, rfl, rfl⟩

theorem scanNumeral_unsigned {s : List Char} (noMinus : s.head? ≠ some '-') :
    scanNumeral s = scanUnsigned false s := by
  obtain ⟨negative, body, rfl, same⟩ := scanNumeral_eq s
  cases negative with
  | false => exact same
  | true => exact absurd rfl noMinus

/-- The numeral at the front of a text is written there. -/
theorem writesNumeral_of_scanNumeral {s rest : List Char} {n : Numeral}
    (h : scanNumeral s = some (n, rest)) :
    ∃ written, s = written ++ rest ∧ WritesNumeral written n := by
  obtain ⟨negative, body, hs, hbody⟩ := scanNumeral_eq s
  rw [hbody, scanUnsigned] at h
  split at h
  · cases h
  · next whole afterWhole hwhole =>
      generalize hfraction : scanFraction afterWhole = fractionParts at h
      obtain ⟨fraction, afterFraction⟩ := fractionParts
      simp only at h
      generalize hexponent : scanExponent afterFraction = exponentParts at h
      obtain ⟨exponent, rest'⟩ := exponentParts
      cases h
      obtain ⟨rfl, digits, leading⟩ := scanWhole_eq_some hwhole
      obtain ⟨rfl, fractionDigits⟩ := scanFraction_eq hfraction
      obtain ⟨suffix, rfl, writes⟩ := scanExponent_eq hexponent
      exact ⟨_, by simp [hs], ⟨digits, leading, fractionDigits, suffix, writes, rfl⟩⟩

/-! ### Lexemes -/

/-- The token could be read. -/
def Token.IsProper : Token → Prop
  | .broken .. | .junk => False
  | _ => True

theorem Writes.ne_nil {written : List Char} {t : Token} (h : Writes written t) : written ≠ [] := by
  cases h with
  | mark | text => simp
  | word h =>
      simp only [words, List.mem_cons, Prod.mk.injEq, List.not_mem_nil, or_false] at h
      rcases h with ⟨rfl, -⟩ | ⟨rfl, -⟩ | ⟨rfl, -⟩ | ⟨rfl, -⟩ | ⟨rfl, -⟩ | ⟨rfl, -⟩ <;> decide
  | numeral h =>
      obtain ⟨suffix, -, rfl⟩ := h.parts
      simp [h.whole.1]

/-- The token after a quotation mark. -/
theorem scanToken_quote (size : Nat) (s : List Char) :
    (∃ units rest, scanString s = .closed units rest ∧
      scanToken size ('"' :: s) = (.text (String.ofList (charsOfUnits units)), rest)) ∨
    (∀ units rest, scanString s ≠ .closed units rest) ∧ ∃ kind offset,
      scanToken size ('"' :: s) = (.broken true (.syntactic kind offset), []) := by
  cases scanned : scanString s with
  | closed units rest => exact .inl ⟨units, rest, rfl, by simp only [scanToken, scanned]⟩
  | «open» => exact .inr ⟨nofun, _, _, by simp only [scanToken, scanned]; rfl⟩
  | fault kind left => exact .inr ⟨nofun, _, _, by simp only [scanToken, scanned]; rfl⟩

theorem scanToken_of_ne_quote (size : Nat) {c : Char} (h : c ≠ '"') (s : List Char) :
    scanToken size (c :: s) =
      match mark? c with
      | some t => (t, s)
      | none =>
        match words.find? fun (word, _) => word.isPrefixOf (c :: s) with
        | some (word, a) => (.scalar a, (c :: s).drop word.length)
        | none =>
          match scanNumeral (c :: s) with
          | some (numeral, rest) => (numeral.token, rest)
          | none => (.junk, []) := by
  unfold scanToken
  split
  · next empty => cases empty
  · next quoted =>
      obtain ⟨rfl, -⟩ := List.cons.inj quoted
      exact absurd rfl h
  · next whole =>
      obtain ⟨rfl, rfl⟩ := List.cons.inj whole
      rfl

/-- **The token at the front of a text** is written there, if it can be read. -/
theorem writes_of_scanToken {size : Nat} {s rest : List Char} {t : Token} (nonempty : s ≠ [])
    (h : scanToken size s = (t, rest)) (proper : t.IsProper) :
    ∃ written, s = written ++ rest ∧ Writes written t := by
  unfold scanToken at h
  split at h
  · exact absurd rfl nonempty
  · next tail =>
      split at h
      · next units rest' closed =>
          cases h
          obtain ⟨body, rfl, writes⟩ := writesUnits_of_scanString closed
          exact ⟨_, by simp, .text writes⟩
      · cases h
        exact proper.elim
      · cases h
        exact proper.elim
  · next c tail _ =>
      split at h
      · next t' marked =>
          cases h
          exact ⟨[c], rfl, .mark marked⟩
      · split at h
        · next word a found =>
            cases h
            have front : word <+: c :: tail := by
              simpa using List.find?_some found
            obtain ⟨rest', hrest⟩ := front
            refine ⟨word, ?_, .word (List.mem_of_find?_eq_some found)⟩
            rw [← hrest, List.drop_left]
        · split at h
          · next numeral rest' scanned =>
              cases h
              obtain ⟨written, hs, writes⟩ := writesNumeral_of_scanNumeral scanned
              exact ⟨written, hs, .numeral writes⟩
          · cases h
            exact proper.elim

/-- A token with the characters that write it and the blanks before these. -/
structure Lexeme where
  blanks : List Char
  written : List Char
  token : Token

namespace Lexeme

/-- The lexeme as it stands in a text. -/
def text (l : Lexeme) : List Char := l.blanks ++ l.written

/-- The lexeme has blanks, and characters that write its token. -/
structure IsWritten (l : Lexeme) : Prop where
  blanks : ∀ c ∈ l.blanks, isSpace c = true
  writes : Writes l.written l.token

end Lexeme

/-- The lexemes of the rest of a text of `size` characters, each of which uses up a character. -/
def lexemesWithin (size : Nat) : (fuel : Nat) → List Char → List Lexeme
  | 0, _ => []
  | fuel + 1, s =>
    match s.dropWhile isSpace with
    | [] => []
    | s' =>
      let (token, rest) := scanToken size s'
      ⟨s.takeWhile isSpace, s'.take (s'.length - rest.length), token⟩ ::
        lexemesWithin size fuel rest

/-- The lexemes of a text. -/
def lexemes (s : List Char) : List Lexeme :=
  lexemesWithin s.length s.length s

theorem tokensWithin_eq (size : Nat) : ∀ (fuel : Nat) (s : List Char),
    (tokensWithin size fuel s).map (·.token) = (lexemesWithin size fuel s).map (·.token)
  | 0, _ => rfl
  | fuel + 1, s => by
      cases afterBlanks : s.dropWhile isSpace with
      | nil => simp only [tokensWithin, lexemesWithin, afterBlanks, List.map_nil]
      | cons c tail =>
          simp only [tokensWithin, lexemesWithin, afterBlanks, List.map_cons,
            tokensWithin_eq size fuel]

/-- A text is lexemes one after another, and blanks. -/
structure Splits (s : List Char) (ls : List Lexeme) (trailing : List Char) : Prop where
  text : s = ls.flatMap Lexeme.text ++ trailing
  written : ∀ l ∈ ls, l.IsWritten
  trailing : ∀ c ∈ trailing, isSpace c = true

theorem splits_lexemesWithin {size : Nat} : ∀ {fuel : Nat} {s : List Char}, s.length ≤ fuel →
    (∀ l ∈ lexemesWithin size fuel s, l.token.IsProper) →
    ∃ trailing, Splits s (lexemesWithin size fuel s) trailing
  | 0, s, short, _ => by
      obtain rfl := List.length_eq_zero_iff.mp (Nat.le_zero.mp short)
      exact ⟨[], rfl, by simp [lexemesWithin], by simp⟩
  | fuel + 1, s, short, proper => by
      have blanks : ∀ c ∈ s.takeWhile isSpace, isSpace c = true :=
        List.all_eq_true.mp List.all_takeWhile
      have hs := @List.takeWhile_append_dropWhile _ isSpace s
      cases afterBlanks : s.dropWhile isSpace with
      | nil =>
          rw [afterBlanks, List.append_nil] at hs
          rw [hs] at blanks
          refine ⟨s, ?_⟩
          simp only [lexemesWithin, afterBlanks]
          exact ⟨rfl, by simp, blanks⟩
      | cons c tail =>
          generalize scanned : scanToken size (c :: tail) = front at *
          obtain ⟨token, rest⟩ := front
          simp only [lexemesWithin, afterBlanks, scanned, List.forall_mem_cons] at proper ⊢
          obtain ⟨properToken, proper⟩ := proper
          obtain ⟨written, hfront, writes⟩ := writes_of_scanToken (by simp) scanned properToken
          have taken : (c :: tail).take ((c :: tail).length - rest.length) = written := by
            simp [hfront]
          -- what is written is not empty, so the fuel is enough for the rest
          have shorter : rest.length ≤ fuel := by
            have total := congrArg List.length hs
            have least := List.length_pos_iff.mpr writes.ne_nil
            rw [afterBlanks, hfront] at total
            simp only [List.length_append] at total
            omega
          obtain ⟨trailing, splits⟩ := splits_lexemesWithin shorter proper
          rw [taken]
          refine ⟨trailing, ?_, ?_, splits.trailing⟩
          · rw [List.flatMap_cons, List.append_assoc, ← splits.text, Lexeme.text,
              List.append_assoc, ← hfront, ← afterBlanks]
            exact hs.symm
          · exact List.forall_mem_cons.mpr ⟨⟨blanks, writes⟩, splits.written⟩

/-- **A text of which every token can be read** is its lexemes one after another, and blanks. -/
theorem splits_lexemes {s : List Char} (proper : ∀ l ∈ lexemes s, l.token.IsProper) :
    ∃ trailing, Splits s (lexemes s) trailing :=
  splits_lexemesWithin (Nat.le_refl _) proper

end Verdict.Json
