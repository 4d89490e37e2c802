import Verdict.Proofs.Number.Digits
import Verdict.Proofs.Yaml.Scanning

/-!
# YAML: strings of JSON

A string that is written in JSON is scanned as the same text (`quoted_string`), if no two of its
escapes are the halves of a pair, which JSON joins to one character, and it holds no line breaks
beside the line feed, which JSON reads as characters and YAML folds.
-/

namespace Verdict.Yaml

open Json

/-- No two units are the halves of one character. -/
def isUnpaired : List Nat → Bool
  | high :: low :: rest =>
    !(isHighSurrogate high && isLowSurrogate low) && isUnpaired (low :: rest)
  | _ => true

theorem isUnpaired_cons {n : Nat} {units : List Nat} (h : isUnpaired (n :: units) = true) :
    (isHighSurrogate n = true → ∀ m ∈ units.head?, isLowSurrogate m = false) ∧
      isUnpaired units = true := by
  cases units with
  | nil => exact ⟨by simp, rfl⟩
  | cons m units =>
      rw [isUnpaired, Bool.and_eq_true, Bool.not_eq_true', Bool.and_eq_false_iff] at h
      refine ⟨?_, h.2⟩
      rintro high _ ⟨⟩
      exact h.1.resolve_left (by rw [high]; decide)

theorem isUnpaired_of_append {front back : List Nat} (h : isUnpaired (front ++ back) = true) :
    isUnpaired back = true := by
  induction front with
  | nil => exact h
  | cons n front ih => exact ih (isUnpaired_cons h).2

/-- Units without pairs are characters each by itself. -/
theorem charsOfUnits_of_unpaired : ∀ {units : List Nat}, isUnpaired units = true →
    charsOfUnits units = units.map charOfUnit
  | [], _ | [_], _ => rfl
  | high :: low :: rest, h => by
      rw [isUnpaired, Bool.and_eq_true, Bool.not_eq_true'] at h
      rw [charsOfUnits, h.1, charsOfUnits_of_unpaired h.2]
      rfl

/-- A character is no half of a pair. -/
theorem charOfUnit_toNat (c : Char) : charOfUnit c.toNat = c := by
  have whole : (isHighSurrogate c.toNat || isLowSurrogate c.toNat) = false := by
    have valid : c.toNat < 0xD800 ∨ (0xDFFF < c.toNat ∧ c.toNat < 0x110000) := c.valid
    simp only [isHighSurrogate, isLowSurrogate, Bool.or_eq_false_iff, Bool.and_eq_false_iff,
      decide_eq_false_iff_not]
    omega
  rw [charOfUnit, whole, if_neg Bool.false_ne_true, Char.ofNat_toNat]

namespace Scanning

/-! ### Escapes -/

theorem escaped_of_shortEscape {c e : Char} (h : shortEscape? c = some e) :
    escaped? c = some e.toNat := by
  unfold shortEscape? at h
  split at h <;> first | (cases h; rfl) | cases h

theorem letter_lt {c least most : Char} (h : least ≤ c ∧ c ≤ most)
    (six : most.toNat = least.toNat + 5) : c.toNat - least.toNat + 10 < 16 := by
  have above : least.toNat ≤ c.toNat := h.1
  have below : c.toNat ≤ most.toNat := h.2
  omega

theorem digitIn_of_hexDigit {c : Char} {n : Nat} (h : hexDigit? c = some n) :
    Number.digitIn? 16 c = some n := by
  unfold hexDigit? at h
  unfold Number.digitIn?
  split at h
  · next digit =>
      cases h
      have small : c.toNat - '0'.toNat < 16 :=
        Number.of_isDigit (fun c => c.toNat - '0'.toNat < 16) (by decide) digit
      simpa [digit] using small
  · next noDigit =>
      split at h
      · next lower =>
          cases h
          have small := letter_lt lower rfl
          simpa [noDigit, lower] using small
      · next noLower =>
          split at h
          · next upper =>
              cases h
              have small := letter_lt upper rfl
              have other : ('a' ≤ c && c ≤ 'f') = false := by simpa using noLower
              simpa [noDigit, other, upper] using small
          · cases h

theorem hexDigit_lt {c : Char} {n : Nat} (h : hexDigit? c = some n) : n < 16 := by
  simpa using (Option.filter_eq_some_iff.mp (digitIn_of_hexDigit h)).2

/-- Four digits are read as the same code. -/
theorem digitsIn_of_hexQuad {a b c d : Char} {n : Nat} (h : hexQuad? a b c d = some n) :
    n < 0x10000 ∧ ∃ values, [a, b, c, d].mapM (Number.digitIn? 16) = some values ∧
      values.length = 4 ∧ values.foldl (fun n d => n * 16 + d) 0 = n := by
  simp only [hexQuad?, Option.bind_eq_bind, Option.bind_eq_some_iff, Option.pure_def,
    Option.some.injEq] at h
  obtain ⟨va, ha, vb, hb, vc, hc, vd, hd, rfl⟩ := h
  have la := hexDigit_lt ha
  have lb := hexDigit_lt hb
  have lc := hexDigit_lt hc
  have ld := hexDigit_lt hd
  refine ⟨by omega, [va, vb, vc, vd], ?_, rfl, ?_⟩
  · simp [digitIn_of_hexDigit ha, digitIn_of_hexDigit hb, digitIn_of_hexDigit hc,
      digitIn_of_hexDigit hd]
  · simp only [List.foldl_cons, List.foldl_nil]
    omega

/-- An escape by a letter. -/
theorem escape_short {s : Scan} {c e : Char} {rest : List Char} (h : s.rest = '\\' :: c :: rest)
    (letter : shortEscape? c = some e) : escape s = .ok ([e], s.steps 2) := by
  have after : (s.steps 1).rest = c :: rest := by rw [Scan.steps_rest, h]; rfl
  unfold escape
  rw [bind_of_ok (forward_eq 1 s), bind_of_ok (peek_eq _ _), Scan.ahead_zero, after]
  simp only [List.head?_cons, escaped_of_shortEscape letter]
  rw [bind_of_ok (forward_eq _ _), Scan.steps_steps, Char.ofNat_toNat]
  rfl

/-- After the escape of a half its other half is not written. -/
theorem lowHalf_of_writesUnits {body : List Char} {units : List Nat} (h : WritesUnits body units)
    (noLow : ∀ m ∈ units.head?, isLowSurrogate m = false) (tail : List Char) :
    lowHalf? (body ++ '"' :: tail) = none := by
  cases h with
  | nil => rfl
  | @code a b c d unit body units digits =>
      obtain ⟨-, values, hvalues, -, hn⟩ := digitsIn_of_hexQuad digits
      simp only [List.cons_append, lowHalf?, hvalues, Option.bind_eq_bind, Option.bind_some, hn]
      exact if_neg (by rw [Bool.not_eq_true]; exact noLow unit rfl)
  | @short c e body units letter =>
      have noCode : c ≠ 'u' := by
        rintro rfl
        cases letter
      simp [lowHalf?, noCode]
  | char _ noEscape => simp [lowHalf?, noEscape]

/-- An escape by the code of a unit. -/
theorem escape_code {s : Scan} {a b c d : Char} {n : Nat} {rest : List Char}
    (h : s.rest = '\\' :: 'u' :: a :: b :: c :: d :: rest) (digits : hexQuad? a b c d = some n)
    (alone : isHighSurrogate n = true → lowHalf? rest = none) :
    escape s = .ok ([charOfUnit n], s.steps 6) := by
  obtain ⟨small, values, hvalues, four, hn⟩ := digitsIn_of_hexQuad digits
  have after : (s.steps 1).rest = 'u' :: a :: b :: c :: d :: rest := by rw [Scan.steps_rest, h]; rfl
  have code : hexCode 4 (s.steps 2) = .ok (n, s.steps 6) := by
    have front : (s.steps 2).rest.take 4 = [a, b, c, d] := by rw [Scan.steps_rest, h]; rfl
    unfold hexCode
    rw [bind_of_ok (get_eq _)]
    simp only [front, hvalues, four, hn]
    rfl
  have char : charOfCode n (s.steps 6) = .ok (charOfUnit n, s.steps 6) := by
    have next : (s.steps 6).rest = rest := by rw [Scan.steps_rest, h]; rfl
    unfold charOfCode charOfUnit
    rw [if_neg (by omega), if_neg (by omega)]
    by_cases high : isHighSurrogate n = true
    · rw [if_pos (by simpa [isHighSurrogate] using high), bind_of_ok (get_eq _), next, alone high,
        high]
      rfl
    · rw [if_neg (by simpa [isHighSurrogate] using high)]
      by_cases low : isLowSurrogate n = true
      · rw [if_pos (by simpa [isLowSurrogate] using low), low, Bool.or_true]
        rfl
      · rw [if_neg (by simpa [isLowSurrogate] using low)]
        simp only [high, low]
        rfl
  unfold escape
  rw [bind_of_ok (forward_eq 1 s), bind_of_ok (peek_eq _ _), Scan.ahead_zero, after]
  show (forward >>= fun _ => hexCode 4 >>= fun code => charOfCode code >>= fun char => pure [char])
    (s.steps 1) = _
  rw [bind_of_ok (forward_eq 1 _), Scan.steps_steps, bind_of_ok code, bind_of_ok char]
  rfl

/-! ### Words -/

/-- A character that stands for itself in a word in double quotation marks. -/
def isWordChar (c : Char) : Bool :=
  !(c == '\'' || c == '"' || c == '\\' || endsToken (some c))

theorem takeWord_eq (s : Scan) :
    (takeWhile fun c => !(c == '\'' || c == '"' || c == '\\' || endsToken (some c))) s =
      .ok (s.rest.takeWhile isWordChar, s.steps (s.rest.takeWhile isWordChar).length) := rfl

theorem takeWord_of_stop {s : Scan} {c : Char} {rest : List Char} (h : s.rest = c :: rest)
    (stop : isWordChar c = false) :
    (takeWhile fun c => !(c == '\'' || c == '"' || c == '\\' || endsToken (some c))) s =
      .ok ([], s) := by
  rw [takeWord_eq, h, List.takeWhile_cons_of_neg (by simp [stop])]
  rfl

/-- A character of a word. -/
theorem quotedWord_char {s : Scan} {c : Char} {rest : List Char} (h : s.rest = c :: rest)
    (inWord : isWordChar c = true) (read : List Char) (fuel : Nat) :
    quotedWord true read (fuel + 1) s = quotedWord true (read ++ [c]) (fuel + 1) (s.steps 1) := by
  have run : s.rest.takeWhile isWordChar = c :: rest.takeWhile isWordChar := by
    rw [h, List.takeWhile_cons_of_pos inWord]
  have after : (s.steps 1).rest = rest := by rw [Scan.steps_rest, h]; rfl
  have same : read ++ [c] ++ rest.takeWhile isWordChar =
      read ++ c :: rest.takeWhile isWordChar := by simp
  unfold quotedWord
  rw [bind_of_ok (takeWord_eq s), bind_of_ok (takeWord_eq (s.steps 1)), run, after, same,
    Scan.steps_steps, Nat.add_comm 1]
  rfl

/-- A word ends at a blank and at the closing mark. -/
theorem quotedWord_stop {s : Scan} {c : Char} {rest : List Char} (h : s.rest = c :: rest)
    (stop : c = ' ' ∨ c = '"') (read : List Char) (fuel : Nat) :
    quotedWord true read (fuel + 1) s = .ok (read, s) := by
  have noRun : isWordChar c = false := by rcases stop with rfl | rfl <;> rfl
  unfold quotedWord
  rw [bind_of_ok (takeWord_of_stop h noRun), bind_of_ok (get_eq s), Scan.ahead_zero, h,
    List.append_nil]
  rcases stop with rfl | rfl <;> rfl

/-- An apostrophe in a word. -/
theorem quotedWord_apostrophe {s : Scan} {rest : List Char} (h : s.rest = '\'' :: rest)
    (read : List Char) (fuel : Nat) :
    quotedWord true read (fuel + 1) s = quotedWord true (read ++ ['\'']) fuel (s.steps 1) := by
  conv_lhs => unfold quotedWord
  rw [bind_of_ok (takeWord_of_stop h rfl), bind_of_ok (get_eq s), Scan.ahead_zero, h,
    List.append_nil]
  rfl

/-- An escape in a word. -/
theorem quotedWord_escape {s s' : Scan} {rest chars : List Char} (h : s.rest = '\\' :: rest)
    (escapes : escape s = .ok (chars, s')) (read : List Char) (fuel : Nat) :
    quotedWord true read (fuel + 1) s = quotedWord true (read ++ chars) fuel s' := by
  conv_lhs => unfold quotedWord
  rw [bind_of_ok (takeWord_of_stop h rfl), bind_of_ok (get_eq s), Scan.ahead_zero, h,
    List.append_nil]
  exact bind_of_ok escapes

/-- The spaces between words. -/
theorem quotedSpaces_spaces {s : Scan} {n : Nat} {c : Char} {rest : List Char}
    (h : s.rest = List.replicate n ' ' ++ c :: rest) (noBlank : endsToken (some c) = false) :
    quotedSpaces s = .ok (List.replicate n ' ', s.steps n) := by
  have other : (c == ' ' || c == '\t') = false := by
    simp only [endsToken, Bool.or_eq_false_iff] at noBlank
    simpa using noBlank.1
  have blanks : s.rest.takeWhile (fun c => c == ' ' || c == '\t') = List.replicate n ' ' := by
    rw [h, List.takeWhile_append_of_pos (by simp)]
    simp only [List.takeWhile_cons, other, Bool.false_eq_true, if_false, List.append_nil]
  have after : (s.steps n).rest = c :: rest := Scan.steps_rest_append h List.length_replicate
  have inLine : isBreak c = false := by
    simp only [endsToken, Bool.or_eq_false_iff] at noBlank
    exact noBlank.2
  unfold quotedSpaces
  rw [bind_of_ok (takeWhile_eq _ s), blanks, List.length_replicate, bind_of_ok (peek_eq _ _),
    Scan.ahead_zero, after]
  simp only [List.head?_cons, inLine]
  rfl

/-- Spaces at the beginning of what is written stand for themselves. -/
theorem split_spaces {body : List Char} {units : List Nat} (h : WritesUnits body units) :
    ∃ n back backUnits, body = List.replicate n ' ' ++ back ∧
      units = List.replicate n ' '.toNat ++ backUnits ∧ WritesUnits back backUnits ∧
      back.head? ≠ some ' ' := by
  induction h with
  | nil => exact ⟨0, [], [], rfl, rfl, .nil, by simp⟩
  | code digits rest => exact ⟨0, _, _, rfl, rfl, .code digits rest, by simp⟩
  | short letter rest => exact ⟨0, _, _, rfl, rfl, .short letter rest, by simp⟩
  | @char c body units noMark noEscape noControl rest ih =>
      by_cases space : c = ' '
      · obtain ⟨n, back, backUnits, rfl, rfl, writes, other⟩ := ih
        subst space
        exact ⟨n + 1, back, backUnits, rfl, rfl, writes, other⟩
      · exact ⟨0, _, _, rfl, rfl, .char noMark noEscape noControl rest, by simpa using space⟩

/-- A word is read from the front of what is written, up to a space or to the closing mark. -/
def ReadsWord (body : List Char) (units : List Nat) (read : List Char) (fuel : Nat) (s : Scan) :
    Prop :=
  ∃ front back frontUnits backUnits, body = front ++ back ∧ units = frontUnits ++ backUnits ∧
    WritesUnits back backUnits ∧ (back = [] ∨ back.head? = some ' ') ∧
    quotedWord true read fuel s = .ok (read ++ frontUnits.map charOfUnit, s.steps front.length)

theorem ReadsWord.cons {p body read : List Char} {unit : Nat} {units : List Nat}
    {fuel fuel' : Nat} {s : Scan} (goesOn : quotedWord true read fuel s =
      quotedWord true (read ++ [charOfUnit unit]) fuel' (s.steps p.length))
    (h : ReadsWord body units (read ++ [charOfUnit unit]) fuel' (s.steps p.length)) :
    ReadsWord (p ++ body) (unit :: units) read fuel s := by
  obtain ⟨front, back, frontUnits, backUnits, rfl, rfl, writes, ends, reads⟩ := h
  refine ⟨p ++ front, back, unit :: frontUnits, backUnits, by simp, rfl, writes, ends, ?_⟩
  rw [goesOn, reads, Scan.steps_steps]
  simp

/-- **A word** of what is written goes up to the next space or to the closing mark. -/
theorem readsWord_of_writesUnits {body : List Char} {units : List Nat} (h : WritesUnits body units)
    (unpaired : isUnpaired units = true) (inLine : ∀ c ∈ body, isBreak c = false) :
    ∀ {s : Scan} {tail : List Char} (read : List Char) {fuel : Nat}, s.rest = body ++ '"' :: tail →
      body.length < fuel → ReadsWord body units read fuel s := by
  induction h with
  | nil =>
      rintro s tail read (_ | fuel) hrest enough
      · cases enough
      refine ⟨[], [], [], [], rfl, rfl, .nil, .inl rfl, ?_⟩
      rw [quotedWord_stop hrest (.inr rfl), List.map_nil, List.append_nil]
      rfl
  | @code a b c d unit body units digits writes ih =>
      rintro s tail read (_ | fuel) hrest enough
      · cases enough
      obtain ⟨alone, unpaired⟩ := isUnpaired_cons unpaired
      have after : (s.steps 6).rest = body ++ '"' :: tail := by rw [Scan.steps_rest, hrest]; rfl
      -- where the other half of a pair came next, the two would be one character
      have lone (high : isHighSurrogate unit = true) : lowHalf? (body ++ '"' :: tail) = none :=
        lowHalf_of_writesUnits writes (alone high) tail
      exact .cons (p := ['\\', 'u', a, b, c, d])
        (quotedWord_escape hrest (escape_code hrest digits lone) read fuel)
        (ih unpaired (fun x hx => inLine x (by simp [hx])) _ after
          (by simp only [List.length_cons] at enough; omega))
  | @short c e body units letter _ ih =>
      rintro s tail read (_ | fuel) hrest enough
      · cases enough
      have after : (s.steps 2).rest = body ++ '"' :: tail := by rw [Scan.steps_rest, hrest]; rfl
      have escaped : escape s = .ok ([charOfUnit e.toNat], s.steps 2) := by
        rw [charOfUnit_toNat, escape_short hrest letter]
      exact .cons (p := ['\\', c]) (quotedWord_escape hrest escaped read fuel)
        (ih (isUnpaired_cons unpaired).2 (fun x hx => inLine x (by simp [hx])) _ after
          (by simp only [List.length_cons] at enough; omega))
  | @char c body units noMark noEscape noControl rest ih =>
      rintro s tail read (_ | fuel) hrest enough
      · cases enough
      by_cases space : c = ' '
      · subst space
        refine ⟨[], _, [], _, rfl, rfl, .char noMark noEscape noControl rest, .inr rfl, ?_⟩
        rw [quotedWord_stop hrest (.inl rfl), List.map_nil, List.append_nil]
        rfl
      obtain ⟨here, inLine⟩ := List.forall_mem_cons.mp inLine
      have after : (s.steps 1).rest = body ++ '"' :: tail := by rw [Scan.steps_rest, hrest]; rfl
      have goOn {fuel' : Nat} (enough : body.length < fuel') :=
        ih (isUnpaired_cons unpaired).2 inLine (read ++ [charOfUnit c.toNat]) after enough
      have shorter : body.length < fuel := by simpa using enough
      by_cases apostrophe : c = '\''
      · subst apostrophe
        exact .cons (p := ['\'']) (quotedWord_apostrophe hrest read fuel) (goOn shorter)
      · have noTab : c ≠ '\t' := by
          rintro rfl
          exact absurd noControl (by decide)
        have inWord : isWordChar c = true := by
          simp [isWordChar, endsToken, noMark, noEscape, apostrophe, space, noTab, here]
        refine .cons (p := [c]) ?_ (goOn (Nat.lt_succ_of_lt shorter))
        rw [charOfUnit_toNat]
        exact quotedWord_char hrest inWord read fuel

/-- After spaces what is written goes on with no blank. -/
theorem exists_cons_of_noSpace {body : List Char} {units : List Nat} (h : WritesUnits body units)
    (noSpace : body.head? ≠ some ' ') (inLine : ∀ c ∈ body, isBreak c = false)
    (tail : List Char) :
    ∃ c more, body ++ '"' :: tail = c :: more ∧ endsToken (some c) = false := by
  cases h with
  | nil => exact ⟨'"', tail, rfl, rfl⟩
  | code | short => exact ⟨'\\', _, rfl, rfl⟩
  | @char c body units _ _ noControl =>
      have noTab : c ≠ '\t' := by
        rintro rfl
        exact absurd noControl (by decide)
      have other : c ≠ ' ' := by simpa using noSpace
      exact ⟨c, _, rfl, by simp [endsToken, noTab, other, inLine c List.mem_cons_self]⟩

/-- **The words** of what is written are the characters of its units. -/
theorem quotedWords_body {body : List Char} {units : List Nat} {s : Scan} {tail : List Char}
    (read : List Char) {fuel : Nat} (h : WritesUnits body units)
    (unpaired : isUnpaired units = true) (inLine : ∀ c ∈ body, isBreak c = false)
    (hrest : s.rest = body ++ '"' :: tail) (enough : body.length < fuel) :
    quotedWords '"' read fuel s =
      .ok (read ++ units.map charOfUnit, s.steps (body.length + 1)) := by
  -- a word that is not the last is followed by a space, so the rest is shorter
  induction fuel generalizing body units s read with
  | zero => omega
  | succ fuel ih =>
      have wordFuel : body.length < s.rest.length + 1 := by
        rw [hrest, List.length_append]
        omega
      obtain ⟨front, back, frontUnits, backUnits, rfl, rfl, writes, ends, word⟩ :=
        readsWord_of_writesUnits h unpaired inLine [] hrest wordFuel
      rw [List.append_assoc] at hrest
      have after : (s.steps front.length).rest = back ++ '"' :: tail :=
        Scan.steps_rest_append hrest rfl
      unfold quotedWords
      rw [bind_of_ok (get_eq s)]
      show (quotedWord true [] (s.rest.length + 1) >>= fun _ => _) s = _
      rw [bind_of_ok word, bind_of_ok (peek_eq 0 _), Scan.ahead_zero, after]
      rcases ends with rfl | space
      · -- the closing mark comes after the word
        obtain rfl : backUnits = [] := by cases writes; rfl
        rw [if_pos (by rfl), bind_of_ok (forward_eq 1 _), Scan.steps_steps]
        simp only [List.append_nil, List.nil_append]
        rfl
      · -- spaces come after the word, and then further words
        obtain ⟨n, back, restUnits, rfl, rfl, writesBack, noSpace⟩ := split_spaces writes
        obtain ⟨n, rfl⟩ : ∃ m, n = m + 1 := by
          cases n with
          | zero => exact absurd space noSpace
          | succ m => exact ⟨m, rfl⟩
        have unpairedBack := isUnpaired_of_append (isUnpaired_of_append unpaired)
        have inLineBack : ∀ c ∈ back, isBreak c = false := fun c hc => inLine c (by simp [hc])
        obtain ⟨c, more, next, noBlank⟩ := exists_cons_of_noSpace writesBack noSpace inLineBack tail
        have spaces := quotedSpaces_spaces (n := n + 1) (by rw [after, List.append_assoc, next])
          noBlank
        rw [List.append_assoc] at after
        have rest : ((s.steps front.length).steps (n + 1)).rest = back ++ '"' :: tail :=
          Scan.steps_rest_append after List.length_replicate
        have words := ih (read ++ ([] ++ frontUnits.map charOfUnit) ++
            List.replicate (n + 1) ' ') writesBack unpairedBack inLineBack
          rest (by simp only [List.length_append, List.length_replicate] at enough; omega)
        rw [if_neg (by simp [List.replicate_succ]), bind_of_ok spaces, words, Scan.steps_steps,
          Scan.steps_steps]
        have blank : charOfUnit ' '.toNat = ' ' := charOfUnit_toNat ' '
        simp only [List.map_append, List.map_replicate, blank, List.nil_append, List.append_assoc,
          List.length_append, List.length_replicate, Nat.add_assoc]

/-- **A string of JSON** is scanned as the same text. -/
theorem quoted_string {body : List Char} {units : List Nat} {s : Scan} {tail : List Char}
    (h : WritesUnits body units) (unpaired : isUnpaired units = true)
    (inLine : ∀ c ∈ body, isBreak c = false) (hrest : s.rest = '"' :: body ++ '"' :: tail) :
    quoted '"' s =
      .ok (.scalar (String.ofList (charsOfUnits units)) false, s.steps (body.length + 2)) := by
  have after : (s.steps 1).rest = body ++ '"' :: tail := by rw [Scan.steps_rest, hrest]; rfl
  have enough : body.length < (s.steps 1).rest.length + 1 := by
    rw [after, List.length_append]
    omega
  unfold quoted
  rw [bind_of_ok (forward_eq 1 s), bind_of_ok (get_eq _),
    bind_of_ok (quotedWords_body [] h unpaired inLine after enough), Scan.steps_steps,
    charsOfUnits_of_unpaired unpaired, List.nil_append, Nat.add_comm 1]
  rfl

end Scanning

end Verdict.Yaml
