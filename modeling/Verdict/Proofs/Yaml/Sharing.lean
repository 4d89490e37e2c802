import Verdict.Proofs.Json.Phrase
import Verdict.Proofs.Yaml.Flow
import Verdict.Proofs.Yaml.Plain
import Verdict.Proofs.Yaml.Quotation

/-!
# YAML: scanning JSON

What scanning makes of the lexemes of JSON, where these are written in a way that both notations
share (`Shares`, `AreShared`): scanning goes along with the machine that reads JSON, lexeme by
lexeme (`Follows`), and finds the tokens that the signs of the lexemes become (`scan_lexemes`).
-/

namespace Verdict.Yaml

open Json (Lexeme)

namespace Scanning

variable {rest : List Char} {s : Scan}

/-! ### Which token begins -/

theorem atDocumentMark_of_ne {mark c : Char} (h : c ≠ mark) (rest : List Char) :
    atDocumentMark mark (c :: rest) = false := by
  match rest with
  | [] | [_] => rfl
  | _ :: _ :: _ => simp [atDocumentMark, h]

theorem not_contains_of_isAlphanum {c : Char} (h : c.isAlphanum = true) {marks : List Char}
    (others : marks.any Char.isAlphanum = false) : marks.contains c = false := by
  rw [Bool.eq_false_iff]
  intro among
  exact List.any_eq_false.mp others c (List.contains_iff_mem.mp among) h

/-- A letter or a digit begins a plain scalar. -/
theorem token_letter {c : Char} (hrest : s.rest = c :: rest) (h : c.isAlphanum = true)
    (plainChar : isPlainChar c = true) : token c s = keyToken plain s := by
  have other (x : Char) (hx : x.isAlphanum = false) : (c == x) = false := by
    rw [beq_eq_false_iff_ne]
    rintro rfl
    rw [hx] at h
    cases h
  have begins (inFlow : Bool) (next : Option Char) : beginsPlain inFlow c next = true := by
    simp only [isPlainChar, Bool.not_eq_true', Bool.or_eq_false_iff] at plainChar
    rw [beginsPlain, plainChar.1.1.1, not_contains_of_isAlphanum h (by decide)]
    rfl
  have noMark (mark : Char) (hmark : mark.isAlphanum = false) :
      atDocumentMark mark s.rest = false := by
    rw [hrest]
    exact atDocumentMark_of_ne (by simpa using other mark hmark) rest
  unfold token
  rw [bind_of_ok (get_eq s)]
  simp (disch := decide) only [noMark, begins, other, Bool.false_and, Bool.and_false, Bool.or_false,
    Bool.false_eq_true, if_false, if_true]

/-- A minus sign before a letter or a digit begins a plain scalar. -/
theorem token_minus {d : Char} (hrest : s.rest = '-' :: d :: rest) (h : d.isAlphanum = true)
    (plainChar : isPlainChar d = true) : token '-' s = keyToken plain s := by
  have noEnd : endsToken (some d) = false := by
    simp only [isPlainChar, Bool.not_eq_true', Bool.or_eq_false_iff] at plainChar
    exact plainChar.1.1.1
  have noMark : atDocumentMark '-' s.rest = false := by
    have other : d ≠ '-' := by
      rintro rfl
      cases h
    rw [hrest]
    cases rest <;> simp [atDocumentMark, other]
  unfold token
  rw [bind_of_ok (get_eq s), noMark, hrest, atDocumentMark_of_ne (by decide)]
  simp [Scan.ahead, hrest, noEnd, beginsPlain]

end Scanning

/-! ### Lexemes that both notations share -/

/-- The characters are scanned as the token that they are in JSON. -/
inductive Shares : List Char → Json.Token → Prop where
  | openList : Shares ['['] .openList
  | closeList : Shares [']'] .closeList
  | openMapping : Shares ['\x7b'] .openMapping
  | closeMapping : Shares ['\x7d'] .closeMapping
  | comma : Shares [','] .comma
  | colon : Shares [':'] .colon
  | text {body : List Char} {units : List Nat} (h : Json.WritesUnits body units)
      (unpaired : isUnpaired units = true) (inLine : ∀ c ∈ body, isBreak c = false) :
      Shares ('"' :: body ++ ['"']) (.text (String.ofList (Json.charsOfUnits units)))
  | scalar {c : Char} {written rest : List Char} (a : Atom) (h : c.isAlphanum = true)
      (chars : ∀ x ∈ written, isPlainChar x = true)
      (begins : written = c :: rest ∨ written = '-' :: c :: rest) : Shares written (.scalar a)

/-- A word is a plain scalar wherever it stands. -/
theorem Shares.word {c : Char} {rest : List Char} (a : Atom) (h : c.isAlphanum = true)
    (chars : (c :: rest).all isPlainChar = true) : Shares (c :: rest) (.scalar a) :=
  .scalar a h (List.all_eq_true.mp chars) (.inl rfl)

/-- The next lexeme may be the colon that makes a key of what is written before it: it is on the
same line and not too far from the beginning of that. -/
structure Reaches (written : List Char) (next : Lexeme) : Prop where
  spaces : ∀ c ∈ next.blanks, c = ' '
  near : written.length + next.blanks.length ≤ Scanning.keyReach

/-- The lexemes are written in a way that both notations share. -/
def AreShared : List Lexeme → Prop
  | [] => True
  | l :: rest => (∀ c ∈ l.blanks, Scanning.IsBlank c) ∧ Shares l.written l.token ∧
      (∀ next, rest.head? = some next → next.token = .colon → Reaches l.written next) ∧
      AreShared rest

theorem Shares.resumes {written : List Char} {t : Json.Token} (h : Shares written t)
    (rest : List Char) : Scanning.Resumes (written ++ rest) := by
  have resumes {c : Char} (h : endsToken (some c) = false ∧ c ≠ '#') (tail : List Char) :
      Scanning.Resumes (c :: tail) := by
    obtain ⟨noEnd, noComment⟩ := h
    simp only [endsToken, Bool.or_eq_false_iff, beq_eq_false_iff_ne] at noEnd
    exact ⟨by simpa using noEnd.1.1, by simpa using noComment, by rintro _ ⟨⟩; exact noEnd.2⟩
  have plain {c : Char} (h : isPlainChar c = true) : endsToken (some c) = false ∧ c ≠ '#' := by
    simp only [isPlainChar, Bool.not_eq_true', Bool.or_eq_false_iff, beq_eq_false_iff_ne] at h
    exact ⟨h.1.1.1, h.1.2⟩
  cases h with
  | scalar a _ chars h =>
      rcases h with rfl | rfl <;> exact resumes (plain (chars _ List.mem_cons_self)) _
  | _ => exact resumes (by decide) _

/-- What is written does not break the line. -/
theorem Shares.inLine {written : List Char} {t : Json.Token} (h : Shares written t) :
    ∀ c ∈ written, isBreak c = false := by
  cases h with
  | text _ _ inLine => simpa [or_imp, forall_and, isBreak] using inLine
  | scalar a _ chars =>
      intro c hc
      have plain := chars c hc
      simp only [isPlainChar, endsToken, Bool.not_eq_true', Bool.or_eq_false_iff] at plain
      exact plain.1.1.1.2
  | _ => simp [isBreak]

namespace Scanning

variable {rest : List Char} {s : Scan}

/-- What is done at a token of JSON. -/
def step : Json.Token → Scanning Unit
  | .openList => openFlow .flowSequenceStart
  | .closeList => closeFlow .flowSequenceEnd
  | .openMapping => openFlow .flowMappingStart
  | .closeMapping => closeFlow .flowMappingEnd
  | .comma => do
    allowKey true
    dropKey
    forward
    emit .flowEntry
  | .colon => valueMark
  | .text _ => keyToken (quoted '"')
  | .scalar _ => keyToken plain
  | .broken .. | .junk => fail

theorem takeNext_eq {written : List Char} {t : Json.Token} (shares : Shares written t)
    (hrest : s.rest = written ++ rest) (inside : t = .colon → s.flow ≠ 0) (fuel : Nat) :
    takeNext fuel (written ++ rest).head? s = (step t >>= fun _ => tokens fuel) s := by
  have marked {c : Char} {t : Json.Token} (h : token c s = step t s) :
      (token c >>= fun _ => tokens fuel) s = (step t >>= fun _ => tokens fuel) s := by
    show (token c s >>= fun p => tokens fuel p.2) = _
    rw [h]
    rfl
  cases shares with
  | scalar a h chars begins =>
      rcases begins with rfl | rfl
      · exact marked (token_letter hrest h (chars _ List.mem_cons_self))
      · exact marked (token_minus hrest h (chars _ (by simp)))
  | colon =>
      have inside := inside rfl
      refine marked ?_
      unfold token step
      rw [bind_of_ok (get_eq s), hrest, List.cons_append, atDocumentMark_of_ne (by decide),
        atDocumentMark_of_ne (by decide)]
      simp [inside]
  | _ =>
      refine marked ?_
      simp only [List.cons_append] at hrest
      unfold token step
      rw [bind_of_ok (get_eq s), hrest, atDocumentMark_of_ne (by decide),
        atDocumentMark_of_ne (by decide)]
      simp

end Scanning

end Verdict.Yaml

namespace Verdict.Json.Machine

/-- How many containers are open. -/
def depth (m : Machine) : Nat :=
  match m.ready with
  | .value | .finished _ => m.frames.length
  | _ => m.frames.length + 1

/-- The name of a member may come next. -/
def AwaitsName (m : Machine) : Prop :=
  m.ready = .firstName ∨ ∃ pairs, m.ready = .name pairs

/-- The colon after a name comes next. -/
def AwaitsColon (m : Machine) : Prop :=
  ∃ pairs name, m.ready = .colon pairs name

@[simp] theorem depth_complete (frames : List Frame) (v : Value) :
    (complete frames v).depth = frames.length := by
  match frames with
  | [] => rfl
  | .items _ :: _ => rfl
  | .members .. :: _ => rfl

theorem not_awaits_complete (frames : List Frame) (v : Value) :
    ¬(complete frames v).AwaitsName ∧ ¬(complete frames v).AwaitsColon := by
  match frames with
  | [] | .items _ :: _ | .members .. :: _ => simp [AwaitsName, AwaitsColon, complete]

end Verdict.Json.Machine

namespace Verdict.Yaml.Scanning

open Json (Lexeme Machine Frame)
open Json.Machine

variable {depth : Nat} {ts : List Token} {ls : List Lexeme} {trailing : List Char} {s : Scan}
  {frames : List Frame} {m m' : Machine} {v : Value}

/-! ### Along the machine -/

/-- Scanning goes along with the machine: it has found these tokens, and these lexemes and blanks
are left.  Where a name comes next a simple key may begin; where a colon comes next, the name before
it may be one. -/
structure Follows (m : Machine) (ts : List Token) (ls : List Lexeme) (trailing : List Char)
    (s : Scan) : Prop where
  inFlow : InFlow m.depth ts (ls.flatMap Lexeme.text ++ trailing) s
  shared : AreShared ls
  blank : ∀ c ∈ trailing, IsBlank c
  mayName : m.AwaitsName → s.allowsKey = true
  named : m.AwaitsColon → ∀ next, ls.head? = some next → next.token = .colon →
    ∃ length, MayBeKey m.depth ts length s ∧ (∀ c ∈ next.blanks, c = ' ') ∧
      length + next.blanks.length ≤ keyReach

/-- A step succeeds, and scanning goes along with the machine afterwards. -/
def StepsTo (result : Except Fault (Unit × Scan)) (m : Machine) (ts : List Token)
    (ls : List Lexeme) : Prop :=
  ∃ s ls' trailing, result = .ok ((), s) ∧ Follows m ts ls' trailing s ∧
    ls'.map Lexeme.sign = ls.map Lexeme.sign

theorem follows_complete (h : InFlow frames.length ts (ls.flatMap Lexeme.text ++ trailing) s)
    (shared : AreShared ls) (blank : ∀ c ∈ trailing, IsBlank c) :
    Follows (complete frames v) ts ls trailing s where
  inFlow := by rwa [depth_complete]
  shared := shared
  blank := blank
  mayName := fun awaits => absurd awaits (not_awaits_complete frames v).1
  named := fun awaits => absurd awaits (not_awaits_complete frames v).2

/-- After a value comes a mark of its container. -/
theorem mark_of_runs {w : Value} {l : Lexeme} {tokens : List Json.Token}
    (runs : (complete frames w).Runs (l.token :: tokens) v) (shares : Shares l.written l.token) :
    frames.length ≠ 0 ∧ ∃ c ∈ [',', ']', '\x7d'], l.written = [c] := by
  obtain ⟨blanks, written, t⟩ := l
  obtain _ | ⟨advances, -⟩ := runs
  match frames with
  | [] => cases advances
  | .items _ :: _ =>
      refine ⟨by simp, ?_⟩
      cases t with
      | comma => cases shares; exact ⟨',', by simp, rfl⟩
      | closeList => cases shares; exact ⟨']', by simp, rfl⟩
      | _ => cases advances
  | .members .. :: _ =>
      refine ⟨by simp, ?_⟩
      cases t with
      | comma => cases shares; exact ⟨',', by simp, rfl⟩
      | closeMapping => cases shares; exact ⟨'\x7d', by simp, rfl⟩
      | _ => cases advances

/-- A plain scalar takes the blanks after it with it. -/
theorem step_scalar {written : List Char} {a : Atom}
    (h : InFlow frames.length ts (written ++ (ls.flatMap Lexeme.text ++ trailing)) s)
    (shares : Shares written (.scalar a))
    (runs : (complete frames (.atom a)).Runs (ls.map (·.token)) v) (shared : AreShared ls)
    (blank : ∀ c ∈ trailing, IsBlank c) :
    StepsTo (step (.scalar a) s) (complete frames (.atom a))
      (ts ++ [.scalar (String.ofList written) true]) ls := by
  obtain ⟨nonempty, chars⟩ : written ≠ [] ∧ ∀ x ∈ written, isPlainChar x = true := by
    cases shares with
    | scalar _ _ chars begins => exact ⟨by rcases begins with rfl | rfl <;> simp, chars⟩
  have reads {blanks next : List Char} (areBlanks : ∀ c ∈ blanks, IsBlank c)
      (ends : EndsPlain (s.flow != 0) next)
      (left : ls.flatMap Lexeme.text ++ trailing = blanks ++ next) :
      ∃ s', step (.scalar a) s = .ok ((), s') ∧
        InFlow frames.length (ts ++ [.scalar (String.ofList written) true]) next s' := by
    rw [left, ← List.append_assoc] at h
    have plainly (s' : Scan) (hrest : s'.rest = s.rest) (hflow : s'.flow = s.flow) :
        ∃ b, plain s' = .ok (.scalar (String.ofList written) true,
          (s'.steps (written ++ blanks).length).allow b) := by
      have ends : EndsPlain (s'.flow != 0) next := by rwa [hflow]
      rw [List.length_append]
      exact plain_written nonempty chars ends areBlanks (by rw [hrest, h.rest, List.append_assoc])
    obtain ⟨s', reads, inFlow, -⟩ := keyToken_eq h plainly
    exact ⟨s', reads, inFlow⟩
  cases ls with
  | nil =>
      obtain ⟨s', reads, inFlow⟩ := reads blank (endsPlain_nil _) (by simp)
      exact ⟨s', [], [], reads, follows_complete inFlow trivial (by simp), rfl⟩
  | cons l ls =>
      obtain ⟨areBlanks, lshares, reach, shared⟩ := shared
      obtain ⟨inside, c, mark, hwritten⟩ := mark_of_runs runs lshares
      have ends : EndsPlain (s.flow != 0) (l.written ++ (ls.flatMap Lexeme.text ++ trailing)) := by
        have inFlow : (s.flow != 0) = true := by simpa [h.flow] using inside
        rw [inFlow, hwritten]
        exact endsPlain_mark mark _
      obtain ⟨s', reads, inFlow⟩ := reads areBlanks ends (by simp [Lexeme.text])
      -- the scalar has taken the blanks of the mark after it
      refine ⟨s', { l with blanks := [] } :: ls, trailing, reads,
        follows_complete ?_ ⟨by simp, lshares, reach, shared⟩ blank, rfl⟩
      simpa [Lexeme.text] using inFlow

/-- A string may become a key, if a simple key may begin before it. -/
theorem step_text {written rest : List Char} {text : String}
    (h : InFlow depth ts (written ++ rest) s) (shares : Shares written (.text text)) :
    ∃ s', step (.text text) s = .ok ((), s') ∧
      InFlow depth (ts ++ [.scalar text false]) rest s' ∧ (s.allowsKey = true →
        MayBeKey depth (ts ++ [.scalar text false]) written.length s') := by
  have inLine := shares.inLine
  obtain _ | _ | _ | _ | _ | _ | ⟨writes, unpaired, bodyInLine⟩ := shares
  next body units =>
    have reads (s' : Scan) (hrest : s'.rest = s.rest) (_ : s'.flow = s.flow) :
        ∃ b, quoted '"' s' = .ok (.scalar (String.ofList (Json.charsOfUnits units)) false,
          (s'.steps ('"' :: body ++ ['"']).length).allow b) := by
      refine ⟨s'.allowsKey, ?_⟩
      have total : ('"' :: body ++ ['"']).length = body.length + 2 := by simp
      have begins : s'.rest = '"' :: body ++ '"' :: rest := by rw [hrest, h.rest]; simp
      rw [total, ← Scan.steps_allowsKey s' (body.length + 2), Scan.allow_self]
      exact quoted_string writes unpaired bodyInLine begins
    obtain ⟨s', reads, inFlow, mayBeKey⟩ := keyToken_eq h reads
    exact ⟨s', reads, inFlow, fun allowed => mayBeKey allowed inLine⟩

/-- The step at the beginning of a value. -/
theorem stepsTo_beginValue {l : Lexeme}
    (h : InFlow frames.length ts (l.written ++ (ls.flatMap Lexeme.text ++ trailing)) s)
    (begins : beginValue frames l.token = some m') (runs : m'.Runs (ls.map (·.token)) v)
    (shared : AreShared (l :: ls)) (blank : ∀ c ∈ trailing, IsBlank c) :
    StepsTo (step l.token s) m' (addMark ts l.sign) ls := by
  obtain ⟨blanks, written, t⟩ := l
  obtain ⟨-, shares, -, sharedRest⟩ := shared
  cases t with
  | openList =>
      cases begins
      cases shares
      obtain ⟨s', steps, inFlow, -⟩ := openFlow_eq h .flowSequenceStart
      exact ⟨s', ls, trailing, steps, ⟨inFlow, sharedRest, blank, by simp [AwaitsName],
        by simp [AwaitsColon]⟩, rfl⟩
  | openMapping =>
      cases begins
      cases shares
      obtain ⟨s', steps, inFlow, allowed⟩ := openFlow_eq h .flowMappingStart
      exact ⟨s', ls, trailing, steps, ⟨inFlow, sharedRest, blank, fun _ => allowed,
        by simp [AwaitsColon]⟩, rfl⟩
  | text text =>
      cases begins
      obtain ⟨s', steps, inFlow, -⟩ := step_text h shares
      exact ⟨s', ls, trailing, steps, follows_complete inFlow sharedRest blank, rfl⟩
  | scalar a =>
      cases begins
      exact step_scalar h shares runs sharedRest blank
  | _ => cases begins

/-- The step at the name of a member. -/
theorem stepsTo_name {l : Lexeme} {pairs : List (Atom × Value)} {text : String}
    (h : InFlow (frames.length + 1) ts (l.written ++ (ls.flatMap Lexeme.text ++ trailing)) s)
    (isText : l.token = .text text) (allowed : s.allowsKey = true) (shared : AreShared (l :: ls))
    (blank : ∀ c ∈ trailing, IsBlank c) :
    StepsTo (step l.token s) ⟨frames, .colon pairs text⟩ (addMark ts l.sign) ls := by
  obtain ⟨blanks, written, t⟩ := l
  obtain rfl : t = .text text := isText
  obtain ⟨-, shares, reaches, sharedRest⟩ := shared
  obtain ⟨s', steps, inFlow, mayBeKey⟩ := step_text h shares
  refine ⟨s', ls, trailing, steps, ⟨inFlow, sharedRest, blank, by simp [AwaitsName],
    fun _ next hnext colon => ?_⟩, rfl⟩
  obtain ⟨spaces, near⟩ := reaches next hnext colon
  exact ⟨written.length, mayBeKey allowed, spaces, near⟩

/-- The step at the end of a container. -/
theorem stepsTo_close {c : Char} {w : Value}
    (h : InFlow (frames.length + 1) ts (c :: (ls.flatMap Lexeme.text ++ trailing)) s) (t : Token)
    (shared : AreShared ls) (blank : ∀ c ∈ trailing, IsBlank c) :
    StepsTo (closeFlow t s) (complete frames w) (ts ++ [t]) ls := by
  obtain ⟨s', steps, inFlow⟩ := closeFlow_eq h t
  exact ⟨s', ls, trailing, steps, follows_complete inFlow shared blank, rfl⟩

/-- The step at a comma. -/
theorem stepsTo_comma {c : Char}
    (h : InFlow depth ts (c :: (ls.flatMap Lexeme.text ++ trailing)) s) (same : m'.depth = depth)
    (noColon : ¬m'.AwaitsColon) (shared : AreShared ls) (blank : ∀ c ∈ trailing, IsBlank c) :
    StepsTo (step .comma s) m' (ts ++ [.flowEntry]) ls := by
  subst same
  obtain ⟨s', steps, inFlow, allowed⟩ := flowEntry_eq h
  exact ⟨s', ls, trailing, steps, ⟨inFlow, shared, blank, fun _ => allowed,
    fun colon => absurd colon noColon⟩, rfl⟩

/-- **A step of scanning** goes along with the step of the machine. -/
theorem stepsTo_advance {l : Lexeme}
    (h : InFlow m.depth ts (l.written ++ (ls.flatMap Lexeme.text ++ trailing)) s)
    (mayName : m.AwaitsName → s.allowsKey = true)
    (named : m.AwaitsColon → l.token = .colon → ∃ length, MayBeKey m.depth ts length s)
    (advances : m.advance l.token = some m') (runs : m'.Runs (ls.map (·.token)) v)
    (shared : AreShared (l :: ls)) (blank : ∀ c ∈ trailing, IsBlank c) :
    StepsTo (step l.token s) m' (addMark ts l.sign) ls := by
  obtain ⟨frames, ready⟩ := m
  obtain ⟨blanks, written, t⟩ := l
  obtain ⟨-, shares, -, sharedRest⟩ := id shared
  -- the machine says which tokens may come next
  cases ready with
  | value => exact stepsTo_beginValue h advances runs shared blank
  | firstItem =>
      have deeper : InFlow (Frame.items [] :: frames).length ts
          (written ++ (ls.flatMap Lexeme.text ++ trailing)) s := h
      have item (begins : beginValue (.items [] :: frames) t = some m') :
          StepsTo (step t s) m' (addMark ts (Lexeme.sign ⟨blanks, written, t⟩)) ls :=
        stepsTo_beginValue deeper begins runs shared blank
      cases t with
      | closeList =>
          cases advances
          cases shares
          exact stepsTo_close h .flowSequenceEnd sharedRest blank
      | _ => exact item advances
  | name pairs =>
      cases t with
      | text text =>
          cases advances
          exact stepsTo_name h rfl (mayName (.inr ⟨pairs, rfl⟩)) shared blank
      | _ => cases advances
  | firstName =>
      cases t with
      | text text =>
          cases advances
          exact stepsTo_name h rfl (mayName (.inl rfl)) shared blank
      | closeMapping =>
          cases advances
          cases shares
          exact stepsTo_close h .flowMappingEnd sharedRest blank
      | _ => cases advances
  | colon pairs name =>
      cases t with
      | colon =>
          cases advances
          cases shares
          obtain ⟨length, mayBeKey⟩ := named ⟨pairs, name, rfl⟩ rfl
          obtain ⟨s', steps, inFlow⟩ := valueMark_eq h mayBeKey
          exact ⟨s', ls, trailing, steps, ⟨inFlow, sharedRest, blank, by simp [AwaitsName],
            by simp [AwaitsColon]⟩, rfl⟩
      | _ => cases advances
  | afterItem reversed =>
      cases t with
      | comma =>
          cases advances
          cases shares
          exact stepsTo_comma h rfl (by simp [AwaitsColon]) sharedRest blank
      | closeList =>
          cases advances
          cases shares
          exact stepsTo_close h .flowSequenceEnd sharedRest blank
      | _ => cases advances
  | afterMember pairs =>
      cases t with
      | comma =>
          cases advances
          cases shares
          exact stepsTo_comma h rfl (by simp [AwaitsColon]) sharedRest blank
      | closeMapping =>
          cases advances
          cases shares
          exact stepsTo_close h .flowMappingEnd sharedRest blank
      | _ => cases advances
  | finished w => cases advances

/-- Names and colons only come inside a container. -/
theorem depth_ne_zero (h : m.AwaitsName ∨ m.AwaitsColon) : m.depth ≠ 0 := by
  rcases h with (h | ⟨pairs, h⟩) | ⟨pairs, name, h⟩ <;> simp [depth, h]

theorem awaitsColon_of_advance (advances : m.advance .colon = some m') : m.AwaitsColon := by
  obtain ⟨frames, ready⟩ := m
  cases ready with
  | colon pairs name => exact ⟨pairs, name, rfl⟩
  | _ => cases advances

/-- The tokens of a text that the machine takes are found one after another. -/
theorem tokens_of_runs {tokens : List Json.Token} (runs : m.Runs tokens v) :
    ∀ {ts : List Token} {ls : List Lexeme} {trailing : List Char} {s : Scan} {fuel : Nat},
      ls.map (·.token) = tokens → Follows m ts ls trailing s → ls.length < fuel →
      ∃ s', Scanning.tokens fuel s = .ok ((), s') ∧
        s'.tokens.toList = (ls.map Lexeme.sign).foldl addMark ts := by
  -- the run of the machine leads, and `Follows` is kept from step to step
  induction runs with
  | @done m v finished =>
      rintro ts ls trailing s (_ | fuel) empty follows enough
      · cases enough
      obtain rfl := List.map_eq_nil_iff.mp empty
      have inFlow : InFlow m.depth ts (trailing ++ []) s := by simpa using follows.inFlow
      obtain ⟨s', goesOn, inFlow, -⟩ :=
        tokens_blanks inFlow follows.blank (endsPlain_nil true).resumes fuel
      have outside : s'.indent ≤ -1 := by rw [inFlow.indent]
      rw [goesOn, List.head?_nil, takeNext, bind_of_ok (unwind_eq outside),
        dropKey_eq inFlow.free]
      exact ⟨_, rfl, inFlow.tokens⟩
  | @step m m' t tokens v advances runs ih =>
      rintro ts ls trailing s (_ | fuel) sameTokens follows enough
      · cases enough
      obtain ⟨l, ls, rfl, rfl, rfl⟩ := List.map_eq_cons_iff.mp sameTokens
      obtain ⟨areBlanks, shares, -, -⟩ := id follows.shared
      have inFlow : InFlow m.depth ts
          (l.blanks ++ (l.written ++ (ls.flatMap Lexeme.text ++ trailing))) s := by
        simpa [Lexeme.text] using follows.inFlow
      obtain ⟨s₁, goesOn, inFlow₁, allowed, mayBeKey⟩ :=
        tokens_blanks inFlow areBlanks (shares.resumes _) fuel
      have mayName (awaits : m.AwaitsName) : s₁.allowsKey = true := by
        rw [allowed (depth_ne_zero (.inl awaits)), follows.mayName awaits]
      have named (awaits : m.AwaitsColon) (colon : l.token = .colon) :
          ∃ length, MayBeKey m.depth ts length s₁ := by
        obtain ⟨length, before, spaces, near⟩ := follows.named awaits l rfl colon
        exact ⟨_, mayBeKey length spaces near before⟩
      have inside (colon : l.token = .colon) : s₁.flow ≠ 0 := by
        rw [colon] at advances
        rw [inFlow₁.flow]
        exact depth_ne_zero (.inr (awaitsColon_of_advance advances))
      obtain ⟨s₂, ls', trailing', steps, follows', signs⟩ :=
        stepsTo_advance inFlow₁ mayName named advances runs follows.shared follows.blank
      have sameTokens : ls'.map (·.token) = ls.map (·.token) := by
        have firsts := congrArg (List.map (·.1)) signs
        simpa [Function.comp_def, Lexeme.sign_fst] using firsts
      have shorter : ls'.length < fuel := by
        have lengths := congrArg List.length signs
        simp only [List.length_map, List.length_cons] at lengths enough
        omega
      obtain ⟨s', ends, found⟩ := ih sameTokens follows' shorter
      refine ⟨s', ?_, ?_⟩
      · rw [goesOn, takeNext_eq shares inFlow₁.rest inside, bind_of_ok steps, ends]
      · rw [found, signs]
        rfl

/-- Every lexeme takes a character. -/
theorem length_le_of_areShared : ∀ {ls : List Lexeme}, AreShared ls →
    ls.length ≤ (ls.flatMap Lexeme.text).length
  | [], _ => Nat.le_refl _
  | l :: ls, ⟨_, shares, _, sharedRest⟩ => by
      have least : 1 ≤ l.written.length := by
        generalize l.token = t at shares
        generalize l.written = written at shares
        cases shares with
        | scalar _ _ _ begins => rcases begins with rfl | rfl <;> simp
        | _ => simp
      have further := length_le_of_areShared sharedRest
      simp only [List.flatMap_cons, List.length_append, List.length_cons, Lexeme.text]
      omega

/-- **The tokens of a text of JSON** in YAML are what its signs become, if its lexemes are written
in a way that both notations share. -/
theorem scan_lexemes {text : List Char} {ls : List Lexeme} {trailing : List Char} {v : Value}
    (htext : text = ls.flatMap Lexeme.text ++ trailing) (runs : start.Runs (ls.map (·.token)) v)
    (shared : AreShared ls) (blank : ∀ c ∈ trailing, IsBlank c)
    (allowed : text.all isAllowed = true) (noMark : dropByteOrderMark text = text) :
    scan text = .ok ((ls.map Lexeme.sign).foldl addMark []) := by
  have follows : Follows start [] ls trailing { rest := text } :=
    ⟨⟨htext, rfl, rfl, rfl, by simp⟩, shared, blank, fun _ => rfl, by simp [AwaitsColon, start]⟩
  have enough : ls.length < text.length + 2 := by
    have short := length_le_of_areShared shared
    rw [htext, List.length_append]
    omega
  obtain ⟨s, scans, found⟩ := tokens_of_runs runs rfl follows enough
  unfold scan
  rw [noMark, allowed]
  show (Scanning.tokens (text.length + 2) { rest := text } >>= fun p => _) = _
  rw [scans, ← found]
  rfl

end Verdict.Yaml.Scanning
