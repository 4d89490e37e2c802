import Verdict.Proofs.Yaml.Marks
import Verdict.Yaml.Token.Lexer

/-!
# YAML: steps of scanning

What the steps of scanning do to the state.  Passing over characters moves the place in the text and
leaves the rest of the state as it is; so the state after a step is given as the state so many
characters further on (`Scan.steps`), with what the step says of simple keys.

* `skipToToken_blanks`: the blanks before a token are passed over.
-/

namespace Verdict.Yaml

/-! ### Places in a text -/

namespace Scan

/-- The state in which a simple key may begin next, or not. -/
def allow (s : Scan) (b : Bool) : Scan := { s with allowsKey := b }

variable (s : Scan) (n : Nat) (b : Bool)

@[simp] theorem allow_rest : (s.allow b).rest = s.rest := rfl
@[simp] theorem allow_index : (s.allow b).index = s.index := rfl
@[simp] theorem allow_line : (s.allow b).line = s.line := rfl
@[simp] theorem allow_flow : (s.allow b).flow = s.flow := rfl
@[simp] theorem allow_indent : (s.allow b).indent = s.indent := rfl
@[simp] theorem allow_allowsKey : (s.allow b).allowsKey = b := rfl
@[simp] theorem allow_keys : (s.allow b).keys = s.keys := rfl
@[simp] theorem allow_tokens : (s.allow b).tokens = s.tokens := rfl
@[simp] theorem allow_allow (c : Bool) : (s.allow b).allow c = s.allow c := rfl
@[simp] theorem allow_self : s.allow s.allowsKey = s := rfl

@[simp] theorem step_flow : s.step.flow = s.flow := by unfold step; split <;> rfl
@[simp] theorem step_indent : s.step.indent = s.indent := by unfold step; split <;> rfl
@[simp] theorem step_allowsKey : s.step.allowsKey = s.allowsKey := by unfold step; split <;> rfl
@[simp] theorem step_keys : s.step.keys = s.keys := by unfold step; split <;> rfl
@[simp] theorem step_tokens : s.step.tokens = s.tokens := by unfold step; split <;> rfl

theorem step_rest : s.step.rest = s.rest.tail := by
  unfold step
  split
  · next h => simp [h]
  · next h => simp [h]

theorem step_allow : (s.allow b).step = s.step.allow b := by
  obtain ⟨rest⟩ := s
  cases rest <;> rfl

/-- What passing over characters leaves as it is. -/
theorem steps_keeps : ∀ (n : Nat) (s : Scan), (s.steps n).flow = s.flow ∧
    (s.steps n).indent = s.indent ∧ (s.steps n).allowsKey = s.allowsKey ∧
    (s.steps n).keys = s.keys ∧ (s.steps n).tokens = s.tokens
  | 0, _ => ⟨rfl, rfl, rfl, rfl, rfl⟩
  | n + 1, s => by simpa [steps] using steps_keeps n s.step

@[simp] theorem steps_flow : (s.steps n).flow = s.flow := (steps_keeps n s).1
@[simp] theorem steps_indent : (s.steps n).indent = s.indent := (steps_keeps n s).2.1
@[simp] theorem steps_allowsKey : (s.steps n).allowsKey = s.allowsKey := (steps_keeps n s).2.2.1
@[simp] theorem steps_keys : (s.steps n).keys = s.keys := (steps_keeps n s).2.2.2.1
@[simp] theorem steps_tokens : (s.steps n).tokens = s.tokens := (steps_keeps n s).2.2.2.2

@[simp] theorem steps_rest : ∀ (n : Nat) (s : Scan), (s.steps n).rest = s.rest.drop n
  | 0, _ => rfl
  | n + 1, s => by rw [steps, steps_rest n, step_rest, List.drop_tail]

theorem steps_rest_append {s : Scan} {front back : List Char} {n : Nat} (h : s.rest = front ++ back)
    (hn : front.length = n) : (s.steps n).rest = back := by
  rw [steps_rest, h, List.drop_left' hn]

theorem steps_steps : ∀ (m n : Nat) (s : Scan), (s.steps m).steps n = s.steps (m + n)
  | 0, n, s => by rw [Nat.zero_add]; rfl
  | m + 1, n, s => by rw [Nat.succ_add, steps, steps, steps_steps]

theorem steps_allow : ∀ (n : Nat) (s : Scan), (s.allow b).steps n = (s.steps n).allow b
  | 0, _ => rfl
  | n + 1, s => by rw [steps, step_allow, steps_allow n, steps]

theorem ahead_zero : s.ahead 0 = s.rest.head? := List.head?_eq_getElem?.symm

theorem steps_index : ∀ {n : Nat} {s : Scan}, n ≤ s.rest.length → (s.steps n).index = s.index + n
  | 0, _, _ => rfl
  | n + 1, s, h => by
      have tail : s.step.rest.length = s.rest.length - 1 := by rw [step_rest, List.length_tail]
      have first : s.step.index = s.index + 1 := by
        unfold step
        split
        · next empty => simp [empty] at h
        · rfl
      rw [steps, steps_index (by omega), first]
      omega

/-- Characters that end no line stay on it. -/
theorem steps_line : ∀ {n : Nat} {s : Scan}, (∀ c ∈ s.rest.take n, isBreak c = false) →
    (s.steps n).line = s.line
  | 0, _, _ => rfl
  | n + 1, s, h => by
      have first : s.step.line = s.line := by
        unfold step
        split
        · rfl
        · next c rest hrest =>
            rw [hrest] at h
            simp [h c List.mem_cons_self]
      rw [steps, steps_line, first]
      intro c hc
      refine h c ?_
      rw [step_rest] at hc
      cases hrest : s.rest with
      | nil => simp [hrest] at hc
      | cons d rest =>
          rw [hrest] at hc
          exact List.mem_cons_of_mem d hc

end Scan

namespace Scanning

/-! ### Steps -/

theorem get_eq (s : Scan) : (get : Scanning Scan) s = .ok (s, s) := rfl

theorem peek_eq (n : Nat) (s : Scan) : peek n s = .ok (s.ahead n, s) := rfl

theorem forward_eq (n : Nat) (s : Scan) : forward n s = .ok ((), s.steps n) := rfl

theorem allowKey_eq (b : Bool) (s : Scan) : allowKey b s = .ok ((), s.allow b) := rfl

theorem takeWhile_eq (p : Char → Bool) (s : Scan) :
    takeWhile p s = .ok (s.rest.takeWhile p, s.steps (s.rest.takeWhile p).length) := rfl

/-- Spaces are taken up to something else. -/
theorem takeWhile_spaces {s : Scan} {n : Nat} {next : List Char}
    (h : s.rest = List.replicate n ' ' ++ next) (noSpace : next.head? ≠ some ' ') :
    takeWhile (· == ' ') s = .ok (List.replicate n ' ', s.steps n) := by
  have none : next.takeWhile (· == ' ') = [] := by
    cases next with
    | nil => rfl
    | cons c next => exact List.takeWhile_cons_of_neg (by simpa using noSpace)
  have spaces : s.rest.takeWhile (· == ' ') = List.replicate n ' ' := by
    rw [h, List.takeWhile_append_of_pos (by simp), none, List.append_nil]
  rw [takeWhile_eq, spaces, List.length_replicate]

theorem skipSpaces_spaces {s : Scan} {n : Nat} {next : List Char}
    (h : s.rest = List.replicate n ' ' ++ next) (noSpace : next.head? ≠ some ' ') :
    skipSpaces s = .ok ((), s.steps n) := by
  show (takeWhile (· == ' ') s >>= fun p => pure ((), p.2)) = _
  rw [takeWhile_spaces h noSpace]
  rfl

/-- Where no line ends, there is no line break. -/
theorem lineBreak_of_other {s : Scan} (h : ∀ c, s.rest.head? = some c → isBreak c = false) :
    lineBreak s = .ok ([], s) := by
  unfold lineBreak
  rw [bind_of_ok (get_eq s)]
  cases hrest : s.rest with
  | nil => rfl
  | cons c rest =>
      have inLine : isBreak c = false := h c (by rw [hrest]; rfl)
      have noReturn : c ≠ '\r' := by
        rintro rfl
        cases inLine
      simp [noReturn, inLine]
      rfl

theorem lineBreak_of_feed {s : Scan} {rest : List Char} (h : s.rest = '\n' :: rest) :
    lineBreak s = .ok (['\n'], s.steps 1) := by
  unfold lineBreak
  rw [bind_of_ok (get_eq s), h]
  rfl

/-! ### Blanks between tokens -/

/-- A blank that stands between tokens: a space or a line feed. -/
def IsBlank (c : Char) : Prop := c = ' ' ∨ c = '\n'

/-- The text goes on with something else than a blank or a comment, or ends. -/
structure Resumes (rest : List Char) : Prop where
  noSpace : rest.head? ≠ some ' '
  noComment : rest.head? ≠ some '#'
  noBreak : ∀ c, rest.head? = some c → isBreak c = false

/-- Blanks begin with spaces, after which they end or a line feed comes. -/
theorem blanks_cases : ∀ {blanks : List Char}, (∀ c ∈ blanks, IsBlank c) →
    ∃ n, blanks = List.replicate n ' ' ∨
      ∃ more, blanks = List.replicate n ' ' ++ '\n' :: more ∧ ∀ c ∈ more, IsBlank c
  | [], _ => ⟨0, .inl rfl⟩
  | c :: rest, h => by
      obtain ⟨first, others⟩ := List.forall_mem_cons.mp h
      rcases first with rfl | rfl
      · obtain ⟨n, rfl | ⟨more, rfl, hmore⟩⟩ := blanks_cases others
        · exact ⟨n + 1, .inl rfl⟩
        · exact ⟨n + 1, .inr ⟨more, rfl, hmore⟩⟩
      · exact ⟨0, .inr ⟨rest, rfl, others⟩⟩

/-- **The blanks before a token** are passed over.  Whether a key may begin changes outside of flow
collections only. -/
theorem skipToToken_blanks : ∀ {fuel : Nat} {blanks next : List Char} {s : Scan},
    (∀ c ∈ blanks, IsBlank c) → s.rest = blanks ++ next → Resumes next → blanks.length < fuel →
    ∃ b, (s.flow ≠ 0 → b = s.allowsKey) ∧
      skipToToken fuel s = .ok ((), (s.steps blanks.length).allow b)
  | fuel + 1, blanks, next, s, areBlanks, hrest, resumes, enough => by
      obtain ⟨n, rfl | ⟨more, rfl, areMore⟩⟩ := blanks_cases areBlanks
      · -- no line ends before the token
        have after : (s.steps n).rest = next := Scan.steps_rest_append hrest List.length_replicate
        refine ⟨s.allowsKey, fun _ => rfl, ?_⟩
        have noComment : ((s.steps n).ahead 0 == some '#') = false := by
          rw [Scan.ahead_zero, after]
          simpa using resumes.noComment
        unfold skipToToken
        rw [bind_of_ok (skipSpaces_spaces hrest resumes.noSpace), bind_of_ok (peek_eq _ _),
          if_neg (by rw [noComment]; exact Bool.false_ne_true), List.length_replicate]
        dsimp only
        rw [bind_of_ok (lineBreak_of_other (by rw [after]; exact resumes.noBreak)),
          ← Scan.steps_allowsKey s n, Scan.allow_self]
        rfl
      · -- the line ends here: the rest of the blanks comes after the line feed
        rw [List.append_assoc] at hrest
        have after : (s.steps n).rest = '\n' :: (more ++ next) :=
          Scan.steps_rest_append hrest List.length_replicate
        have total : (List.replicate n ' ' ++ '\n' :: more).length = n + 1 + more.length := by
          simp
          omega
        have noComment : ((s.steps n).ahead 0 == some '#') = false := by
          rw [Scan.ahead_zero, after]
          rfl
        have goOn : ∀ b, ((s.steps (n + 1)).allow b).rest = more ++ next := fun b => by
          rw [Scan.allow_rest, ← Scan.steps_steps, Scan.steps_rest 1, after]
          rfl
        unfold skipToToken
        rw [bind_of_ok (skipSpaces_spaces hrest (by simp)), bind_of_ok (peek_eq _ _),
          if_neg (by rw [noComment]; exact Bool.false_ne_true)]
        dsimp only
        rw [bind_of_ok (lineBreak_of_feed after), Scan.steps_steps, if_neg (by simp),
          bind_of_ok (get_eq _)]
        have shorter : more.length < fuel := by omega
        have passed : ∀ b c, ((((s.steps (n + 1)).allow b).steps more.length).allow c) =
            (s.steps (n + 1 + more.length)).allow c := fun b c => by
          rw [Scan.steps_allow, Scan.steps_steps, Scan.allow_allow]
        rw [total]
        by_cases outside : s.flow = 0
        · obtain ⟨b, -, skips⟩ := skipToToken_blanks areMore (goOn true) resumes shorter
          refine ⟨b, absurd outside, ?_⟩
          rw [if_pos (by simpa using outside), bind_of_ok (allowKey_eq _ _), skips, passed]
        · obtain ⟨b, kept, skips⟩ := skipToToken_blanks areMore (goOn s.allowsKey) resumes shorter
          refine ⟨b, fun _ => by simpa using kept (by simpa using outside), ?_⟩
          rw [if_neg (by simpa using outside)]
          rw [passed, ← Scan.steps_allowsKey s (n + 1), Scan.allow_self] at skips
          exact skips

end Scanning

end Verdict.Yaml
