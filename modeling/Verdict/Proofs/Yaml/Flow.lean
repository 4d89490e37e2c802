import Verdict.Proofs.Yaml.Marks
import Verdict.Proofs.Yaml.Scanning

/-!
# YAML: steps in flow collections

The steps of scanning where no block is open: at the marks of flow collections, at scalars, and
between tokens.  `InFlow` says where scanning is; each step is given by what it makes of that, and
`MayBeKey` by when the token before a colon becomes a key.
-/

namespace Verdict.Yaml

namespace Scanning

/-! ### States between tokens -/

/-- The state between two tokens of JSON: the depth of containers, the tokens so far and what is
left of the text.  No block is open, and no simple key has to be one. -/
structure InFlow (depth : Nat) (tokens : List Token) (rest : List Char) (s : Scan) : Prop where
  rest : s.rest = rest
  flow : s.flow = depth
  tokens : s.tokens.toList = tokens
  indent : s.indent = -1
  free : ∀ key ∈ s.keys, key.2.required = false

/-- The last token was scanned where a simple key may begin, so many characters before. -/
def MayBeKey (depth : Nat) (tokens : List Token) (length : Nat) (s : Scan) : Prop :=
  ∃ place : KeyPlace, s.keys.head? = some (depth, place) ∧ place.tokens + 1 = tokens.length ∧
    place.line = s.line ∧ s.index = place.index + length

variable {depth : Nat} {ts : List Token} {rest : List Char} {s : Scan}

theorem any_required {keys : List (Nat × KeyPlace)} (free : ∀ key ∈ keys, key.2.required = false)
    (p : Nat × KeyPlace → Bool) : (keys.any fun key => p key && key.2.required) = false := by
  rw [List.any_eq_false]
  intro key hkey
  simp [free key hkey]

theorem dropKey_eq (free : ∀ key ∈ s.keys, key.2.required = false) :
    dropKey s = .ok ((), { s with keys := s.keys.filter fun (level, _) => level != s.flow }) := by
  unfold dropKey
  rw [bind_of_ok (get_eq s)]
  dsimp only
  rw [any_required free fun key => key.1 == s.flow]
  rfl

/-- Where a simple key may begin, its place is noted. -/
theorem noteKey_eq (h : InFlow depth ts rest s) : ∃ keys,
    noteKey s = .ok ((), { s with keys }) ∧ (∀ key ∈ keys, key.2.required = false) ∧
      (s.allowsKey = true → ∃ place : KeyPlace, keys.head? = some (depth, place) ∧
        place.tokens = ts.length ∧ place.index = s.index ∧ place.line = s.line) := by
  unfold noteKey
  rw [bind_of_ok (get_eq s)]
  by_cases allowed : s.allowsKey = true
  · rw [if_pos allowed, bind_of_ok (dropKey_eq h.free)]
    refine ⟨_, rfl, ?_, fun _ => ⟨⟨s.tokens.size, s.flow == 0 && s.indent == s.column, s.index,
      s.line, s.column⟩, ?_, ?_, rfl, rfl⟩⟩
    · -- only a key at the column of a block is required, and no block is open
      have outside : (s.indent == (s.column : Int)) = false := by
        have := h.indent
        simp
        omega
      refine List.forall_mem_cons.mpr ⟨by simp [outside], fun key hkey => ?_⟩
      exact h.free key (List.mem_filter.mp hkey).1
    · rw [← h.flow]
      rfl
    · show s.tokens.size = ts.length
      rw [← h.tokens, Array.length_toList]
  · rw [if_neg allowed]
    exact ⟨s.keys, rfl, h.free, fun h => absurd h allowed⟩

/-! ### Steps at marks -/

theorem openFlow_eq {c : Char} (h : InFlow depth ts (c :: rest) s) (t : Token) :
    ∃ s', openFlow t s = .ok ((), s') ∧ InFlow (depth + 1) (ts ++ [t]) rest s' ∧
      s'.allowsKey = true := by
  obtain ⟨keys, notes, free, -⟩ := noteKey_eq h
  unfold openFlow
  rw [bind_of_ok notes]
  refine ⟨_, rfl, ⟨?_, ?_, ?_, ?_, ?_⟩, ?_⟩
  · simp [h.rest]
  · simp [h.flow]
  · simp [h.tokens]
  · simp [h.indent]
  · simpa using free
  · simp

theorem closeFlow_eq {c : Char} (h : InFlow (depth + 1) ts (c :: rest) s) (t : Token) :
    ∃ s', closeFlow t s = .ok ((), s') ∧ InFlow depth (ts ++ [t]) rest s' := by
  unfold closeFlow
  rw [bind_of_ok (dropKey_eq h.free), bind_of_ok (get_eq _), if_neg (by simp [h.flow])]
  refine ⟨_, rfl, ⟨?_, ?_, ?_, ?_, ?_⟩⟩
  · simp [h.rest]
  · simp [h.flow]
  · simp [h.tokens]
  · simp [h.indent]
  · simpa using fun level key hkey _ => h.free (level, key) hkey

/-- The mark between items. -/
theorem flowEntry_eq {c : Char} (h : InFlow depth ts (c :: rest) s) :
    ∃ s', (do allowKey true; dropKey; forward; emit .flowEntry) s = .ok ((), s') ∧
      InFlow depth (ts ++ [.flowEntry]) rest s' ∧ s'.allowsKey = true := by
  rw [bind_of_ok (allowKey_eq true s), bind_of_ok (dropKey_eq (s := s.allow true) h.free)]
  refine ⟨_, rfl, ⟨?_, ?_, ?_, ?_, ?_⟩, ?_⟩
  · simp [h.rest]
  · simp [h.flow]
  · simp [h.tokens]
  · simp [h.indent]
  · simpa using fun level key hkey _ => h.free (level, key) hkey
  · simp

theorem insertIdx_last {α : Type} (x y : α) :
    ∀ xs : List α, (xs ++ [y]).insertIdx xs.length x = xs ++ [x, y]
  | [] => rfl
  | z :: xs => congrArg (z :: ·) (insertIdx_last x y xs)

/-- The mark that is put before the last token. -/
theorem insertIdxIfInBounds_last {tokens : Array Token} {i : Nat}
    (h : tokens.toList = ts) (last : i + 1 = ts.length) :
    ((tokens.insertIdxIfInBounds i .key).push .value).toList = addMark ts (.colon, "") := by
  subst h
  have inBounds : i ≤ tokens.size := by
    rw [Array.length_toList] at last
    omega
  have nonempty : tokens.toList ≠ [] := List.ne_nil_of_length_eq_add_one last.symm
  have place : i = tokens.toList.dropLast.length := by
    rw [List.length_dropLast]
    omega
  have inserted := insertIdx_last Token.key (tokens.toList.getLast nonempty) tokens.toList.dropLast
  rw [List.dropLast_concat_getLast, ← place] at inserted
  rw [Array.insertIdxIfInBounds, dif_pos inBounds, Array.toList_push, Array.toList_insertIdx,
    inserted, addMark, List.getLast?_eq_some_getLast nonempty]
  simp

/-- The colon after a name makes a key of it. -/
theorem valueMark_eq {c : Char} {length : Nat} (h : InFlow (depth + 1) ts (c :: rest) s)
    (mayBeKey : MayBeKey (depth + 1) ts length s) :
    ∃ s', valueMark s = .ok ((), s') ∧ InFlow (depth + 1) (addMark ts (.colon, "")) rest s' := by
  obtain ⟨place, pending, last, -, -⟩ := mayBeKey
  obtain ⟨others, keys⟩ : ∃ others, s.keys = (depth + 1, place) :: others := by
    cases hkeys : s.keys with
    | nil => simp [hkeys] at pending
    | cons key others =>
        rw [hkeys, List.head?_cons, Option.some.injEq] at pending
        exact ⟨others, by rw [pending]⟩
  have found : s.keys.find? (·.1 == s.flow) = some (depth + 1, place) := by
    simp [keys, h.flow]
  unfold valueMark
  rw [bind_of_ok (get_eq s), found]
  dsimp only
  rw [if_neg (by simp [h.flow])]
  refine ⟨_, rfl, ⟨?_, ?_, ?_, ?_, ?_⟩⟩
  · simp [h.rest]
  · simp [h.flow]
  · rw [← insertIdxIfInBounds_last h.tokens last]
    simp
  · simp [h.indent]
  · simpa using fun level key hkey _ => h.free (level, key) hkey

/-! ### Steps at scalars -/

/-- A scalar of which it is known how it is read. -/
theorem keyToken_eq {t : Token} {read : Scanning Token} {written : List Char}
    (h : InFlow depth ts (written ++ rest) s)
    (reads : ∀ s', s'.rest = s.rest → s'.flow = s.flow →
      ∃ b, read s' = .ok (t, (s'.steps written.length).allow b)) :
    ∃ s', keyToken read s = .ok ((), s') ∧ InFlow depth (ts ++ [t]) rest s' ∧
      (s.allowsKey = true → (∀ c ∈ written, isBreak c = false) →
        MayBeKey depth (ts ++ [t]) written.length s') := by
  obtain ⟨keys, notes, free, noted⟩ := noteKey_eq h
  obtain ⟨b, reads⟩ := reads (({ s with keys } : Scan).allow false) rfl rfl
  unfold keyToken
  rw [bind_of_ok notes, bind_of_ok (allowKey_eq _ _), bind_of_ok reads]
  refine ⟨_, rfl, ⟨?_, ?_, ?_, ?_, ?_⟩, fun allowed inLine => ?_⟩
  · simp [h.rest]
  · simp [h.flow]
  · simp [h.tokens]
  · simp [h.indent]
  · simpa using free
  · obtain ⟨place, head, tokens, index, line⟩ := noted allowed
    refine ⟨place, by simpa using head, by simp [tokens], ?_, ?_⟩
    · rw [line]
      show s.line = (Scan.steps written.length (({ s with keys } : Scan).allow false)).line
      rw [Scan.steps_line]
      · rfl
      · simpa [h.rest] using inLine
    · rw [index]
      show (Scan.steps written.length (({ s with keys } : Scan).allow false)).index = _
      rw [Scan.steps_index]
      · rfl
      · simp [h.rest]

/-! ### Between tokens -/

/-- The place of a key that may be forgotten. -/
def isStale (s : Scan) (key : Nat × KeyPlace) : Bool :=
  key.2.line != s.line || keyReach < s.index - key.2.index

/-- The state in which the places of such keys are forgotten. -/
def fresh (s : Scan) : Scan := { s with keys := s.keys.filter fun key => !isStale s key }

theorem dropStaleKeys_eq (free : ∀ key ∈ s.keys, key.2.required = false) :
    dropStaleKeys s = .ok ((), fresh s) := by
  unfold dropStaleKeys
  rw [bind_of_ok (get_eq s)]
  dsimp only
  rw [if_neg]
  · rfl
  · show ¬(s.keys.any fun key => isStale s key && key.2.required) = true
    rw [any_required free]
    exact Bool.false_ne_true

/-- Outside of blocks there are none to end. -/
theorem unwind_eq {column : Int} (h : s.indent ≤ column) : unwind column s = .ok ((), s) := by
  unfold unwind
  rw [bind_of_ok (get_eq s)]
  split
  · unfold unwindTo
    rw [bind_of_ok (get_eq s), if_neg (by omega)]
    rfl
  · rfl

/-- What is done at the character that comes next. -/
def takeNext (fuel : Nat) : Option Char → Scanning Unit
  | none => do
    unwind (-1)
    dropKey
  | some c => do
    token c
    tokens fuel

/-- Blanks are passed over, and the places of keys that are too far back are forgotten. -/
theorem InFlow.pass {blanks next : List Char} (h : InFlow depth ts (blanks ++ next) s) (b : Bool) :
    InFlow depth ts next (fresh ((s.steps blanks.length).allow b)) where
  rest := by simp [fresh, h.rest]
  flow := by simp [fresh, h.flow]
  tokens := by simp [fresh, h.tokens]
  indent := by simp [fresh, h.indent]
  free := by simpa [fresh] using fun level key hkey _ => h.free (level, key) hkey

/-- Behind a few spaces the last token may still become a key. -/
theorem MayBeKey.pass {blanks next : List Char} {length : Nat}
    (mayBeKey : MayBeKey depth ts length s) (hrest : s.rest = blanks ++ next)
    (spaces : ∀ c ∈ blanks, c = ' ') (near : length + blanks.length ≤ keyReach) (b : Bool) :
    MayBeKey depth ts (length + blanks.length) (fresh ((s.steps blanks.length).allow b)) := by
  obtain ⟨place, head, tokens, line, index⟩ := mayBeKey
  -- spaces end no line, and with them the place is still near enough
  have sameLine : (s.steps blanks.length).line = s.line := by
    refine Scan.steps_line ?_
    rw [hrest, List.take_left]
    intro c hc
    rw [spaces c hc]
    rfl
  have further : (s.steps blanks.length).index = s.index + blanks.length := by
    refine Scan.steps_index ?_
    rw [hrest, List.length_append]
    omega
  have notStale : isStale ((s.steps blanks.length).allow b) (depth, place) = false := by
    simp only [isStale, Scan.allow_line, Scan.allow_index, sameLine, further, line, index]
    simp
    omega
  refine ⟨place, ?_, tokens, ?_, ?_⟩
  · cases hkeys : s.keys with
    | nil => simp [hkeys] at head
    | cons key others =>
        obtain rfl : key = (depth, place) := by simpa [hkeys] using head
        simp [fresh, hkeys, notStale]
  · simp [fresh, sameLine, line]
  · simp [fresh, further, index]
    omega

/-- **Before a token** its blanks are passed over, and the places of keys that are too far back are
forgotten. -/
theorem tokens_blanks {blanks next : List Char} (h : InFlow depth ts (blanks ++ next) s)
    (areBlanks : ∀ c ∈ blanks, IsBlank c) (resumes : Resumes next) (fuel : Nat) :
    ∃ s', tokens (fuel + 1) s = takeNext fuel next.head? s' ∧
      InFlow depth ts next s' ∧ (depth ≠ 0 → s'.allowsKey = s.allowsKey) ∧
      (∀ length, (∀ c ∈ blanks, c = ' ') → length + blanks.length ≤ keyReach →
        MayBeKey depth ts length s → MayBeKey depth ts (length + blanks.length) s') := by
  have enough : blanks.length < s.rest.length + 1 := by
    rw [h.rest, List.length_append]
    omega
  obtain ⟨b, kept, skips⟩ := skipToToken_blanks areBlanks h.rest resumes enough
  have passed := h.pass b
  refine ⟨fresh ((s.steps blanks.length).allow b), ?_, passed, fun inside => ?_,
    fun length spaces near mayBeKey => mayBeKey.pass h.rest spaces near b⟩
  · have free : ∀ key ∈ ((s.steps blanks.length).allow b).keys, key.2.required = false := by
      simpa using h.free
    have outside : (fresh ((s.steps blanks.length).allow b)).indent ≤
        ((fresh ((s.steps blanks.length).allow b)).column : Int) := by
      rw [passed.indent]
      omega
    conv => lhs; unfold tokens
    rw [bind_of_ok (get_eq s), bind_of_ok skips, bind_of_ok (dropStaleKeys_eq free),
      bind_of_ok (get_eq _), bind_of_ok (unwind_eq outside), bind_of_ok (peek_eq 0 _),
      Scan.ahead_zero, passed.rest]
    cases next <;> rfl
  · simpa [fresh] using kept (by rw [h.flow]; exact inside)

end Scanning

end Verdict.Yaml
