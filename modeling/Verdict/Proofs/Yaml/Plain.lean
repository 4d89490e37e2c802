import Verdict.Proofs.Yaml.Scanning

/-!
# YAML: plain scalars on one line

A number or a word is scanned as a plain scalar with its own text (`plain_written`).  The blanks
after it are passed over with it: they might have been the blanks between two of its words.
-/

namespace Verdict.Yaml

/-- A character that ends no plain scalar, whatever follows it. -/
def isPlainChar (c : Char) : Bool :=
  !(endsToken (some c) || c == ':' || c == '#' || ",?[]\x7b\x7d".toList.contains c)

namespace Scanning

/-- No plain scalar goes on here. -/
structure EndsPlain (inFlow : Bool) (next : List Char) : Prop where
  resumes : Resumes next
  noRun : plainRun inFlow next = []
  noSeparator : atSeparator next = false

theorem endsPlain_nil (inFlow : Bool) : EndsPlain inFlow [] :=
  ⟨⟨by simp, by simp, by simp⟩, rfl, rfl⟩

/-- A plain scalar in a flow collection ends at a mark of it. -/
theorem endsPlain_mark {c : Char} (mark : c ∈ [',', ']', '\x7d']) (rest : List Char) :
    EndsPlain true (c :: rest) := by
  simp only [List.mem_cons, List.not_mem_nil, or_false] at mark
  have noSeparator (h : c ≠ '-' ∧ c ≠ '.') : atSeparator (c :: rest) = false := by
    match rest with
    | [] | [_] => rfl
    | _ :: _ :: _ => simp [atSeparator, atDocumentMark, h.1, h.2]
  have inLine (h : isBreak c = false) : ∀ d, (c :: rest).head? = some d → isBreak d = false := by
    rintro _ ⟨⟩
    exact h
  rcases mark with rfl | rfl | rfl <;>
    exact ⟨⟨by simp, by simp, inLine rfl⟩, by simp [plainRun], noSeparator (by decide)⟩

/-- Plain characters are one run up to what ends the scalar. -/
theorem plainRun_append (inFlow : Bool) {written rest : List Char}
    (plain : ∀ c ∈ written, isPlainChar c = true) (ends : plainRun inFlow rest = []) :
    plainRun inFlow (written ++ rest) = written := by
  induction written with
  | nil => exact ends
  | cons c written ih =>
      obtain ⟨here, plain⟩ := List.forall_mem_cons.mp plain
      simp only [isPlainChar, Bool.not_eq_true', Bool.or_eq_false_iff] at here
      obtain ⟨⟨⟨noEnd, noColon⟩, -⟩, noMark⟩ := here
      rw [List.cons_append, plainRun, ih plain, noEnd, noColon, noMark]
      simp

/-- A blank ends a run of plain characters. -/
theorem plainRun_blanks {inFlow : Bool} {blanks next : List Char}
    (areBlanks : ∀ c ∈ blanks, IsBlank c) (h : plainRun inFlow next = []) :
    plainRun inFlow (blanks ++ next) = [] := by
  cases blanks with
  | nil => exact h
  | cons c blanks =>
      obtain ⟨rfl | rfl, -⟩ := List.forall_mem_cons.mp areBlanks <;>
        simp [plainRun, endsToken, isBreak]

theorem atSeparator_blanks {blanks next : List Char} (areBlanks : ∀ c ∈ blanks, IsBlank c)
    (h : atSeparator next = false) : atSeparator (blanks ++ next) = false := by
  cases blanks with
  | nil => exact h
  | cons c blanks =>
      obtain ⟨first, -⟩ := List.forall_mem_cons.mp areBlanks
      match hrest : blanks ++ next with
      | [] | [_] => simp [hrest, atSeparator, atDocumentMark]
      | _ :: _ :: _ =>
          rcases first with rfl | rfl <;> simp [hrest, atSeparator, atDocumentMark]

/-- The blanks after a line of a plain scalar are passed over. -/
theorem plainBreaks_blanks {inFlow : Bool} {next : List Char} (ends : EndsPlain inFlow next) :
    ∀ {blanks : List Char} (read : List Char) {fuel : Nat} {s : Scan}, (∀ c ∈ blanks, IsBlank c) →
      s.rest = blanks ++ next → blanks.length ≤ fuel →
      ∃ more, plainBreaks read fuel s = .ok (some more, s.steps blanks.length)
  | [], read, 0, s, _, _, _ => ⟨read, rfl⟩
  | [], read, fuel + 1, s, _, hrest, _ => by
      refine ⟨read, ?_⟩
      unfold plainBreaks
      rw [bind_of_ok (peek_eq 0 s), Scan.ahead_zero, hrest]
      cases next with
      | nil => rfl
      | cons c next =>
          have noSpace : c ≠ ' ' := by simpa using ends.resumes.noSpace
          have inLine : isBreak c = false := ends.resumes.noBreak c rfl
          simp [noSpace, inLine]
          rfl
  | c :: blanks, read, fuel + 1, s, areBlanks, hrest, enough => by
      obtain ⟨first, others⟩ := List.forall_mem_cons.mp areBlanks
      have after : (s.steps 1).rest = blanks ++ next := by rw [Scan.steps_rest, hrest]; rfl
      have shorter : blanks.length ≤ fuel := by simpa using enough
      have total : s.steps (c :: blanks).length = (s.steps 1).steps blanks.length := by
        rw [Scan.steps_steps, List.length_cons, Nat.add_comm]
      rw [total]
      unfold plainBreaks
      rw [bind_of_ok (peek_eq 0 s), Scan.ahead_zero, hrest]
      rcases first with rfl | rfl
      · exact plainBreaks_blanks ends read others after shorter
      · have noSeparator : atSeparator (s.steps 1).rest = false := by
          rw [after]
          exact atSeparator_blanks others ends.noSeparator
        -- a document might end after the feed, but no separator comes
        obtain ⟨more, goesOn⟩ := plainBreaks_blanks ends (read ++ ['\n']) others after shorter
        refine ⟨more, ?_⟩
        show (lineBreak >>= fun broken => get >>= fun s => if atSeparator s.rest = true then
          pure none else plainBreaks (read ++ broken) fuel : Scanning _) s = _
        rw [bind_of_ok (lineBreak_of_feed hrest), bind_of_ok (get_eq _),
          if_neg (by rw [noSeparator]; exact Bool.false_ne_true), goesOn]

/-- The blanks after a word of a plain scalar are passed over. -/
theorem plainSpaces_blanks {inFlow : Bool} {next blanks : List Char} {s : Scan}
    (ends : EndsPlain inFlow next) (areBlanks : ∀ c ∈ blanks, IsBlank c)
    (hrest : s.rest = blanks ++ next) :
    ∃ read b, plainSpaces s = .ok (read, (s.steps blanks.length).allow b) := by
  have noSpace := ends.resumes.noSpace
  obtain ⟨n, rfl | ⟨more, rfl, areMore⟩⟩ := blanks_cases areBlanks
  · -- no line ends
    refine ⟨List.replicate n ' ', s.allowsKey, ?_⟩
    have after : (s.steps n).rest = next := Scan.steps_rest_append hrest List.length_replicate
    have inLine : next.head?.any isBreak = false := by
      cases next with
      | nil => rfl
      | cons c next => exact ends.resumes.noBreak c rfl
    unfold plainSpaces
    rw [bind_of_ok (takeWhile_spaces hrest noSpace), bind_of_ok (peek_eq _ _), Scan.ahead_zero,
      after, if_neg (by rw [inLine]; exact Bool.false_ne_true), List.length_replicate,
      ← Scan.steps_allowsKey s n, Scan.allow_self]
    rfl
  · -- the line ends: the rest of the blanks comes after the line feed
    rw [List.append_assoc] at hrest
    have after : (s.steps n).rest = '\n' :: (more ++ next) :=
      Scan.steps_rest_append hrest List.length_replicate
    have goOn : (((s.steps n).steps 1).allow true).rest = more ++ next := by
      rw [Scan.allow_rest, Scan.steps_rest 1, after]
      rfl
    have noSeparator : atSeparator (((s.steps n).steps 1).allow true).rest = false := by
      rw [goOn]
      exact atSeparator_blanks areMore ends.noSeparator
    have enough : more.length ≤ (((s.steps n).steps 1).allow true).rest.length := by
      rw [goOn, List.length_append]
      omega
    obtain ⟨further, breaks⟩ := plainBreaks_blanks ends [] areMore goOn enough
    refine ⟨folded ['\n'] further, true, ?_⟩
    unfold plainSpaces
    rw [bind_of_ok (takeWhile_spaces hrest (by simp)), bind_of_ok (peek_eq _ _), Scan.ahead_zero,
      after, if_pos (by rfl), bind_of_ok (lineBreak_of_feed after),
      bind_of_ok (allowKey_eq _ _), bind_of_ok (get_eq _),
      if_neg (by rw [noSeparator]; exact Bool.false_ne_true), bind_of_ok (get_eq _),
      bind_of_ok breaks]
    have total : (List.replicate n ' ' ++ '\n' :: more).length = n + 1 + more.length := by
      simp
      omega
    rw [Scan.steps_allow, Scan.steps_steps, Scan.steps_steps, ← Nat.add_assoc, total]
    rfl

/-- No further word comes where none begins. -/
theorem plainWords_ended {words blanks : List Char} {s : Scan}
    (ended : plainRun (s.flow != 0) s.rest = []) (fuel : Nat) :
    plainWords words blanks fuel s = .ok (words, s) := by
  cases fuel with
  | zero => rfl
  | succ fuel =>
      unfold plainWords
      rw [bind_of_ok (get_eq s)]
      simp only [ended, List.isEmpty_nil, if_true]
      split <;> rfl

/-- One word is scanned, and the blanks after it. -/
theorem plainWords_written {written blanks next : List Char} {s : Scan}
    (nonempty : written ≠ []) (plainChars : ∀ c ∈ written, isPlainChar c = true)
    (ends : EndsPlain (s.flow != 0) next) (areBlanks : ∀ c ∈ blanks, IsBlank c)
    (hrest : s.rest = written ++ (blanks ++ next)) (fuel : Nat) :
    ∃ b, plainWords [] [] (fuel + 1) s =
      .ok (written, (s.steps (written.length + blanks.length)).allow b) := by
  have run : plainRun (s.flow != 0) s.rest = written := by
    rw [hrest, plainRun_append _ plainChars (plainRun_blanks areBlanks ends.noRun)]
  have noComment : (s.ahead 0 == some '#') = false := by
    obtain ⟨c, rest, rfl⟩ := List.exists_cons_of_ne_nil nonempty
    have noHash : c ≠ '#' := by
      rintro rfl
      exact absurd (plainChars '#' List.mem_cons_self) (by decide)
    rw [Scan.ahead_zero, hrest]
    simpa using noHash
  have someRun : written.isEmpty = false := by simpa using nonempty
  have after : ((s.allow false).steps written.length).rest = blanks ++ next :=
    Scan.steps_rest_append hrest rfl
  obtain ⟨read, b, spaces⟩ := plainSpaces_blanks ends areBlanks after
  have total : (((s.allow false).steps written.length).steps blanks.length).allow b =
      (s.steps (written.length + blanks.length)).allow b := by
    rw [Scan.steps_steps, Scan.steps_allow, Scan.allow_allow]
  rw [total] at spaces
  have ended : plainRun (((s.steps (written.length + blanks.length)).allow b).flow != 0)
      ((s.steps (written.length + blanks.length)).allow b).rest = [] := by
    rw [Scan.allow_flow, Scan.steps_flow, Scan.allow_rest, Scan.steps_rest, hrest,
      ← List.append_assoc, List.drop_left' List.length_append, ends.noRun]
  refine ⟨b, ?_⟩
  unfold plainWords
  rw [bind_of_ok (get_eq s)]
  simp only [noComment, run, someRun, Bool.false_eq_true, if_false]
  rw [bind_of_ok (allowKey_eq _ _), bind_of_ok (forward_eq _ _), bind_of_ok spaces,
    bind_of_ok (get_eq _), List.append_nil, List.nil_append]
  split
  · rfl
  · exact plainWords_ended ended _

/-- **A number or a word** is scanned as a plain scalar with its own text. -/
theorem plain_written {written blanks next : List Char} {s : Scan}
    (nonempty : written ≠ []) (plainChars : ∀ c ∈ written, isPlainChar c = true)
    (ends : EndsPlain (s.flow != 0) next) (areBlanks : ∀ c ∈ blanks, IsBlank c)
    (hrest : s.rest = written ++ (blanks ++ next)) :
    ∃ b, plain s = .ok (.scalar (String.ofList written) true,
      (s.steps (written.length + blanks.length)).allow b) := by
  obtain ⟨b, words⟩ := plainWords_written nonempty plainChars ends areBlanks hrest s.rest.length
  refine ⟨b, ?_⟩
  unfold plain
  rw [bind_of_ok (get_eq s), bind_of_ok words]
  rfl

end Scanning

end Verdict.Yaml
