import Verdict.Text.Utf8

/-!
# Text: line ends

What becomes of a text when its line ends become line feeds.  A return alone and a return before a
feed become a feed; every other character stays (`unifyLineEnds_of_notMem`), so a text stays as it
is exactly if it has no return (`unifyLineEnds_eq_self_iff`).  The proofs are by the ways in which a
text may begin (`lineEnds_induction`).
-/

namespace Verdict.Text

theorem unifyLineEnds_cons {c : Char} (h : c ≠ '\r') (rest : List Char) :
    unifyLineEnds (c :: rest) = c :: unifyLineEnds rest := by
  rw [unifyLineEnds]
  · exact fun _ same _ => h same
  · exact h

theorem unifyLineEnds_return {rest : List Char} (h : rest.head? ≠ some '\n') :
    unifyLineEnds ('\r' :: rest) = '\n' :: unifyLineEnds rest := by
  rw [unifyLineEnds]
  rintro tail rfl
  exact h rfl

/-- A text is empty, or it begins with a return and a feed, with a return alone, or with another
character. -/
theorem lineEnds_induction {motive : List Char → Prop} (empty : motive [])
    (both : ∀ rest, motive rest → motive ('\r' :: '\n' :: rest))
    (alone : ∀ rest, rest.head? ≠ some '\n' → motive rest → motive ('\r' :: rest))
    (other : ∀ c rest, c ≠ '\r' → motive rest → motive (c :: rest)) : ∀ s, motive s
  | [] => empty
  | c :: rest => by
      by_cases isReturn : c = '\r'
      · subst isReturn
        by_cases feed : rest.head? = some '\n'
        · obtain ⟨tail, rfl⟩ := List.head?_eq_some_iff.mp feed
          exact both tail (lineEnds_induction empty both alone other tail)
        · exact alone rest feed (lineEnds_induction empty both alone other rest)
      · exact other c rest isReturn (lineEnds_induction empty both alone other rest)
termination_by s => s.length

/-- A return becomes a feed, with the feed after it if there is one. -/
theorem exists_unifyLineEnds_return (rest : List Char) :
    ∃ rest', unifyLineEnds ('\r' :: rest) = '\n' :: unifyLineEnds rest' := by
  by_cases feed : rest.head? = some '\n'
  · obtain ⟨tail, rfl⟩ := List.head?_eq_some_iff.mp feed
    exact ⟨tail, rfl⟩
  · exact ⟨rest, unifyLineEnds_return feed⟩

/-- The first character stays or becomes a feed. -/
theorem exists_unifyLineEnds_cons (c : Char) (rest : List Char) :
    ∃ d rest', unifyLineEnds (c :: rest) = d :: unifyLineEnds rest' ∧ (d = c ∨ d = '\n') := by
  by_cases isReturn : c = '\r'
  · subst isReturn
    obtain ⟨rest', unified⟩ := exists_unifyLineEnds_return rest
    exact ⟨'\n', rest', unified, .inr rfl⟩
  · exact ⟨c, rest, unifyLineEnds_cons isReturn rest, .inl rfl⟩

/-- A text without returns stays as it is. -/
theorem unifyLineEnds_of_notMem {written : List Char} (h : '\r' ∉ written) (rest : List Char) :
    unifyLineEnds (written ++ rest) = written ++ unifyLineEnds rest := by
  induction written with
  | nil => rfl
  | cons c written ih =>
      obtain ⟨noReturn, h⟩ := not_or.mp (mt List.mem_cons.mpr h)
      rw [List.cons_append, unifyLineEnds_cons (Ne.symm noReturn), ih h, List.cons_append]

/-- Line ends before another text than one that begins with a feed. -/
theorem unifyLineEnds_append {next : List Char} (h : next.head? ≠ some '\n') (blanks : List Char) :
    unifyLineEnds (blanks ++ next) = unifyLineEnds blanks ++ unifyLineEnds next := by
  induction blanks using lineEnds_induction with
  | empty => rfl
  | both rest ih => rw [List.cons_append, List.cons_append, unifyLineEnds, ih]; rfl
  | alone rest noFeed ih =>
      have goesOn : (rest ++ next).head? ≠ some '\n' := by
        cases rest with
        | nil => exact h
        | cons c rest => exact noFeed
      rw [List.cons_append, unifyLineEnds_return goesOn, unifyLineEnds_return noFeed, ih]
      rfl
  | other c rest noReturn ih =>
      rw [List.cons_append, unifyLineEnds_cons noReturn, unifyLineEnds_cons noReturn, ih]
      rfl

theorem mem_unifyLineEnds {s : List Char} {c : Char} (h : c ∈ unifyLineEnds s) :
    c = '\n' ∨ (c ∈ s ∧ c ≠ '\r') := by
  induction s using lineEnds_induction with
  | empty => cases h
  | both rest ih =>
      rcases List.mem_cons.mp h with rfl | h
      · exact .inl rfl
      · exact (ih h).imp_right fun ⟨among, noReturn⟩ => ⟨by simp [among], noReturn⟩
  | alone rest noFeed ih =>
      rw [unifyLineEnds_return noFeed] at h
      rcases List.mem_cons.mp h with rfl | h
      · exact .inl rfl
      · exact (ih h).imp_right fun ⟨among, noReturn⟩ => ⟨List.mem_cons_of_mem _ among, noReturn⟩
  | other d rest noReturn ih =>
      rw [unifyLineEnds_cons noReturn] at h
      rcases List.mem_cons.mp h with rfl | h
      · exact .inr ⟨List.mem_cons_self, noReturn⟩
      · exact (ih h).imp_right fun ⟨among, noReturn⟩ => ⟨List.mem_cons_of_mem _ among, noReturn⟩

/-- A text stays as it is exactly if it has no return. -/
theorem unifyLineEnds_eq_self_iff {s : List Char} : unifyLineEnds s = s ↔ '\r' ∉ s := by
  constructor
  · intro same among
    rw [← same] at among
    rcases mem_unifyLineEnds among with feed | ⟨-, noReturn⟩
    · exact absurd feed (by decide)
    · exact noReturn rfl
  · intro h
    simpa [unifyLineEnds] using unifyLineEnds_of_notMem h []

/-- What begins with a text without feeds did so before. -/
theorem eq_append_of_unifyLineEnds {tail : List Char} : ∀ (written : List Char) {s : List Char},
    '\n' ∉ written → unifyLineEnds s = written ++ tail →
      ∃ rest, s = written ++ rest ∧ unifyLineEnds rest = tail
  | [], s, _, h => ⟨s, rfl, h⟩
  | c :: written, [], _, h => nomatch h
  | c :: written, d :: s, noFeed, h => by
      obtain ⟨other, noFeed'⟩ := not_or.mp (mt List.mem_cons.mpr noFeed)
      by_cases isReturn : d = '\r'
      · subst isReturn
        obtain ⟨rest, unified⟩ := exists_unifyLineEnds_return s
        rw [unified] at h
        exact absurd (List.cons.inj h).1 other
      · rw [unifyLineEnds_cons isReturn] at h
        obtain ⟨rfl, h'⟩ := List.cons.inj h
        obtain ⟨rest, rfl, unified⟩ := eq_append_of_unifyLineEnds written noFeed' h'
        exact ⟨rest, rfl, unified⟩

/-! ### Parts by kinds of characters -/

section Kind

variable {p : Char → Bool}

/-- The front of a kind without line ends is the same. -/
theorem takeWhile_unifyLineEnds (noReturn : p '\r' = false) (noFeed : p '\n' = false)
    (s : List Char) : (unifyLineEnds s).takeWhile p = s.takeWhile p := by
  induction s using lineEnds_induction with
  | empty => rfl
  | both rest => simp [unifyLineEnds, noReturn, noFeed]
  | alone rest single => simp [unifyLineEnds_return single, noReturn, noFeed]
  | other c rest other ih =>
      rw [unifyLineEnds_cons other, List.takeWhile_cons, List.takeWhile_cons, ih]

/-- What comes after the front of a kind is the rest with line feeds, if the kind does not tell
returns from feeds. -/
theorem dropWhile_unifyLineEnds (alike : p '\r' = p '\n') (s : List Char) :
    (unifyLineEnds s).dropWhile p = unifyLineEnds (s.dropWhile p) := by
  induction s using lineEnds_induction with
  | empty => rfl
  | both rest ih => cases feed : p '\n' <;> simp [alike, feed, ih, unifyLineEnds]
  | alone rest noFeed ih =>
      cases feed : p '\n' <;> simp [alike, feed, ih, unifyLineEnds_return noFeed]
  | other c rest other ih =>
      rw [unifyLineEnds_cons other, List.dropWhile_cons, List.dropWhile_cons, ih]
      split
      · rfl
      · rw [unifyLineEnds_cons other]

end Kind

end Verdict.Text
