import Verdict.Pattern.Search

/-!
# Patterns: the matches in a text

A part of a pattern is tried together with what follows it, and succeeds only as that does
(`Node.attempt_comesOf`).  What follows a whole pattern decides where a match may end, so a match
that must take something does (`lt_stop_of_searchFrom?`).

* `finds_allMatches`: the matches in a text are those that one search after another finds, until
  none does.
* `allMatches_pairwise`: they come from left to right, without overlap, and no two are the same part
  of the text.
-/

namespace Verdict.Pattern

/-! ### What a part of a pattern answers -/

/-- An answer is none, or one that an attempt gives at some place. -/
def ComesOf (next : Attempt) (answer : Option Place) : Prop :=
  ∀ ⦃q⦄, answer = some q → ∃ p, next p = some q

namespace ComesOf

variable {next : Attempt} {a b : Option Place}

theorem here (next : Attempt) (p : Place) : ComesOf next (next p) := fun _ h => ⟨p, h⟩

theorem none (next : Attempt) : ComesOf next none := nofun

theorem ite {c : Prop} [Decidable c] (yes : ComesOf next a) (no : ComesOf next b) :
    ComesOf next (if c then a else b) := by
  split
  · exact yes
  · exact no

theorem orElse : ComesOf next a → ComesOf next b →
    ComesOf next (match a with | some r => some r | .none => b) := by
  intro first rest
  cases a with
  | none => exact rest
  | some r => exact first

theorem bind (next : Attempt) (found : Option Place) : ComesOf next (found.bind next) := fun _ h =>
  have ⟨p, _, ends⟩ := Option.bind_eq_some_iff.mp h
  ⟨p, ends⟩

/-- What comes of an attempt comes of what follows it, if all its answers do. -/
theorem trans {tried : Attempt} (h : ComesOf tried a) (each : ∀ p, ComesOf next (tried p)) :
    ComesOf next a := fun _ found =>
  have ⟨p, ends⟩ := h found
  each p ends

end ComesOf

section Rounds

variable (next : Attempt)

theorem giveBack_comesOf (p : Place) (low : Nat) :
    ∀ extra, ComesOf next (giveBack next p low extra)
  | 0 => .here next _
  | extra + 1 => .orElse (.here next _) (giveBack_comesOf p low extra)

theorem takeMore_comesOf (s : Subject) (flags : Flags) (one : Single) :
    ∀ extra p, ComesOf next (takeMore s flags one next extra p)
  | 0, p => .here next p
  | extra + 1, p =>
    .orElse (.here next p) (.ite (takeMore_comesOf s flags one extra _) (.none next))

theorem singleRounds_comesOf (s : Subject) (flags : Flags) (one : Single) (greed : Greed)
    (low : Nat) (high : Option Nat) (p : Place) :
    ComesOf next (singleRounds s flags one greed low high next p) := by
  refine .ite (.none next) ?_
  cases greed with
  | greedy => exact .ite (.none next) (giveBack_comesOf next p low _)
  | possessive => exact .ite (.none next) (.here next _)
  | lazy => exact .ite (.none next) (takeMore_comesOf next s flags one _ _)

variable {body : Attempt → Attempt} (each : ∀ next p, ComesOf next (body next p))
include each

theorem greedyRounds_comesOf (low : Nat) (high : Option Nat) :
    ∀ fuel count last p, ComesOf next (greedyRounds body low high next fuel count last p)
  | 0, _, _, _ => .none next
  | fuel + 1, count, last, p => by
      have further : ∀ last, ComesOf next
          (body (greedyRounds body low high next fuel (count + 1) last) p) := fun last =>
        (each _ p).trans (greedyRounds_comesOf low high fuel (count + 1) last)
      exact .ite (further last) (.ite (.orElse (further _) (.here next p)) (.here next p))

theorem lazyRounds_comesOf (low : Nat) (high : Option Nat) :
    ∀ fuel count last p, ComesOf next (lazyRounds body low high next fuel count last p)
  | 0, _, _, _ => .none next
  | fuel + 1, count, last, p => by
      have further : ∀ last, ComesOf next
          (body (lazyRounds body low high next fuel (count + 1) last) p) := fun last =>
        (each _ p).trans (lazyRounds_comesOf low high fuel (count + 1) last)
      exact .ite (further last) (.orElse (.here next p) (.ite (further _) (.none next)))

/-- What rounds of a part answer comes of what follows the last one, if what each round answers
comes of what follows it. -/
theorem rounds_comesOf (s : Subject) (greed : Greed) (low : Nat) (high : Option Nat) (p : Place) :
    ComesOf next (rounds s body greed low high next p) := by
  cases greed with
  | greedy => exact greedyRounds_comesOf next each low high _ _ _ p
  | lazy => exact lazyRounds_comesOf next each low high _ _ _ p
  | possessive => exact .bind next _

end Rounds

/-- **A part of a pattern** answers what comes of what follows it. -/
theorem Node.attempt_comesOf (s : Subject) (node : Node) :
    ∀ (flags : Flags) (next : Attempt) (p : Place), ComesOf next (node.attempt s flags next p) := by
  induction node with
  | empty => exact fun flags next p => .here next p
  | single one => exact fun flags next p => .ite (.here next _) (.none next)
  | anchor kind => exact fun flags next p => .ite (.here next p) (.none next)
  | backReference number width =>
      intro flags next p
      simp only [attempt]
      split
      · exact .ite (.here next _) (.none next)
      · exact .none next
  | group number added removed body ih =>
      intro flags next p
      cases number with
      | none => exact ih _ next p
      | some number => exact (ih _ _ (p.enter number)).trans fun q => .here next _
  | atomic body ih => exact fun flags next p => .bind next _
  | sequence first rest ihFirst ihRest =>
      exact fun flags next p => (ihFirst flags _ p).trans (ihRest flags next)
  | choice first rest ihFirst ihRest =>
      exact fun flags next p => .orElse (ihFirst flags next p) (ihRest flags next p)
  | repetition greed low high body ih =>
      intro flags next p
      -- rounds of a part that takes one character have a loop of their own
      cases body with
      | single one => exact singleRounds_comesOf next s flags one greed low high p
      | _ => exact rounds_comesOf next (ih flags) s greed low high p
  | look behind negated body ih =>
      intro flags next p
      simp only [attempt]
      split
      · exact .here next _
      · exact .here next p
      · exact .none next
  | conditional number yes no ihYes ihNo =>
      exact fun flags next p => .ite (ihYes flags next p) (ihNo flags next p)

/-! ### One search -/

section Search

variable {p : Pattern} {s : Subject} {m : Match s.size}

/-- A match begins where it is looked for, and takes something if it must. -/
theorem bounds_of_matchAt? {start : Nat} {mustTake : Bool}
    (h : p.matchAt? s start mustTake = some m) :
    m.start = start ∧ (mustTake = true → start < m.stop) := by
  obtain ⟨stop, found, placed⟩ := Option.bind_eq_some_iff.mp h
  obtain ⟨at_, ends⟩ := p.body.attempt_comesOf s p.flags _ _ found
  have moved : ¬(mustTake && stop.position == start) = true := fun still => by
    obtain ⟨stays, same⟩ := Option.ite_none_left_eq_some.mp ends
    obtain rfl := Option.some.inj same
    exact stays still
  split at placed
  · next inside =>
      obtain rfl := Option.some.inj placed
      refine ⟨rfl, fun must => Nat.lt_of_le_of_ne inside.1 fun still => moved ?_⟩
      exact Bool.and_eq_true_iff.mpr ⟨must, beq_iff_eq.mpr still.symm⟩
  · cases placed

/-- A search finds a match that begins no earlier, and ends later if it must take something. -/
theorem bounds_of_searchFrom? : ∀ {room start : Nat} {mustTake : Bool},
    p.searchFrom? s mustTake start room = some m →
      start ≤ m.start ∧ (mustTake = true → start < m.stop)
  | 0, start, mustTake, h => (bounds_of_matchAt? h).imp_left fun begins => Nat.le_of_eq begins.symm
  | room + 1, start, mustTake, h => by
      rw [searchFrom?] at h
      split at h
      · next found =>
          obtain ⟨begins, takes⟩ := bounds_of_matchAt? (found.trans h)
          exact ⟨Nat.le_of_eq begins.symm, takes⟩
      · have later : start < m.start := (bounds_of_searchFrom? h).1
        exact ⟨Nat.le_of_lt later, fun _ => Nat.lt_of_lt_of_le later m.start_le_stop⟩

end Search

/-! ### One search after another -/

/-- What is found from a position on: nothing if there is no match, else the first match and what is
found from its end on.  After a match of nothing the next one must take something. -/
inductive Finds (p : Pattern) (s : Subject) : Bool → Nat → List (Match s.size) → Prop where
  | done {mustTake : Bool} {start : Nat}
      (nothing : p.searchFrom? s mustTake start (s.size - start) = none) :
      Finds p s mustTake start []
  | more {mustTake : Bool} {start : Nat} {m : Match s.size} {rest : List (Match s.size)}
      (found : p.searchFrom? s mustTake start (s.size - start) = some m)
      (later : Finds p s (m.start == m.stop) m.stop rest) : Finds p s mustTake start (m :: rest)

/-- One part of a text comes before another: it ends before the other begins, and is not the same
part. -/
def Span.Before {size : Nat} (a b : Span size) : Prop :=
  a.stop ≤ b.start ∧ (a.start = b.start → a.stop ≠ b.stop)

section Finds

variable {p : Pattern} {s : Subject}

/-- Each search leaves less of the text, or has to take something where the one before did not. -/
theorem finds_matchesFrom : ∀ {fuel start : Nat} {mustTake : Bool}, start ≤ s.size →
    2 * (s.size - start) + (if mustTake then 0 else 1) < fuel →
      Finds p s mustTake start (p.matchesFrom s fuel mustTake start)
  | fuel + 1, start, mustTake, inside, enough => by
      rw [matchesFrom]
      split
      · next nothing => exact .done nothing
      · next m found =>
          obtain ⟨begins, takes⟩ := bounds_of_searchFrom? found
          have order := m.start_le_stop
          have stops := m.stop_le_size
          refine .more found (finds_matchesFrom stops ?_)
          simp only [beq_iff_eq]
          cases mustTake with
          | true =>
              have taken := takes rfl
              simp only [if_true] at enough
              split <;> omega
          | false =>
              simp only [Bool.false_eq_true, if_false] at enough
              split <;> omega

/-- **All matches** of a pattern are those that one search after another finds. -/
theorem finds_allMatches (p : Pattern) (s : Subject) : Finds p s false 0 (p.allMatches s) :=
  finds_matchesFrom (Nat.zero_le _) (by simp)

theorem Finds.bounds {mustTake : Bool} {start : Nat} {ms : List (Match s.size)}
    (h : Finds p s mustTake start ms) :
    ∀ m ∈ ms, start ≤ m.start ∧ (mustTake = true → start < m.stop) := by
  induction h with
  | done nothing => nofun
  | @more mustTake start first rest found later ih =>
      obtain ⟨begins, takes⟩ := bounds_of_searchFrom? found
      have order := first.start_le_stop
      intro m among
      rcases List.mem_cons.mp among with rfl | among
      · exact ⟨begins, takes⟩
      · have := (ih m among).1
        have := m.start_le_stop
        exact ⟨by omega, fun must => by have := takes must; omega⟩

/-- What is found comes one part before another. -/
theorem Finds.pairwise {mustTake : Bool} {start : Nat} {ms : List (Match s.size)}
    (h : Finds p s mustTake start ms) : ms.Pairwise fun a b => a.toSpan.Before b.toSpan := by
  induction h with
  | done nothing => exact .nil
  | @more mustTake start first rest found later ih =>
      refine .cons (fun m among => ?_) ih
      obtain ⟨begins, takes⟩ := later.bounds m among
      -- an equal part would be empty, and the search after an empty part ends further on
      have order := first.start_le_stop
      refine ⟨begins, fun same stop => ?_⟩
      have := takes (by simp; omega)
      omega

/-- **From left to right.**  The matches of a pattern do not overlap, and none is listed twice. -/
theorem allMatches_pairwise (p : Pattern) (s : Subject) :
    (p.allMatches s).Pairwise fun a b => a.toSpan.Before b.toSpan :=
  (finds_allMatches p s).pairwise

end Finds

end Verdict.Pattern
