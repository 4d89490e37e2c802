import Verdict.Pattern.Matcher
import Verdict.Pattern.Parser

/-!
# Pattern: searching a text

The first match of a pattern in a text, and all matches from left to right. After a match that took
nothing the next one may begin at the same position but must take something; so matches do not
overlap and the search ends.
-/

namespace Verdict.Pattern

/-- A part of a text of the given length. -/
structure Span (size : Nat) where
  start : Nat
  stop : Nat
  start_le_stop : start ≤ stop
  stop_le_size : stop ≤ size

/-- A match: the part of the text it took, and the parts its groups took. -/
structure Match (size : Nat) extends Span size where
  groups : List (Option (Nat × Nat))

end Verdict.Pattern

namespace Verdict.Pattern

open Pattern (Subject Match)

/-- The match that begins at a position. If it must take something, the ways to take nothing are
passed over. -/
def matchAt? (p : Pattern) (s : Subject) (start : Nat) (mustTake : Bool) : Option (Match s.size) := do
  let finish : Attempt := fun q => if mustTake && q.position == start then none else some q
  let stop ← p.body.attempt s p.flags finish { position := start }
  if h : start ≤ stop.position ∧ stop.position ≤ s.size then
    some ⟨⟨start, stop.position, h.1, h.2⟩, (List.range p.groups).map fun i => stop.group? (i + 1)⟩
  else none

/-- The first match that begins at `start` or one of the `room` positions after it. Only a match at
`start` may be required to take something. -/
def searchFrom? (p : Pattern) (s : Subject) (mustTake : Bool) (start : Nat) :
    (room : Nat) → Option (Match s.size)
  | 0 => p.matchAt? s start mustTake
  | room + 1 =>
    match p.matchAt? s start mustTake with
    | some m => some m
    | none => p.searchFrom? s false (start + 1) room

/-- The first match in a text. -/
def search? (p : Pattern) (s : Subject) : Option (Match s.size) :=
  p.searchFrom? s false 0 s.size

/-- The matches from a position on. -/
def matchesFrom (p : Pattern) (s : Subject) : (fuel : Nat) → (mustTake : Bool) → (start : Nat) →
    List (Match s.size)
  | 0, _, _ => []
  | fuel + 1, mustTake, start =>
    match p.searchFrom? s mustTake start (s.size - start) with
    | none => []
    | some m => m :: p.matchesFrom s fuel (m.start == m.stop) m.stop

/-- All matches in a text, from left to right. -/
def allMatches (p : Pattern) (s : Subject) : List (Match s.size) :=
  p.matchesFrom s (2 * s.size + 2) false 0

/-- A pattern matches somewhere in a text. -/
def occursIn (p : Pattern) (text : String) : Bool :=
  (p.search? text.toList.toArray).isSome

end Verdict.Pattern
