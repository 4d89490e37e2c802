import Verdict.Table
import Verdict.Pattern.Fold

/-!
# Pattern: matching at a place

A part of a pattern is tried at a place of a text; what comes after it is a function that is tried at
each place where the part may end, in order of preference, until it succeeds. A place carries the
marks of the groups entered and left on the way, so a way that fails leaves none behind.

Repetitions recurse on a measure of fuel. A round that is not required is only tried at a place
other than that of the round before it, so the required rounds and the length of the text bound the
number of rounds.
-/

namespace Verdict.Pattern

/-- A place in a text on the way of a match: the position, and where groups were last entered and
left. -/
structure Place where
  position : Nat
  starts : Table Nat Nat := []
  stops : Table Nat Nat := []
deriving Inhabited

namespace Place

/-- The place so many characters on. -/
def advance (p : Place) (n : Nat) : Place :=
  { p with position := p.position + n }

/-- A group begins at the place. -/
def enter (p : Place) (group : Nat) : Place :=
  { p with starts := p.starts.insert group p.position }

/-- A group ends at the place. -/
def leave (p : Place) (group : Nat) : Place :=
  { p with stops := p.stops.insert group p.position }

/-- The part of the text that a group took, unless it was not left since it was entered. -/
def group? (p : Place) (group : Nat) : Option (Nat × Nat) :=
  match p.starts.get? group, p.stops.get? group with
  | some start, some stop => if start ≤ stop then some (start, stop) else none
  | _, _ => none

end Place

/-- What is tried at a place, and the place where the match ends if it succeeds. -/
abbrev Attempt := Place → Option Place

/-- The text that a pattern is tried on. -/
abbrev Subject := Array Char

namespace Subject

/-- The character at a position is taken by a part. -/
def takes (s : Subject) (flags : Flags) (single : Single) (position : Nat) : Bool :=
  match s[position]? with
  | some c => single.holds flags c
  | none => false

/-- A character of words stands at a position. -/
def isWordAt (s : Subject) (unicode : Bool) (position : Nat) : Bool :=
  match s[position]? with
  | some c => Category.word.holds unicode c
  | none => false

/-- A line feed stands at a position. -/
def isNewlineAt (s : Subject) (position : Nat) : Bool :=
  s[position]? == some '\n'

/-- A word begins or ends at a position. -/
def isBoundary (s : Subject) (unicode : Bool) (position : Nat) : Bool :=
  let before := position != 0 && s.isWordAt unicode (position - 1)
  before != s.isWordAt unicode position

/-- An assertion holds at a position. Nothing is a boundary, or inside or outside a word, in a text
without characters. -/
def anchorHolds (s : Subject) (flags : Flags) (anchor : Anchor) (position : Nat) : Bool :=
  match anchor with
  | .start => position == 0 || (flags.multiline && s.isNewlineAt (position - 1))
  | .stop =>
    position == s.size || (s.isNewlineAt position && (flags.multiline || position + 1 == s.size))
  | .textStart => position == 0
  | .textStop => position == s.size
  | .boundary => s.size != 0 && s.isBoundary flags.unicode position
  | .inside => s.size != 0 && !s.isBoundary flags.unicode position

/-- The text at a position equals a part of the text, with or without regard to case. -/
def repeats (s : Subject) (flags : Flags) (start position : Nat) : (count : Nat) → Bool
  | 0 => true
  | count + 1 =>
    let same :=
      match s[start]?, s[position]? with
      | some c, some d =>
        if flags.ignoreCase then foldChar flags c == foldChar flags d else c == d
      | _, _ => false
    same && s.repeats flags (start + 1) (position + 1) count

/-- The number of characters from a position on, at most `most`, that a part takes. -/
def runLength (s : Subject) (flags : Flags) (single : Single) :
    (most : Nat) → (position count : Nat) → Nat
  | 0, _, count => count
  | most + 1, position, count =>
    if s.takes flags single position then s.runLength flags single most (position + 1) (count + 1)
    else count

end Subject

/-- A further round is allowed. -/
def allows (high : Option Nat) (count : Nat) : Bool :=
  match high with
  | none => true
  | some n => count < n

/-! ### Rounds of a part that takes one character -/

/-- Tries to go on after `low + extra` characters, then after one less, down to `low`. -/
def giveBack (next : Attempt) (p : Place) (low : Nat) : (extra : Nat) → Option Place
  | 0 => next (p.advance low)
  | extra + 1 =>
    match next (p.advance (low + extra + 1)) with
    | some r => some r
    | none => giveBack next p low extra

/-- Tries to go on after `low` characters, then after one more, as long as the part takes them. -/
def takeMore (s : Subject) (flags : Flags) (single : Single) (next : Attempt) :
    (extra : Nat) → Place → Option Place
  | 0, p => next p
  | extra + 1, p =>
    match next p with
    | some r => some r
    | none =>
      if s.takes flags single p.position then takeMore s flags single next extra (p.advance 1)
      else none

/-- Rounds of a part that takes one character. -/
def singleRounds (s : Subject) (flags : Flags) (single : Single) (greed : Greed) (low : Nat)
    (high : Option Nat) (next : Attempt) : Attempt := fun p =>
  let room := s.size - p.position
  if room < low then none
  else
    let most := (high.map (min room)).getD room
    match greed with
    | .greedy =>
      let taken := s.runLength flags single most p.position 0
      if taken < low then none else giveBack next p low (taken - low)
    | .possessive =>
      let taken := s.runLength flags single most p.position 0
      if taken < low then none else next (p.advance taken)
    | .lazy =>
      let taken := s.runLength flags single low p.position 0
      if taken < low then none
      else takeMore s flags single next (most - low) (p.advance low)

/-! ### Rounds of any part -/

/-- As many rounds as possible first. `last` is where the last optional round began. -/
def greedyRounds (body : Attempt → Attempt) (low : Nat) (high : Option Nat) (next : Attempt) :
    (fuel count : Nat) → (last : Option Nat) → Attempt
  | 0, _, _ => fun _ => none
  | fuel + 1, count, last => fun p =>
    if count < low then body (greedyRounds body low high next fuel (count + 1) last) p
    else if allows high count && last != some p.position then
      match body (greedyRounds body low high next fuel (count + 1) (some p.position)) p with
      | some r => some r
      | none => next p
    else next p

/-- As few rounds as possible first. -/
def lazyRounds (body : Attempt → Attempt) (low : Nat) (high : Option Nat) (next : Attempt) :
    (fuel count : Nat) → (last : Option Nat) → Attempt
  | 0, _, _ => fun _ => none
  | fuel + 1, count, last => fun p =>
    if count < low then body (lazyRounds body low high next fuel (count + 1) last) p
    else
      match next p with
      | some r => some r
      | none =>
        if allows high count && last != some p.position then
          body (lazyRounds body low high next fuel (count + 1) (some p.position)) p
        else none

/-- As many rounds as possible, each at the first place it may end. -/
def possessiveRounds (body : Attempt → Attempt) (low : Nat) (high : Option Nat) :
    (fuel count : Nat) → (last : Option Nat) → Attempt
  | 0, _, _ => some
  | fuel + 1, count, last => fun p =>
    if count < low then
      match body some p with
      | some q => possessiveRounds body low high fuel (count + 1) last q
      | none => none
    else if allows high count && last != some p.position then
      match body some p with
      | some q => possessiveRounds body low high fuel (count + 1) (some p.position) q
      | none => some p
    else some p

/-- Rounds of a part, chosen in the given way. -/
def rounds (s : Subject) (body : Attempt → Attempt) (greed : Greed) (low : Nat) (high : Option Nat)
    (next : Attempt) : Attempt := fun p =>
  let fuel := low + (s.size - p.position) + 2
  match greed with
  | .greedy => greedyRounds body low high next fuel 0 none p
  | .lazy => lazyRounds body low high next fuel 0 none p
  | .possessive => (possessiveRounds body low high fuel 0 none p).bind next

namespace Node

/-- Tries a part at a place, and what follows where it ends. -/
def attempt (s : Subject) (flags : Flags) : Node → Attempt → Attempt
  | .empty, next => next
  | .single one, next => fun p =>
    if s.takes flags one p.position then next (p.advance 1) else none
  | .anchor kind, next => fun p =>
    if s.anchorHolds flags kind p.position then next p else none
  | .backReference number _, next => fun p =>
    match p.group? number with
    | some (start, stop) =>
      if s.repeats flags start p.position (stop - start) then next (p.advance (stop - start))
      else none
    | none => none
  | .group none added removed body, next => body.attempt s (flags.inside added removed) next
  | .group (some number) added removed body, next => fun p =>
    body.attempt s (flags.inside added removed) (fun q => next (q.leave number)) (p.enter number)
  | .atomic body, next => fun p => (body.attempt s flags some p).bind next
  | .sequence first rest, next => first.attempt s flags (rest.attempt s flags next)
  | .choice first rest, next => fun p =>
    match first.attempt s flags next p with
    | some r => some r
    | none => rest.attempt s flags next p
  | .repetition greed low high (.single one), next =>
    singleRounds s flags one greed low high next
  | .repetition greed low high body, next => rounds s (body.attempt s flags) greed low high next
  | .look behind negated body, next => fun p =>
    let distance := if behind then body.width.low else 0
    let seen := if p.position < distance then none
      else body.attempt s flags some { p with position := p.position - distance }
    match seen, negated with
    | some q, false => next { q with position := p.position }
    | none, true => next p
    | _, _ => none
  | .conditional number yes no, next => fun p =>
    if (p.group? number).isSome then yes.attempt s flags next p else no.attempt s flags next p

end Node

end Verdict.Pattern
