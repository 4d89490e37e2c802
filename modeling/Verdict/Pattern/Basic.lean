import Verdict.Pattern.Flags

/-!
# Pattern: the parts of a pattern

A pattern is built from single characters, assertions about a place, groups, choices and
repetitions. Characters are given by their codes, since a pattern may name a code that no character
has.
-/

namespace Verdict.Pattern

/-- A class of characters with a name. -/
inductive Category where
  | digit
  | space
  | word
deriving DecidableEq, Repr

/-- A member of a set of characters. -/
inductive Member where
  | code (n : Nat)
  | range (first last : Nat)
  | category (category : Category) (negated : Bool)
deriving DecidableEq, Repr

/-- A part that takes exactly one character. -/
inductive Single where
  | code (n : Nat)
  | otherThan (n : Nat)
  | any
  | set (negated : Bool) (members : List Member)
deriving DecidableEq, Repr

/-- An assertion about a place that takes no character. -/
inductive Anchor where
  | start
  | stop
  | textStart
  | textStop
  | boundary
  | inside
deriving DecidableEq, Repr

/-- How a repetition chooses its number of rounds: as many as possible, as few as possible, or as
many as possible without giving one back. -/
inductive Greed where
  | greedy
  | lazy
  | possessive
deriving DecidableEq, Repr

/-- How few and how many characters a part may take; without an upper bound if it has none. -/
structure Width where
  low : Nat
  high : Option Nat
deriving Inhabited

namespace Width

/-- The width of what takes nothing. -/
def zero : Width := ⟨0, some 0⟩

/-- The width of a single character. -/
def one : Width := ⟨1, some 1⟩

/-- One part after another. -/
def add (v w : Width) : Width :=
  ⟨v.low + w.low, do return (← v.high) + (← w.high)⟩

/-- One part or another. -/
def join (v w : Width) : Width :=
  ⟨min v.low w.low, do return max (← v.high) (← w.high)⟩

/-- A part that is repeated. -/
def rounds (w : Width) (low : Nat) (high : Option Nat) : Width :=
  let most :=
    match w.high, high with
    | some 0, _ => some 0
    | _, some 0 => some 0
    | some n, some m => some (n * m)
    | _, _ => none
  ⟨w.low * low, most⟩

/-- Widths from here on are not told apart. -/
def immeasurable : Nat := 4294967295

/-- The number of characters, if it is the only one and can be measured. -/
def fixed? (w : Width) : Option Nat :=
  if w.high = some w.low && w.low < immeasurable then some w.low else none

end Width

/-- A part of a pattern. A back reference carries the width of the group it refers to. -/
inductive Node where
  | empty
  | single (single : Single)
  | anchor (anchor : Anchor)
  | backReference (group : Nat) (width : Width)
  | group (number : Option Nat) (added removed : Flags) (body : Node)
  | atomic (body : Node)
  | sequence (first rest : Node)
  | choice (first rest : Node)
  | repetition (greed : Greed) (low : Nat) (high : Option Nat) (body : Node)
  | look (behind negated : Bool) (body : Node)
  | conditional (group : Nat) (yes no : Node)
deriving Inhabited

namespace Node

/-- Parts one after another. -/
def ofList : List Node → Node
  | [] => .empty
  | [n] => n
  | n :: rest => .sequence n (ofList rest)

/-- The parts that stand one after another. -/
def toList : Node → List Node
  | .empty => []
  | .sequence first rest => first :: rest.toList
  | n => [n]

/-- The choice between alternatives, the first one preferred. -/
def ofAlternatives : List Node → Node
  | [] => .empty
  | [n] => n
  | n :: rest => .choice n (ofAlternatives rest)

/-- How many characters a part may take. -/
def width : Node → Width
  | .empty | .anchor _ | .look .. => .zero
  | .single _ => .one
  | .backReference _ w => w
  | .group _ _ _ body | .atomic body => body.width
  | .sequence first rest => first.width.add rest.width
  | .choice first rest => first.width.join rest.width
  | .repetition _ low high body => body.width.rounds low high
  | .conditional _ yes no => yes.width.join no.width

end Node

end Verdict.Pattern

namespace Verdict

/-- A pattern: its text, its flags, the number of its capturing groups, and its parts. -/
structure Pattern where
  source : String
  flags : Pattern.Flags
  groups : Nat
  body : Pattern.Node
deriving Inhabited

end Verdict
