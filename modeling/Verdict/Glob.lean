import Verdict.Text.Search

/-!
# Globs

Patterns for paths: a star stands for any run of characters, a question mark for any character, and
a set in brackets for one of its characters, or one of the others if it begins with an exclamation
mark. A glob matches a whole path; separators are characters like any other.
-/

namespace Verdict

/-- A part of a glob. -/
inductive Glob.Part where
  | one (c : Char)
  | any
  | run
  | set (negated : Bool) (ranges : List (Char × Char))
deriving DecidableEq, Repr

/-- A pattern for paths. -/
abbrev Glob := List Glob.Part

namespace Glob

/-! ### Sets -/

/-- Splits the text of a set at the hyphens that make ranges. The characters that have to stand
before the next such hyphen are not looked at. -/
def chunksFrom (chunk : List Char) : (skip : Nat) → List Char → List (List Char)
  | _, [] => [chunk]
  | 0, '-' :: rest => chunk :: chunksFrom [] 2 rest
  | skip, c :: rest => chunksFrom (chunk ++ [c]) (skip - 1) rest

/-- A hyphen at the very end belongs to the chunk before it. -/
def closeChunks : List (List Char) → List (List Char)
  | [chunk, []] => [chunk ++ ['-']]
  | chunk :: rest => chunk :: closeChunks rest
  | [] => []

/-- Takes out the ranges that hold no character. -/
def dropEmptyRanges : List (List Char) → List (List Char)
  | [] => []
  | chunk :: rest =>
    match dropEmptyRanges rest with
    | [] => [chunk]
    | next :: others =>
      match chunk.getLast?, next.head? with
      | some low, some high =>
        if high < low then (chunk.dropLast ++ next.tail) :: others else chunk :: next :: others
      | _, _ => chunk :: next :: others

/-- Single characters as ranges. -/
def singles (s : List Char) : List (Char × Char) := s.map fun c => (c, c)

/-- The ranges of chunks: one from the end of each to the beginning of the next, and the other
characters by themselves. -/
def rangesFrom (chunk : List Char) : List (List Char) → List (Char × Char)
  | [] => singles chunk
  | next :: rest =>
    match chunk.getLast?, next.head? with
    | some low, some high => singles chunk.dropLast ++ (low, high) :: rangesFrom next.tail rest
    | _, _ => singles chunk ++ rangesFrom next rest

/-- The set that the text between brackets describes. -/
def setOf (text : List Char) : Part :=
  let skip := if text.head? == some '!' then 2 else 1
  match dropEmptyRanges (closeChunks (chunksFrom [] skip text)) with
  | ('!' :: chunk) :: rest => .set true (rangesFrom chunk rest)
  | chunk :: rest => .set false (rangesFrom chunk rest)
  | [] => .set false []

/-- The text of a set after its opening bracket, with what follows the closing one. A closing bracket
at the very beginning belongs to the set. -/
def setText? (s : List Char) : Option (List Char × List Char) :=
  let lead := if s.head? == some '!' then 1 else 0
  let lead := if s[lead]? == some ']' then lead + 1 else lead
  match (s.drop lead).span (· != ']') with
  | (body, _ :: rest) => some (s.take lead ++ body, rest)
  | (_, []) => none

/-! ### Reading and matching -/

/-- The parts that a text writes. `skip` characters belong to the part already read. -/
def partsFrom : (skip : Nat) → List Char → Glob
  | _, [] => []
  | skip + 1, _ :: s => partsFrom skip s
  | 0, c :: s =>
    match c with
    | '*' => .run :: partsFrom 0 s
    | '?' => .any :: partsFrom 0 s
    | '[' =>
      match setText? s with
      | some (text, _) => setOf text :: partsFrom (text.length + 1) s
      | none => .one c :: partsFrom 0 s
    | c => .one c :: partsFrom 0 s

/-- The glob that a text writes. -/
def ofText (s : String) : Glob := partsFrom 0 s.toList

/-- A character is in one of the ranges. -/
def inRanges (ranges : List (Char × Char)) (c : Char) : Bool :=
  ranges.any fun (low, high) => low ≤ c && c ≤ high

/-- A part other than a run matches a character. -/
def Part.accepts : Part → Char → Bool
  | .one d, c => d == c
  | .any, _ => true
  | .run, _ => false
  | .set negated ranges, c => inRanges ranges c != negated

/-- What is left of a text after each of the runs that it begins with. -/
def suffixes : List Char → List (List Char)
  | [] => [[]]
  | c :: rest => (c :: rest) :: suffixes rest

/-- The parts match a whole text. -/
def accepts : Glob → List Char → Bool
  | [], s => s.isEmpty
  | .run :: rest, s => (suffixes s).any (accepts rest)
  | part :: rest, c :: s => part.accepts c && accepts rest s
  | _ :: _, [] => false

/-- A glob matches a path. -/
def matchesPath (g : Glob) (path : String) : Bool := g.accepts path.toList

end Glob

end Verdict
