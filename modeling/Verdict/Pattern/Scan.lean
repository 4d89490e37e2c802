import Verdict.Table
import Verdict.Pattern.Basic
import Verdict.Pattern.Fault
import Verdict.Text.Identifier

/-!
# Pattern: scanning

The state in which the text of a pattern is read: what is left of it, and what is known so far
about flags and groups. The text is read in tokens: a character, or a backslash with the character
after it. A backslash that ends the text is refused as soon as it would come next.
-/

namespace Verdict.Pattern

/-- A character, or a backslash and a character. -/
inductive Token where
  | plain (c : Char)
  | escaped (c : Char)
deriving DecidableEq, Repr

/-- A token as it is written. -/
def Token.chars : Token → List Char
  | .plain c => [c]
  | .escaped c => ['\\', c]

/-- A token as a text. -/
def Token.text (t : Token) : String :=
  String.ofList t.chars

/-- What is left of a pattern of `size` characters and what is known of it. `widths` has an entry for
each group, which holds its width once the group is closed. `behind` is the number of groups, with the
whole pattern as one of them, that began before the outermost assertion about the text before.
`tests` are the groups that conditions ask for by number, with the places where they do. -/
structure Scan where
  size : Nat
  rest : List Char
  flags : Flags
  widths : List (Option Width) := []
  names : Table String Nat := []
  behind : Option Nat := none
  tests : List (Nat × Nat) := []

/-- A step that reads some of a pattern. -/
abbrev Reading (α : Type) := StateT Scan (Except Fault) α

namespace Scan

/-- The number of characters read. -/
def position (s : Scan) : Nat :=
  s.size - s.rest.length

/-- The token that comes next. -/
def next? (s : Scan) : Option Token :=
  match s.rest with
  | [] => none
  | '\\' :: c :: _ => some (.escaped c)
  | c :: _ => some (.plain c)

/-- The number that the next group would get. -/
def nextGroup (s : Scan) : Nat :=
  s.widths.length + 1

/-- The width of a group that is closed. -/
def closedWidth? (s : Scan) (group : Nat) : Option Width :=
  if group = 0 then none else (s.widths[group - 1]?).join

end Scan

namespace Reading

/-- Refuses a text whose next character is its last and a backslash. -/
def settle : Reading Unit := do
  let s ← get
  if s.rest = ['\\'] then throw ⟨.trailingBackslash, some (s.size - 1)⟩

/-- Fails at a position. -/
def failAt {α : Type} (defect : Defect) (position : Nat) : Reading α :=
  throw ⟨defect, some position⟩

/-- Fails so many characters before the place reached. -/
def failBack {α : Type} (defect : Defect) (offset : Nat := 0) : Reading α := do
  failAt defect ((← get).position - offset)

/-- The next token. -/
def peek : Reading (Option Token) := do
  return (← get).next?

/-- Takes the next token. -/
def take : Reading (Option Token) := do
  match (← get).next? with
  | none => return none
  | some t =>
    modify fun s => { s with rest := s.rest.drop t.chars.length }
    settle
    return some t

/-- Takes the next token if it is the given character. -/
def accept (c : Char) : Reading Bool := do
  if (← peek) = some (.plain c) then
    discard take
    return true
  else return false

/-- Takes up to so many characters of a class. -/
def takeUpTo (p : Char → Bool) : Nat → Reading (List Char)
  | 0 => return []
  | n + 1 => do
    match ← peek with
    | some (.plain c) =>
      if p c then
        discard take
        return c :: (← takeUpTo p n)
      else return []
    | _ => return []

/-- Takes all characters of a class that come next. -/
def takeWhile (p : Char → Bool) : Reading (List Char) := do
  takeUpTo p (← get).rest.length

/-- Takes what stands before a terminator, and the terminator. -/
def takeName (terminator : Char) (noun : String) (read : List Char) : Nat → Reading (List Char)
  | 0 => failBack (.missingName noun)
  | fuel + 1 => do
    match ← take with
    | none =>
      if read.isEmpty then failBack (.missingName noun)
      else failBack (.unterminatedName terminator) read.length
    | some t =>
      if t = .plain terminator then
        if read.isEmpty then failBack (.missingName noun) 1 else return read
      else takeName terminator noun (read ++ t.chars) fuel

/-- Takes a name that ends in a terminator. -/
def takeUntil (terminator : Char) (noun : String) : Reading String := do
  return String.ofList (← takeName terminator noun [] ((← get).rest.length + 1))

/-- Takes the name of a group, which is an identifier. -/
def takeGroupName (terminator : Char) : Reading String := do
  let name ← takeUntil terminator "group name"
  if Text.isIdentifier name.toList then return name
  else failBack (.badGroupName name) (name.length + 1)

/-- The width of a group that may be referred to at this place. -/
def requireVisible (group : Nat) : Reading Unit := do
  let s ← get
  match s.behind with
  | none => return
  | some earlier =>
    if (s.closedWidth? group).isNone then failBack .openGroup
    else if earlier ≤ group then failBack .groupInLookbehind

/-- Begins a group and gives its number. -/
def openGroup (name : Option String) : Reading Nat := do
  let s ← get
  let number := s.nextGroup
  match name with
  | none => set { s with widths := s.widths ++ [none] }
  | some name =>
    match s.names.get? name with
    | some earlier => failBack (.groupRedefined name number earlier) (name.length + 1)
    | none => set { s with widths := s.widths ++ [none], names := s.names.insert name number }
  return number

/-- Ends a group of the given width. -/
def closeGroup (number : Nat) (width : Width) : Reading Unit :=
  modify fun s => { s with widths := s.widths.set (number - 1) (some width) }

end Reading

end Verdict.Pattern
