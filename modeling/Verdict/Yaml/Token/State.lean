import Verdict.Yaml.Token

/-!
# YAML: tokens, the state of scanning

The state in which tokens are scanned: what is left of the text, the place in it, the depth of flow
collections, the indentation of block collections, and the places where a simple key may have begun.
A simple key is only known by the colon after it, on the same line and not too far away; then a mark
is put before its tokens.
-/

namespace Verdict.Yaml

/-- A place where a simple key may have begun, with the number of tokens before it. -/
structure KeyPlace where
  tokens : Nat
  required : Bool
  index : Nat
  line : Nat
  column : Nat

/-- The state of scanning. -/
structure Scan where
  rest : List Char
  index : Nat := 0
  line : Nat := 0
  column : Nat := 0
  flow : Nat := 0
  indent : Int := -1
  indents : List Int := []
  allowsKey : Bool := true
  keys : List (Nat × KeyPlace) := []
  tokens : Array Token := #[]

/-- A step of scanning. -/
abbrev Scanning (α : Type) := StateT Scan (Except Fault) α

namespace Scan

/-- The character so many places ahead. -/
def ahead (s : Scan) (n : Nat) : Option Char := s.rest[n]?

/-- The state after the next character. -/
def step (s : Scan) : Scan :=
  match s.rest with
  | [] => s
  | c :: rest =>
    let ends := isBreak c && !(c == '\r' && rest.head? == some '\n')
    { s with
      rest
      index := s.index + 1
      line := if ends then s.line + 1 else s.line
      column := if ends then 0 else if c.toNat == 0xFEFF then s.column else s.column + 1 }

/-- The state after so many characters. -/
def steps : Nat → Scan → Scan
  | 0, s => s
  | n + 1, s => steps n s.step

end Scan

namespace Scanning

/-- The text has no tokens. -/
def fail {α : Type} : Scanning α := throw .malformed

/-- A character ahead. -/
def peek (n : Nat := 0) : Scanning (Option Char) := do
  return (← get).ahead n

/-- Passes over characters. -/
def forward (n : Nat := 1) : Scanning Unit :=
  modify (Scan.steps n)

/-- Takes the characters of a class that come next. -/
def takeWhile (p : Char → Bool) : Scanning (List Char) := do
  let run := (← get).rest.takeWhile p
  forward run.length
  return run

/-- Skips spaces. -/
def skipSpaces : Scanning Unit := do
  discard (takeWhile (· == ' '))

/-- Takes a line break, if one comes next: a feed, or a separator of lines or paragraphs. -/
def lineBreak : Scanning (List Char) := do
  match (← get).rest with
  | '\r' :: '\n' :: _ =>
    forward 2
    return ['\n']
  | c :: _ =>
    if !isBreak c then return []
    forward
    return if c.toNat == 0x2028 || c.toNat == 0x2029 then [c] else ['\n']
  | [] => return []

/-- Skips spaces and a comment, and takes the line break, which has to follow. -/
def restOfLine : Scanning Unit := do
  skipSpaces
  if (← peek) == some '#' then discard (takeWhile (!isBreak ·))
  if !endsLine (← peek) then fail
  discard lineBreak

/-! ### Tokens and simple keys -/

/-- Adds a token. -/
def emit (t : Token) : Scanning Unit :=
  modify fun s => { s with tokens := s.tokens.push t }

/-- Says whether a simple key may begin next. -/
def allowKey (allowed : Bool) : Scanning Unit :=
  modify fun s => { s with allowsKey := allowed }

/-- How far from its beginning the colon of a simple key may stand. -/
def keyReach : Nat := 1024

/-- Forgets the places of simple keys that are too far back; one that has to be a key may not be
forgotten. -/
def dropStaleKeys : Scanning Unit := do
  let s ← get
  let stale := fun (_, k) => k.line != s.line || keyReach < s.index - k.index
  if s.keys.any fun key => stale key && key.2.required then fail
  set { s with keys := s.keys.filter fun key => !stale key }

/-- Forgets the place of a simple key at the present depth. -/
def dropKey : Scanning Unit := do
  let s ← get
  if s.keys.any fun (level, k) => level == s.flow && k.required then fail
  set { s with keys := s.keys.filter fun (level, _) => level != s.flow }

/-- Notes that a simple key may begin here. -/
def noteKey : Scanning Unit := do
  let s ← get
  if s.allowsKey then
    dropKey
    let place : KeyPlace :=
      ⟨s.tokens.size, s.flow == 0 && s.indent == s.column, s.index, s.line, s.column⟩
    modify fun s => { s with keys := (s.flow, place) :: s.keys }

/-! ### Indentation -/

/-- Ends the block collections that are indented deeper than a column. -/
def unwindTo (column : Int) : Nat → Scanning Unit
  | 0 => return
  | fuel + 1 => do
    let s ← get
    if column < s.indent then
      set { s with
        indent := s.indents.headD (-1)
        indents := s.indents.tail
        tokens := s.tokens.push .blockEnd }
      unwindTo column fuel

/-- Ends block collections where they are not inside a flow collection. -/
def unwind (column : Int) : Scanning Unit := do
  let s ← get
  if s.flow == 0 then unwindTo column (s.indents.length + 1)

/-- Begins a block collection at a column, unless there is one already. The flag tells whether it
did. -/
def indentTo (column : Nat) : Scanning Bool := do
  let s ← get
  if s.indent < column then
    set { s with indent := column, indents := s.indent :: s.indents }
    return true
  else return false

end Scanning

end Verdict.Yaml
