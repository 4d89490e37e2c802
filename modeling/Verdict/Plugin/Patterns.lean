import Verdict.Pattern.Search
import Verdict.Plugin.Failures
import Verdict.Text.Search

/-!
# Plugins: patterns

The plugin with the operator that matches a text against a pattern. A pattern is given by its text,
or by a mapping with the text and the letters of its flags. Plugins that report on a text list the
matches of patterns in its lines.
-/

namespace Verdict

/-- The text and the flags of the pattern in a value. -/
def Pattern.written? : Value → Option (String × Pattern.Flags)
  | .text source => some (source, {})
  | .mapping pairs =>
    match (Value.mapping pairs).field? "pattern" with
    | some (.text source) =>
      some (source, .ofLetters (((Value.mapping pairs).field? "flags").getD (.text "")).plain)
    | _ => none
  | _ => none

/-- The pattern with the given text, or the failure to read it. -/
def Pattern.read (source : String) (flags : Pattern.Flags := {}) : Except Failure Pattern :=
  (Pattern.compile source flags).mapError (.badPattern source)

/-- The pattern in a value, if there is one. -/
def Pattern.ofValue (v : Value) : Except Failure (Option Pattern) :=
  match Pattern.written? v with
  | some (source, flags) => some <$> Pattern.read source flags
  | none => .ok none

namespace Plugin

/-- The text that is matched: the value itself, or the content in a descriptor. -/
def matchedText? : Value → Option String
  | .mapping pairs => ((Value.mapping pairs).field? "fileContent").bind Value.text?
  | v => v.text?

/-- The text or content matches the pattern. Without a text or a pattern nothing matches. -/
def regexMatch (a b : Value) : Except Failure Value :=
  match matchedText? a with
  | none => .ok (.bool false)
  | some text => do
    match ← Pattern.ofValue b with
    | none => return .bool false
    | some p => return .bool (p.occursIn text)

/-- The plugin with the operator on patterns. -/
def patterns : Plugin :=
  .ofLists "patterns" "1.0.0" "Regular-expression operators" [] [
    { name := "regexMatch"
      description := "String fact value (or file content) matches a regex"
      evaluate := regexMatch }]

/-! ### Matches in lines

The matches of patterns in the lines of a text, with their places and a snippet of the line around
each. Matches come by line, within a line by pattern, and for one pattern from left to right. -/

/-- The characters from one position up to another. -/
def slice (line : List Char) (start stop : Nat) : List Char :=
  (line.take stop).drop start

/-- The mark of a part of a line that is left out. -/
def ellipsis : List Char := ['.', '.', '.']

/-- The part of a line around a match, with half the given length to either side. The whole line, if
the length is not positive or the line is no longer. -/
def snippet (line : List Char) (start stop : Nat) (length : Int) : List Char :=
  if length ≤ 0 ∨ (line.length : Int) ≤ length then line
  else
    let half := length.toNat / 2
    let first := start - half
    let last := min line.length (stop + half)
    (if 0 < first then ellipsis else []) ++ slice line first last ++
      (if last < line.length then ellipsis else [])

/-- A match of a pattern in a line. Lines and columns count from one. -/
structure LineMatch where
  pattern : String
  text : String
  line : Nat
  startColumn : Nat
  stopColumn : Nat
  snippet : String
  groups : List (Option String)

/-- The matches of one pattern in a line. -/
def matchesOf (p : Pattern) (length : Int) (number : Nat) (line : List Char) : List LineMatch :=
  let subject := line.toArray
  (p.allMatches subject).map fun m => {
    pattern := p.source
    text := String.ofList (slice line m.start m.stop)
    line := number
    startColumn := m.start + 1
    stopColumn := m.stop + 1
    snippet := String.ofList (snippet line m.start m.stop length)
    groups := m.groups.map fun g => g.map fun (start, stop) => String.ofList (slice line start stop) }

/-- The matches of patterns in lines, the first of which has the given number. -/
def matchesInLines (ps : List Pattern) (length : Int) : (number : Nat) → List (List Char) →
    List LineMatch
  | _, [] => []
  | number, line :: rest =>
    ps.flatMap (matchesOf · length number line) ++ matchesInLines ps length (number + 1) rest

/-- The matches of patterns in a text. -/
def matchesInText (ps : List Pattern) (length : Int) (text : String) : List LineMatch :=
  matchesInLines ps length 1 (Text.splitAt '\n' text.toList)

end Plugin

end Verdict
