/-!
# Text: layout

Texts as columns, and texts for output without colour.
-/

namespace Verdict.Text

/-- A text with spaces after it up to a width. -/
def padEnd (width : Nat) (s : String) : String :=
  s ++ String.ofList (List.replicate (width - s.length) ' ')

/-- The length of the control sequence that a text begins with, or zero: an escape character, a
bracket, parameters and a letter. -/
def controlLength : List Char → Nat
  | '\x1b' :: '[' :: rest =>
    let parameters := rest.takeWhile fun c => c.isDigit || c == ';' || c == '?'
    match rest.drop parameters.length with
    | c :: _ => if c.isAlpha then parameters.length + 3 else 0
    | [] => 0
  | _ => 0

/-- A text without its first characters and then without control sequences. -/
def dropControls : (skipped : Nat) → List Char → List Char
  | _, [] => []
  | skipped + 1, _ :: rest => dropControls skipped rest
  | 0, c :: rest =>
    match controlLength (c :: rest) with
    | 0 => c :: dropControls 0 rest
    | more + 1 => dropControls more rest

/-- A text without control sequences, such as those for colours. -/
def uncoloured (s : String) : String :=
  String.ofList (dropControls 0 s.toList)

end Verdict.Text
