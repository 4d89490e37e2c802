import Verdict.Value.Display

/-!
# JSON: writing

The text of a value in JSON. A `Style` holds the decisions of one writer: indentation, the escaping
of characters beyond ASCII, the format of numbers and the spelling of those that JSON lacks. What a
document cannot hold is first brought into wire form.
-/

namespace Verdict

namespace Json

/-- The decisions of a writer. -/
structure Style where
  /-- Spaces per level, each item on its own line; without, everything on one line. -/
  indent : Option Nat
  /-- Characters beyond ASCII are escaped. -/
  asciiOnly : Bool
  /-- The format of finite numbers. -/
  format : Number.DecimalFormat
  /-- NaN and the infinities are spelled out; without, they are null. -/
  spellsNonFinite : Bool
  /-- The key of the absent value. -/
  nullKey : String

/-- The style of serialized results. -/
def Style.wire (indent : Option Nat) : Style := ⟨indent, false, .wire, false, "None"⟩

/-- The style of plain documents: ASCII, numbers as they are shown. -/
def Style.plain (indent : Option Nat) : Style := ⟨indent, true, .shown, true, "null"⟩

/-- An escape by code. -/
def escapeUnit (n : Nat) : List Char := '\\' :: 'u' :: Text.hexPadded 4 n

/-- A character inside a string. -/
def escapeChar (asciiOnly : Bool) (c : Char) : List Char :=
  match c with
  | '"' => ['\\', '"']
  | '\\' => ['\\', '\\']
  | '\n' => ['\\', 'n']
  | '\r' => ['\\', 'r']
  | '\t' => ['\\', 't']
  | '\x08' => ['\\', 'b']
  | '\x0c' => ['\\', 'f']
  | c =>
    let n := c.toNat
    if n < 0x20 then escapeUnit n
    else if asciiOnly && 0x7F ≤ n then
      if n < 0x10000 then escapeUnit n
      else
        let v := n - 0x10000
        escapeUnit (0xD800 + v / 0x400) ++ escapeUnit (0xDC00 + v % 0x400)
    else [c]

/-- A string. -/
def writeText (asciiOnly : Bool) (s : String) : List Char :=
  '"' :: s.toList.flatMap (escapeChar asciiOnly) ++ ['"']

/-- A floating-point number. -/
def Style.number (style : Style) : Number.Binary64 → String
  | .finite negative significand exponent _ => style.format.finite negative significand exponent
  | .nan => if style.spellsNonFinite then "NaN" else "null"
  | .infinity negative =>
    if !style.spellsNonFinite then "null" else if negative then "-Infinity" else "Infinity"

/-- An atom in wire form. -/
def Style.atom (style : Style) : Atom → List Char
  | .null => "null".toList
  | .bool b => (if b then "true" else "false").toList
  | .int n => (toString n).toList
  | .float x => (style.number x).toList
  | .text s => writeText style.asciiOnly s
  | a => writeText style.asciiOnly a.plain

/-- The text of a key; an atom other than a text is written out. -/
def Style.key (style : Style) : Atom → String
  | .text s => s
  | .null => style.nullKey
  | .float x => x.text
  | a => String.ofList (style.atom a)

/-- A line break with the indentation of a depth, where the style has lines. -/
def Style.break (style : Style) (depth : Nat) : List Char :=
  match style.indent with
  | some n => '\n' :: List.replicate (n * depth) ' '
  | none => []

/-- The mark between a key and its value. -/
def Style.colon (style : Style) : List Char :=
  if style.indent.isSome then [':', ' '] else [':']

mutual

/-- A value at a depth. -/
def writeAt (style : Style) (depth : Nat) : Value → List Char
  | .atom a => style.atom a
  | .list items => writeItems style depth items
  | .tuple items => writeItems style depth items
  | .set members => '[' :: [','].intercalate (members.map style.atom) ++ [']']
  | .mapping pairs => writePairs style depth pairs
  | .record _ fields => writePairs style depth fields
  | .cycle _ _ => "null".toList

/-- The items of a list between its brackets. -/
def writeItems (style : Style) (depth : Nat) : List Value → List Char
  | [] => ['[', ']']
  | item :: rest =>
    '[' :: style.break (depth + 1) ++ writeAt style (depth + 1) item ++
      writeMoreItems style depth rest

/-- The further items and the closing bracket. -/
def writeMoreItems (style : Style) (depth : Nat) : List Value → List Char
  | [] => style.break depth ++ [']']
  | item :: rest =>
    ',' :: style.break (depth + 1) ++ writeAt style (depth + 1) item ++
      writeMoreItems style depth rest

/-- The pairs of a mapping between its braces. -/
def writePairs (style : Style) (depth : Nat) : List (Atom × Value) → List Char
  | [] => ['\x7b', '\x7d']
  | (k, v) :: rest =>
    '\x7b' :: style.break (depth + 1) ++ writeText style.asciiOnly (style.key k) ++ style.colon ++
      writeAt style (depth + 1) v ++ writeMorePairs style depth rest

/-- The further pairs and the closing brace. -/
def writeMorePairs (style : Style) (depth : Nat) : List (Atom × Value) → List Char
  | [] => style.break depth ++ ['\x7d']
  | (k, v) :: rest =>
    ',' :: style.break (depth + 1) ++ writeText style.asciiOnly (style.key k) ++ style.colon ++
      writeAt style (depth + 1) v ++ writeMorePairs style depth rest

end

/-- The text of a value. -/
def write (style : Style) (v : Value) : String :=
  String.ofList (writeAt style 0 v)

end Json

end Verdict
