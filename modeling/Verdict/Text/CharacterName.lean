import Verdict.Text.CharacterName.Ancient
import Verdict.Text.CharacterName.Forms
import Verdict.Text.CharacterName.Pictures
import Verdict.Text.CharacterName.Scripts
import Verdict.Text.CharacterName.Signs
import Verdict.Text.CharacterName.Syllables
import Verdict.Text.CharacterSet
import Verdict.Text.Digit

/-!
# Text: names of characters

The character with a given name, by Unicode 14. The tables of names are texts of runs of characters
with consecutive codes. A run ends with a point. It gives the code of its first character in base
sixteen, a blank, the words with which all its names begin, and the rest of every name after a
semicolon. Line feeds count for nothing.

Names are given in capitals or not. Two families are named by rules: unified ideographs by their
codes, and Korean syllables by their letters; both ask for capitals.
-/

namespace Verdict.Text.CharacterName

/-- The tables of names. -/
def tables : List String :=
  [european, asian, ofTheWorld, additional, signs, symbols, eastAsian, syllables, forms, ancient,
   glyphs, scores, gestures, pictures, aliases]

/-- The code of a name in a run of characters. -/
def inRun? (name run : String) : Option Nat :=
  match run.splitOn ";" with
  | [] => none
  | head :: ends =>
    let (code, beginning) := head.toList.span (· != ' ')
    match dropPrefix? (beginning.drop 1) name.toList with
    | none => none
    | some rest =>
      (ends.findIdx? (· == String.ofList rest)).map (hexadecimalValue code + ·)
where
  /-- What follows a beginning. -/
  dropPrefix? : List Char → List Char → Option (List Char)
    | [], rest => some rest
    | c :: beginning, d :: rest => if c == d then dropPrefix? beginning rest else none
    | _ :: _, [] => none

/-- The code of a name in a table. -/
def inTable? (name table : String) : Option Nat :=
  ((String.ofList (table.toList.filter (· != '\n'))).splitOn ".").findSome? (inRun? name)

/-! ### Names with a code -/

/-- The unified ideographs. -/
def unifiedIdeographs : Ranges :=
  [(0x3400, 0x4DBF), (0x4E00, 0x9FFF), (0x20000, 0x2A6DF), (0x2A700, 0x2B738), (0x2B740, 0x2B81D),
   (0x2B820, 0x2CEA1), (0x2CEB0, 0x2EBE0), (0x30000, 0x3134A)]

/-- The families that are named by a beginning and the code of each character. -/
def codedFamilies : List (String × Ranges) :=
  [("CJK COMPATIBILITY IDEOGRAPH-", [(0xF900, 0xFA6D), (0xFA70, 0xFAD9), (0x2F800, 0x2FA1D)]),
   ("KHITAN SMALL SCRIPT CHARACTER-", [(0x18B00, 0x18CD5)]),
   ("NUSHU CHARACTER-", [(0x1B170, 0x1B2FB)])]

/-- A digit of base sixteen, its letter a capital. -/
def isCapitalDigit (c : Char) : Bool :=
  c.isDigit || ('A' ≤ c && c ≤ 'F')

/-- The code at the end of a name, four or five digits of base sixteen, if it lies in a family. -/
def codeAtEnd? (beginning : String) (family : Ranges) (name : String) : Option Nat := do
  let digits ← inRun?.dropPrefix? beginning.toList name.toList
  if (digits.length = 4 || digits.length = 5) && digits.all isCapitalDigit then
    let code := hexadecimalValue digits
    if family.any fun (first, last) => first ≤ code && code ≤ last then some code else none
  else none

/-- The code of a name of a family; its code is written without needless digits. -/
def inFamily? (name : String) (beginning : String) (family : Ranges) : Option Nat := do
  let code ← codeAtEnd? beginning family name
  if decide (code ≤ 0xFFFF) == decide (name.length = beginning.length + 4) then some code else none

/-! ### Korean syllables -/

/-- The initial consonants. -/
def initials : List String :=
  ["G", "GG", "N", "D", "DD", "R", "M", "B", "BB", "S", "SS", "", "J", "JJ", "C", "K", "T", "P",
   "H"]

/-- The vowels. -/
def medials : List String :=
  ["A", "AE", "YA", "YAE", "EO", "E", "YEO", "YE", "O", "WA", "WAE", "OE", "YO", "U", "WEO", "WE",
   "WI", "YU", "EU", "YI", "I"]

/-- The final consonants. -/
def finals : List String :=
  ["", "G", "GG", "GS", "N", "NJ", "NH", "D", "L", "LG", "LM", "LB", "LS", "LT", "LP", "LH", "M",
   "B", "BS", "S", "SS", "NG", "J", "C", "K", "T", "P", "H"]

/-- The place of the longest of some beginnings, and what follows it. -/
def longestBeginning? (beginnings : List String) (s : List Char) : Option (Nat × List Char) :=
  beginnings.zipIdx.foldl (fun best (beginning, i) =>
    match inRun?.dropPrefix? beginning.toList s with
    | none => best
    | some rest =>
      match best with
      | none => some (i, rest)
      | some (_, other) => if rest.length < other.length then some (i, rest) else best) none

/-- The code of a Korean syllable by its letters. -/
def syllable? (name : String) : Option Nat := do
  let letters ← inRun?.dropPrefix? "HANGUL SYLLABLE ".toList name.toList
  let (initial, rest) ← longestBeginning? initials letters
  let (medial, rest) ← longestBeginning? medials rest
  let (final, rest) ← longestBeginning? finals rest
  if rest.isEmpty then some (0xAC00 + (initial * 21 + medial) * 28 + final) else none

/-! ### All names -/

/-- The code of the character with the given name. -/
def code? (name : String) : Option Nat :=
  let capitals := name.map Char.toUpper
  syllable? name
    <|> codeAtEnd? "CJK UNIFIED IDEOGRAPH-" unifiedIdeographs name
    <|> codedFamilies.findSome? (fun (beginning, family) => inFamily? capitals beginning family)
    <|> tables.findSome? (inTable? capitals)

end Verdict.Text.CharacterName
