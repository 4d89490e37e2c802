import Verdict.Number.Reading
import Verdict.Pattern.Scan
import Verdict.Text.CharacterName
import Verdict.Text.Digit

/-!
# Pattern: escapes

What a backslash and the character after it stand for, in a pattern and inside a set.
-/

namespace Verdict.Pattern

/-- A letter of ASCII. -/
def isAsciiLetter (c : Char) : Bool :=
  ('a' ≤ c && c ≤ 'z') || ('A' ≤ c && c ≤ 'Z')

/-- A digit of base eight. -/
def isOctalDigit (c : Char) : Bool :=
  '0' ≤ c && c ≤ '7'

/-- The control characters with a letter of their own. -/
def controlCode? : Char → Option Nat
  | 'a' => some 0x07
  | 'b' => some 0x08
  | 'f' => some 0x0C
  | 'n' => some 0x0A
  | 'r' => some 0x0D
  | 't' => some 0x09
  | 'v' => some 0x0B
  | '\\' => some 0x5C
  | _ => none

/-- The classes of characters with a letter of their own; the capital letter stands for all others. -/
def category? : Char → Option (Category × Bool)
  | 'd' => some (.digit, false)
  | 'D' => some (.digit, true)
  | 's' => some (.space, false)
  | 'S' => some (.space, true)
  | 'w' => some (.word, false)
  | 'W' => some (.word, true)
  | _ => none

/-- The assertions with a letter of their own. -/
def anchor? : Char → Option Anchor
  | 'A' => some .textStart
  | 'Z' => some .textStop
  | 'b' => some .boundary
  | 'B' => some .inside
  | _ => none

namespace Reading

/-- Fails at the start of an escape that has been read. -/
def failEscape {α : Type} (defect : String → Defect) (escape : List Char) : Reading α :=
  failBack (defect (String.ofList escape)) escape.length

/-- A code of exactly so many hexadecimal digits. -/
def hexCode (letter : Char) (digits : Nat) : Reading Nat := do
  let ds ← takeUpTo Text.isHexadecimal digits
  let escape := '\\' :: letter :: ds
  if ds.length ≠ digits then failEscape .incompleteEscape escape
  else
    let n := Text.hexadecimalValue ds
    if 0x80000000 ≤ n then throw ⟨.codeTooLarge, none⟩
    else if 0x10FFFF < n then failEscape .badEscape escape
    else return n

/-- A character by name. -/
def namedCode : Reading Nat := do
  if !(← accept '\x7b') then failBack .missingBrace
  else
    let name ← takeUntil '\x7d' "character name"
    match Text.CharacterName.code? name with
    | some n => return n
    | none => failBack (.undefinedCharacter name) (name.length + 4)

/-- The codes that are written by number or name, for the letters that announce one. -/
def numericCode? (letter : Char) : Option (Reading Nat) :=
  match letter with
  | 'x' => some (hexCode 'x' 2)
  | 'u' => some (hexCode 'u' 4)
  | 'U' => some (hexCode 'U' 8)
  | 'N' => some namedCode
  | _ => none

/-- An octal code, which fits in a byte. -/
def octalCode (digits : List Char) : Reading Nat := do
  let n := Text.numberInBase 8 digits
  if 0xFF < n then failEscape .octalOutOfRange ('\\' :: digits) else return n

/-- The meaning of an escaped character inside a set. -/
def setEscape (c : Char) : Reading Member := do
  match controlCode? c, category? c, numericCode? c with
  | some n, _, _ => return .code n
  | _, some (category, negated), _ => return .category category negated
  | _, _, some read => return .code (← read)
  | _, _, _ =>
    if isOctalDigit c then return .code (← octalCode (c :: (← takeUpTo isOctalDigit 2)))
    else if c.isDigit || isAsciiLetter c then failEscape .badEscape ['\\', c]
    else return .code c.toNat

/-- The digits after a backslash and a first digit other than zero, and whether they are an octal
code: they are if they are three octal digits. -/
def referenceDigits (c : Char) : Reading (List Char × Bool) := do
  match ← takeUpTo Char.isDigit 1 with
  | [d] =>
    if isOctalDigit c && isOctalDigit d then
      match ← takeUpTo isOctalDigit 1 with
      | [e] => return ([c, d, e], true)
      | _ => return ([c, d], false)
    else return ([c, d], false)
  | _ => return ([c], false)

/-- A back reference to a closed group. -/
def backReference (digits : List Char) : Reading Node := do
  let number := Number.natOfDigits digits
  let s ← get
  if number < s.nextGroup then
    match s.closedWidth? number with
    | none => failBack .openGroup (digits.length + 1)
    | some width =>
      requireVisible number
      return .backReference number width
  else failBack (.invalidGroup number) digits.length

/-- The meaning of an escaped character outside a set. -/
def nodeEscape (c : Char) : Reading Node := do
  match category? c, anchor? c, controlCode? c, numericCode? c with
  | some (category, negated), _, _, _ => return .single (.set false [.category category negated])
  | _, some anchor, _, _ => return .anchor anchor
  | _, _, some n, _ => return .single (.code n)
  | _, _, _, some read => return .single (.code (← read))
  | _, _, _, _ =>
    if c == '0' then return .single (.code (Text.numberInBase 8 ('0' :: (← takeUpTo isOctalDigit 2))))
    else if c.isDigit then
      let (digits, octal) ← referenceDigits c
      if octal then return .single (.code (← octalCode digits)) else backReference digits
    else if isAsciiLetter c then failEscape .badEscape ['\\', c]
    else return .single (.code c.toNat)

end Reading

end Verdict.Pattern
