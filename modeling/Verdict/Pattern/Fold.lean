import Verdict.Pattern.Basic
import Verdict.Text.Alphanumeric
import Verdict.Text.CharacterSet
import Verdict.Text.Digit
import Verdict.Text.LetterCase

/-!
# Pattern: which characters a single part takes

Classes of characters, and comparison with or without regard to case. Without regard to case a
character is compared by its lower-case form; some lower-case forms are kin to others because they
share a capital.
-/

namespace Verdict.Pattern

/-- Lower-case characters that share a capital. -/
def kinships : List (List Nat) :=
  [[0x69, 0x131], [0x73, 0x17F], [0xB5, 0x3BC], [0x345, 0x3B9, 0x1FBE], [0x390, 0x1FD3],
   [0x3B0, 0x1FE3], [0x3B2, 0x3D0], [0x3B5, 0x3F5], [0x3B8, 0x3D1], [0x3BA, 0x3F0],
   [0x3C0, 0x3D6], [0x3C1, 0x3F1], [0x3C2, 0x3C3], [0x3C6, 0x3D5], [0x432, 0x1C80],
   [0x434, 0x1C81], [0x43E, 0x1C82], [0x441, 0x1C83], [0x442, 0x1C84, 0x1C85], [0x44A, 0x1C86],
   [0x463, 0x1C87], [0xA64B, 0x1C88], [0x1E61, 0x1E9B], [0xFB05, 0xFB06]]

/-- A code and those that share its capital. -/
def kin (n : Nat) : List Nat :=
  (kinships.find? (·.contains n)).getD [n]

/-- A function on characters as one on codes; a code that no character has stays as it is. -/
def onCode (f : Char → Char) (n : Nat) : Nat :=
  if n.isValidChar then (f (Char.ofNat n)).toNat else n

/-- A character belongs to a class, over the alphabet of ASCII or of all scripts. -/
def Category.holds (category : Category) (unicode : Bool) (c : Char) : Bool :=
  match category, unicode with
  | .digit, true => Text.isDecimal c
  | .digit, false => c.isDigit
  | .space, true => Text.isBlank c
  | .space, false => Text.isAsciiBlank c
  | .word, true => Text.isWordChar c
  | .word, false => c.isAlphanum || c == '_'

/-- The lower-case form of a character in the alphabet of the flags. -/
def foldChar (flags : Flags) (c : Char) : Char :=
  if flags.unicode then Text.lowerChar c else c.toLower

/-- A character equals a code without regard to case. -/
def equalsFolded (flags : Flags) (n : Nat) (c : Char) : Bool :=
  let folded := (foldChar flags c).toNat
  if flags.unicode then (kin (onCode Text.lowerChar n)).contains folded
  else folded == onCode Char.toLower n

/-- Some character of a range has the lower-case form of a character, or one that is kin to it. -/
def inRangeFolded (flags : Flags) (first last : Nat) (c : Char) : Bool :=
  let within (n : Nat) : Bool := first ≤ n && n ≤ last
  let folded := foldChar flags c
  if flags.unicode then
    (kin folded.toNat).any fun n => (Text.lowerSources (Char.ofNat n)).any fun source =>
      within source.toNat
  else within folded.toUpper.toNat || (!folded.isUpper && within folded.toNat)

/-- The last code of the basic plane. -/
def lastBasicCode : Nat := 0xFFFF

/-- A character is taken by a member of a set. Without regard to case, a code beyond the basic plane
takes only the lower-case form it equals, and a range that ends there also takes what lies in it
after a change of case. -/
def Member.holds (flags : Flags) (member : Member) (c : Char) : Bool :=
  match member with
  | .category kind negated => kind.holds flags.unicode c != negated
  | .code n =>
    if !flags.ignoreCase then c.toNat == n
    else if n ≤ lastBasicCode then equalsFolded flags n c
    else (foldChar flags c).toNat == n
  | .range first last =>
    if !flags.ignoreCase then first ≤ c.toNat && c.toNat ≤ last
    else if last ≤ lastBasicCode then inRangeFolded flags first last c
    else
      let folded := foldChar flags c
      let upper := Text.upperChar folded
      (first ≤ folded.toNat && folded.toNat ≤ last) || (first ≤ upper.toNat && upper.toNat ≤ last) ||
        inRangeFolded flags first lastBasicCode c

/-- A character is taken by a single part. -/
def Single.holds (flags : Flags) (single : Single) (c : Char) : Bool :=
  let equals (n : Nat) : Bool := if flags.ignoreCase then equalsFolded flags n c else c.toNat == n
  match single with
  | .code n => equals n
  | .otherThan n => !equals n
  | .any => flags.dotAll || c != '\n'
  | .set negated members => members.any (·.holds flags c) != negated

end Verdict.Pattern
