import Verdict.Text.Composition
import Verdict.Text.NameCharacter
import Verdict.Text.Punycode
import Verdict.Text.Quoted
import Verdict.Text.Script

/-!
# Network: names of hosts

The names of hosts in any script, and their forms in ASCII. A name is a row of labels between points.
A label that holds other characters than those of ASCII is written by insertions, after a mark. The
rules for labels keep names apart that look alike.
-/

namespace Verdict.Network

/-- Why a text is no name of a host. -/
inductive NameFault where
  | domainTooLong
  | emptyDomain
  | labelTooLong
  | emptyLabel
  | notComposed
  | hyphensInside
  | hyphenOutside
  | markFirst
  | joiner (c : Char) (position : Nat) (label : List Char)
  | surroundings (c : Char) (position : Nat) (label : List Char)
  | character (c : Char) (position : Nat) (label : List Char)
  | firstDirection (label : List Char)
  | direction (position : Nat) (rightToLeft : Bool)
  | mixedDigits
  | lastDirection
  | nothingInserted
  | hyphenAfterMark
  | insertions
deriving DecidableEq, Repr

/-- The name of a character by its code. -/
def codeName (c : Char) : String :=
  "U+" ++ String.ofList ((Text.hexPadded 4 c.toNat).map Char.toUpper)

/-- The wording of a fault. -/
def NameFault.message : NameFault → String
  | .domainTooLong => "Domain too long"
  | .emptyDomain => "Empty domain"
  | .labelTooLong => "Label too long"
  | .emptyLabel => "Empty Label"
  | .notComposed => "Label must be in Normalization Form C"
  | .hyphensInside => "Label has disallowed hyphens in 3rd and 4th position"
  | .hyphenOutside => "Label must not start or end with a hyphen"
  | .markFirst => "Label begins with an illegal combining character"
  | .joiner c position label =>
    "Unknown codepoint adjacent to joiner " ++ codeName c ++ " at position " ++ toString position ++
      " in " ++ Text.quoted (String.ofList label)
  | .surroundings c position label =>
    "Codepoint " ++ codeName c ++ " not allowed at position " ++ toString position ++ " in " ++
      Text.quoted (String.ofList label)
  | .character c position label =>
    "Codepoint " ++ codeName c ++ " at position " ++ toString position ++ " of " ++
      Text.quoted (String.ofList label) ++ " not allowed"
  | .firstDirection label =>
    "First codepoint in label " ++ Text.quoted (String.ofList label) ++
      " must be directionality L, R or AL"
  | .direction position rightToLeft =>
    "Invalid direction for codepoint at position " ++ toString position ++ " in a " ++
      (if rightToLeft then "right-to-left" else "left-to-right") ++ " label"
  | .mixedDigits => "Can not mix numeral types in a right-to-left label"
  | .lastDirection => "Label ends with illegal codepoint directionality"
  | .nothingInserted => "Malformed A-label, no Punycode eligible content found"
  | .hyphenAfterMark => "A-label must not end with a hyphen"
  | .insertions => "Invalid A-label"

namespace Name

/-- The most characters of a label in ASCII. -/
def maxLabel : Nat := 63

/-- The most characters of a name in ASCII. -/
def maxName : Nat := 253

/-- The mark before a label that is written by insertions. -/
def mark : List Char := ['x', 'n', '-', '-']

/-- A point between labels. -/
def isPoint (c : Char) : Bool :=
  c == '.' || c == '。' || c == '．' || c == '｡'

/-! ### Characters in their surroundings -/

/-- Cursive letters join through the place between two texts, the first of them in reverse. -/
def isJoint (before after : List Char) : Bool :=
  let ends (p : Char → Bool) (s : List Char) := ((s.dropWhile Text.isPassedThrough).head?).any p
  ends Text.joinsNext before && ends Text.joinsPrevious after

/-- A vowel was taken from the letter before. -/
def followsKiller (before : List Char) : Bool :=
  before.head?.any fun c => Text.markClass c == Text.vowelKiller

/-- The sign that keeps letters from joining. -/
def nonJoiner : Char := Char.ofNat 0x200C

/-- The sign that makes letters join. -/
def joiner : Char := Char.ofNat 0x200D

/-- A Japanese or Chinese character. -/
def isEastAsian (c : Char) : Bool :=
  Text.hiraganaScript.contains c || Text.katakanaScript.contains c || Text.hanScript.contains c

/-- A digit of Arabic. -/
def isArabicDigit (c : Char) : Bool :=
  0x660 ≤ c.toNat && c.toNat ≤ 0x669

/-- A digit of Persian and Urdu. -/
def isEasternDigit (c : Char) : Bool :=
  0x6F0 ≤ c.toNat && c.toNat ≤ 0x6F9

/-- The rule for a character that is fit in some surroundings only, which are given by what stands
before it, in reverse, and after it; none if there is no such rule. -/
def fits? (label before after : List Char) (c : Char) : Option Bool :=
  match c.toNat with
  | 0xB7 => some (before.head? == some 'l' && after.head? == some 'l')
  | 0x375 => some (after.head?.any Text.greekScript.contains)
  | 0x5F3 | 0x5F4 => some (before.head?.any Text.hebrewScript.contains)
  | 0x30FB => some (label.any fun d => d != c && isEastAsian d)
  | _ =>
    if isArabicDigit c then some (!label.any isEasternDigit)
    else if isEasternDigit c then some (!label.any isArabicDigit)
    else none

/-- The fault of a character, with what stands before it, in reverse, and after it. -/
def characterFault? (label before after : List Char) (c : Char) : Option NameFault :=
  let position := before.length + 1
  if Text.isNameCharacter c then none
  else if c == nonJoiner then
    if followsKiller before || isJoint before after then none else some (.joiner c position label)
  else if c == joiner then
    if followsKiller before then none else some (.joiner c position label)
  else match fits? label before after c with
    | some true => none
    | some false => some (.surroundings c position label)
    | none => some (.character c position label)

/-- The first fault of the characters of a label, from a place on. -/
def charactersFault? (label before : List Char) : List Char → Option NameFault
  | [] => none
  | c :: rest =>
    (characterFault? label before rest c).or (charactersFault? label (c :: before) rest)

/-! ### Directions -/

open Text (Direction)

/-- A direction may stand in a label with the given direction. -/
def isAllowed (rightToLeft : Bool) (d : Direction) : Bool :=
  if rightToLeft then d != .leftToRight else d != .rightToLeft && d != .arabicDigit

/-- A label may end with a direction. -/
def isEnding (rightToLeft : Bool) (d : Direction) : Bool :=
  if rightToLeft then d == .rightToLeft || d == .europeanDigit || d == .arabicDigit
  else d == .leftToRight || d == .europeanDigit

/-- The fault of directions from a position on, after digits of a kind. -/
def directionsFault? (rightToLeft : Bool) (position : Nat) (digits : Option Direction) :
    List Direction → Option NameFault
  | [] => none
  | d :: rest =>
    if !isAllowed rightToLeft d then some (.direction position rightToLeft)
    else
      let isDigit := d == .europeanDigit || d == .arabicDigit
      if rightToLeft && isDigit && digits.any (· != d) then some .mixedDigits
      else
        let digits := if isDigit then some d else digits
        directionsFault? rightToLeft (position + 1) digits rest

/-- The fault of the directions of a label, if anything in it is written from right to left. -/
def directionFault? (label : List Char) : Option NameFault :=
  let directions := label.map Text.directionOf
  if !directions.any (fun d => d == .rightToLeft || d == .arabicDigit) then none
  else match directions.head? with
    | some first =>
      if first != .rightToLeft && first != .leftToRight then some (.firstDirection label)
      else
        let rightToLeft := first == .rightToLeft
        let last := directions.reverse.find? (· != .mark)
        (directionsFault? rightToLeft 1 none directions).or
          (if last.any (isEnding rightToLeft) then none else some .lastDirection)
    | none => none

/-! ### Labels -/

/-- The fault of a label, if it has one. -/
def labelFault? (label : List Char) : Option NameFault :=
  if label.isEmpty then some .emptyLabel
  else if maxName + 1 < label.length then some .labelTooLong
  else if !Text.isComposed label then some .notComposed
  else if (label.drop 2).take 2 == ['-', '-'] then some .hyphensInside
  else if label.head? == some '-' || label.getLast? == some '-' then some .hyphenOutside
  else if label.head?.any Text.isMark then some .markFirst
  else (charactersFault? label [] label).or (directionFault? label)

/-- A label without faults. -/
def checked (label : List Char) : Except NameFault (List Char) :=
  match labelFault? label with
  | some fault => .error fault
  | none => .ok label

/-- The label that a label in ASCII stands for. -/
def readLabel (label : List Char) : Except NameFault (List Char) :=
  let label := label.map Char.toLower
  if mark.isPrefixOf label then
    let inserted := label.drop mark.length
    if inserted.isEmpty then .error .nothingInserted
    else if inserted.getLast? == some '-' then .error .hyphenAfterMark
    else match Text.Punycode.decode inserted with
      | some label => checked label
      | none => .error .insertions
  else checked label

/-- The form of a label in ASCII. -/
def writeLabel (label : List Char) : Except NameFault (List Char) := do
  let written ←
    if label.all (·.toNat < 0x80) then do
      let _ ← readLabel label
      pure label
    else do
      let _ ← checked label
      pure (mark ++ Text.Punycode.encode label)
  if maxLabel < written.length then throw .labelTooLong
  return written

/-- The labels of a name. -/
def labelsOf : List Char → List (List Char)
  | [] => [[]]
  | c :: rest =>
    if isPoint c then [] :: labelsOf rest
    else match labelsOf rest with
      | label :: labels => (c :: label) :: labels
      | [] => [[c]]

/-- Labels with points between them. -/
def joined (labels : List (List Char)) : List Char :=
  ['.'].intercalate labels

/-- A name with each of its labels changed. A point at the end stays. -/
def mapLabels (f : List Char → Except NameFault (List Char)) (name : List Char) :
    Except NameFault (List Char) := do
  if maxName + 1 < name.length then throw .domainTooLong
  let labels := labelsOf name
  if labels == [[]] then throw .emptyDomain
  if labels.getLast? == some [] then return joined ((← labels.dropLast.mapM f) ++ [[]])
  else return joined (← labels.mapM f)

/-- The form of a name in ASCII. -/
def write (name : List Char) : Except NameFault (List Char) := do
  let written ← mapLabels writeLabel name
  let most := if written.getLast? == some '.' then maxName + 1 else maxName
  if most < written.length then throw .domainTooLong
  return written

/-- The name that a form in ASCII stands for. -/
def read (name : List Char) : Except NameFault (List Char) :=
  mapLabels readLabel name

end Name

end Verdict.Network
