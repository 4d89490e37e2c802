import Verdict.Text.Search

/-!
# YAML: tags

The kinds of nodes, and the kind of a plain scalar, which is read off its text: `tagOfPlain` goes
through the notations of numbers, booleans, the absent value and moments, and takes any other text
as a text.
-/

namespace Verdict.Yaml

/-- The kind of a node. -/
inductive Tag where
  | null
  | bool
  | int
  | float
  | binary
  | timestamp
  | text
  | sequence
  | mapping
  | set
  | pairs
  /-- The key whose entry lends its pairs. -/
  | merge
  /-- The key whose entry stands for the mapping where a scalar is expected. -/
  | default
  | unknown
deriving DecidableEq, Repr

/-- What the names of all known tags begin with. -/
def tagStart : String := "tag:yaml.org,2002:"

/-- The kinds with the names of their tags. -/
def tagNames : List (String × Tag) :=
  [("null", .null), ("bool", .bool), ("int", .int), ("float", .float), ("binary", .binary),
    ("timestamp", .timestamp), ("str", .text), ("seq", .sequence), ("map", .mapping), ("set", .set),
    ("omap", .pairs), ("pairs", .pairs), ("merge", .merge), ("value", .default)]

/-- The kind that a full tag names. -/
def Tag.ofName (name : String) : Tag :=
  match tagNames.find? fun (end_, _) => tagStart ++ end_ == name with
  | some (_, tag) => tag
  | none => .unknown

/-! ### The notations of plain scalars -/

/-- A text without the sign before it. -/
def unsigned : List Char → List Char
  | '-' :: s => s
  | '+' :: s => s
  | s => s

/-- A digit or an underscore. -/
def isPadded (c : Char) : Bool := c.isDigit || c == '_'

/-- A text of at least one character, all of a class. -/
def isRun (p : Char → Bool) (s : List Char) : Bool := !s.isEmpty && s.all p

/-- Digits and underscores, of which the first is a digit. -/
def isDigits (s : List Char) : Bool :=
  s.head?.any Char.isDigit && s.all isPadded

/-- The words for true and for false. -/
def boolWords : List (String × Bool) :=
  [("yes", true), ("no", false), ("true", true), ("false", false), ("on", true), ("off", false)]

/-- A word in small letters, in capitals, or with one capital at its beginning. -/
def casings (word : String) : List String :=
  [word, word.toUpper, word.capitalize]

/-- The text is written as a boolean. -/
def isBool (s : List Char) : Bool :=
  boolWords.any fun (word, _) => (casings word).any (·.toList == s)

/-- The text is written as the absent value. -/
def isNull (s : List Char) : Bool :=
  s.isEmpty || s == ['~'] || (casings "null").any (·.toList == s)

/-- A number below sixty in one or two digits. -/
def isSixtieth : List Char → Bool
  | [a] => a.isDigit
  | [a, b] => '0' ≤ a && a ≤ '5' && b.isDigit
  | _ => false

/-- A number in sixtieths: parts with colons between them. -/
def isSexagesimal (leads : List Char → Bool) (s : List Char) : Bool :=
  match Text.splitAt ':' s with
  | first :: rest => leads first && !rest.isEmpty && rest.all isSixtieth
  | [] => false

/-- A decimal integer without a zero before it. -/
def isDecimal (s : List Char) : Bool :=
  isDigits s && s.head? != some '0'

/-- The text is written as an integer. -/
def isInt (s : List Char) : Bool :=
  match unsigned s with
  | ['0'] => true
  | '0' :: 'b' :: digits => isRun (fun c => c == '0' || c == '1' || c == '_') digits
  | '0' :: 'x' :: digits =>
    isRun (fun c => isPadded c || ('a' ≤ c && c ≤ 'f') || ('A' ≤ c && c ≤ 'F')) digits
  | '0' :: digits => isRun (fun c => ('0' ≤ c && c ≤ '7') || c == '_') digits
  | digits => isDecimal digits || isSexagesimal isDecimal digits

/-- An exponent with its sign, or nothing. -/
def isExponent : List Char → Bool
  | [] => true
  | e :: sign :: digits =>
    (e == 'e' || e == 'E') && (sign == '-' || sign == '+') && isRun Char.isDigit digits
  | _ => false

/-- The part after the point of a number: digits, and an exponent if one may follow. -/
def isFraction (exponent : Bool) (s : List Char) : Bool :=
  let rest := s.dropWhile isPadded
  if exponent then isExponent rest else rest.isEmpty

/-- The text is written as a floating-point number. -/
def isFloat (s : List Char) : Bool :=
  let body := unsigned s
  let named (words : List String) (s : List Char) := words.any (·.toList == s)
  named [".inf", ".Inf", ".INF"] body || named [".nan", ".NaN", ".NAN"] s ||
    match body.span (· != '.') with
    | (whole, '.' :: fraction) =>
      if whole.isEmpty then s == body && fraction.head?.any Char.isDigit && isFraction true fraction
      else (isDigits whole && isFraction true fraction) ||
        (isSexagesimal isDigits whole && isFraction false fraction)
    | _ => false

/-- A run of digits of a length between two bounds, and what follows it. -/
def digitsWithin (least most : Nat) (s : List Char) : Option (List Char × List Char) :=
  let run := (s.take most).takeWhile Char.isDigit
  if least ≤ run.length then some (run, s.drop run.length) else none

/-- What follows an expected character. -/
def after? (c : Char) : List Char → Option (List Char)
  | d :: rest => if c == d then some rest else none
  | [] => none

/-- The parts of a moment as they are written. -/
structure Written where
  year : List Char
  month : List Char
  day : List Char
  time : Option (List Char × List Char × List Char × List Char)
  /-- The sign of the offset, its hours and its minutes. -/
  offset : Option (Char × List Char × List Char)

/-- The offset at the end of a moment: a sign, hours and maybe minutes, or the letter for none. -/
def offset? (s : List Char) : Option (Option (Char × List Char × List Char)) :=
  match s.dropWhile fun c => c == ' ' || c == '\t' with
  | [] => if s.isEmpty then some none else none
  | ['Z'] => some (some ('Z', [], []))
  | sign :: s => do
    if sign != '+' && sign != '-' then none
    let (hour, s) ← digitsWithin 1 2 s
    match s with
    | [] => return some (sign, hour, [])
    | ':' :: s =>
      let (minute, s) ← digitsWithin 2 2 s
      if s.isEmpty then return some (sign, hour, minute) else none
    | _ => none

/-- A text without the line feed at its end. -/
def dropFinalBreak (s : List Char) : List Char :=
  if s.getLast? == some '\n' then s.dropLast else s

/-- The parts of a date with a time of day; a line feed may follow it. -/
def written? (s : List Char) : Option Written := do
  let (year, s) ← digitsWithin 4 4 (dropFinalBreak s)
  let (month, s) ← digitsWithin 1 2 (← after? '-' s)
  let (day, s) ← digitsWithin 1 2 (← after? '-' s)
  if s.isEmpty then return ⟨year, month, day, none, none⟩
  let s ←
    match s with
    | 'T' :: s => some s
    | 't' :: s => some s
    | s =>
      let rest := s.dropWhile fun c => c == ' ' || c == '\t'
      if rest.length < s.length then some rest else none
  let (hour, s) ← digitsWithin 1 2 s
  let (minute, s) ← digitsWithin 2 2 (← after? ':' s)
  let (second, s) ← digitsWithin 2 2 (← after? ':' s)
  let (fraction, s) :=
    match s with
    | '.' :: s => (s.takeWhile Char.isDigit, s.dropWhile Char.isDigit)
    | s => ([], s)
  return ⟨year, month, day, some (hour, minute, second, fraction), ← offset? s⟩

/-- A moment, or a date of which the month and the day have two digits. -/
def isTimestamp (s : List Char) : Bool :=
  match written? s with
  | some w => w.time.isSome || (w.month.length == 2 && w.day.length == 2)
  | none => false

/-- The kind of a plain scalar. A line feed at the end of a notation is passed over. -/
def tagOfPlain (text : String) : Tag :=
  let s := if text == "\n" then ['\n'] else dropFinalBreak text.toList
  if isBool s then .bool
  else if isFloat s then .float
  else if isInt s then .int
  else if s == ['<', '<'] then .merge
  else if isNull s then .null
  else if isTimestamp text.toList then .timestamp
  else if s == ['='] then .default
  else .text

end Verdict.Yaml
