import Verdict.Number.Reading
import Verdict.Value

/-!
# JSON: tokens

A text as a list of tokens, each with its offset. A place that begins no token yields a token of
its own, so that whoever reads the tokens finds the first fault in the order of the text.
-/

namespace Verdict.Json

/-! ## Faults

Why a text is not JSON, and where. The place of a fault is given as the count of characters before
it; its wording adds the line and the column.
-/

/-- What is wrong at a place of a text. -/
inductive FaultKind where
  | byteOrderMark
  | expectedValue
  | expectedName
  | expectedColon
  | expectedComma
  | extraData
  | controlCharacter
  | unterminatedString
  | badEscape
  | badUnicodeEscape
deriving DecidableEq, Repr

/-- The wording of a kind of fault. -/
def FaultKind.message : FaultKind → String
  | .byteOrderMark => "Unexpected UTF-8 BOM (decode using utf-8-sig)"
  | .expectedValue => "Expecting value"
  | .expectedName => "Expecting property name enclosed in double quotes"
  | .expectedColon => "Expecting ':' delimiter"
  | .expectedComma => "Expecting ',' delimiter"
  | .extraData => "Extra data"
  | .controlCharacter => "Invalid control character at"
  | .unterminatedString => "Unterminated string starting at"
  | .badEscape => "Invalid \\escape"
  | .badUnicodeEscape => "Invalid \\uXXXX escape"

/-- What a text that may be well-formed has too much of: the digits of an integer, or containers one
inside the other, of which the innermost is a list or a mapping. -/
inductive Excess where
  | digits (fault : Number.IntegerFault)
  | nestedList
  | nestedMapping
deriving DecidableEq, Repr

/-- The wording of an excess. -/
def Excess.message : Excess → String
  | .digits fault => fault.message
  | .nestedList => "maximum recursion depth exceeded while decoding a JSON array from a unicode string"
  | .nestedMapping =>
    "maximum recursion depth exceeded while decoding a JSON object from a unicode string"

/-- Why a text is not read. -/
inductive Fault where
  | syntactic (kind : FaultKind) (offset : Nat)
  | excessive (excess : Excess)
deriving DecidableEq, Repr

/-- Line and column of the place after the given characters, both counted from one. -/
def lineAndColumn (before : List Char) : Nat × Nat :=
  (before.count '\n' + 1, (before.reverse.takeWhile (· != '\n')).length + 1)

/-- The wording of a fault in a text. -/
def Fault.message (source : List Char) : Fault → String
  | .syntactic kind offset =>
    let (line, column) := lineAndColumn (source.take offset)
    kind.message ++ ": line " ++ toString line ++ " column " ++ toString column ++
      " (char " ++ toString offset ++ ")"
  | .excessive excess => excess.message

/-! ## Tokens -/

/-- A token. -/
inductive Token where
  | openList
  | closeList
  | openMapping
  | closeMapping
  | comma
  | colon
  | text (s : String)
  | scalar (a : Atom)
  /-- A string or a number that cannot be read. -/
  | broken (isText : Bool) (fault : Fault)
  /-- No token begins here. -/
  | junk

/-- A token with the offset at which it begins. -/
structure Placed where
  offset : Nat
  token : Token

/-- The blanks between tokens. -/
def isSpace (c : Char) : Bool :=
  c == ' ' || c == '\t' || c == '\n' || c == '\r'

/-- The value of a hexadecimal digit. -/
def hexDigit? (c : Char) : Option Nat :=
  if c.isDigit then some (c.toNat - '0'.toNat)
  else if 'a' ≤ c ∧ c ≤ 'f' then some (c.toNat - 'a'.toNat + 10)
  else if 'A' ≤ c ∧ c ≤ 'F' then some (c.toNat - 'A'.toNat + 10)
  else none

/-- The value of four hexadecimal digits. -/
def hexQuad? (a b c d : Char) : Option Nat := do
  return ((← hexDigit? a) * 16 + (← hexDigit? b)) * 256 + (← hexDigit? c) * 16 + (← hexDigit? d)

/-- The first of two units that make up one character. -/
def isHighSurrogate (n : Nat) : Bool := 0xD800 ≤ n && n ≤ 0xDBFF

/-- The second of two units that make up one character. -/
def isLowSurrogate (n : Nat) : Bool := 0xDC00 ≤ n && n ≤ 0xDFFF

/-- The character that two units make up. -/
def joinSurrogates (high low : Nat) : Char :=
  Char.ofNat (0x10000 + (high - 0xD800) * 0x400 + (low - 0xDC00))

/-- The character of one unit; a unit without its partner becomes the replacement character. -/
def charOfUnit (n : Nat) : Char :=
  if isHighSurrogate n || isLowSurrogate n then '\uFFFD' else Char.ofNat n

/-- The characters of a sequence of units. -/
def charsOfUnits : List Nat → List Char
  | [] => []
  | [n] => [charOfUnit n]
  | high :: low :: rest =>
    if isHighSurrogate high && isLowSurrogate low then
      joinSurrogates high low :: charsOfUnits rest
    else charOfUnit high :: charsOfUnits (low :: rest)

/-- The character of a one-letter escape. -/
def shortEscape? (c : Char) : Option Char :=
  match c with
  | '"' => some '"'
  | '\\' => some '\\'
  | '/' => some '/'
  | 'b' => some '\x08'
  | 'f' => some '\x0c'
  | 'n' => some '\n'
  | 'r' => some '\r'
  | 't' => some '\t'
  | _ => none

/-- The outcome of reading the rest of a string: its units and what follows the closing quotation
mark, or a fault with the count of characters left at its place. -/
inductive StringScan where
  | closed (units : List Nat) (rest : List Char)
  | open
  | fault (kind : FaultKind) (left : Nat)

/-- A unit put before the units of a scan. -/
def StringScan.cons (n : Nat) : StringScan → StringScan
  | .closed units rest => .closed (n :: units) rest
  | s => s

/-- Reads a string after its opening quotation mark. An escape by code has four digits and is not
the last thing in the text. -/
def scanString : List Char → StringScan
  | [] => .open
  | '"' :: rest => .closed [] rest
  | ['\\'] => .open
  | '\\' :: 'u' :: a :: b :: c :: d :: rest =>
    match rest.isEmpty, hexQuad? a b c d with
    | false, some unit => (scanString rest).cons unit
    | _, _ => .fault .badUnicodeEscape (rest.length + 5)
  | '\\' :: 'u' :: rest => .fault .badUnicodeEscape (rest.length + 1)
  | '\\' :: c :: rest =>
    match shortEscape? c with
    | some e => (scanString rest).cons e.toNat
    | none => .fault .badEscape (rest.length + 2)
  | c :: rest =>
    if c.toNat < 0x20 then .fault .controlCharacter (rest.length + 1)
    else (scanString rest).cons c.toNat

/-- The digits at the front. -/
def splitDigits (s : List Char) : List Char × List Char :=
  (s.takeWhile Char.isDigit, s.dropWhile Char.isDigit)

/-- The parts of a written number. -/
structure Numeral where
  negative : Bool
  whole : List Char
  fraction : Option (List Char)
  exponent : Option Int

/-- The whole part of a number: a zero alone, or digits that do not begin with one. -/
def scanWhole : List Char → Option (List Char × List Char)
  | '0' :: rest => some (['0'], rest)
  | c :: rest => if c.isDigit then some (splitDigits (c :: rest)) else none
  | [] => none

/-- A fraction, taken only with at least one digit. -/
def scanFraction : List Char → Option (List Char) × List Char
  | '.' :: c :: rest =>
    if c.isDigit then
      let (ds, rest') := splitDigits (c :: rest)
      (some ds, rest')
    else (none, '.' :: c :: rest)
  | rest => (none, rest)

/-- An exponent, taken only with at least one digit. -/
def scanExponent (s : List Char) : Option Int × List Char :=
  match s with
  | c :: rest =>
    if c == 'e' || c == 'E' then
      let (negative, digits) := Number.scanSign rest
      match splitDigits digits with
      | ([], _) => (none, s)
      | (ds, rest') =>
        let n : Int := Number.natOfDigits ds
        (some (if negative then -n else n), rest')
    else (none, s)
  | [] => (none, s)

/-- A number at the front. -/
def scanNumeral (s : List Char) : Option (Numeral × List Char) :=
  let (negative, body) := match s with
    | '-' :: rest => (true, rest)
    | _ => (false, s)
  match scanWhole body with
  | none => none
  | some (whole, rest) =>
    let (fraction, rest) := scanFraction rest
    let (exponent, rest) := scanExponent rest
    some (⟨negative, whole, fraction, exponent⟩, rest)

/-- A numeral with a fraction or an exponent is a floating-point number, any other an integer. -/
def Numeral.token (n : Numeral) : Token :=
  match n.fraction, n.exponent with
  | none, none =>
    if Number.maxIntegerDigits < n.whole.length then
      .broken false (.excessive (.digits (.tooManyDigits n.whole.length)))
    else
      let value : Int := Number.natOfDigits n.whole
      .scalar (.int (if n.negative then -value else value))
  | fraction, exponent =>
    .scalar (.float ((Number.Decimal.ofParts n.whole (fraction.getD []) (exponent.getD 0)).nearest
      n.negative))

/-- The words that stand for values. -/
def words : List (List Char × Atom) :=
  [("null".toList, .null), ("true".toList, .bool true), ("false".toList, .bool false),
   ("NaN".toList, .float .nan), ("Infinity".toList, .float (.infinity false)),
   ("-Infinity".toList, .float (.infinity true))]

/-- The punctuation marks. -/
def mark? (c : Char) : Option Token :=
  match c with
  | '[' => some .openList
  | ']' => some .closeList
  | '\x7b' => some .openMapping
  | '\x7d' => some .closeMapping
  | ',' => some .comma
  | ':' => some .colon
  | _ => none

/-- The token at the front of a text of `size` characters in all, and what follows it. Nothing
follows a place where no token can be read. -/
def scanToken (size : Nat) (s : List Char) : Token × List Char :=
  match s with
  | [] => (.junk, [])
  | '"' :: rest =>
    match scanString rest with
    | .closed units rest' => (.text (String.ofList (charsOfUnits units)), rest')
    | .open => (.broken true (.syntactic .unterminatedString (size - s.length)), [])
    | .fault kind left => (.broken true (.syntactic kind (size - left)), [])
  | c :: rest =>
    match mark? c with
    | some t => (t, rest)
    | none =>
      match words.find? fun (word, _) => word.isPrefixOf s with
      | some (word, a) => (.scalar a, s.drop word.length)
      | none =>
        match scanNumeral s with
        | some (numeral, rest') => (numeral.token, rest')
        | none => (.junk, [])

/-- The tokens of the rest of a text of `size` characters, each of which uses up a character. -/
def tokensWithin (size : Nat) : (fuel : Nat) → List Char → List Placed
  | 0, _ => []
  | fuel + 1, s =>
    match s.dropWhile isSpace with
    | [] => []
    | s' =>
      let (token, rest) := scanToken size s'
      ⟨size - s'.length, token⟩ :: tokensWithin size fuel rest

/-- The tokens of a text. -/
def tokens (s : List Char) : List Placed :=
  tokensWithin s.length s.length s

end Verdict.Json
