import Verdict.Number.Reading
import Verdict.Yaml.Token.State

/-!
# YAML: scalars

The scanning of scalars: plain ones, those in single or double quotation marks, and the literal and
folded ones that are set off by indentation. Lines of a scalar are folded: a single line break
counts as a space, and of several the first is dropped.
-/

namespace Verdict.Yaml

namespace Scanning

/-! ### Line folding -/

/-- What a line break and the further breaks after it stand for. -/
def folded (first : List Char) (further : List Char) : List Char :=
  (if first != ['\n'] then first else if further.isEmpty then [' '] else []) ++ further

/-! ### Plain scalars -/

/-- What ends a plain scalar after a colon. -/
def endsKey (inFlow : Bool) (next : Option Char) : Bool :=
  endsToken next || (inFlow && next.any (",[]\x7b\x7d".toList.contains ·))

/-- The characters of a plain scalar up to a blank or a sign that ends it. -/
def plainRun (inFlow : Bool) : List Char → List Char
  | [] => []
  | c :: rest =>
    if endsToken (some c) || (c == ':' && endsKey inFlow rest.head?) ||
      (inFlow && ",?[]\x7b\x7d".toList.contains c) then []
    else c :: plainRun inFlow rest

/-- The further line breaks between the lines of a plain scalar; none at a separator of documents. -/
def plainBreaks (read : List Char) : Nat → Scanning (Option (List Char))
  | 0 => return some read
  | fuel + 1 => do
    match ← peek with
    | some ' ' =>
      forward
      plainBreaks read fuel
    | next =>
      if next.any isBreak then
        let broken ← lineBreak
        if atSeparator (← get).rest then return none
        plainBreaks (read ++ broken) fuel
      else return some read

/-- The blanks between the words of a plain scalar, folded; empty if the scalar ends here. -/
def plainSpaces : Scanning (List Char) := do
  let spaces ← takeWhile (· == ' ')
  if (← peek).any isBreak then
    let first ← lineBreak
    allowKey true
    if atSeparator (← get).rest then return []
    match ← plainBreaks [] (← get).rest.length with
    | none => return []
    | some further => return folded first further
  else return spaces

/-- The words of a plain scalar, with the blanks before the first of them. -/
def plainWords (read blanks : List Char) : Nat → Scanning (List Char)
  | 0 => return read
  | fuel + 1 => do
    let s ← get
    if s.ahead 0 == some '#' then return read
    let run := plainRun (s.flow != 0) s.rest
    if run.isEmpty then return read
    allowKey false
    forward run.length
    let read := read ++ blanks ++ run
    let blanks ← plainSpaces
    let after ← get
    if blanks.isEmpty || after.ahead 0 == some '#' ||
        (after.flow == 0 && after.column < after.indent + 1) then return read
    plainWords read blanks fuel

/-- A plain scalar. -/
def plain : Scanning Token := do
  let text ← plainWords [] [] ((← get).rest.length + 1)
  return .scalar (String.ofList text) true

/-! ### Quoted scalars -/

/-- The characters that a letter after a backslash stands for. -/
def escaped? : Char → Option Nat
  | '0' => some 0x00
  | 'a' => some 0x07
  | 'b' => some 0x08
  | 't' => some 0x09
  | '\t' => some 0x09
  | 'n' => some 0x0A
  | 'v' => some 0x0B
  | 'f' => some 0x0C
  | 'r' => some 0x0D
  | 'e' => some 0x1B
  | ' ' => some 0x20
  | '"' => some 0x22
  | '\\' => some 0x5C
  | '/' => some 0x2F
  | 'N' => some 0x85
  | '_' => some 0xA0
  | 'L' => some 0x2028
  | 'P' => some 0x2029
  | _ => none

/-- The number of hexadecimal digits after a letter that announces a code. -/
def codeDigits? : Char → Option Nat
  | 'x' => some 2
  | 'u' => some 4
  | 'U' => some 8
  | _ => none

/-- Takes a code of so many hexadecimal digits. -/
def hexCode (digits : Nat) : Scanning Nat := do
  let run := (← get).rest.take digits
  match run.mapM (Number.digitIn? 16) with
  | some values =>
    if values.length ≠ digits then fail
    forward digits
    return values.foldl (fun n d => n * 16 + d) 0
  | none => fail

/-- The low half of a pair of codes for one character, if it is written next. -/
def lowHalf? : List Char → Option Nat
  | '\\' :: 'u' :: a :: b :: c :: d :: _ => do
    let n := (← [a, b, c, d].mapM (Number.digitIn? 16)).foldl (fun n d => n * 16 + d) 0
    if 0xDC00 ≤ n && n ≤ 0xDFFF then some n else none
  | _ => none

/-- The character of a code. Two halves of a pair make one character; a half alone has none. -/
def charOfCode (n : Nat) : Scanning Char := do
  if 0x80000000 ≤ n then
    throw (.failed "OverflowError" "Python int too large to convert to C int")
  else if 0x10FFFF < n then
    throw (.failed "ValueError" "chr() arg not in range(0x110000)")
  else if 0xD800 ≤ n && n ≤ 0xDBFF then
    match lowHalf? (← get).rest with
    | some low =>
      forward 6
      return Char.ofNat (0x10000 + (n - 0xD800) * 0x400 + (low - 0xDC00))
    | none => return Char.ofNat 0xFFFD
  else if 0xDC00 ≤ n && n ≤ 0xDFFF then return Char.ofNat 0xFFFD
  else return Char.ofNat n

/-- The line breaks between the lines of a quoted scalar. A separator of documents may not stand
there. -/
def quotedBreaks (read : List Char) : Nat → Scanning (List Char)
  | 0 => return read
  | fuel + 1 => do
    if atSeparator (← get).rest then fail
    discard (takeWhile fun c => c == ' ' || c == '\t')
    if (← peek).any isBreak then quotedBreaks (read ++ (← lineBreak)) fuel
    else return read

/-- The line breaks that come next in a quoted scalar. -/
def breaks : Scanning (List Char) := do
  quotedBreaks [] ((← get).rest.length + 1)

/-- What a backslash in double quotation marks stands for. -/
def escape : Scanning (List Char) := do
  forward
  match ← peek with
  | none => fail
  | some c =>
    match escaped? c, codeDigits? c with
    | some n, _ =>
      forward
      return [Char.ofNat n]
    | none, some digits =>
      forward
      return [← charOfCode (← hexCode digits)]
    | none, none =>
      if isBreak c then
        discard lineBreak
        breaks
      else fail

/-- The characters of a quoted scalar up to a blank or the closing mark. -/
def quotedWord (double : Bool) (read : List Char) : Nat → Scanning (List Char)
  | 0 => return read
  | fuel + 1 => do
    let run ← takeWhile fun c => !(c == '\'' || c == '"' || c == '\\' || endsToken (some c))
    let read := read ++ run
    let s ← get
    match s.ahead 0 with
    | some '\'' =>
      if double then
        forward
        quotedWord double (read ++ ['\'']) fuel
      else if s.ahead 1 == some '\'' then
        forward 2
        quotedWord double (read ++ ['\'']) fuel
      else return read
    | some '"' =>
      if double then return read
      forward
      quotedWord double (read ++ ['"']) fuel
    | some '\\' =>
      if double then quotedWord double (read ++ (← escape)) fuel
      else
        forward
        quotedWord double (read ++ ['\\']) fuel
    | _ => return read

/-- The blanks between the words of a quoted scalar, folded. -/
def quotedSpaces : Scanning (List Char) := do
  let spaces ← takeWhile fun c => c == ' ' || c == '\t'
  match ← peek with
  | none => fail
  | some c =>
    if isBreak c then
      let first ← lineBreak
      return folded first (← breaks)
    else return spaces

/-- The words of a quoted scalar up to the closing mark. -/
def quotedWords (mark : Char) (read : List Char) : Nat → Scanning (List Char)
  | 0 => fail
  | fuel + 1 => do
    let read := read ++ (← quotedWord (mark == '"') [] ((← get).rest.length + 1))
    if (← peek) == some mark then
      forward
      return read
    else quotedWords mark (read ++ (← quotedSpaces)) fuel

/-- A scalar in quotation marks. -/
def quoted (mark : Char) : Scanning Token := do
  forward
  let text ← quotedWords mark [] ((← get).rest.length + 1)
  return .scalar (String.ofList text) false

/-! ### Block scalars -/

/-- How the line breaks at the end of a block scalar are kept. -/
inductive Chomping where
  | clip
  | strip
  | keep
deriving DecidableEq

/-- What the mark after an indicator says of the last line ends. -/
def chomping? : Option Char → Option Chomping
  | some '+' => some .keep
  | some '-' => some .strip
  | _ => none

/-- The sign for the line breaks at the end, if one comes next. -/
def chomping : Scanning (Option Chomping) := do
  let sign := chomping? (← peek)
  if sign.isSome then forward
  return sign

/-- The digit for the indentation, if one comes next. -/
def increment : Scanning (Option Nat) := do
  match ← peek with
  | some c =>
    if !c.isDigit then return none
    if c == '0' then fail
    forward
    return some (c.toNat - '0'.toNat)
  | none => return none

/-- The signs after the mark of a block scalar, in either order. -/
def blockSigns : Scanning (Chomping × Option Nat) := do
  match ← chomping with
  | some kept =>
    let width ← increment
    if !endsWord (← peek) then fail
    return (kept, width)
  | none =>
    let width ← increment
    let kept ← if width.isSome then chomping else pure none
    if !endsWord (← peek) then fail
    return (kept.getD .clip, width)

/-- The blank lines before a block scalar, and the deepest indentation among them. -/
def blockLead (read : List Char) (deepest : Nat) : Nat → Scanning (List Char × Nat)
  | 0 => return (read, deepest)
  | fuel + 1 => do
    match ← peek with
    | some ' ' =>
      forward
      blockLead read (max deepest (← get).column) fuel
    | next =>
      if next.any isBreak then blockLead (read ++ (← lineBreak)) deepest fuel
      else return (read, deepest)

/-- Skips the indentation of a line. -/
def skipIndent (indent : Nat) : Scanning Unit := do
  let s ← get
  let spaces := (s.rest.takeWhile (· == ' ')).length
  forward (min spaces (indent - s.column))

/-- The blank lines between the lines of a block scalar. -/
def blockBreaks (indent : Nat) (read : List Char) : Nat → Scanning (List Char)
  | 0 => return read
  | fuel + 1 => do
    skipIndent indent
    if (← peek).any isBreak then blockBreaks indent (read ++ (← lineBreak)) fuel
    else return read

/-- A blank or the end comes next. -/
def isBlankNext (next : Option Char) : Bool :=
  next == some ' ' || next == some '\t'

/-- The lines of a block scalar, with the blank lines before the first of them. Gives the text, the
line break after the last line and the blank lines after that. -/
def blockLines (foldsLines : Bool) (indent : Nat) (read lead last : List Char) :
    Nat → Scanning (List Char × List Char × List Char)
  | 0 => return (read, last, lead)
  | fuel + 1 => do
    let s ← get
    if s.column != indent || s.rest.isEmpty then return (read, last, lead)
    let startsWithBlank := isBlankNext s.rest.head?
    let line ← takeWhile (!isBreak ·)
    let read := read ++ lead ++ line
    let last ← lineBreak
    let lead ← blockBreaks indent [] ((← get).rest.length + 1)
    let after ← get
    if after.column == indent && !after.rest.isEmpty then
      let joined :=
        if foldsLines && last == ['\n'] && !startsWithBlank && !isBlankNext after.rest.head? then
          if lead.isEmpty then [' '] else []
        else last
      blockLines foldsLines indent (read ++ joined) lead last fuel
    else return (read, last, lead)

/-- A block scalar, folded or literal. -/
def block (foldsLines : Bool) : Scanning Token := do
  forward
  let (kept, width) ← blockSigns
  restOfLine
  let s ← get
  let least := (max (s.indent + 1) 1).toNat
  let fuel := s.rest.length + 1
  let (lead, indent) ←
    match width with
    | none => do
      let (lead, deepest) ← blockLead [] 0 fuel
      pure (lead, max least deepest)
    | some width => do
      let indent := least + width - 1
      pure (← blockBreaks indent [] fuel, indent)
  let (text, last, trailing) ← blockLines foldsLines indent [] lead [] fuel
  let text := text ++ (if kept == .strip then [] else last) ++
    (if kept == .keep then trailing else [])
  return .scalar (String.ofList text) false

end Scanning

end Verdict.Yaml
