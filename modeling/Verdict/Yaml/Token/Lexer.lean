import Verdict.Text.Utf8
import Verdict.Yaml.Scalar

/-!
# YAML: tokens of a text

The tokens of a text, one after another. Every token but the last takes a character, so the length
of the text bounds their number.
-/

namespace Verdict.Yaml

namespace Scanning

/-! ### Directives, anchors and tags -/

/-- Takes a name. -/
def name : Scanning String := do
  let run ← takeWhile isNameChar
  if run.isEmpty then fail
  return String.ofList run

/-- Takes a number in digits. -/
def digits : Scanning Nat := do
  let run ← takeWhile Char.isDigit
  if run.isEmpty then fail
  return run.foldl (fun n c => n * 10 + (c.toNat - '0'.toNat)) 0

/-- Takes bytes that are written by their codes. -/
def uriBytes : Nat → Scanning (List UInt8)
  | 0 => return []
  | fuel + 1 => do
    if (← peek) == some '%' then
      forward
      let code ← hexCode 2
      return UInt8.ofNat code :: (← uriBytes fuel)
    else return []

/-- Takes the characters of a tag; bytes written by their codes have to be UTF-8. -/
def tagText (read : List Char) : Nat → Scanning String
  | 0 => fail
  | fuel + 1 => do
    let read := read ++ (← takeWhile fun c => isTagChar c && c != '%')
    if (← peek) == some '%' then
      match Text.decode (← uriBytes ((← get).rest.length + 1)) with
      | .ok chars => tagText (read ++ chars) fuel
      | .error _ => fail
    else if read.isEmpty then fail
    else return String.ofList read

/-- Takes the characters of a tag. -/
def tagUri : Scanning String := do
  tagText [] ((← get).rest.length + 1)

/-- Takes the handle of a tag: an exclamation mark, or a name between two of them. -/
def tagHandle : Scanning String := do
  if (← peek) != some '!' then fail
  if (← peek 1) == some ' ' then
    forward
    return "!"
  forward
  let run ← takeWhile isNameChar
  if (← peek) != some '!' then fail
  forward
  return String.ofList ('!' :: run ++ ['!'])

/-- A directive. -/
def directive : Scanning Token := do
  forward
  let name ← name
  if !endsWord (← peek) then fail
  let d ←
    match name with
    | "YAML" => do
      skipSpaces
      let major ← digits
      if (← peek) != some '.' then fail
      forward
      discard digits
      if !endsWord (← peek) then fail
      pure (Directive.version major)
    | "TAG" => do
      skipSpaces
      let handle ← tagHandle
      if (← peek) != some ' ' then fail
      skipSpaces
      let start ← tagUri
      if !endsWord (← peek) then fail
      pure (Directive.tag handle start)
    | _ => do
      discard (takeWhile (!isBreak ·))
      pure Directive.other
  restOfLine
  return .directive d

/-- The name of an anchor or alias, after its sign. -/
def anchorName : Scanning String := do
  forward
  let name ← name
  let next ← peek
  if endsToken next || next.any ("?:,]\x7d%@\x60".toList.contains ·) then return name else fail

/-- A tag is written with a handle: an exclamation mark comes before its end. -/
def hasHandle (s : List Char) : Bool :=
  (s.takeWhile fun c => !endsWord (some c)).contains '!'

/-- A tag. -/
def tag : Scanning Token := do
  let s ← get
  let (handle, suffix) ←
    match s.ahead 1 with
    | some '<' => do
      forward 2
      let suffix ← tagUri
      if (← peek) != some '>' then fail
      forward
      pure (none, suffix)
    | next =>
      if endsToken next then do
        forward
        pure (none, "!")
      else if hasHandle (s.rest.drop 1) then do
        let handle ← tagHandle
        pure (some handle, ← tagUri)
      else do
        forward
        pure (some "!", ← tagUri)
  if !endsWord (← peek) then fail
  return .tag handle suffix

/-! ### The next token -/

/-- Skips spaces, comments and line breaks up to the next token. -/
def skipToToken : Nat → Scanning Unit
  | 0 => return
  | fuel + 1 => do
    skipSpaces
    if (← peek) == some '#' then discard (takeWhile (!isBreak ·))
    if (← lineBreak).isEmpty then return
    if (← get).flow == 0 then allowKey true
    skipToToken fuel

/-- Takes a mark for which no key may be pending. -/
def separator (t : Token) : Scanning Unit := do
  unwind (-1)
  dropKey
  allowKey false
  forward 3
  emit t

/-- The beginning of a flow collection. -/
def openFlow (t : Token) : Scanning Unit := do
  noteKey
  modify fun s => { s with flow := s.flow + 1 }
  allowKey true
  forward
  emit t

/-- The end of a flow collection. -/
def closeFlow (t : Token) : Scanning Unit := do
  dropKey
  if (← get).flow == 0 then fail
  modify fun s => { s with flow := s.flow - 1 }
  allowKey false
  forward
  emit t

/-- Begins a block collection at the present column, if keys or entries may stand there. -/
def beginBlock (start : Token) : Scanning Unit := do
  let s ← get
  if s.flow == 0 then
    if !s.allowsKey then fail
    if ← indentTo s.column then emit start

/-- The mark before an item of a block. -/
def blockEntry : Scanning Unit := do
  beginBlock .blockSequenceStart
  allowKey true
  dropKey
  forward
  emit .blockEntry

/-- The mark before a key that may be of any kind. -/
def explicitKey : Scanning Unit := do
  beginBlock .blockMappingStart
  allowKey ((← get).flow == 0)
  dropKey
  forward
  emit .key

/-- Takes the colon before a value. Where a simple key was noted, its mark is put before it. -/
def valueMark : Scanning Unit := do
  let s ← get
  match s.keys.find? (·.1 == s.flow) with
  | some (_, place) =>
    set { s with
      keys := s.keys.filter fun (level, _) => level != s.flow
      tokens := s.tokens.insertIdxIfInBounds place.tokens .key }
    if s.flow == 0 then
      if ← indentTo place.column then
        modify fun s =>
          { s with tokens := s.tokens.insertIdxIfInBounds place.tokens .blockMappingStart }
    allowKey false
  | none =>
    beginBlock .blockMappingStart
    allowKey (s.flow == 0)
    dropKey
  forward
  emit .value

/-- Takes a token that may begin a simple key. -/
def keyToken (read : Scanning Token) : Scanning Unit := do
  noteKey
  allowKey false
  emit (← read)

/-- Takes a block scalar. -/
def blockScalar (foldsLines : Bool) : Scanning Unit := do
  allowKey true
  dropKey
  emit (← block foldsLines)

/-- A plain scalar may begin with these characters. -/
def beginsPlain (inFlow : Bool) (c : Char) (next : Option Char) : Bool :=
  !(endsToken (some c) || "-?:,[]\x7b\x7d#&*!|>'\"%@\x60".toList.contains c) ||
    (!endsToken next && (c == '-' || (!inFlow && (c == '?' || c == ':'))))

/-- Takes the token that begins with a character. -/
def token (c : Char) : Scanning Unit := do
  let s ← get
  let next := s.ahead 1
  let inFlow := s.flow != 0
  if c == '%' && s.column == 0 then
    unwind (-1)
    dropKey
    allowKey false
    emit (← directive)
  else if s.column == 0 && atDocumentMark '-' s.rest then separator .documentStart
  else if s.column == 0 && atDocumentMark '.' s.rest then separator .documentEnd
  else if c == '[' then openFlow .flowSequenceStart
  else if c == '\x7b' then openFlow .flowMappingStart
  else if c == ']' then closeFlow .flowSequenceEnd
  else if c == '\x7d' then closeFlow .flowMappingEnd
  else if c == ',' then
    allowKey true
    dropKey
    forward
    emit .flowEntry
  else if c == '-' && endsToken next then blockEntry
  else if c == '?' && (inFlow || endsToken next) then explicitKey
  else if c == ':' && (inFlow || endsToken next) then valueMark
  else if c == '*' then keyToken (Token.alias <$> anchorName)
  else if c == '&' then keyToken (Token.anchor <$> anchorName)
  else if c == '!' then keyToken tag
  else if c == '|' && !inFlow then blockScalar false
  else if c == '>' && !inFlow then blockScalar true
  else if c == '\'' || c == '"' then keyToken (quoted c)
  else if beginsPlain inFlow c next then keyToken plain
  else fail

/-- Takes all tokens. -/
def tokens : Nat → Scanning Unit
  | 0 => fail
  | fuel + 1 => do
    skipToToken ((← get).rest.length + 1)
    dropStaleKeys
    unwind (← get).column
    match ← peek with
    | none =>
      unwind (-1)
      dropKey
    | some c =>
      token c
      tokens fuel

end Scanning

/-- A text without the mark of byte order at its beginning. -/
def dropByteOrderMark : List Char → List Char
  | c :: rest => if c.toNat == 0xFEFF then rest else c :: rest
  | [] => []

/-- The tokens of a text. -/
def scan (text : List Char) : Except Fault (List Token) := do
  if !text.all isAllowed then throw .malformed
  let chars := dropByteOrderMark text
  let (_, s) ← (Scanning.tokens (chars.length + 2)).run { rest := chars }
  return s.tokens.toList

end Verdict.Yaml
