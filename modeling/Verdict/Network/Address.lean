import Verdict.Network.Name
import Verdict.Number.Reading
import Verdict.Text.Digit
import Verdict.Text.LetterCase
import Verdict.Text.Search
import Verdict.Text.Utf8

/-!
# Network: addresses

Addresses of resources in normal form: scheme and host in small letters, no port where it is the
usual one, no steps to the same or the upper directory, and characters that may not stand in an
address written by the codes of their bytes, each after a percent sign. A host is given by numbers
or by a name, which is put into ASCII.
-/

/-! ## Numeric hosts

Hosts that are given by numbers instead of names: four decimal numbers between points, or eight
hexadecimal ones between colons, of which a run of zeros may be left out once.
-/

namespace Verdict.Network.Numeric

/-- A decimal number up to 255 without zeros before it. -/
def isOctet (s : List Char) : Bool :=
  !s.isEmpty && s.length ≤ 3 && s.all Char.isDigit && (s == ['0'] || s.head? != some '0') &&
    Text.numberInBase 10 s ≤ 255

/-- The text is a host by four numbers. -/
def isShort (s : List Char) : Bool :=
  let parts := Text.splitAt '.' s
  parts.length == 4 && parts.all isOctet

/-- A hexadecimal number of up to four digits. -/
def isGroup (s : List Char) : Bool :=
  !s.isEmpty && s.length ≤ 4 && s.all Text.isHexadecimal

/-- The parts of a long host, where four numbers at its end stand for the last two. -/
def longParts? (s : List Char) : Option (List (List Char)) :=
  let parts := Text.splitAt ':' s
  let last := parts.getLast?.getD []
  if parts.length < 3 then none
  else if last.contains '.' then
    if isShort last then some (parts.dropLast ++ [['0'], ['0']]) else none
  else some parts

/-- Parts at one side of a gap: all are numbers, but for the outermost one if the gap follows it at
once. -/
def isSide (outermost? : Option (List Char)) (side : List (List Char)) : Bool :=
  side.all isGroup || (outermost? == some [] && side.length == 1)

/-- The places of empty parts but for the first and the last one. -/
def gaps (parts : List (List Char)) : List Nat :=
  (List.range parts.length).filter fun n =>
    0 < n && n + 1 < parts.length && parts[n]? == some []

/-- The number of parts at one side that are numbers. -/
def countGroups (side : List (List Char)) : Nat :=
  side.countP (!·.isEmpty)

/-- The parts are those of a long host. -/
def isLongParts (parts : List (List Char)) : Bool :=
  if 9 < parts.length then false
  else match gaps parts with
    | [] => parts.length == 8 && parts.all isGroup
    | [place] =>
      let (left, right) := (parts.take place, parts.drop (place + 1))
      isSide left.head? left && isSide right.getLast? right &&
        countGroups left + countGroups right < 8
    | _ => false

/-- What stands before the first sign of some kind, and after it if it is there. -/
def splitFirst (mark : Char) (s : List Char) : List Char × Option (List Char) :=
  match s.span (· != mark) with
  | (before, _ :: after) => (before, some after)
  | (before, []) => (before, none)

/-- The text is a host by eight numbers; a scope may follow a percent sign. -/
def isLong (s : List Char) : Bool :=
  let (number, scope) := splitFirst '%' s
  !s.contains '/' && scope.all (fun scope => !scope.isEmpty && !scope.contains '%') &&
    (longParts? number).any isLongParts

/-- The state of looking for four runs of digits: the number of signs and runs passed. -/
def runsStep (c : Char) (passed : Nat) : List Nat :=
  if passed % 2 == 0 then if c.isDigit then [passed + 1] else []
  else (if c.isDigit then [passed] else []) ++ (if passed < 7 then [passed + 1] else [])

/-- The text looks like four numbers: runs of digits with any one character between them. -/
def looksShort (s : List Char) : Bool :=
  (s.foldl (fun states c => (states.flatMap (runsStep c)).eraseDups) [0]).contains 7

/-- The text looks like eight numbers: it stands in brackets. -/
def looksLong (s : List Char) : Bool :=
  2 ≤ s.length && s.head? == some '[' && s.getLast? == some ']'

end Verdict.Network.Numeric

/-! ## Addresses -/

namespace Verdict.Network

/-! ### Escapes -/

/-- The bytes of a character by their codes. -/
def escape (c : Char) : List Char :=
  (Text.toBytes (String.singleton c)).flatMap fun b =>
    '%' :: (Text.hexPadded 2 b.toNat).map Char.toUpper

/-- A text with the characters escaped that are not plain. -/
def escaped (isPlain : Char → Bool) (s : List Char) : List Char :=
  s.flatMap fun c => if isPlain c then [c] else escape c

/-- The bytes of a text, where an escape stands for its byte. -/
def unescapedBytes : List Char → List UInt8
  | '%' :: a :: b :: rest =>
    if Text.isHexadecimal a && Text.isHexadecimal b then
      UInt8.ofNat (Text.hexadecimalValue [a, b]) :: unescapedBytes rest
    else Text.toBytes "%" ++ unescapedBytes (a :: b :: rest)
  | c :: rest => Text.toBytes (String.singleton c) ++ unescapedBytes rest
  | [] => []

/-- The text that escapes stand for. -/
def unescaped (s : List Char) : List Char :=
  Text.decodeAll (unescapedBytes s)

/-! ### Faults -/

/-- Why a text is no address. -/
inductive AddressFault where
  | tooLong
  | control (c : Char) (position : Nat)
  | partTooLong (part : String)
  | partControl (part : String) (c : Char) (position : Nat)
  | shortHost (text : String)
  | longHost (text : String)
  | hostName (text : String)
  | port (text : String)
  /-- A path follows a host without a separator. -/
  | barePath
  /-- A path without a host begins with two separators. -/
  | doubleSeparator
  /-- A path without a scheme begins with a colon. -/
  | colonFirst
deriving DecidableEq, Repr

/-- The wording of a fault. -/
def AddressFault.message : AddressFault → String
  | .tooLong => "URL too long"
  | .control c position =>
    "Invalid non-printable ASCII character in URL, " ++ Text.quoted (String.singleton c) ++
      " at position " ++ toString position ++ "."
  | .partTooLong part => "URL component '" ++ part ++ "' too long"
  | .partControl part c position =>
    "Invalid non-printable ASCII character in URL " ++ part ++ " component, " ++
      Text.quoted (String.singleton c) ++ " at position " ++ toString position ++ "."
  | .shortHost text => "Invalid IPv4 address: " ++ Text.quoted text
  | .longHost text => "Invalid IPv6 address: " ++ Text.quoted text
  | .hostName text => "Invalid IDNA hostname: " ++ Text.quoted text
  | .port text => "Invalid port: " ++ Text.quoted text
  | .barePath => "For absolute URLs, path must be empty or begin with '/'"
  | .doubleSeparator => "Relative URLs cannot have a path starting with '//'"
  | .colonFirst => "Relative URLs cannot have a path starting with ':'"

/-- An address, or a reference to one. -/
structure Address where
  scheme : String
  /-- Who asks, with a password after a colon. -/
  user : String
  host : String
  port : Option Int
  path : String
  query : Option String
  fragment : Option String
deriving DecidableEq, Repr

namespace Address

/-- The most characters of an address or of a part of one. -/
def maxLength : Nat := 65536

/-! ### Characters of the parts -/

/-- A visible character of ASCII other than some. -/
def isVisibleBut (excluded : List Char) (c : Char) : Bool :=
  '!' ≤ c && c ≤ '~' && !("\"<>".toList.contains c || excluded.contains c)

/-- A character that stands for itself in a path. -/
def isPathChar (c : Char) : Bool :=
  isVisibleBut "#?\x60\x7b\x7d".toList c

/-- A character that stands for itself in a query. -/
def isQueryChar (c : Char) : Bool :=
  isVisibleBut ['#'] c

/-- A character that stands for itself in a fragment. -/
def isFragmentChar (c : Char) : Bool :=
  isVisibleBut ['\x60'] c

/-- A character that stands for itself in what says who asks. -/
def isUserChar (c : Char) : Bool :=
  isVisibleBut "#?\x60\x7b\x7d/;=@[\\]^|".toList c

/-- A character that stands for itself in the name of a host. -/
def isHostChar (c : Char) : Bool :=
  c.isAlphanum || "-._~!$&'()*+,;=\"\x60\x7b\x7d%|\\".toList.contains c

/-! ### Parts -/

/-- The parts of an address as they are written. -/
structure Parts where
  scheme : List Char := []
  place : List Char := []
  path : List Char := []
  query : Option (List Char) := none
  fragment : Option (List Char) := none

/-- The scheme before a colon, with what follows. An empty scheme is none. -/
def splitScheme (s : List Char) : List Char × List Char :=
  match s.span (fun c => c.isAlphanum || c == '+' || c == '.' || c == '-') with
  | ([], ':' :: after) => ([], after)
  | (first :: rest, ':' :: after) => if first.isAlpha then (first :: rest, after) else ([], s)
  | _ => ([], s)

/-- What stands before the first of some characters, with that and what follows. -/
def before (marks : List Char) (s : List Char) : List Char × List Char :=
  s.span fun c => !marks.contains c

/-- The parts of a text. -/
def Parts.ofText (s : List Char) : Parts :=
  let (scheme, rest) := splitScheme s
  let (place, rest) := match rest with
    | '/' :: '/' :: rest => before ['/', '?', '#'] rest
    | rest => ([], rest)
  let (path, rest) := before ['?', '#'] rest
  let (query, rest) := match rest with
    | '?' :: rest => let (query, rest) := before ['#'] rest; (some query, rest)
    | rest => (none, rest)
  let fragment := match rest with
    | '#' :: rest => some rest
    | _ => none
  { scheme, place, path, query, fragment }

/-- The control character of ASCII that a text holds first, with its position. -/
def control? (s : List Char) : Option (Char × Nat) :=
  (s.findIdx? fun c => c.toNat < 0x20 || c.toNat == 0x7F).bind fun position =>
    s[position]?.map fun c => (c, position)

/-- The fault of a part by its name. -/
def partFault? (part : String) (s : List Char) : Option AddressFault :=
  if maxLength < s.length then some (.partTooLong part)
  else (control? s).map fun (c, position) => .partControl part c position

/-- The fault of parts. -/
def Parts.fault? (p : Parts) : Option AddressFault :=
  (partFault? "scheme" p.scheme).or <| (partFault? "authority" p.place).or <|
    (partFault? "path" p.path).or <| (p.query.bind (partFault? "query")).or
      (p.fragment.bind (partFault? "fragment"))

/-- The user, the host and the port of a place. A host in brackets may hold colons. -/
def splitPlace (s : List Char) : List Char × List Char × List Char :=
  let reversed := s.reverse
  let afterUser := (reversed.takeWhile (· != '@')).reverse
  let user := s.take (s.length - afterUser.length - 1)
  let inBrackets := (afterUser.reverse.dropWhile (· != ']')).reverse
  let (host, port) :=
    if afterUser.head? == some '[' && !inBrackets.isEmpty then
      (inBrackets, afterUser.drop inBrackets.length)
    else afterUser.span (· != ':')
  (user, host, if port.head? == some ':' then port.drop 1 else port)

/-- The normal form of a host. -/
def hostOf (s : List Char) : Except AddressFault (List Char) :=
  if s.isEmpty then .ok []
  else if Numeric.looksShort s then
    if Numeric.isShort s then .ok s else .error (.shortHost (String.ofList s))
  else if Numeric.looksLong s then
    let number := (s.drop 1).dropLast
    if Numeric.isLong number then .ok number else .error (.longHost (String.ofList s))
  else if s.all (·.toNat < 0x80) then .ok (escaped isHostChar (s.map Char.toLower))
  else match Name.write (Text.lower (String.ofList s)).toList with
    | .ok name => .ok name
    | .error _ => .error (.hostName (String.ofList s))

/-- The port that a scheme usually has. -/
def usualPort? : String → Option Int
  | "ftp" => some 21
  | "http" | "ws" => some 80
  | "https" | "wss" => some 443
  | _ => none

/-- The port in a text, unless it is the usual one of the scheme as it is written. -/
def portOf (scheme : String) (text : List Char) : Except AddressFault (Option Int) :=
  if text.isEmpty then .ok none
  else match Number.readInteger (String.ofList text) with
    | .ok n => .ok (if usualPort? scheme == some n then none else some n)
    | .error _ => .error (.port (String.ofList text))

/-- The path without steps to the same or the upper directory. -/
def withoutSteps (path : List Char) : List Char :=
  let parts := Text.splitAt '/' path
  let kept := parts.foldl (fun kept part =>
    if part == ['.'] then kept
    else if part == ['.', '.'] then
      if kept.isEmpty || kept == [[]] then kept else kept.dropLast
    else kept ++ [part]) []
  ['/'].intercalate kept

/-- What is wrong with a path beside a scheme and a place. -/
def pathFault? (hasScheme hasPlace : Bool) (path : List Char) : Option AddressFault :=
  if hasPlace then
    if path.isEmpty || path.head? == some '/' then none else some .barePath
  else if hasScheme then none
  else if path.take 2 == ['/', '/'] then some .doubleSeparator
  else if path.head? == some ':' then some .colonFirst
  else none

/-- The address of some parts, with another host if one is given. -/
def ofParts (p : Parts) (host? : Option (List Char)) : Except AddressFault Address := do
  let (user, host, port) := splitPlace p.place
  let user := escaped isUserChar user
  let host ← hostOf (host?.getD host)
  let port ← portOf (String.ofList p.scheme) port
  let hasPlace := !user.isEmpty || !host.isEmpty || port.isSome
  if let some fault := pathFault? (!p.scheme.isEmpty) hasPlace p.path then throw fault
  let path := if p.scheme.isEmpty && !hasPlace then p.path else withoutSteps p.path
  return {
    scheme := String.ofList (p.scheme.map Char.toLower)
    user := String.ofList user
    host := String.ofList host
    port
    path := String.ofList (escaped isPathChar path)
    query := p.query.map fun s => String.ofList (escaped isQueryChar s)
    fragment := p.fragment.map fun s => String.ofList (escaped isFragmentChar s) }

/-- The address that a text writes. -/
def ofText (text : String) : Except AddressFault Address :=
  let s := text.toList
  if maxLength < s.length then .error .tooLong
  else match control? s with
    | some (c, position) => .error (.control c position)
    | none => ofParts (Parts.ofText s) none

/-! ### Texts -/

/-- The host as it stands in an address: in brackets if it holds colons. -/
def hostText (a : Address) : String :=
  if a.host.toList.contains ':' then "[" ++ a.host ++ "]" else a.host

/-- The host with its port. -/
def hostAndPort (a : Address) : String :=
  a.hostText ++ match a.port with
    | some n => ":" ++ toString n
    | none => ""

/-- The user, the host and the port. -/
def place (a : Address) : String :=
  (if a.user.isEmpty then "" else a.user ++ "@") ++ a.hostAndPort

/-- The text of an address. -/
def text (a : Address) : String :=
  (if a.scheme.isEmpty then "" else a.scheme ++ ":") ++
    (if a.place.isEmpty then "" else "//" ++ a.place) ++
    a.path ++ (a.query.map ("?" ++ ·)).getD "" ++ (a.fragment.map ("#" ++ ·)).getD ""

/-- The parts of an address. -/
def parts (a : Address) : Parts :=
  { scheme := a.scheme.toList, place := a.place.toList, path := a.path.toList
    query := a.query.map String.toList, fragment := a.fragment.map String.toList }

/-! ### Changed addresses -/

/-- An address from changed parts. -/
def ofChanged (p : Parts) (host? : Option (List Char)) : Except AddressFault Address :=
  match p.fault?.or (host?.bind (partFault? "host")) with
  | some fault => .error fault
  | none => ofParts p host?

/-- The address with another host. -/
def withHost (a : Address) (host : List Char) : Except AddressFault Address :=
  ofChanged a.parts (some (if host.contains ':' then '[' :: host ++ [']'] else host))

/-- The address with another fragment. -/
def withFragment (a : Address) (fragment : List Char) : Except AddressFault Address :=
  ofChanged { a.parts with fragment := some fragment } none

/-- Only the path and the query of an address, from the root on. -/
def fromRoot (a : Address) : Except AddressFault Address :=
  ofChanged
    { path := '/' :: a.path.toList.dropWhile (· == '/'), query := a.query.map String.toList } none

/-! ### What an address says -/

/-- The address names its host outright. -/
def isComplete (a : Address) : Bool :=
  !a.scheme.isEmpty && !a.host.isEmpty

/-- The host by its name in any script. -/
def shownHost (a : Address) : Except NameFault (List Char) :=
  if Name.mark.isPrefixOf a.host.toList then Name.read a.host.toList else .ok a.host.toList

/-- The user and the password, unless there is neither. -/
def credentials? (a : Address) : Option (List Char × List Char) :=
  let (user, password) := a.user.toList.span (· != ':')
  let (user, password) := (unescaped user, unescaped (password.drop 1))
  if user.isEmpty && password.isEmpty then none else some (user, password)

/-- The fragment by the text that it stands for. -/
def shownFragment (a : Address) : List Char :=
  unescaped (a.fragment.getD "").toList

/-- The port that the address leads to, where the scheme says it. -/
def effectivePort (a : Address) : Option Int :=
  a.port.or (if a.scheme == "http" || a.scheme == "https" then usualPort? a.scheme else none)

end Address

end Verdict.Network
