import Verdict.Network.Expiry
import Verdict.Network.Headers
import Verdict.Network.Reference

/-!
# Network: cookies

Names with values that an answer asks to send with later requests: to the hosts of a domain, below a
path, and as long as they have not expired. Cookies are kept by domain, path and name, each in the
order in which it came.
-/

namespace Verdict.Network

/-- A cookie. -/
structure Cookie where
  name : String
  value : Option String
  version : Int
  domain : List Char
  /-- The domain was named by the answer. -/
  namesDomain : Bool
  path : List Char
  /-- The ports to which the cookie is sent; any if there are none. -/
  ports : Option (List Char)
  /-- The ports were named by the answer. -/
  namesPorts : Bool
  secure : Bool

/-- Cookies by domain, path and name. -/
abbrev CookieJar := Table (List Char) (Table (List Char) (Table String Cookie))

/-! ### The place of a request -/

/-- What cookies look at in the address of a request. -/
structure CookiePlace where
  scheme : List Char
  /-- The host in small letters, without its port. -/
  host : List Char
  path : List Char
  port : Option (List Char)

namespace CookiePlace

/-- A text without the digits that follow a sign at its end, if they do. -/
def withoutNumber (mark : Char) (s : List Char) : Option (List Char) :=
  let reversed := s.reverse
  match reversed.takeWhile Char.isDigit, reversed.dropWhile Char.isDigit with
  | _ :: _, c :: rest => if c == mark then some rest.reverse else none
  | _, _ => none

/-- A character that stands for itself in the path of a cookie. -/
def isPathChar (c : Char) : Bool :=
  c.isAlphanum || "_.-~%/;:@&=+$,!*'()".toList.contains c

/-- Escapes with capital digits. -/
def withCapitals : List Char → List Char
  | '%' :: a :: b :: rest =>
    if Text.isHexadecimal a && Text.isHexadecimal b then
      '%' :: a.toUpper :: b.toUpper :: withCapitals rest
    else '%' :: withCapitals (a :: b :: rest)
  | c :: rest => c :: withCapitals rest
  | [] => []

/-- A path as cookies compare it. -/
def comparable (path : List Char) : List Char :=
  withCapitals (escaped isPathChar path)

/-- The port that a place names: none where it is no number. -/
def portOf (place : List Char) : Option (List Char) :=
  match Numeric.splitFirst ':' place with
  | (_, some port) =>
    match Number.readInteger (String.ofList port) with
    | .ok _ => some port
    | .error _ => none
  | (_, none) => some "80".toList

/-- The place of the request for an address. -/
def ofAddress (a : Address) : CookiePlace :=
  let r := Reference.ofText [] a.text.toList
  let p := Address.Parts.ofText a.text.toList
  let path := comparable p.path
  { scheme := r.scheme
    host := ((withoutNumber ':' r.place).getD r.place).map Char.toLower
    path := if path.head? == some '/' then path else '/' :: path
    port := portOf (unescaped r.place) }

/-- The host with a domain: one without points is local. -/
def fullHost (p : CookiePlace) : List Char :=
  if p.host.contains '.' then p.host else p.host ++ ".local".toList

end CookiePlace

/-! ### Reading cookies -/

/-- A part of a header: a name, and a text after an equals sign if there is one. -/
structure Attribute where
  name : String
  text : Option (List Char)

/-- The attributes that have a meaning in any case of their letters. -/
def knownAttributes : List String :=
  ["version", "expires", "max-age", "domain", "path", "port", "comment", "commenturl", "discard",
   "secure"]

/-- The attributes that may lack a text. -/
def bareAttributes : List String := ["port", "comment", "commenturl", "discard", "secure"]

/-- The attributes of a header. Nothing is read if the first one has no name. -/
def attributesOf (header : String) : List Attribute :=
  let parts := (Text.splitAt ';' header.toList).map fun part =>
    let (name, text) := Numeric.splitFirst '=' (Text.trimBy Text.isBlank part)
    Attribute.mk (String.ofList (Text.trimBy Text.isBlank name))
      (text.map (Text.trimBy Text.isBlank))
  match parts with
  | first :: rest =>
    if first.name.isEmpty then []
    else first :: (rest.filter (!·.name.isEmpty)).map fun a =>
      if knownAttributes.contains a.name.toLower then { a with name := a.name.toLower } else a
  | [] => []

/-- A text without quotation marks at its ends. -/
def withoutQuotes (s : List Char) : List Char :=
  let s := if s.head? == some '"' then s.drop 1 else s
  if s.getLast? == some '"' then s.dropLast else s

/-- The attribute names an unknown month in an otherwise strict moment. -/
def namesUnknownMonth (now : Int) (a : Attribute) : Bool :=
  a.name == "expires" && a.text.any fun text =>
    match Expiry.read now (withoutQuotes text) with
    | .unknownMonth => true
    | _ => false

/-- What a header says of a cookie. -/
structure Draft where
  name : String
  value : Option (List Char)
  texts : Table String (Option (List Char)) := []
  expiry : Option Int := none

/-- What one attribute does to a draft: it makes it better, or spoils it, or spoils all drafts. -/
inductive Step where
  | next (d : Draft)
  | spoiled
  | allSpoiled

/-- The step of an attribute at a moment. Of an attribute that is repeated the first one counts; an age
counts more than a moment. -/
def Draft.step (now : Int) (d : Draft) (a : Attribute) : Step :=
  if a.name == "expires" then
    match a.text with
    | none => .next d
    | some text =>
      match Expiry.read now (withoutQuotes text) with
      | .seconds n => .next (if d.expiry.isSome then d else { d with expiry := some n })
      | _ => .next d
  else if a.name == "max-age" then
    match a.text with
    | none => .allSpoiled
    | some text =>
      match Number.readInteger (String.ofList text) with
      | .ok n => .next { d with expiry := some (now + n) }
      | .error _ => .spoiled
  else if d.texts.has a.name || !knownAttributes.contains a.name then .next d
  else if a.text.isNone && !bareAttributes.contains a.name then .spoiled
  else .next { d with texts := d.texts.insert a.name a.text }

/-- A draft with the steps of attributes; nothing if it is spoiled, and a failure if all drafts are. -/
def Draft.steps (now : Int) (d : Draft) : List Attribute → Except Unit (Option Draft)
  | [] => .ok (some d)
  | a :: rest =>
    match d.step now a with
    | .next d => d.steps now rest
    | .spoiled => .ok none
    | .allSpoiled => .error ()

/-- The draft of attributes, of which the first one names the cookie. -/
def draftOf (now : Int) : List Attribute → Except Unit (Option Draft)
  | [] => .ok none
  | first :: rest => Draft.steps now { name := first.name, value := first.text } rest

/-- The drafts of headers; none at all if one of them spoils all. -/
def draftsOf (now : Int) (headers : List String) : List Draft :=
  let all := headers.map attributesOf
  if all.any (fun attributes => (attributes.drop 1).any (namesUnknownMonth now)) then []
  else match all.mapM (draftOf now) with
    | .ok drafts => drafts.filterMap id
    | .error () => []

/-- The text of an attribute, if the attribute is there and has one. -/
def Draft.text? (d : Draft) (name : String) : Option (List Char) :=
  (d.texts.get? name).bind id

/-- The usual path of a cookie: the directory of the request. -/
def usualPath (version : Int) (path : List Char) : List Char :=
  let directory := (path.reverse.dropWhile (· != '/')).reverse
  let directory := if version == 0 then directory.dropLast else directory
  if directory.isEmpty then ['/'] else directory

/-- The version of a draft, unless it is no number. -/
def Draft.version? (d : Draft) : Option Int :=
  match d.text? "version" with
  | none => some 0
  | some text => (Number.readInteger (String.ofList (withoutQuotes text))).toOption

/-- The domain of a draft. -/
def Draft.domain (d : Draft) (p : CookiePlace) : List Char :=
  match (d.text? "domain").map (·.map Char.toLower) with
  | none => p.fullHost
  | some domain => if domain.head? == some '.' then domain else '.' :: domain

/-- The cookie of a draft for a request. -/
def Draft.cookie? (d : Draft) (p : CookiePlace) : Option Cookie :=
  d.version?.map fun version =>
    let ports := d.text? "port"
    { name := d.name
      value := d.value.map String.ofList
      version := if version == 1 then 0 else version
      domain := d.domain p
      namesDomain := (d.text? "domain").isSome
      path :=
        match d.text? "path" with
        | none | some [] => usualPath version p.path
        | some path => CookiePlace.comparable path
      ports :=
        match ports with
        | some ports => some (ports.filter (!Text.isBlank ·))
        | none => if d.texts.has "port" then p.port else none
      namesPorts := ports.isSome
      secure :=
        match d.texts.get? "secure" with
        | none => false
        | some none => true
        | some (some text) => !text.isEmpty }

/-! ### Keeping cookies -/

/-- One text ends with another. -/
def endsWith (s ending : List Char) : Bool :=
  ending.isSuffixOf s

/-- The host of the request may ask for the domain of the cookie. -/
def Cookie.fitsDomain (c : Cookie) (p : CookiePlace) : Bool :=
  if !c.namesDomain then true
  else
    let host := p.fullHost
    let bare := if c.domain.head? == some '.' then c.domain.drop 1 else c.domain
    if !bare.contains '.' && !endsWith host ".local".toList then false
    else if c.version != 0 then true
    else
      endsWith host c.domain || endsWith host (bare ++ ".local".toList) ||
        host.head? == some '.' || endsWith ('.' :: host) c.domain

/-- The port of the request is among those that the cookie names. -/
def Cookie.fitsPorts (c : Cookie) (p : CookiePlace) : Bool :=
  if !c.namesPorts then true
  else
    let port := p.port.getD "80".toList
    let named := Text.splitAt ',' (c.ports.getD [])
    let passed := named.takeWhile (· != port)
    passed.all (fun s => (Number.readInteger (String.ofList s)).toOption.isSome) &&
      passed.length < named.length

/-- The cookie may be kept. -/
def Cookie.isAcceptable (c : Cookie) (p : CookiePlace) : Bool :=
  c.version ≤ 0 && c.fitsDomain p && c.fitsPorts p

namespace CookieJar

/-- The cookies of a domain and a path. -/
def shelf (jar : CookieJar) (domain path : List Char) : Table String Cookie :=
  let paths : Table (List Char) (Table String Cookie) := (Table.get? jar domain).getD []
  (Table.get? paths path).getD []

/-- The jar with the cookies of a domain and a path replaced. -/
def setShelf (jar : CookieJar) (domain path : List Char) (cookies : Table String Cookie) :
    CookieJar :=
  let paths : Table (List Char) (Table String Cookie) := (Table.get? jar domain).getD []
  Table.insert jar domain (Table.insert paths path cookies)

/-- The jar with a cookie put in. -/
def put (jar : CookieJar) (c : Cookie) : CookieJar :=
  jar.setShelf c.domain c.path (Table.insert (jar.shelf c.domain c.path) c.name c)

/-- The jar without a cookie. -/
def take (jar : CookieJar) (domain path : List Char) (name : String) : CookieJar :=
  let cookies := jar.shelf domain path
  if Table.has cookies name then jar.setShelf domain path (Table.erase cookies name) else jar

/-- The moment is so late that no floating-point number is near it. -/
def isBeyond (moment : Int) : Bool :=
  0 < moment && !(Number.Binary64.ofInt moment).isFinite

/-- The jar after the cookies of an answer, which is given at a moment. A cookie that has expired is
taken out, before any is put in. One that expires too late spoils all that are to be put in, and what
comes after it is not read. -/
def keep (jar : CookieJar) (now : Int) (p : CookiePlace) (headers : Headers) : CookieJar :=
  let found := (draftsOf now (headers.texts "set-cookie")).filterMap fun d =>
    (d.cookie? p).map fun c => (c, d.expiry)
  let sound := found.takeWhile (!·.2.any isBeyond)
  let expired := (sound.filter (·.2.any (· ≤ now))).map (·.1)
  let fresh :=
    if sound.length < found.length then []
    else (sound.filter (!·.2.any (· ≤ now))).map (·.1)
  (fresh.filter (·.isAcceptable p)).foldl put
    (expired.foldl (fun jar c => jar.take c.domain c.path c.name) jar)

/-- All cookies of a jar. -/
def all (jar : CookieJar) : List Cookie :=
  (Table.entries jar).flatMap fun paths => (Table.entries paths).flatMap Table.entries

end CookieJar

/-! ### Sending cookies -/

/-- The domain with a point before it. -/
def pointed (domain : List Char) : List Char :=
  if domain.isEmpty || domain.head? == some '.' then domain else '.' :: domain

/-- A path lies at a path or below it. -/
def isBelow (path top : List Char) : Bool :=
  path == top || (top.isPrefixOf path &&
    (top.getLast? == some '/' || path[top.length]? == some '/'))

/-- The cookie goes with the request. -/
def Cookie.isFor (c : Cookie) (p : CookiePlace) : Bool :=
  let domain := pointed c.domain
  let hosts := endsWith (pointed p.host) domain || endsWith (pointed p.fullHost) domain
  hosts && isBelow p.path c.path &&
    (!c.secure || p.scheme == "https".toList || p.scheme == "wss".toList) &&
    (c.version != 0 || endsWith ('.' :: p.fullHost) domain) &&
    (c.ports.all fun ports =>
      ports.isEmpty || (Text.splitAt ',' ports).contains (p.port.getD "80".toList))

/-- A cookie as it is sent. -/
def Cookie.text (c : Cookie) : String :=
  match c.value with
  | some value => c.name ++ "=" ++ value
  | none => c.name

/-- The cookies that go with a request, those of longer paths first. -/
def CookieJar.textFor? (jar : CookieJar) (p : CookiePlace) : Option String :=
  let sent := (jar.all.filter (·.isFor p)).mergeSort fun a b => b.path.length ≤ a.path.length
  if sent.isEmpty then none else some ("; ".intercalate (sent.map Cookie.text))

end Verdict.Network
