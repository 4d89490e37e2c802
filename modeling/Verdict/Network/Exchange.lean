import Verdict.Network.Cookie
import Verdict.Network.Headers
import Verdict.Packing.Stream
import Verdict.Text.Base64
import Verdict.Text.CharacterSet
import Verdict.Text.Search

/-!
# Network: exchanges

Requests for resources and the answers to them. What the network answers is a table of addresses. A
redirection is followed, up to a limit: another place is not told who is asking, and cookies go with
the requests that they are for.
-/

namespace Verdict.Network

/-! ## Codings

How the body of an answer is packed. Several codings are undone from the last one to the first.
-/

/-- The known ways in which a body is packed. -/
inductive Coding where
  | gzip
  | deflate

/-- The coding of a name. A name that is not known stands for none. -/
def Coding.ofName? : String → Option Coding
  | "gzip" => some .gzip
  | "deflate" => some .deflate
  | _ => none

/-- The bytes that were packed. The short form of streams may lack its header and its checksum. -/
def Coding.undo : Coding → List UInt8 → Except Packing.Fault (List UInt8)
  | .gzip, bytes => Packing.unpackStream .long bytes
  | .deflate, bytes =>
    match Packing.unpackStream .short bytes with
    | .ok unpacked => .ok unpacked
    | .error _ => Packing.unpackStream .plain bytes

/-- The codings that headers name. -/
def codingsOf (headers : Headers) : List Coding :=
  ((headers.texts "content-encoding").flatMap fun s => Text.splitAt ',' s.toList).filterMap fun name =>
    Coding.ofName? ((String.ofList (Text.trimBy Text.isBlank name)).toLower)

/-- A body as it was before it was packed. -/
def unpackedBody (headers : Headers) (body : List UInt8) : Except Packing.Fault (List UInt8) :=
  (codingsOf headers).reverse.foldlM (fun body coding => coding.undo body) body

/-! ## Exchanges -/

/-- What happens to a request. -/
inductive Reply where
  | answer (status : Int) (headers : Headers) (body : List UInt8)
  | failed (text : String)
  /-- The answer never comes. -/
  | silent

/-- The answers of a network: by address, and for any other address. -/
structure Answers where
  replies : Table String Reply := []
  otherwise : Reply := .answer 404 [] []
  /-- The moment of all answers, in seconds from the beginning of 1970. -/
  moment : Int := 0

/-- The answer to a request for an address. -/
def Answers.reply (answers : Answers) (address : String) : Reply :=
  (answers.replies.get? address).getD answers.otherwise

/-- A request as it is sent. -/
structure Request where
  address : String
  headers : Headers

/-- Why no answer is had. -/
inductive Fault where
  | status (code : Int)
  | failed (text : String)
  | address (fault : AddressFault)
  | header (text : String)
  | hostName (fault : NameFault)
  /-- The address has no scheme. -/
  | unknownKind (address : String)
  | silent

/-- The most redirections that are followed. -/
def maxRedirections : Nat := 20

/-- The status asks to look elsewhere. -/
def isRedirection (status : Int) : Bool :=
  [301, 302, 303, 307, 308].contains status

/-! ### Places -/

/-- Two addresses lead to one place. The names of their hosts are given. -/
def samePlace (a b : Address) (hostA hostB : List Char) : Bool :=
  a.scheme == b.scheme && hostA == hostB && a.effectivePort == b.effectivePort

/-- The second address is the first one over the secure scheme. -/
def isUpgrade (a b : Address) (hostA hostB : List Char) : Bool :=
  hostA == hostB && a.scheme == "http" && a.effectivePort == some 80 && b.scheme == "https" &&
    b.effectivePort == some 443

/-- The names of the hosts of two addresses. -/
def hostNames (source target : Address) : Except Fault (List Char × List Char) := do
  let shown (a : Address) := a.shownHost.mapError Fault.hostName
  if source.scheme == target.scheme then
    let b ← shown target
    return (← shown source, b)
  else return (← shown source, ← shown target)

/-- The headers of a request after a redirection: another place is not told who is asking. -/
def headersAfter (headers : Headers) (source target : Address) : Except Fault Headers := do
  let (hostA, hostB) ← hostNames source target
  let headers :=
    if samePlace source target hostA hostB then headers
    else
      let trusted :=
        if isUpgrade source target hostA hostB then headers else headers.without "Authorization"
      trusted.set "Host" target.hostAndPort
  return headers.without "Cookie"

/-- The address that a redirection leads to. -/
def targetOf (source : Address) (location : String) : Except Fault Address := do
  let shown (a : Address) := a.shownHost.mapError Fault.hostName
  let reference ← (Address.ofText location).mapError fun fault =>
    .failed ("Invalid URL in location header: " ++ fault.message ++ ".")
  let lacksHost ← if reference.scheme.isEmpty then pure false else List.isEmpty <$> shown reference
  let target ←
    if lacksHost then do (reference.withHost (← shown source)).mapError .address
    else pure reference
  let target ←
    if target.isComplete then pure target else (source.follow target).mapError .address
  if !source.shownFragment.isEmpty && target.shownFragment.isEmpty then
    (target.withFragment source.shownFragment).mapError .address
  else return target

/-! ### Requests -/

/-- The fault of a request for an address without a kind: a text before a colon. -/
def kindFault? (address : Address) : Option Fault :=
  let resource := { address with fragment := none }
  match resource.text.toList.span (fun c => c != ':' && c != '/') with
  | (_ :: _, ':' :: _) => none
  | _ => some (.unknownKind (if address.fragment == some "" then resource.text else address.text))

/-- Headers with the host of an address, unless they name one. -/
def withHost (headers : Headers) (address : Address) : Except Fault Headers :=
  if !(headers.texts "Host").isEmpty then .ok headers
  else match asciiFault? address.hostAndPort with
    | some fault => .error (.header fault)
    | none => .ok (("Host", address.hostAndPort) :: headers)

/-- Headers that say who asks, where the address says it. -/
def withUser (headers : Headers) (address : Address) : Headers :=
  match address.credentials? with
  | some (user, password) =>
    let text := String.ofList user ++ ":" ++ String.ofList password
    headers.set "Authorization" ("Basic " ++ String.ofList (Text.toBase64 (Text.toBytes text)))
  | none => headers

/-- The headers of a request with the cookies that are for it. -/
def withCookies (jar : CookieJar) (address : Address) (headers : Headers) : Except Fault Headers :=
  if jar.all.isEmpty then .ok headers
  else match kindFault? address with
    | some fault => .error fault
    | none =>
      match jar.textFor? (.ofAddress address) with
      | some text => .ok (headers.set "Cookie" text)
      | none => .ok headers

/-- What is received for a request: a status, headers and the body as it was before it was packed; and
the cookies after that. -/
def receive (answers : Answers) (jar : CookieJar) (address : Address) :
    Except Fault (Int × Headers × List UInt8 × CookieJar) := do
  match answers.reply address.text with
  | .silent => throw .silent
  | .failed text => throw (.failed text)
  | .answer status headers body =>
    if let some text := headers.fault? then throw (.header text)
    let body ← (unpackedBody headers body).mapError fun fault => .failed fault.message
    if let some fault := kindFault? address then throw fault
    return (status, headers, body, jar.keep answers.moment (.ofAddress address) headers)

/-- The next request after a redirection. -/
def redirected (jar : CookieJar) (headers : Headers) (address : Address) (location : String) :
    Except Fault (Address × Headers) := do
  let target ← targetOf address location
  let headers ← headersAfter headers address target
  return (target, ← withCookies jar target headers)

/-- Sends a request and follows redirections. The requests are given in the order in which they are
sent. -/
def fetchFrom (answers : Answers) (jar : CookieJar) (headers : Headers) (address : Address) :
    Nat → List Request × Except Fault (List UInt8)
  | 0 => ([], .error (.failed "Exceeded maximum allowed redirects."))
  | fuel + 1 =>
    let sent : Request := ⟨address.text, headers⟩
    match receive answers jar address with
    | .error fault => ([sent], .error fault)
    | .ok (status, replied, body, jar) =>
      match if isRedirection status then replied.text? "location" else none with
      | some location =>
        match redirected jar headers address location with
        | .error fault => ([sent], .error fault)
        | .ok (target, headers) =>
          let (further, outcome) := fetchFrom answers jar headers target fuel
          (sent :: further, outcome)
      | none =>
        ([sent], if 200 ≤ status && status ≤ 299 then .ok body else .error (.status status))

/-- The address of a first request: one that names no host is taken from the root on. -/
def firstAddress (text : String) : Except AddressFault Address := do
  let address ← Address.ofText text
  if address.isComplete then return address else address.fromRoot

/-- Asks for the resource at an address. -/
def fetch (answers : Answers) (headers : Headers) (text : String) :
    List Request × Except Fault (List UInt8) :=
  match headers.fault? with
  | some fault => ([], .error (.header fault))
  | none =>
    match firstAddress text with
    | .error fault => ([], .error (.address fault))
    | .ok address =>
      match withHost headers address with
      | .error fault => ([], .error fault)
      | .ok headers =>
        fetchFrom answers [] (withUser headers address) address (maxRedirections + 1)

end Verdict.Network
