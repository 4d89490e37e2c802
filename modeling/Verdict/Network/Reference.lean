import Verdict.Network.Address

/-!
# Network: references

A reference may leave out parts of an address, which then are those of the address at which it is met.
How far this goes depends on the scheme.
-/

namespace Verdict.Network

/-- The parts of a reference. An empty part counts as none. -/
structure Reference where
  scheme : List Char
  place : List Char
  path : List Char
  /-- What follows a semicolon in the last part of the path. -/
  parameters : List Char
  query : List Char
  fragment : List Char

namespace Reference

/-- Schemes whose references may be relative. -/
def relativeSchemes : List String :=
  ["", "ftp", "http", "gopher", "nntp", "imap", "wais", "file", "https", "shttp", "mms", "prospero",
   "rtsp", "rtsps", "rtspu", "sftp", "svn", "svn+ssh", "ws", "wss"]

/-- Schemes whose addresses have a place. -/
def placedSchemes : List String :=
  ["", "ftp", "http", "gopher", "nntp", "telnet", "imap", "wais", "file", "mms", "https", "shttp",
   "snews", "prospero", "rtsp", "rtsps", "rtspu", "rsync", "svn", "svn+ssh", "sftp", "nfs", "git",
   "git+ssh", "ws", "wss"]

/-- Schemes whose paths may have parameters. -/
def parameterSchemes : List String :=
  ["", "ftp", "hdl", "prospero", "http", "imap", "https", "shttp", "rtsp", "rtsps", "rtspu", "sip",
   "sips", "mms", "sftp", "tel"]

/-- The scheme is one of some. -/
def isAmong (schemes : List String) (scheme : List Char) : Bool :=
  schemes.contains (String.ofList scheme)

/-- A path without its parameters, and these. -/
def splitParameters (path : List Char) : List Char × List Char :=
  let last := (path.reverse.takeWhile (· != '/')).reverse
  let directory := path.take (path.length - last.length)
  let (name, parameters) := last.span (· != ';')
  (directory ++ name, parameters.drop 1)

/-- The reference that a text writes, with a scheme where it has none. -/
def ofText (usual : List Char) (s : List Char) : Reference :=
  let p := Address.Parts.ofText s
  let scheme := if p.scheme.isEmpty then usual else p.scheme.map Char.toLower
  let (path, parameters) :=
    if isAmong parameterSchemes scheme then splitParameters p.path else (p.path, [])
  { scheme, place := p.place, path, parameters
    query := p.query.getD [], fragment := p.fragment.getD [] }

/-- The text of a reference. -/
def text (r : Reference) : List Char :=
  let path := if r.parameters.isEmpty then r.path else r.path ++ ';' :: r.parameters
  let hasPlace := !r.place.isEmpty ||
    (!r.scheme.isEmpty && isAmong placedSchemes r.scheme && path.take 2 != ['/', '/'])
  let path :=
    if hasPlace then
      '/' :: '/' :: r.place ++ (if path.isEmpty || path.head? == some '/' then path else '/' :: path)
    else path
  (if r.scheme.isEmpty then [] else r.scheme ++ [':']) ++ path ++
    (if r.query.isEmpty then [] else '?' :: r.query) ++
    (if r.fragment.isEmpty then [] else '#' :: r.fragment)

/-- The parts of a path that is met at another one; those of the directory of the other one come
first. Empty parts in between are left out. -/
def joinedParts (base path : List Char) : List (List Char) :=
  if path.head? == some '/' then Text.splitAt '/' path
  else
    let parts := Text.splitAt '/' base
    let directory := if parts.getLast? == some [] then parts else parts.dropLast
    let all := directory ++ Text.splitAt '/' path
    match all with
    | first :: rest => first :: rest.dropLast.filter (!·.isEmpty) ++ rest.getLast?.toList
    | [] => []

/-- The path that is met at another one, without steps to the same or the upper directory. -/
def joinedPath (base path : List Char) : List Char :=
  let parts := joinedParts base path
  let kept := parts.foldl (fun kept part =>
    if part == ['.', '.'] then kept.dropLast else if part == ['.'] then kept else kept ++ [part]) []
  let isStep := parts.getLast? == some ['.'] || parts.getLast? == some ['.', '.']
  let path := ['/'].intercalate (if isStep then kept ++ [[]] else kept)
  if path.isEmpty then ['/'] else path

/-- What a reference stands for where it is met. -/
def follow (base r : Reference) : Reference :=
  if !r.place.isEmpty then r
  else if r.path.isEmpty && r.parameters.isEmpty then
    { r with
      place := base.place
      path := base.path
      parameters := base.parameters
      query := if r.query.isEmpty then base.query else r.query }
  else { r with place := base.place, path := joinedPath base.path r.path }

/-- The text of the address to which a reference leads from another one. -/
def resolve (base s : List Char) : List Char :=
  if base.isEmpty then s
  else if s.isEmpty then base
  else
    let b := ofText [] base
    let r := ofText b.scheme s
    if r.scheme != b.scheme || !isAmong relativeSchemes r.scheme then s else (b.follow r).text

end Reference

/-- The address to which a reference leads from an address. -/
def Address.follow (base reference : Address) : Except AddressFault Address :=
  Address.ofText (String.ofList (Reference.resolve base.text.toList reference.text.toList))

end Verdict.Network
