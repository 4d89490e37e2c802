import Verdict.Fixture.Basic

/-!
# Fixtures: bundles

A bundle is a mapping with the files of a project under `files`: each by its path, with its content
as a text or in a mapping under `content`. It may name the project and hold the manifest.
-/

namespace Verdict.Fixture

/-- The content in an entry of a bundle. -/
def contentOf? : Value → Option String
  | .text content => some content
  | v => (v.field? "content").bind Value.text?

/-- The files of a bundle, and warnings about entries without content. -/
def filesOf : List (Atom × Value) → Table String String × List String
  | [] => ([], [])
  | (key, entry) :: rest =>
    let (files, warnings) := filesOf rest
    let path := key.fieldName
    match contentOf? entry with
    | some content => ((path, content) :: files, warnings)
    | none => (files, ("Skipping bundle entry without content: " ++ path) :: warnings)

/-- The manifest that a bundle holds, if it is a mapping. -/
def heldManifest? (data : Value) : Option (Table String Value) :=
  match (data.field? "packageJson").or (data.field? "manifest") with
  | some (.mapping pairs) => some (pairs.map fun (k, v) => (k.fieldName, v))
  | _ => none

/-- The project of a bundle from a place. -/
def unpack (settings : FixtureSettings) (usualName location : String) (data : Value) : Loading :=
  match data.field? "files" with
  | some (.mapping pairs) =>
    let (files, warnings) := filesOf pairs
    let name := ((data.field? "name").bind Value.text?).getD usualName
    match heldManifest? data with
    | some manifest => { outcome := .ok (.ofFiles files manifest name), warnings }
    | none => assemble settings name files warnings
  | _ => .failed (.notBundle location)

/-- The project of the bundle in a file. -/
def loadBundle (fs : File.System) (settings : FixtureSettings) (path : File.Path) : Loading :=
  match fs.read path with
  | .error fault => .failed (.unreadable path fault)
  | .ok bytes =>
    match Text.ofBytes bytes with
    | .error fault => .failed (.undecodable fault)
    | .ok content =>
      match Json.read content.toList with
      | .ok data => unpack settings path.stem path.text data
      | .error (.excessive excess) => .failed (.excessive excess)
      | .error fault => .failed (.notJson path.text content.toList fault)

/-- A text without an ending. -/
def withoutEnding (ending s : List Char) : List Char :=
  if ending.isSuffixOf s then s.take (s.length - ending.length) else s

/-- The usual name of a bundle at an address: the last part, without the ending for JSON. -/
def nameAtAddress (address : String) : String :=
  let trimmed := (address.toList.reverse.dropWhile (· == '/'))
  let last := (trimmed.takeWhile (· != '/')).reverse
  let name := withoutEnding ".json".toList last
  if name.isEmpty then "remote" else String.ofList name

/-- The project of the bundle at an address. -/
def loadRemote (answers : Network.Answers) (settings : FixtureSettings) (address : String) :
    Loading :=
  let (requests, fetched) := Network.fetch answers settings.headers address
  let loading : Loading :=
    match fetched with
    | .error (.status code) => .failed (.refused address code)
    | .error (.failed text) => .failed (.unreachable address text)
    | .error (.address fault) => .failed (.address fault)
    | .error (.header text) => .failed (.notDecoded address text)
    | .error (.hostName fault) => .failed (.notDecoded address fault.message)
    | .error (.unknownKind text) =>
      .failed (.notDecoded address ("unknown url type: " ++ Text.quoted text))
    | .error .silent => .failed .silent
    | .ok body =>
      match Json.charsOf body with
      | .error fault => .failed (.notDecoded address fault.message)
      | .ok text =>
        match Json.readText text with
        | .ok data => unpack settings (nameAtAddress address) address data
        | .error (.excessive (.digits fault)) => .failed (.notDecoded address fault.message)
        | .error (.excessive excess) => .failed (.excessive excess)
        | .error fault => .failed (.notJson address text fault)
  { loading with requests }

end Verdict.Fixture
