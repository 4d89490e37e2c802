import Verdict.Config.Basic
import Verdict.Json.Encoding
import Verdict.Json.Reader
import Verdict.Network.Exchange
import Verdict.Project

/-!
# Fixtures

A fixture is a project that is loaded from a place: a directory, a bundle in a file, or a bundle on
the network. Loading gives the project or a fault, and on the way warnings and requests.
-/

namespace Verdict.Fixture

/-- Why no fixture is loaded. -/
inductive Fault where
  | unknown (location : String) (tried directory : File.Path)
  | unreadable (path : File.Path) (fault : File.Fault)
  | notJson (location : String) (text : List Char) (fault : Json.Fault)
  | notDecoded (location : String) (message : String)
  | notBundle (location : String)
  | refused (location : String) (status : Int)
  | unreachable (location : String) (text : String)
  /-- The bytes of a file are no text. -/
  | undecodable (fault : Text.ByteFault)
  /-- A text in JSON has too much of something. -/
  | excessive (excess : Json.Excess)
  | host (fault : HostFault)
  | files (path : File.Path) (fault : File.Fault)
  | address (fault : Network.AddressFault)
  /-- The network never answers. -/
  | silent

/-- The wording of a fault. -/
def Fault.message : Fault → String
  | .unknown location tried directory =>
    "Unknown fixture: " ++ location ++ " (searched " ++ tried.text ++ " and " ++ directory.text ++ ")"
  | .unreadable path fault => "Cannot read fixture bundle: " ++ fault.message path.text
  | .notJson _ text fault => "Invalid fixture bundle JSON: " ++ fault.message text
  | .notDecoded _ message => "Invalid fixture bundle JSON: " ++ message
  | .notBundle _ => "Fixture bundle must be an object with a 'files' mapping"
  | .refused _ status => "Fixture download failed with HTTP " ++ toString status
  | .unreachable _ text => "Fixture download failed: " ++ text
  | .undecodable fault => fault.message
  | .excessive excess => excess.message
  | .host fault => fault.message
  | .files path fault => fault.message path.text
  | .address fault => fault.message
  | .silent => ""

/-- The fault concerns a fixture. The others are not foreseen. -/
def Fault.isForeseen : Fault → Bool
  | .unknown .. | .unreadable .. | .notJson .. | .notDecoded .. | .notBundle _ | .refused ..
  | .unreachable .. => true
  | .undecodable _ | .excessive _ | .host _ | .files .. | .address _ | .silent => false

/-- The place that a fault concerns. -/
def Fault.location? : Fault → Option String
  | .unknown location _ _ => some location
  | .unreadable path _ => some path.text
  | .notJson location _ _ => some location
  | .notDecoded location _ => some location
  | .notBundle location => some location
  | .refused location _ => some location
  | .unreachable location _ => some location
  | _ => none

/-- What loading leads to: an outcome, and on the way warnings and requests. -/
structure Loading where
  outcome : Except Fault Project
  warnings : List String := []
  requests : List Network.Request := []

/-- A loading that fails at once. -/
def Loading.failed (fault : Fault) : Loading := { outcome := .error fault }

/-- The manifest in a text: the mapping that it holds in JSON. A text that is not JSON is warned of,
and anything but a mapping counts as an empty one. -/
def manifestOf (fileName content : String) :
    Except Json.Excess (Table String Value × List String) :=
  if content.isEmpty then .ok ([], [])
  else
    let text := content.toList
    match Json.read text with
    | .ok (.mapping pairs) => .ok (pairs.map fun (k, v) => (k.fieldName, v), [])
    | .ok _ => .ok ([], [])
    | .error (.excessive excess) => .error excess
    | .error fault => .ok ([], ["Invalid manifest " ++ fileName ++ ": " ++ fault.message text])

/-- The project of files and of the manifest among them. -/
def assemble (settings : FixtureSettings) (name : String) (files : Table String String)
    (warnings : List String) : Loading :=
  match manifestOf settings.manifestFile ((files.get? settings.manifestFile).getD "") with
  | .ok (manifest, more) =>
    { outcome := .ok (.ofFiles files manifest name), warnings := warnings ++ more }
  | .error excess => { outcome := .error (.excessive excess), warnings }

end Verdict.Fixture
