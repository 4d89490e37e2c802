import Verdict.Host
import Verdict.Yaml.Content

/-!
# Documents

Files that hold a mapping in YAML, of which JSON is a part: configurations and rules. An empty file
holds the empty mapping.
-/

namespace Verdict.Document

/-- Why a file is not read as a mapping. -/
inductive Fault where
  | unreadable (fault : File.Fault)
  /-- The path holds a character that no path may hold. -/
  | unaskable
  | undecodable (fault : Text.ByteFault)
  | malformed
  | badScalar (label message : String)
  | notMapping

/-- The wording of a fault in the file at a path. -/
def Fault.message (path : String) : Fault → String
  | .unreadable fault => "Cannot read file: " ++ fault.message path
  | .unaskable => "embedded null byte"
  | .undecodable fault => fault.message
  | .malformed => "Invalid YAML syntax"
  | .badScalar _ message => message
  | .notMapping => "File must contain a YAML mapping (dictionary), not a list or scalar"

/-- The fault lies in what the file holds, or there is no file. The others are not foreseen. -/
def Fault.isForeseen : Fault → Bool
  | .unreadable _ | .malformed | .notMapping => true
  | .unaskable | .undecodable _ | .badScalar .. => false

/-- The fault of a path where no file is read. -/
def Fault.ofPath (path : File.Path) (fault : File.Fault) : Fault :=
  if File.System.isAskable path then .unreadable fault else .unaskable

/-- The text of a file, with line feeds for line ends. -/
def readText (files : File.System) (path : File.Path) : Except Fault (List Char) := do
  let bytes ← (files.read path).mapError (.ofPath path)
  let text ← (Text.decode bytes).mapError .undecodable
  return Text.unifyLineEnds text

/-- The pairs of the mapping that a text stands for. -/
def ofText (text : List Char) : Except Fault (List (Atom × Value)) :=
  match Yaml.read text with
  | .error .malformed => .error .malformed
  | .error (.failed label message) => .error (.badScalar label message)
  | .ok none => .ok []
  | .ok (some .null) => .ok []
  | .ok (some (.mapping pairs)) => .ok pairs
  | .ok (some _) => .error .notMapping

/-- The pairs of the mapping in a file. -/
def load (files : File.System) (path : File.Path) : Except Fault (List (Atom × Value)) := do
  ofText (← readText files path)

end Verdict.Document
