import Verdict.Config.Reading
import Verdict.Config.Template
import Verdict.Document
import Verdict.Value

/-!
# Configuration: loading

Where the configuration is looked for, and its loading: a file named outright has to exist; else the
first file there is counts, of the one that a variable names, the one in the working directory and
the one in the directory for configuration.
-/

namespace Verdict.Config

open File (Path)

/-- Why no configuration is loaded. -/
inductive Fault where
  | missing (path : Path)
  | nowhere (searched : List Path)
  | document (path : Path) (fault : Document.Fault)
  | unset (path : Path) (name : String)
  /-- The settings hold themselves, by a list or by a mapping. -/
  | endless (isMapping : Bool)
  | invalid (path : Path) (issues : List Schema.Issue)
  | host (fault : HostFault)
  | files (path : Path) (fault : File.Fault)

/-- The wording of a reference to a variable that is not set. -/
def unsetMessage (name : String) : String :=
  "Environment variable '" ++ name ++ "' is not set. " ++
    "Set it or update your config to use a different value."

/-- The wording of a value that holds itself. -/
def endlessMessage (isMapping : Bool) : String :=
  "maximum recursion depth exceeded" ++ if isMapping then " while calling a Python object" else ""

/-- The fault of settings at a path that are not filled in. -/
def Fault.ofTemplate (path : Path) : Template.Fault → Fault
  | .unset name => .unset path name
  | .endless isMapping => .endless isMapping

/-- Issues on lines of their own. -/
def issueLines (issues : List Schema.Issue) : List String :=
  issues.map fun i => "  - " ++ i.line

/-- The wording of a fault. -/
def Fault.message : Fault → String
  | .missing path => "Config file not found: " ++ path.text
  | .nowhere searched =>
    "No config file found. Searched locations:\n  - " ++
      "\n  - ".intercalate (searched.map (·.text))
  | .document path fault => fault.message path.text
  | .unset _ name => unsetMessage name
  | .endless isMapping => endlessMessage isMapping
  | .invalid _ issues =>
    "Config validation failed (" ++ toString issues.length ++ " error(s)):\n" ++
      "\n".intercalate (issueLines issues)
  | .host fault => fault.message
  | .files path fault => fault.message path.text

/-- The path that a fault concerns. -/
def Fault.path? : Fault → Option Path
  | .missing path => some path
  | .document path _ => some path
  | .unset path _ => some path
  | .invalid path _ => some path
  | _ => none

/-- The fault concerns a configuration. The others are not foreseen. -/
def Fault.isForeseen : Fault → Bool
  | .missing _ | .nowhere _ | .unset .. | .invalid .. => true
  | .document _ fault => fault.isForeseen
  | .endless _ | .host _ | .files .. => false

/-- The variable that names a configuration. -/
def pathSetting : String := "RULESIM_CONFIG"

/-- The name of a configuration in the working directory. -/
def localName : String := "rulesim.yaml"

/-- A path from the home directory that it may name, made absolute. -/
def absolute (host : Host) (text : String) : Except Fault Path :=
  (do host.resolve (← host.expandHome (Path.ofText text))).mapError .host

/-- Something is at a path. -/
def isThere (host : Host) (path : Path) : Except Fault Bool :=
  (host.files.exists? path).mapError (.files path)

/-- The places where a configuration is looked for, in order. -/
def candidates (host : Host) : Except Fault (List Path) := do
  let named ← (host.setting? pathSetting).mapM (absolute host)
  let usual ← host.defaultConfigPath.mapError .host
  return named.toList ++ [host.files.workingPath.child localName, usual]

/-- The first of the paths that is there. -/
def firstThere (host : Host) : List Path → Except Fault (Option Path)
  | [] => .ok none
  | path :: rest => do
    if ← isThere host path then return some path else firstThere host rest

/-- The path of the configuration. -/
def discover (host : Host) (given : Option String) : Except Fault Path := do
  match given.filter (!·.isEmpty) with
  | some text =>
    let path ← absolute host text
    if ← isThere host path then return path else throw (.missing path)
  | none =>
    let searched ← candidates host
    match ← firstThere host searched with
    | some path => return path
    | none => throw (.nowhere searched)

/-- The depth at which a setting no longer has parts. -/
def schemaDepth : Nat := 6

/-- The pairs of the mapping in a file, or a fault that concerns its path. -/
def loadDocument (files : File.System) (path : Path) : Except Fault (List (Atom × Value)) :=
  (Document.load files path).mapError (.document path)

/-- The configuration in the file at a path. References to variables are filled in if `expands`. -/
def loadFrom (host : Host) (path : Path) (expands : Bool) : Except Fault Config := do
  let raw := Value.mapping (← loadDocument host.files path)
  let filled ←
    if expands then (Template.fill host.environment true raw).mapError (.ofTemplate path) else pure raw
  match Config.read (filled.unrolled schemaDepth) with
  | .ok config => return config
  | .faulty issues => throw (.invalid path issues)

/-- The configuration. Where none is found, and none was asked for, it is the usual one. -/
def load (host : Host) (given : Option String) (expands required : Bool) : Except Fault Config :=
  match discover host given with
  | .ok path => loadFrom host path expands
  | .error (.nowhere searched) => if required then .error (.nowhere searched) else .ok {}
  | .error fault => .error fault

end Verdict.Config
