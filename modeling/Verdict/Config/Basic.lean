import Verdict.Host
import Verdict.Plugin.Builtin
import Verdict.Result.Basic

/-!
# Configuration

The settings of the program: how fixtures are found and loaded, the usual options of a simulation,
and which plugins are registered.
-/

namespace Verdict

/-- The settings for fixtures. -/
structure FixtureSettings where
  /-- The directory of named fixtures, where it is not the usual one. -/
  directory : Option String := none
  /-- The fixture that is loaded if none is named. -/
  usual : String := "node-fullstack"
  /-- Patterns of files that are not listed. -/
  excluded : List String := [".gitignore"]
  /-- Names of directories that are passed over. -/
  passedOver : List String := [".git", "node_modules", "__pycache__", ".venv"]
  /-- The most bytes of a file; larger ones are passed over. -/
  sizeLimit : Int := 1048576
  manifestFile : String := "package.json"
  remoteTimeout : Number.Binary64 := .ofInt 30
  headers : Table String String := []

/-- The directory of named fixtures. An empty setting counts as none. -/
def FixtureSettings.directoryOn (s : FixtureSettings) (host : Host) :
    Except HostFault File.Path :=
  match s.directory.filter (!·.isEmpty) with
  | some text => host.expandHome (File.Path.ofText text)
  | none => host.fixturesDirectory

/-- The settings of the program. -/
structure Config where
  fixtures : FixtureSettings := {}
  simulation : Options := {}
  plugins : List String := Plugin.ownPlugins.map (·.name)

/-- The version of the settings. -/
def Config.version : Int := 1

/-- The settings for fixtures as a value. -/
def FixtureSettings.toValue (s : FixtureSettings) : Value :=
  .ofPairs [("directory", .optionalText s.directory), ("default", .text s.usual),
    ("exclude_patterns", .texts s.excluded), ("ignore_dirs", .texts s.passedOver),
    ("max_file_size", .int s.sizeLimit), ("manifest_file", .text s.manifestFile),
    ("remote_timeout", .float s.remoteTimeout),
    ("headers", .ofPairs (s.headers.map fun (name, value) => (name, .text value)))]

/-- The settings as a value. -/
def Config.toValue (c : Config) : Value :=
  .ofPairs [("version", .int version), ("fixtures", c.fixtures.toValue),
    ("simulation", .ofPairs [("verbose", .bool c.simulation.verbose),
      ("timeout", .ofOption .float c.simulation.timeout), ("skip_ast", .bool c.simulation.skipAst)]),
    ("plugins", .ofPairs [("enabled", .texts c.plugins)])]

end Verdict
