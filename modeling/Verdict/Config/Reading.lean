import Verdict.Config.Basic
import Verdict.Schema.Record
import Verdict.Value.Display

/-!
# Configuration: reading

Settings from values. A key that names no setting is an issue, and so is a plugin that the library
does not have.
-/

namespace Verdict

open Schema

/-- A number of bytes, of which there is at least one. -/
def readSize (v : Value) : Checked Int :=
  (readInteger v).check fun n => if 0 < n then none else some (.notAbove "0")

/-- A positive number of seconds, or none. -/
def readTimeout : Value → Checked (Option Number.Binary64) :=
  nullable fun v => (readNumber v).check (aboveBound 0)

/-- A positive number of at most three hundred seconds. -/
def readRemoteTimeout (v : Value) : Checked Number.Binary64 :=
  ((readNumber v).check (atMostBound 300)).check (aboveBound 0)

/-- The settings for fixtures. -/
def FixtureSettings.read : Value → Checked FixtureSettings :=
  let usual : FixtureSettings := {}
  readRecord "FixturesConfig" fun pairs =>
    (FixtureSettings.mk <$> optional pairs "directory" usual.directory (nullable readText)
      <*> optional pairs "default" usual.usual (readTextOf 1)
      <*> optional pairs "exclude_patterns" usual.excluded (readList readText)
      <*> optional pairs "ignore_dirs" usual.passedOver (readList readText)
      <*> optional pairs "max_file_size" usual.sizeLimit readSize
      <*> optional pairs "manifest_file" usual.manifestFile readText
      <*> optional pairs "remote_timeout" usual.remoteTimeout readRemoteTimeout
      <*> optional pairs "headers" usual.headers (readMapping readText)).andAlso
    (noOthers ["directory", "default", "exclude_patterns", "ignore_dirs", "max_file_size",
      "manifest_file", "remote_timeout", "headers"] pairs)

/-- The usual options of a simulation. -/
def readSimulation : Value → Checked Options :=
  readRecord "SimulationDefaults" fun pairs =>
    (Options.mk <$> optional pairs "verbose" false readBoolean
      <*> optional pairs "timeout" none readTimeout
      <*> optional pairs "skip_ast" false readBoolean).andAlso
    (noOthers ["verbose", "timeout", "skip_ast"] pairs)

/-- The names of plugins that the library does not have, as an issue. -/
def unknownPlugins (names : List String) : Option Defect :=
  let own := Plugin.ownPlugins.map (·.name)
  let unknown := names.filter fun n => !own.contains n
  if unknown.isEmpty then none
  else some (.refused ("Unknown plugin(s): " ++ (Value.texts unknown).display ++ ". Available: " ++
    (Value.texts own).display))

/-- Names of plugins. -/
def readPluginNames (v : Value) : Checked (List String) :=
  (readList readText v).check unknownPlugins

/-- The enabled plugins. -/
def readPlugins : Value → Checked (List String) :=
  readRecord "PluginsConfig" fun pairs =>
    (optional pairs "enabled" (Plugin.ownPlugins.map (·.name)) readPluginNames).andAlso
    (noOthers ["enabled"] pairs)

/-- The settings. -/
def Config.read : Value → Checked Config :=
  readRecord "Config" fun pairs =>
    ((fun _ fixtures simulation plugins => ⟨fixtures, simulation, plugins⟩)
      <$> optional pairs "version" version (readLiteral version)
      <*> optional pairs "fixtures" {} FixtureSettings.read
      <*> optional pairs "simulation" {} readSimulation
      <*> optional pairs "plugins" (Plugin.ownPlugins.map (·.name)) readPlugins).andAlso
    (noOthers ["version", "fixtures", "simulation", "plugins"] pairs)

end Verdict
