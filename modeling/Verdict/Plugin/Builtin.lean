import Verdict.Plugin.Filesystem
import Verdict.Plugin.Registry

/-!
# Plugins: those of the library

The plugins that come with the library, and the registry of those that are enabled.
-/

namespace Verdict

/-- The plugins of the library. -/
def Plugin.ownPlugins : List Plugin := [.filesystem, .patterns]

/-- A plugin of the library by name. -/
def Plugin.own? (name : String) : Except PluginFault Plugin :=
  match ownPlugins.find? (·.name == name) with
  | some p => .ok p
  | none => .error (.unknown name (ownPlugins.map (·.name)))

namespace Registry

/-- Adds the plugins of the library with the given names one after another. -/
def addOwn (r : Registry) : List String → Except PluginFault Registry
  | [] => .ok r
  | name :: rest => do
    let p ← Plugin.own? name
    addOwn (← r.register p) rest

/-- The registry of the enabled plugins, or of all if no choice is made. -/
def ofEnabled (enabled : Option (List String)) : Except PluginFault Registry :=
  addOwn {} (enabled.getD (Plugin.ownPlugins.map (·.name)))

end Registry

end Verdict
