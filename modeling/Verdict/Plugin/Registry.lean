import Verdict.Operator
import Verdict.Plugin.Basic
import Verdict.Rule.Condition
import Verdict.Value.Display

/-!
# Plugins: registry

A registry holds plugins in the order in which they were registered, and finds facts and operators
by name. A later plugin takes over the names of earlier ones; two plugins of one name are refused.
A condition has gaps where it uses facts and operators that nothing provides: neither is there from
the beginning, nor does a plugin of the registry bring it.
-/

namespace Verdict

/-- Why a registry refuses or fails. -/
inductive PluginFault where
  | duplicate (name : String)
  | unknown (name : String) (available : List String)
  | unprepared (name : String) (failure : Failure)
deriving DecidableEq, Repr

/-- The wording of a fault. -/
def PluginFault.message : PluginFault → String
  | .duplicate name => "Plugin '" ++ name ++ "' is already registered"
  | .unknown name available =>
    "Unknown plugin: " ++ name ++ ". Available: " ++ (Value.texts available).display
  | .unprepared name failure =>
    "Plugin '" ++ name ++ "' failed to initialize: " ++ failure.message

/-- The warning that comes with a fault. -/
def PluginFault.warnings : PluginFault → List String
  | .unprepared name failure =>
    ["Failed to initialize plugin " ++ name ++ ": " ++ failure.message]
  | _ => []

/-- Plugins, and the facts and operators they provide. -/
structure Registry where
  plugins : Table String Plugin := []
  facts : Table String Fact := []
  operators : Table String Operator := []
deriving Inhabited

namespace Registry

/-- Adds a plugin. -/
def register (r : Registry) (p : Plugin) : Except PluginFault Registry :=
  if r.plugins.has p.name then .error (.duplicate p.name)
  else .ok {
    plugins := r.plugins.insert p.name p
    facts := r.facts.insertAll p.facts
    operators := r.operators.insertAll p.operators }

/-- The warnings that come with adding a plugin: one for every name it takes over. -/
def takeovers (r : Registry) (p : Plugin) : List String :=
  let of (kind name : String) : String :=
    kind ++ " '" ++ name ++ "' from " ++ p.name ++ " overrides an earlier plugin"
  (p.facts.keys.filter r.facts.has).map (of "Fact") ++
    (p.operators.keys.filter r.operators.has).map (of "Operator")

/-- Adds plugins one after another. -/
def registerAll (r : Registry) (ps : List Plugin) : Except PluginFault Registry :=
  ps.foldlM register r

/-- The names of the plugins in order of registration. -/
def pluginNames (r : Registry) : List String := r.plugins.keys

/-- The names of the facts in order. -/
def factNames (r : Registry) : List String := Text.sorted r.facts.keys

/-- The names of the operators in order. -/
def operatorNames (r : Registry) : List String := Text.sorted r.operators.keys

/-- Prepares plugins for a project one after another, up to the first that fails. -/
def preparePlugins (project : Project) : List (String × Plugin) → Except PluginFault Unit
  | [] => .ok ()
  | (name, p) :: rest =>
    match p.prepare project with
    | .ok () => preparePlugins project rest
    | .error failure => .error (.unprepared name failure)

/-- Prepares all plugins for a project. -/
def prepareAll (r : Registry) (project : Project) : Except PluginFault Unit :=
  preparePlugins project r.plugins

end Registry

/-! ### Gaps -/

/-- Names that are used and not provided, each in order. -/
structure Gaps where
  facts : List String
  operators : List String
deriving DecidableEq, Repr

namespace Registry

/-- A fact of this name is there. -/
def providesFact (r : Registry) (name : String) : Bool :=
  name == targetFact || r.facts.has name

/-- An operator of this name is there. -/
def providesOperator (r : Registry) (name : String) : Bool :=
  isBuiltinOperator name || r.operators.has name

/-- The gaps of a condition. -/
def gaps (r : Registry) (c : Condition) : Gaps where
  facts := Text.sorted (c.factsUsed.filter (!r.providesFact ·))
  operators := Text.sorted (c.operatorsUsed.filter (!r.providesOperator ·))

end Registry

end Verdict
