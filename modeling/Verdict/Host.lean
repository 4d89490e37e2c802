import Verdict.File.Tree

/-!
# Host

What surrounds the program: the variables of the environment, the accounts with their home
directories, and the files; and the directories that follow from them for configuration and data.
-/

namespace Verdict

/-- The surroundings of the program. -/
structure Host where
  environment : Table String String := []
  accounts : Table String String := []
  files : File.System := {}
deriving Inhabited

/-- Why a place on the host cannot be determined. -/
inductive HostFault where
  | noHome
  | linkCycle (path : String)
  /-- A path holds a character that no path may hold. -/
  | unaskable
deriving DecidableEq, Repr

/-- The wording of a fault. -/
def HostFault.message : HostFault → String
  | .noHome => "Could not determine home directory."
  | .linkCycle path => "Symlink loop from " ++ Text.quoted path
  | .unaskable => "embedded null byte"

namespace Host

open File (Path)

/-- The value of a variable; an empty one counts as none. -/
def setting? (host : Host) (name : String) : Option String :=
  (host.environment.get? name).bind fun v => if v.isEmpty then none else some v

/-- A text without separators at its end. -/
def dropEndSeparators (s : String) : String :=
  String.ofList ((s.toList.reverse.dropWhile (· == '/')).reverse)

/-- The home directory of an account, or of the current one if the name is empty. -/
def homeOf? (host : Host) (account : String) : Option String :=
  let home := if account.isEmpty then host.environment.get? "HOME" else host.accounts.get? account
  home.map fun h =>
    let h := dropEndSeparators h
    if h.isEmpty then "/" else h

/-- A path whose first name begins with a tilde, from the home directory that it names. A home
directory that itself begins with a tilde is none. -/
def expandHome (host : Host) (path : Path) : Except HostFault Path :=
  match path.names with
  | first :: rest =>
    match path.isAbsolute, first.toList with
    | false, '~' :: account =>
      match host.homeOf? (String.ofList account) with
      | some home =>
        if home.startsWith "~" then .error .noHome
        else .ok ((Path.ofText home).join ⟨"", rest⟩)
      | none => .error .noHome
    | _, _ => .ok path
  | [] => .ok path

/-- The home directory. -/
def home (host : Host) : Except HostFault Path :=
  host.expandHome (Path.ofText "~")

/-- The directory in a variable, or one below the home directory. -/
def baseDirectory (host : Host) (setting : String) (below : List String) :
    Except HostFault Path := do
  match host.setting? setting with
  | some text => host.expandHome (Path.ofText text)
  | none => return (← host.home).join ⟨"", below⟩

/-- The directory for configuration. -/
def configHome (host : Host) : Except HostFault Path :=
  host.baseDirectory "XDG_CONFIG_HOME" [".config"]

/-- The directory for data. -/
def dataHome (host : Host) : Except HostFault Path :=
  host.baseDirectory "XDG_DATA_HOME" [".local", "share"]

/-- The name of the program in directories. -/
def programName : String := "rulesim"

/-- The directory for the configuration of the program. -/
def configDirectory (host : Host) : Except HostFault Path := do
  return (← host.configHome).child programName

/-- The file with the configuration of the program. -/
def defaultConfigPath (host : Host) : Except HostFault Path := do
  return (← host.configDirectory).child "config.yaml"

/-- The directory with the fixtures of the program. -/
def fixturesDirectory (host : Host) : Except HostFault Path := do
  return ((← host.dataHome).child programName).child "fixtures"

/-- The absolute path to where a path leads. -/
def resolve (host : Host) (path : Path) : Except HostFault Path :=
  if !File.System.isAskable path then .error .unaskable
  else (host.files.resolve path).mapError fun cycle => .linkCycle cycle.text

end Host

end Verdict
