import Verdict.Command.Switch
import Verdict.File.Path
import Verdict.Number.Format
import Verdict.Number.Order
import Verdict.Number.Reading

/-!
# Commands

What the program can be told to do, read from its arguments: a rule is simulated or validated, or
the facts and operators there are get listed.
-/

namespace Verdict

open File (Path)

namespace Command

/-- What a simulation is asked for. -/
structure Simulate where
  rule : Path
  file : Option String := none
  everyFile : Bool := false
  wholeProject : Bool := false
  /-- The file whose content stands in for that of the target. -/
  content : Option Path := none
  project : Option String := none
  config : Option Path := none
  verbose : Bool := false
  asJson : Bool := false
  limit : Option Number.Binary64 := none

/-- What a simulation is about. -/
inductive Target where
  | file (path : String)
  | everyFile
  | wholeProject
deriving DecidableEq, Repr

/-- The target of a simulation, if exactly one is named. -/
def Simulate.target? (s : Simulate) : Option Target :=
  match s.file, s.everyFile, s.wholeProject with
  | some path, false, false => some (.file path)
  | none, true, false => some .everyFile
  | none, false, true => some .wholeProject
  | _, _, _ => none

end Command

/-- What the program is told to do. -/
inductive Command where
  /-- Help on the program, or on one of its commands. -/
  | help (command : Option String)
  | version
  | simulate (what : Command.Simulate)
  | validate (rule : Path) (config : Option Path)
  | list (config : Option Path)

namespace Command

/-- Asks for help. -/
def helpSwitch : Switch := { name := "help" }

/-- Asks for the version. -/
def versionSwitch : Switch := { name := "version", letter := some 'V' }

/-- Names the file that a simulation is about. -/
def fileSwitch : Switch := { name := "file", letter := some 'f', takesValue := true }

/-- Asks for a simulation of every file. -/
def everyFileSwitch : Switch := { name := "all" }

/-- Asks for a simulation of the whole project. -/
def wholeProjectSwitch : Switch := { name := "global" }

/-- Names a file whose content stands in for that of the target. -/
def contentSwitch : Switch := { name := "content-file", takesValue := true }

/-- Names the project. -/
def projectSwitch : Switch := { name := "project", letter := some 'p', takesValue := true }

/-- Names the configuration. -/
def configSwitch : Switch := { name := "config", letter := some 'c', takesValue := true }

/-- Asks for every leaf, and keeps the faults of leaves from being errors. -/
def verboseSwitch : Switch := { name := "verbose", letter := some 'v' }

/-- Asks for results as a document. -/
def jsonSwitch : Switch := { name := "json" }

/-- Sets a limit of time in seconds. -/
def limitSwitch : Switch := { name := "timeout", takesValue := true }

/-- The switches of a simulation. -/
def simulateSwitches : List Switch :=
  [fileSwitch, everyFileSwitch, wholeProjectSwitch, contentSwitch, projectSwitch, configSwitch,
    verboseSwitch, jsonSwitch, limitSwitch]

/-- The switches of a command; none if there is no such command. -/
def switchesOf? : String → Option (List Switch)
  | "simulate" => some simulateSwitches
  | "validate" => some [configSwitch]
  | "facts" => some [configSwitch]
  | _ => none

/-- The name of the file with a rule among the words of a command. -/
def ruleWord : String := "RULE_FILE"

/-- The path that a switch gives. -/
def pathOf? (a : Arguments) (s : Switch) : Option Path :=
  (a.value? s).map Path.ofText

/-- The shortest limit of time, as it is written. -/
def leastLimit : String := "0.001"

/-- A limit of time in seconds. -/
def readLimit (text : String) : Except Misuse Number.Binary64 :=
  match Number.readFreeFloat? text.toList, Number.readFreeFloat? leastLimit.toList with
  | some x, some least =>
    if Num.less (.float x) (.float least) then
      .error (.belowBound ("--" ++ limitSwitch.name) x.text leastLimit)
    else .ok x
  | _, _ => .error (.noNumber ("--" ++ limitSwitch.name) text)

/-- The file with the rule, the only word of a command. -/
def rulePath (a : Arguments) : Except Misuse Path :=
  match a.words with
  | [word] => .ok (.ofText word)
  | [] => .error (.noWord ruleWord)
  | _ :: further => .error (.unwantedWord further)

/-- A command that takes no words. -/
def noWords (a : Arguments) : Except Misuse Unit :=
  if a.words.isEmpty then .ok () else .error (.unwantedWord a.words)

/-- A simulation from its arguments. -/
def Simulate.ofArguments (a : Arguments) : Except Misuse Simulate := do
  let limit ← (a.value? limitSwitch).mapM readLimit
  return {
    rule := ← rulePath a
    file := a.value? fileSwitch
    everyFile := a.has everyFileSwitch
    wholeProject := a.has wholeProjectSwitch
    content := pathOf? a contentSwitch
    project := a.value? projectSwitch
    config := pathOf? a configSwitch
    verbose := a.has verboseSwitch
    asJson := a.has jsonSwitch
    limit }

/-- A command from its name and its arguments. -/
def ofNamed (name : String) (arguments : List String) : Except Misuse Command := do
  let some known := switchesOf? name | throw (.unknownCommand name)
  let a ← Arguments.read (helpSwitch :: known) true arguments
  if a.has helpSwitch then return .help (some name)
  match name with
  | "simulate" => return .simulate (← Simulate.ofArguments a)
  | "validate" => return .validate (← rulePath a) (pathOf? a configSwitch)
  | _ => do
    noWords a
    return .list (pathOf? a configSwitch)

/-- What the arguments of the program tell it to do. Of help and version the first one counts. -/
def ofArguments (arguments : List String) : Except Misuse Command := do
  if arguments.isEmpty then throw .noCommand
  let a ← Arguments.read [helpSwitch, versionSwitch] false arguments
  match a.settings, a.words with
  | first :: _, _ => return if first.switch = helpSwitch then .help none else .version
  | [], name :: rest => ofNamed name rest
  | [], [] => throw .noCommand

end Command

end Verdict
