import Verdict.Command.Basic
import Verdict.Command.Report
import Verdict.Config.Load
import Verdict.Simulation.Engine

/-!
# Commands: performing

What a command does on a host and a network. A simulation is prepared first: the configuration, the
rule and the project are loaded, and the runs that are left give its report. Where something stands
in the way, the first problem ends the command.
-/

namespace Verdict

open File (Path)

namespace Command

/-- What ends a command before its report. -/
inductive Problem where
  | noTarget
  | contentWithoutFile
  | config (fault : Config.Fault)
  | document (path : Path) (fault : Document.Fault)
  | notRule (path : Path) (issues : List Schema.Issue)
  | content (path : Path) (fault : File.Fault)
  | contentBytes (fault : Text.ByteFault)
  | badLimit (issue : Schema.Issue)
  | setup (fault : SetupFault)
  | timeUp (limit : Number.Binary64)
  | unwritable (fault : DocumentFault)
  /-- The network never answers, and no limit of time ends the wait. -/
  | endless

namespace Problem

/-- The wording of a problem. -/
def message : Problem → String
  | .noTarget => "Choose exactly one of --file, --all or --global"
  | .contentWithoutFile => "--content-file requires --file"
  | .config fault =>
    if fault.isForeseen then "Configuration error: " ++ fault.message else fault.message
  | .document path fault => fault.message path.text
  | .notRule path issues => path.text ++ ": " ++ Rule.refusal issues
  | .content path fault => "Cannot read content file: " ++ fault.message path.text
  | .contentBytes fault => fault.message
  | .badLimit issue => issue.line
  | .setup (.plugin fault) => fault.message
  | .setup (.fixture fault) =>
    if fault.isForeseen then fault.message else "Simulation failed: " ++ fault.message
  | .timeUp limit => "Simulation timed out after " ++ limit.text ++ "s"
  | .unwritable fault => fault.message
  | .endless => ""

/-- How the program exits after a problem; none if the problem is not foreseen. -/
def exit? : Problem → Option Exit
  | .noTarget | .contentWithoutFile | .notRule .. | .content .. | .setup (.plugin _) => some .failure
  | .config fault => if fault.isForeseen then some .failure else none
  | .document _ fault => if fault.isForeseen then some .failure else none
  | .setup (.fixture fault) => some (if fault.isForeseen then .failure else .breakdown)
  | .timeUp _ => some .breakdown
  | .contentBytes _ | .badLimit _ | .unwritable _ | .endless => none

/-- The exit after a problem. One that is not foreseen counts as a failure. -/
def exit (p : Problem) : Exit := p.exit?.getD .failure

/-- The line that tells of a problem. -/
def line (p : Problem) : String := Text.uncoloured ("✗ " ++ p.message)

end Problem

/-- The configuration at a path, or the one that is found. -/
def loadConfig (host : Host) (path : Option Path) : Except Problem Config :=
  (Config.load host (path.map (·.text)) true false).mapError .config

/-- The rule in a file. -/
def loadRule (host : Host) (path : Path) : Except Problem Rule := do
  match Rule.read (.mapping (← (Document.load host.files path).mapError (.document path))) with
  | .ok rule => return rule
  | .faulty issues => throw (.notRule path issues)

/-- The text of the file that stands in for that of the target. -/
def loadContent (host : Host) (path : Path) : Except Problem String :=
  match Document.readText host.files path with
  | .ok text => .ok (String.ofList text)
  | .error (.unreadable fault) => .error (.content path fault)
  | .error (.undecodable fault) => .error (.contentBytes fault)
  | .error fault => .error (.document path fault)

/-- The registry of the plugins that a configuration enables. -/
def enabledPlugins (config : Config) : Except Problem Registry :=
  (Registry.ofEnabled (some config.plugins)).mapError fun fault => .setup (.plugin fault)

/-- The options of a simulation: what it asks for itself comes before the configuration. -/
def Simulate.options (s : Simulate) (config : Config) : Except Problem Options := do
  if let some defect := s.limit.bind (Schema.aboveBound 0) then
    throw (.badLimit ⟨["timeout"], defect⟩)
  return {
    verbose := s.verbose || config.simulation.verbose
    timeout := s.limit.or config.simulation.timeout
    skipAst := config.simulation.skipAst }

/-- A simulation that has its project. The runs are left, each with the name of its target. -/
structure Prepared where
  asked : Simulate
  target : Target
  rule : Rule
  options : Options
  runs : List (String × (Unit → RunResult))

/-- What an engine is made ready with: if the target's content is given and no project is named,
with an empty project. -/
def Simulate.source (s : Simulate) (content : Option String) : Source :=
  match s.project, content with
  | some location, _ => .located location
  | none, some _ => .given (Project.ofFiles [] [] "content")
  | none, none => .usual

/-- The runs of a rule for a target. -/
def runsOf (e : Engine) (rule : Rule) (options : Options) (content : Option String) :
    Target → List (String × (Unit → RunResult))
  | .file path => [(path, fun () =>
      match content with
      | some text => (e.simulateContent (.rule rule) path text options).1
      | none => (e.simulate (.rule rule) path options).1)]
  | .everyFile => e.availableFiles.map fun path =>
      (path, fun () => (e.simulate (.rule rule) path options).1)
  | .wholeProject => [(globalTarget, fun () => (e.simulateGlobal (.rule rule) [] options).1)]

/-- Files are read to make an engine ready: for a project that is neither given nor on the network. -/
def readsFiles (usual : String) : Source → Bool
  | .given _ => false
  | .located location =>
    !Fixture.isAddress (if location.isEmpty then usual else location)
  | .usual => !Fixture.isAddress usual

/-- Reading files takes more seconds than these. -/
def shortestReading : Rat := 1 / 100000

/-- A limit of time leaves none for reading files. -/
def isTooShort (limit : Number.Binary64) : Bool :=
  match limit.value? with
  | some seconds => seconds < shortestReading
  | none => false

/-- Makes an engine ready. A wait that never ends, or that takes longer than a limit of time allows,
is ended by the limit. -/
def makeReady (e : Engine) (source : Source) (limit : Option Number.Binary64) :
    Except Problem Engine :=
  if let some limit := limit.filter fun limit =>
      readsFiles e.setup.config.fixtures.usual source && isTooShort limit then
    .error (.timeUp limit)
  else match e.prepare source, limit with
  | (e, some (.ok ())), _ => .ok e
  | (_, some (.error fault)), _ => .error (.setup fault)
  | (_, none), some limit => .error (.timeUp limit)
  | (_, none), none => .error .endless

/-- Prepares a simulation. -/
def Simulate.prepare (host : Host) (answers : Network.Answers) (s : Simulate) :
    Except Problem Prepared := do
  let some target := s.target? | throw .noTarget
  if s.content.isSome && s.file.isNone then throw .contentWithoutFile
  let config ← loadConfig host s.config
  let rule ← loadRule host s.rule
  let content ← s.content.mapM (loadContent host)
  let options ← s.options config
  let fresh ← (Engine.ofConfig config (Fixture.load host answers config.fixtures)).mapError
    fun fault => .setup (.plugin fault)
  let e ← makeReady fresh (s.source content) options.timeout
  return { asked := s, target, rule, options, runs := runsOf e rule options content target }

/-- The report of a simulation by the results of its runs. -/
def Prepared.report (p : Prepared) (results : Table String RunResult) : Except Problem Report := do
  let counted := p.target == .everyFile
  let lines ←
    if p.asked.asJson then
      ([·]) <$> (resultDocument counted results).mapError .unwritable
    else pure (resultLines p.rule.name p.options.verbose counted results.entries)
  return {
    lines
    entries := results.entries.flatMap (runEntries p.rule.name p.options.verbose)
    exit := exitAfter results.entries }

/-- The report of a simulation whose runs are not timed. -/
def Prepared.run (p : Prepared) : Except Problem Report :=
  p.report (Table.ofPairs (p.runs.map fun (name, run) => (name, run ())))

/-- Validates a rule. -/
def validateRule (host : Host) (path : Path) (config : Option Path) : Except Problem Report := do
  let config ← loadConfig host config
  let rule ← loadRule host path
  return { lines := ruleLines (← enabledPlugins config) rule }

/-- Lists the facts and operators there are. -/
def listProvided (host : Host) (config : Option Path) : Except Problem Report := do
  let config ← loadConfig host config
  return { lines := registryLines (← enabledPlugins config) }

/-- The version of the program. -/
def release : String := "0.1.0"

/-- How a command is called. -/
def usage : Option String → String
  | some "simulate" => "Usage: rulesim simulate [OPTIONS] RULE_FILE"
  | some "validate" => "Usage: rulesim validate [OPTIONS] RULE_FILE"
  | some "facts" => "Usage: rulesim facts [OPTIONS]"
  | _ => "Usage: rulesim [OPTIONS] COMMAND [ARGS]..."

/-- How a switch is written. -/
def switchLine (s : Switch) : String :=
  let letter := match s.letter with
    | some c => String.ofList [',', ' ', '-', c]
    | none => ""
  "  --" ++ s.name ++ letter ++ (if s.takesValue then " VALUE" else "")

/-- Help on the program, or on one of its commands. -/
def helpLines (command : Option String) : List String :=
  let switches := match command with
    | some name => (switchesOf? name).getD []
    | none => [versionSwitch]
  [usage command, "", "Options:"] ++ (switches ++ [helpSwitch]).map switchLine ++
    if command.isNone then ["", "Commands:", "  simulate", "  validate", "  facts"] else []

/-- What a command leads to. -/
def perform (host : Host) (answers : Network.Answers) : Command → Except Problem Report
  | .help command => .ok { lines := helpLines command }
  | .version => .ok { lines := [Host.programName ++ " " ++ release] }
  | .simulate s => do (← s.prepare host answers).run
  | .validate path config => validateRule host path config
  | .list config => listProvided host config

/-! ### Places

The paths that a command looks at. Whoever performs a command has to know of the host what is there,
and nothing else. -/

/-- The configuration that a command names. -/
def configPath? : Command → Option Path
  | .simulate s => s.config
  | .validate _ config => config
  | .list config => config
  | .help _ | .version => none

/-- The files that a command reads before it has a configuration. -/
def filePlaces (host : Host) (c : Command) : List Path :=
  let named := c.configPath?.toList.filterMap fun path =>
    (Config.absolute host path.text).toOption
  let usual := ((Config.candidates host).toOption).getD []
  match c with
  | .simulate s => named ++ usual ++ s.rule :: s.content.toList
  | .validate rule _ => named ++ usual ++ [rule]
  | .list _ => named ++ usual
  | .help _ | .version => []

/-- The location of the project that a command loads. -/
def location? (config : Config) : Command → Option String
  | .simulate s => some ((s.project.filter (!·.isEmpty)).getD config.fixtures.usual)
  | _ => none

/-- The places at which the project of a command may be. -/
def projectPlaces (host : Host) (config : Config) (c : Command) : List Path :=
  match c.location? config with
  | some location =>
    if Fixture.isAddress location then []
    else ((Fixture.candidates host config.fixtures location).toOption).getD []
  | none => []

end Command

end Verdict
