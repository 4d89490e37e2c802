import Std.Time.DateTime.Timestamp
import Verdict.Calendar
import Verdict.Command.Perform

/-!
# The program

Reads from the host what the command looks at, performs the command, and prints its report. Runs of
a rule are timed and stamped here. The network is out of reach.
-/

namespace Verdict.Program

open File (Path)

/-- The text of bytes; bytes that are no text count as none. -/
def textOf (bytes : ByteArray) : String :=
  match Text.decode bytes.toList with
  | .ok chars => String.ofList chars
  | .error _ => ""

/-- The text of a file; a file that cannot be read counts as empty. -/
def readText (path : String) : IO String := do
  try return textOf (← IO.FS.readBinFile path) catch _ => return ""

/-- The parts of a text between the occurrences of a mark. -/
def partsOf (mark : Char) (s : String) : List String :=
  (Text.splitAt mark s.toList).map String.ofList

/-- The variables of the environment. -/
def readVariables : IO (Table String String) := do
  let settings := partsOf '\x00' (← readText "/proc/self/environ")
  return Table.ofPairs (settings.filterMap fun setting =>
    match partsOf '=' setting with
    | name :: rest => if rest.isEmpty then none else some (name, "=".intercalate rest)
    | [] => none)

/-- The accounts with their home directories. -/
def readAccounts : IO (Table String String) := do
  return Table.ofPairs ((Text.lines (← readText "/etc/passwd")).filterMap fun line =>
    match partsOf ':' line with
    | [name, _, _, _, _, home, _] => some (name, home)
    | _ => none)

mutual

/-- What is at an entry of a directory. A link leads to the real path of its target. -/
partial def readEntry (entry : IO.FS.DirEntry) : IO File.Node := do
  match (← entry.path.symlinkMetadata).type with
  | .symlink => return .link (← IO.FS.realPath entry.path).toString
  | _ => readThrough entry

/-- What an entry of a directory leads to. -/
partial def readThrough (entry : IO.FS.DirEntry) : IO File.Node := do
  match (← entry.path.metadata).type with
  | .dir =>
    let entries ← entry.path.readDir
    return .directory (← entries.toList.mapM fun e => return (e.fileName, ← readEntry e))
  | _ => return .file (← IO.FS.readBinFile entry.path).toList

end

/-- The files with the directories added to them that a path leads through. -/
def addWay (files : File.System) (path : Path) : IO File.System := do
  let ways := (List.range path.names.length).map fun n => { path with names := path.names.take n }
  ways.foldlM (fun files way => do
    let .ok place := files.resolve way | return files
    if (files.root.at? place.names).isSome then return files
    try
      match (← IO.FS.DirEntry.path ⟨"/", place.text⟩ |>.metadata).type with
      | .dir => return { files with root := files.root.put place.names (.directory []) }
      | _ => return files
    catch _ => return files) files

/-- The files with what is at a path added to them, if anything is there that can be read. -/
def addPlace (files : File.System) (path : Path) : IO File.System := do
  let files ← addWay files path
  let .ok place := files.resolve path | return files
  try
    let node ← readThrough ⟨"/", place.text⟩
    return { files with root := files.root.put place.names node }
  catch _ => return files

/-- The host with what is at paths added to its files. -/
def addPlaces (host : Host) (paths : List Path) : IO Host := do
  return { host with files := ← paths.foldlM addPlace host.files }

/-- What the program sees of the host for a command. -/
def readHost (command : Command) : IO Host := do
  let workingDirectory := (Path.ofText (← IO.currentDir).toString).names
  let host : Host :=
    { environment := ← readVariables
      accounts := ← readAccounts
      files := { root := (File.Node.directory []).put workingDirectory (.directory [])
                 workingDirectory } }
  let host ← addPlaces host (command.filePlaces host)
  match Command.loadConfig host command.configPath? with
  | .ok config => addPlaces host (command.projectPlaces host config)
  | .error _ => return host

/-- The present moment. -/
def now : IO Moment := do
  let time ← Std.Time.Timestamp.now
  let nanoseconds := time.toNanosecondsSinceUnixEpoch.val
  return Calendar.momentOfSeconds (nanoseconds.fdiv 1000000000)
    (nanoseconds.fmod 1000000000 / 1000).toNat

/-- The result of a run, computed at once. -/
@[noinline] def computed (run : Unit → RunResult) : IO RunResult := pure (run ())

/-- The result of a run with the moment of its beginning and its duration in milliseconds. -/
def timed (run : Unit → RunResult) : IO RunResult := do
  let moment ← now
  let start ← IO.monoNanosNow
  let result ← computed run
  let stop ← IO.monoNanosNow
  return { result.stampedAt moment with duration := .ofQuotient false (stop - start) 1000000 }

/-- The network is not asked. -/
def noAnswers : Network.Answers :=
  { otherwise := .failed "the network is out of reach" }

/-- Performs a command. The runs of a simulation are timed. -/
def perform (host : Host) (command : Command) : IO (Except Command.Problem Command.Report) := do
  match command with
  | .simulate asked =>
    match asked.prepare host noAnswers with
    | .ok prepared =>
      let results ← prepared.runs.mapM fun (name, run) => return (name, ← timed run)
      return prepared.report (Table.ofPairs results)
    | .error problem => return .error problem
  | command => return command.perform host noAnswers

/-- A command asks for a log of all that happens. -/
def isVerbose : Command → Bool
  | .simulate s => s.verbose
  | _ => false

/-- Prints a report or a problem, and gives the status of the program. -/
def conclude (verbose : Bool) : Except Command.Problem Command.Report → IO Command.Exit
  | .ok report => do
    for line in Log.lines verbose report.entries do
      IO.eprintln (Json.write (.plain none) line)
    IO.print report.text
    return report.exit
  | .error problem => do
    IO.eprintln problem.line
    return problem.exit

end Verdict.Program

/-- The program. -/
def main (arguments : List String) : IO UInt32 := do
  match Verdict.Command.ofArguments arguments with
  | .error misuse =>
    IO.eprintln misuse.message
    return UInt32.ofNat Verdict.Command.Exit.misuse.status
  | .ok command =>
    let host ← Verdict.Program.readHost command
    let outcome ← Verdict.Program.perform host command
    let exit ← Verdict.Program.conclude (Verdict.Program.isVerbose command) outcome
    return UInt32.ofNat exit.status
