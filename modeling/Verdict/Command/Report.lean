import Verdict.Json.Writer
import Verdict.Log.Entry
import Verdict.Number.Format
import Verdict.Plugin.Builtin
import Verdict.Plugin.Registry
import Verdict.Result.Basic
import Verdict.Text.Layout

/-!
# Commands: reports

What a command prints at its end, and with which status the program exits.
-/

namespace Verdict.Command

/-- How the program exits. -/
inductive Exit where
  | success
  /-- A configuration, a rule or the evaluation of a rule was at fault. -/
  | failure
  /-- A rule fired whose event is a fatality. -/
  | fatality
  | misuse
  | breakdown
deriving DecidableEq, Repr

/-- The status of an exit. -/
def Exit.status : Exit → Nat
  | .success => 0
  | .failure => 1
  | .fatality => 2
  | .misuse => 2
  | .breakdown => 4

/-- What a command prints, what it logs, and how the program exits after it. -/
structure Report where
  lines : List String
  entries : List Log.Entry := []
  exit : Exit := .success

/-- The text that a report prints. -/
def Report.text (r : Report) : String :=
  String.join (r.lines.map fun line => Text.uncoloured line ++ "\n")

/-! ### Simulations -/

/-- The line about a leaf. -/
def leafLine (l : LeafResult) : String :=
  "    " ++ (if l.outcome then "✓" else "✗") ++ " " ++ ".".intercalate l.path ++ ": " ++ l.fact ++
    " " ++ l.operator ++ " " ++ l.operand.display ++
    (match l.error.filter (!·.isEmpty) with
      | some error => "  (" ++ error ++ ")"
      | none => "")

/-- The lines about a run. Its leaves are shown if it is verbose, or if it ended in an error. -/
def runLines (verbose : Bool) (r : RunResult) : List String :=
  let head := Text.padEnd 14 r.ending.word.toUpper ++ r.fileName ++
    "  (" ++ r.duration.fixed 2 ++ " ms)"
  let event := match r.event with
    | some e => ["  Event: [" ++ e.severity.word ++ "] " ++ e.message]
    | none => []
  let error := match r.error.filter (!·.isEmpty) with
    | some error => ["  Error: " ++ error]
    | none => []
  let leaves := if verbose || r.ending == .error then r.leafResults.map leafLine else []
  head :: event ++ error ++ leaves

/-- The exit after runs: a fired fatality outweighs an error, and an error everything else. -/
def exitAfter (results : List RunResult) : Exit :=
  if results.any fun r => r.isTriggered && r.event.any (·.severity == .fatality) then .fatality
  else if results.any (·.ending == .error) then .failure
  else .success

/-- What is logged about a run. -/
def runEntries (rule : String) (verbose : Bool) (r : RunResult) : List Log.Entry :=
  let leaves := r.leafResults.map fun l =>
    Log.leafEvaluated l.path (.text l.fact) (.text l.operator) (.bool l.outcome) l.factValue
      (.optionalText l.error)
  (if verbose then leaves else []) ++
    [Log.runCompleted (.text rule) (.text r.fileName) (.text r.ending.word)
      (.int r.leafResults.length) (.float (r.duration.roundPlaces 2)) (.optionalText r.error)]

/-- The lines about the runs of a rule, with a count of them if there is one run for every file. -/
def resultLines (rule : String) (verbose counted : Bool) (results : List RunResult) : List String :=
  let count := if counted then
      ["", "  Files: " ++ toString results.length ++ ", triggered: " ++
        toString (results.countP (·.isTriggered))]
    else []
  ("Rule: " ++ rule) :: (if results.isEmpty then ["No files to simulate."] else []) ++
    results.flatMap (runLines verbose) ++ count

/-- Why the runs of a rule are not written: a result has no wire form. It is noticed while one result
is being written, or before results are written together. -/
structure DocumentFault where
  fault : WireFault
  whileWriting : Bool

/-- The wording of a fault. -/
def DocumentFault.message (f : DocumentFault) : String :=
  if f.whileWriting then f.fault.writingMessage else f.fault.message

/-- Results under their names as one document. -/
def namedDocument (results : Table String RunResult) : Except WireFault String := do
  let entries ← results.mapM fun (name, r) => do return (name, ← RunResult.wire .joined r)
  return Json.write (.plain (some 2)) (.ofPairs entries)

/-- A result as a document. -/
def singleDocument (r : RunResult) : Except WireFault String := do
  return Json.write (.wire (some 2)) (← r.wire .apart)

/-- The runs of a rule as a document: one by itself, or those for all files under their names. -/
def resultDocument (named : Bool) (results : Table String RunResult) :
    Except DocumentFault String :=
  if named then (namedDocument results).mapError (⟨·, false⟩)
  else do
    let documents ← (results.entries.mapM singleDocument).mapError (⟨·, true⟩)
    return "\n".intercalate documents

/-! ### Rules and plugins -/

/-- The lines about a rule that is valid. -/
def ruleLines (registry : Registry) (rule : Rule) : List String :=
  let warnings := match rule.conditions with
    | none => ["rule has no conditions"]
    | some c =>
      let gaps := registry.gaps c
      gaps.facts.map (fun name => "unknown fact '" ++ name ++ "'") ++
        gaps.operators.map fun name => "unknown operator '" ++ name ++ "'"
  ("✓ Rule '" ++ rule.name ++ "' is valid") :: warnings.map ("  Warning: " ++ ·)

/-- A line about something that a plugin provides. -/
def providedLine (kind name description : String) : String :=
  "  " ++ Text.padEnd 10 kind ++ Text.padEnd 24 name ++ " " ++ description

/-- The lines about a plugin. -/
def pluginLines (p : Plugin) : List String :=
  ["", p.name ++ " " ++ p.version] ++
    (if p.description.isEmpty then [] else ["  " ++ p.description]) ++
    p.facts.entries.map (fun f => providedLine "fact" f.name f.description) ++
    p.operators.entries.map fun o => providedLine "operator" o.name o.description

/-- The lines about all that rules can use. -/
def registryLines (r : Registry) : List String :=
  ["Built-in", "  Facts: " ++ targetFact,
    "  Operators: " ++ ", ".intercalate (Builtin.every.map Builtin.name)] ++
    r.plugins.entries.flatMap pluginLines

end Verdict.Command
