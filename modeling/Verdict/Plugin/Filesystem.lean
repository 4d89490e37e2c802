import Verdict.Plugin.Patterns

/-!
# Plugins: filesystem

The plugin with facts about the files of a project: their descriptors, the matches of patterns in the
target, and the required files that are missing. Its operators ask whether a file's content matches
a pattern, and whether required files are missing.
-/

namespace Verdict.Plugin

/-- The texts in a value that is a text or a list. -/
def textsIn : Value → List String
  | .text s => [s]
  | .list items => items.filterMap Value.text?
  | _ => []

/-- A parameter by name. -/
def param? (params : Option (Table String Value)) (name : String) : Option Value :=
  params.bind (·.get? name)

/-! ### Descriptors -/

/-- The descriptors of all files. -/
def filesystemFacts (ctx : Context) : Answer :=
  { outcome := .ok (.list (ctx.project.descriptors.map (·.toValue))) }

/-! ### Matches in the target -/

/-- The length of a snippet where none is asked for. -/
def defaultSnippetLength : Int := 50

/-- A line and column as a value. -/
def placeValue (line column : Nat) : Value :=
  .ofPairs [("line", .int line), ("column", .int column)]

/-- A match as a value. Its groups are listed if they are asked for and there are some. -/
def LineMatch.toValue (withGroups : Bool) (m : LineMatch) : Value :=
  .ofPairs [
    ("pattern", .text m.pattern),
    ("match", .text m.text),
    ("range", .ofPairs [("start", placeValue m.line m.startColumn),
      ("end", placeValue m.line m.stopColumn)]),
    ("context", .text m.snippet),
    ("groups",
      if withGroups && !m.groups.isEmpty then .list (m.groups.map .optionalText) else .null)]

/-- A match in the short list of results. -/
def LineMatch.toResult (m : LineMatch) : Value :=
  .ofPairs [("match", .text m.pattern), ("lineNumber", .int m.line), ("line", .text m.snippet)]

/-- The patterns of texts, as far as the first failure that is no defect of a text; a text with a
defect is passed over with a warning. -/
def readPatterns : List String → List Pattern × List String × Option Failure
  | [] => ([], [], none)
  | source :: rest =>
    match Pattern.compile source {} with
    | .ok p =>
      let (ps, warnings, failure) := readPatterns rest
      (p :: ps, warnings, failure)
    | .error fault =>
      if fault.defect.kind = .malformed then
        let (ps, warnings, failure) := readPatterns rest
        (ps, ("Pattern error: " ++ source ++ " - " ++ fault.message source) :: warnings, failure)
      else ([], [], some (.badPattern source fault))

/-- The content in the descriptor that a run has for its target. -/
def contentIn (descriptor : Value) : Except Failure Value :=
  if !descriptor.truthy then .ok (.text "")
  else match descriptor with
    | .mapping pairs => .ok (((Value.mapping pairs).field? "fileContent").getD (.text ""))
    | v => .error (.noPart v "get")

/-- The matches of patterns in a content, with the warnings about the patterns. -/
def analyse (sources : List String) (length : Int) (content : Value) :
    Except Failure (List LineMatch) × List String :=
  if !content.truthy || sources.isEmpty then (.ok [], [])
  else
    let (ps, warnings, failure) := readPatterns sources
    match failure, content with
    | some failure, _ => (.error failure, warnings)
    | none, .text text => (.ok (matchesInText ps length text), warnings)
    | none, content => (.error (.noPart content "split"), warnings)

/-- The report on the matches in a target. -/
def analysisReport (sources : List String) (withGroups : Bool) (found : List LineMatch) : Value :=
  .ofPairs [
    ("result", .list (found.map LineMatch.toResult)),
    ("matches", .list (found.map (LineMatch.toValue withGroups))),
    ("summary", .ofPairs [("totalMatches", .int found.length), ("patterns", .texts sources),
      ("hasPositionData", .bool true)])]

/-- The matches of the patterns `checkPattern` in the target, line by line. The short list of
results is also published under the name `resultFact`, if one is given. -/
def fileAnalysis (params : Option (Table String Value)) (ctx : Context) (run : Run) : Answer :=
  let sources := ((param? params "checkPattern").map textsIn).getD []
  let withGroups := ((param? params "captureGroups").getD (.bool false)).truthy
  let settings : Except Failure (Int × Value) := do
    let length ← ((param? params "contextLength").getD (.int defaultSnippetLength)).toInteger
    return (length, ← contentIn (run.valueOf ctx targetFact))
  match settings with
  | .error failure => { outcome := .error failure }
  | .ok (length, content) =>
    match analyse sources length content with
    | (.error failure, warnings) => { outcome := .error failure, warnings }
    | (.ok found, warnings) =>
      { outcome := .ok (analysisReport sources withGroups found)
        published :=
          match param? params "resultFact" with
          | some (.text name) =>
            if name.isEmpty then [] else [(name, .list (found.map LineMatch.toResult))]
          | _ => []
        warnings }

/-! ### Required files -/

/-- A path is the required entry or ends in it after a separator. -/
def satisfies (path entry : String) : Bool :=
  path == entry || ('/' :: entry.toList).isSuffixOf path.toList

/-- Some listed path satisfies the entry. -/
def isPresent (listing : List String) (entry : String) : Bool :=
  listing.any (satisfies · entry)

/-- The required files of a list that no path satisfies. -/
def missingFrom (listing required : List String) : List String :=
  required.filter (!isPresent listing ·)

/-- The required files of a list that are not missing. -/
def foundIn (listing required : List String) : List String :=
  required.filter (!(missingFrom listing required).contains ·)

/-- Which of the files `requiredFiles` are missing from the project. -/
def missingRequiredFiles (params : Option (Table String Value)) (ctx : Context) : Answer :=
  let required := ((param? params "requiredFiles").map textsIn).getD []
  let listing := ctx.project.listing
  { outcome := .ok (.ofPairs [
      ("missing", .texts (missingFrom listing required)),
      ("found", .texts (foundIn listing required)),
      ("total", .int required.length)]) }

/-! ### Operators -/

/-- The files in a value: the list `files` in a mapping, a list, or a single descriptor. -/
def filesIn : Value → List Value
  | .list items => items
  | .mapping pairs =>
    match (Value.mapping pairs).field? "files" with
    | some (.list items) => items
    | _ => if Table.has pairs (.text "fileContent") then [.mapping pairs] else []
  | _ => []

/-- The content in a descriptor. -/
def contentOf? : Value → Option String
  | .mapping pairs => ((Value.mapping pairs).field? "fileContent").bind Value.text?
  | _ => none

/-- Some file's content matches the pattern. -/
def fileContains (a b : Value) : Except Failure Value :=
  match b with
  | .text source => do
    let p ← Pattern.read source
    return .bool ((filesIn a).any fun file => (contentOf? file).any p.occursIn)
  | _ => .ok (.bool false)

/-- Whether files are missing is what the second value says. -/
def hasMissingFiles (a b : Value) : Except Failure Value :=
  let missing := match a with
    | .mapping pairs => ((Value.mapping pairs).field? "missing").getD .null
    | _ => .null
  .ok (.bool (missing.truthy == b.truthy))

/-- The plugin with facts and operators on files. -/
def filesystem : Plugin :=
  .ofLists "filesystem" "1.0.0" "Project file listing, content analysis and required-file checks"
    [ { name := "repoFilesystemFacts"
        description := "Descriptors for every file in the project"
        calculate := fun _ ctx _ => filesystemFacts ctx },
      { name := "repoFileAnalysis"
        description := "Regex pattern analysis of the current file"
        calculate := fileAnalysis },
      { name := "missingRequiredFiles"
        description := "Required files absent from the project"
        calculate := fun params ctx _ => missingRequiredFiles params ctx } ]
    [ { name := "fileContains"
        description := "Any file content matches a regex"
        evaluate := fileContains },
      { name := "hasMissingFiles"
        description := "A missingRequiredFiles result reports missing files"
        evaluate := hasMissingFiles } ]

end Verdict.Plugin
