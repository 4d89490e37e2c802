import Verdict.Project
import Verdict.Result.Basic

/-!
# Plugins

A plugin is a bundle of facts and operators. A fact answers for the target of a run, and may
publish further values for the rest of the run; an operator judges a pair of values. Both may fail.

The state of a run is the cache of the facts answered so far, the calculations made and the
warnings given. A fact is given the state, so what it answers may depend on all of it.
-/

namespace Verdict

/-- Why a fact, an operator or a plugin failed: what kind of failure it is, and what it says. -/
structure Failure where
  label : String
  message : String
deriving DecidableEq, Repr

/-- The text of a failure; one that says nothing is known by its label. -/
def Failure.text (f : Failure) : String :=
  if f.message.isEmpty then f.label else f.message

/-- What a run is about: the project, the target, and the options if there are any. -/
structure Context where
  project : Project
  current : Descriptor
  options : Option Options := none

namespace Context

/-- The context of a target in a project. -/
def ofTarget (project : Project) (target : String) (options : Option Options := none) : Context :=
  ⟨project, project.describe target, options⟩

/-- The path of the target. -/
def target (ctx : Context) : String := ctx.current.path

end Context

/-- The fact that answers with the target itself. -/
def targetFact : String := "fileData"

/-- The state of a run. -/
structure Run where
  /-- The values of the facts answered or published so far. -/
  cache : Table String Value := []
  /-- The names of the facts calculated so far, in order. -/
  calculated : List String := []
  /-- The warnings given so far, in order. -/
  warnings : List String := []

namespace Run

/-- A fact has a value for the rest of the run. -/
def knows (run : Run) (name : String) : Bool :=
  run.cache.has name

/-- Gives a fact a value for the rest of the run. -/
def learn (run : Run) (name : String) (v : Value) : Run :=
  { run with cache := run.cache.insert name v }

/-- Adds warnings. -/
def warn (run : Run) (messages : List String) : Run :=
  { run with warnings := run.warnings ++ messages }

/-- The value of a fact without a calculation: as cached, or the target itself. -/
def valueOf (run : Run) (ctx : Context) (name : String) : Value :=
  match run.cache.get? name with
  | some v => v
  | none => if name = targetFact then ctx.current.toValue else .null

end Run

/-- What a fact answers: a value or a failure, values for other facts, and warnings. -/
structure Answer where
  outcome : Except Failure Value
  published : List (String × Value) := []
  warnings : List String := []

/-- A named input of rules. -/
structure Fact where
  name : String
  description : String := ""
  calculate : Option (Table String Value) → Context → Run → Answer

/-- A named test of a pair of values. What it answers hangs on nothing else, and counts as true or
false. -/
structure Operator where
  name : String
  description : String := ""
  evaluate : Value → Value → Except Failure Value

/-- A bundle of facts and operators. Its preparation is given the project, and may have to wait
for something before it ends. -/
structure Plugin where
  name : String
  version : String := "0.0.0"
  description : String := ""
  facts : Table String Fact := []
  operators : Table String Operator := []
  waits : Bool := false
  prepare : Project → Except Failure Unit := fun _ => .ok ()

/-- The plugin of the given facts and operators. Of two with one name the later one counts. -/
def Plugin.ofLists (name version description : String) (facts : List Fact)
    (operators : List Operator) : Plugin where
  name
  version
  description
  facts := Table.ofPairs (facts.map fun f => (f.name, f))
  operators := Table.ofPairs (operators.map fun o => (o.name, o))

end Verdict
