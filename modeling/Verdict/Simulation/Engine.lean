import Verdict.Fixture.Loader
import Verdict.Simulation.Run

/-!
# Simulation: the engine

An engine is made ready once: a fixture is loaded and every plugin is prepared for it. Whoever asks
for that while it is under way waits for the same task. A reset begins a new epoch, in which nothing
is loaded and no plugin is prepared; a task of an earlier epoch goes on, but no longer counts. The
registry of the new epoch comes from a factory, and a factory can fail: then the reset goes no
further, and what it has not come to stays as it was.

The engine is a transition system. A `Move` is the smallest thing that happens to it, `step` is what
a move does, and a history is a list of moves in any order. A task takes the epoch and the registry
when it begins, not when it is asked for.
-/

namespace Verdict

/-- What an engine is made ready with. -/
inductive Source where
  | given (project : Project)
  | located (location : String)
  | usual

/-- Why an engine was not made ready. -/
inductive SetupFault where
  | fixture (fault : Fixture.Fault)
  | plugin (fault : PluginFault)

/-- What is reported on the way. -/
inductive Stage where
  | loading
  | preparing
  | ready
deriving DecidableEq, Repr

/-- The report of a stage: what is done, and how much of all is done in percent. -/
def Stage.report : Stage → String × Nat
  | .loading => ("Loading fixture data...", 10)
  | .preparing => ("Initializing plugins...", 70)
  | .ready => ("Ready", 100)

/-- How far a task is. -/
inductive Phase where
  /-- It was asked for, and has not begun. -/
  | queued
  | loading (location : String)
  | preparing (project : Project) (remaining : List (String × Plugin))
  | finished (outcome : Except SetupFault Unit)

/-- A task that makes the engine ready. The epoch and the registry are those of the engine when the
task began. -/
structure SetupTask where
  source : Source
  epoch : Nat := 0
  registry : Registry := {}
  phase : Phase := .queued

/-- The outcome of a task that has finished. -/
def SetupTask.outcome? (t : SetupTask) : Option (Except SetupFault Unit) :=
  match t.phase with
  | .finished outcome => some outcome
  | _ => none

/-- What became of someone who asked. -/
inductive CallState where
  | waiting (task : Nat)
  | ended (outcome : Except SetupFault Unit)
  | cancelled

/-- A plugin was prepared for a project, by a task that began in an epoch. -/
structure Preparation where
  epoch : Nat
  plugin : String
  project : Project

/-- What an engine works with: the settings, the registry that it has, the fixtures at the locations
of its surroundings, and what the factory of registries gives when it is called again: the same
plugins, unless something else is said. -/
structure EngineSetup where
  config : Config := {}
  registry : Registry := {}
  load : String → Fixture.Loading
  factory : Except Failure Registry := .ok registry

/-- An engine. Tasks and calls are known by their positions. -/
structure Engine where
  setup : EngineSetup
  epoch : Nat := 0
  /-- The epoch for which the registry was built. -/
  registryEpoch : Nat := 0
  project : Option Project := none
  ready : Bool := false
  tasks : List SetupTask := []
  /-- The task that a new call joins. -/
  registered : Option Nat := none
  calls : List CallState := []
  stages : List Stage := []
  prepared : List Preparation := []

/-- A move of an engine. -/
inductive Move where
  /-- Someone asks for the engine to be made ready. -/
  | ask (source : Source)
  /-- A task goes on to the next point at which it may have to wait. -/
  | advance (task : Nat)
  /-- Someone who waits for a finished task goes on. -/
  | resume (call : Nat)
  /-- Someone who waits is called off. -/
  | cancel (call : Nat)
  | reset

namespace Engine

/-- An engine that nothing has happened to. -/
def start (setup : EngineSetup) : Engine := { setup }

/-- The engine of a configuration. Its registry holds the plugins that are enabled. -/
def ofConfig (config : Config) (load : String → Fixture.Loading) : Except PluginFault Engine := do
  let registry ← Registry.ofEnabled (some config.plugins)
  return start { config, registry, load }

/-- A registered task that has finished is registered no longer. -/
def release (e : Engine) (task : Nat) : Engine :=
  let finished := (e.tasks[task]?.bind SetupTask.outcome?).isSome
  if e.registered = some task && finished then { e with registered := none } else e

/-- Adds a call. -/
def addCall (e : Engine) (c : CallState) : Engine := { e with calls := e.calls ++ [c] }

/-- Someone asks for the engine to be made ready with a source. -/
def ask (e : Engine) (source : Source) : Engine :=
  if e.ready then e.addCall (.ended (.ok ()))
  else match e.registered with
    | none =>
      let task := e.tasks.length
      let t : SetupTask := { source }
      let e := { e with tasks := e.tasks ++ [t], registered := some task }
      e.addCall (.waiting task)
    | some task =>
      match e.tasks[task]?.bind SetupTask.outcome? with
      | some outcome => (e.release task).addCall (.ended outcome)
      | none => e.addCall (.waiting task)

/-- Sets how far a task is. -/
def setPhase (e : Engine) (task : Nat) (t : SetupTask) (phase : Phase) : Engine :=
  { e with tasks := e.tasks.set task { t with phase } }

/-- Reports a stage. -/
def report (e : Engine) (s : Stage) : Engine := { e with stages := e.stages ++ [s] }

/-- The project of a task is loaded, for an epoch, and the plugins are prepared next. -/
def loaded (e : Engine) (task : Nat) (t : SetupTask) (project : Project) : Engine :=
  let e := if t.epoch = e.epoch then { e with project := some project } else e
  (e.report .preparing).setPhase task t (.preparing project t.registry.plugins)

/-- The location of a source. -/
def locationOf (e : Engine) (location : String) : String :=
  if location.isEmpty then e.setup.config.fixtures.usual else location

/-- The first step of a task. -/
def begin (e : Engine) (task : Nat) (t : SetupTask) : Engine :=
  let t := { t with epoch := e.epoch, registry := e.setup.registry }
  let e := e.report .loading
  match t.source with
  | .given project => e.loaded task t project
  | .located location => e.setPhase task t (.loading (e.locationOf location))
  | .usual => e.setPhase task t (.loading e.setup.config.fixtures.usual)

/-- The end of a task: the engine is ready, unless the epoch of the task is over. -/
def complete (e : Engine) (task : Nat) (t : SetupTask) : Engine :=
  let e := if t.epoch = e.epoch then { e.report .ready with ready := true } else e
  e.setPhase task t (.finished (.ok ()))

/-- A task goes on. -/
def advance (e : Engine) (task : Nat) : Engine :=
  match e.tasks[task]? with
  | none => e
  | some t =>
    match t.phase with
    | .queued => e.begin task t
    | .loading location =>
      match (e.setup.load location).outcome with
      | .ok project => e.loaded task t project
      | .error .silent => e
      | .error fault => e.setPhase task t (.finished (.error (.fixture fault)))
    | .preparing project ((name, plugin) :: rest) =>
      match plugin.prepare project with
      | .ok () =>
        let done : Preparation := ⟨t.epoch, name, project⟩
        let e := { e with prepared := e.prepared ++ [done] }
        e.setPhase task t (.preparing project rest)
      | .error failure =>
        e.setPhase task t (.finished (.error (.plugin (.unprepared name failure))))
    | .preparing _ [] => e.complete task t
    | .finished _ => e

/-- Someone who waits for a finished task goes on. -/
def resume (e : Engine) (call : Nat) : Engine :=
  match e.calls[call]? with
  | some (.waiting task) =>
    match e.tasks[task]?.bind SetupTask.outcome? with
    | some outcome => { e with calls := e.calls.set call (.ended outcome) }.release task
    | none => e
  | _ => e

/-- Someone who waits is called off. -/
def cancel (e : Engine) (call : Nat) : Engine :=
  match e.calls[call]? with
  | some (.waiting task) => { e with calls := e.calls.set call .cancelled }.release task
  | _ => e

/-- Begins a new epoch, which has no project. With a registry that is built for it, the engine is
not ready and no task counts. If the factory fails, its failure goes to whoever resets the engine,
which is as ready as before, with the same registry and the same registered task. -/
def reset (e : Engine) : Engine :=
  let e := { e with epoch := e.epoch + 1, project := none }
  match e.setup.factory with
  | .ok registry =>
    { e with
      setup := { e.setup with registry }
      registryEpoch := e.epoch
      ready := false
      registered := none }
  | .error _ => e

/-- What a move does. -/
def step (e : Engine) : Move → Engine
  | .ask source => e.ask source
  | .advance task => e.advance task
  | .resume call => e.resume call
  | .cancel call => e.cancel call
  | .reset => e.reset

/-- What moves do one after another. -/
def steps (e : Engine) (moves : List Move) : Engine := moves.foldl step e

/-! ### Making an engine ready in one go -/

/-- A task goes on as long as it is allowed to, at most so many times. -/
def advanceWhile (allowed : Phase → Bool) (task : Nat) : Nat → Engine → Engine
  | 0, e => e
  | fuel + 1, e =>
    match e.tasks[task]? with
    | some t =>
      if allowed t.phase then advanceWhile allowed task fuel (e.advance task) else e
    | none => e

/-- The number of steps that a task takes at most, with the registry that it took or will take. -/
def taskLength (e : Engine) (task : Nat) : Nat :=
  let own := (e.tasks[task]?.map (·.registry)).getD {}
  max e.setup.registry.plugins.length own.plugins.length + 4

/-- A task goes on until it has finished. -/
def finish (e : Engine) (task : Nat) : Engine :=
  advanceWhile (fun _ => true) task (e.taskLength task) e

/-- A task goes on until it comes to a plugin whose preparation waits. -/
def advanceToGate (e : Engine) (task : Nat) : Engine :=
  let open_ : Phase → Bool
    | .preparing _ ((_, plugin) :: _) => !plugin.waits
    | _ => true
  advanceWhile open_ task (e.taskLength task) e

/-- The task that a call waits for. -/
def taskOf? (e : Engine) (call : Nat) : Option Nat :=
  match e.calls[call]? with
  | some (.waiting task) => some task
  | _ => none

/-- A call goes on until it has ended. -/
def await (e : Engine) (call : Nat) : Engine :=
  match e.taskOf? call with
  | some task => (e.finish task).resume call
  | none => e

/-- Asks and waits. The outcome is none if it never comes. -/
def prepare (e : Engine) (source : Source) : Engine × Option (Except SetupFault Unit) :=
  let call := e.calls.length
  let e := (e.ask source).await call
  match e.calls[call]? with
  | some (.ended outcome) => (e, some outcome)
  | _ => (e, none)

/-! ### Files and runs -/

/-- The files of the loaded project that are not excluded by the settings. -/
def availableFiles (e : Engine) : List String :=
  match e.project with
  | some p => p.listFiles { excluded := e.setup.config.fixtures.excluded }
  | none => []

/-- What a run takes from the engine. -/
def snapshot (e : Engine) : Snapshot := ⟨e.ready, e.project, e.setup.registry⟩

/-- Simulates a rule for a file of the loaded project. -/
def simulate (e : Engine) (input : RuleInput) (file : String) (options : Options := {}) :
    RunResult × Run :=
  e.snapshot.run { input, target := file, options }

/-- Simulates a rule for a file with a content of its own; the run sees no other file. -/
def simulateContent (e : Engine) (input : RuleInput) (file content : String)
    (options : Options := {}) : RunResult × Run :=
  e.snapshot.run { input, target := file, options, own := some (.ofFiles [(file, content)]) }

/-- Simulates a rule for the whole project, with files laid over it for this run. -/
def simulateGlobal (e : Engine) (input : RuleInput) (extra : Table String String := [])
    (options : Options := {}) (makeContext : MakeContext := usualContext) : RunResult × Run :=
  e.snapshot.run { input, target := globalTarget, options, extra,
                   breakdown := "Global simulation failed" } makeContext

/-- The runs of a rule for every available file, one after another. -/
def runAll (e : Engine) (input : RuleInput) (options : Options := {}) :
    List (String × RunResult × Run) :=
  e.availableFiles.map fun file => (file, e.simulate input file options)

/-- Simulates a rule for every available file. -/
def simulateAll (e : Engine) (input : RuleInput) (options : Options := {}) :
    Table String RunResult :=
  Table.ofPairs ((e.runAll input options).map fun (file, result, _) => (file, result))

end Engine

end Verdict
