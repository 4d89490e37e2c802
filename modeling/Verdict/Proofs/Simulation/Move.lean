import Verdict.Simulation.Engine

/-!
# Simulation: what a move does

The moves of an engine, opened once.

* `Engine.Advances`: the ways in which a task goes on, each with what it requires and the engine it
  leads to.  Every step of a task is one of them (`advances_advance`).
* `Engine.Idles`: who asks, goes on or is called off does no work.  At most a new task is put into
  the queue.
* `Engine.Resets`: a reset goes through, or the factory fails.
* `Engine.Moved`: a move is one of these (`moved_step`).
* `steps_kept`: what every move keeps is kept by every history.
-/

namespace Verdict

/-- The task is no longer in the queue. -/
def Phase.begun : Phase → Bool
  | .queued => false
  | _ => true

theorem Phase.queued_of_not_begun {p : Phase} (h : ¬ p.begun = true) : p = .queued := by
  cases p with
  | queued => rfl
  | _ => exact absurd rfl h

namespace EngineSetup

/-- The location that a source is loaded from. -/
def locationFor? (s : EngineSetup) : Source → Option String
  | .given _ => none
  | .located location => some (if location.isEmpty then s.config.fixtures.usual else location)
  | .usual => some s.config.fixtures.usual

/-- The project that a source stands for, if it comes to one. -/
def projectFor? (s : EngineSetup) : Source → Option Project
  | .given project => some project
  | source => (s.locationFor? source).bind fun location => (s.load location).outcome.toOption

theorem projectFor?_of_location {s : EngineSetup} {source : Source} {location : String}
    (h : s.locationFor? source = some location) :
    s.projectFor? source = (s.load location).outcome.toOption := by
  cases source with
  | given project => simp [locationFor?] at h
  | located _ => simp [projectFor?, h]
  | usual => simp [projectFor?, h]

end EngineSetup

/-- What a step of its own makes of a task: it has begun, in the epoch in which it did so, with the
registry of that epoch. -/
structure SetupTask.Follows (e : Engine) (t t' : SetupTask) : Prop where
  source : t'.source = t.source
  begun : t'.phase.begun = true
  epoch : t'.epoch = if t.phase.begun then t.epoch else e.epoch
  registry : t'.registry = if t.phase.begun then t.registry else e.setup.registry

namespace Engine

variable {e e' : Engine} {task : Nat} {t : SetupTask}

/-! ### A task goes on -/

/-- **The ways in which a task goes on.** -/
inductive Advances (e : Engine) (task : Nat) (t : SetupTask) : Engine → Prop where
  | ended {outcome : Except SetupFault Unit} (phase : t.phase = .finished outcome) :
      Advances e task t e
  | hangs {location : String} (phase : t.phase = .loading location)
      (outcome : (e.setup.load location).outcome = .error .silent) : Advances e task t e
  | begins {location : String} (phase : t.phase = .queued)
      (place : e.setup.locationFor? t.source = some location) :
      Advances e task t
        { e with
          stages := e.stages ++ [.loading]
          tasks := e.tasks.set task
            { t with epoch := e.epoch, registry := e.setup.registry, phase := .loading location } }
  | adopts {project : Project} (phase : t.phase = .queued) (given : t.source = .given project) :
      Advances e task t
        { e with
          project := some project
          stages := e.stages ++ [.loading, .preparing]
          tasks := e.tasks.set task
            { t with
              epoch := e.epoch
              registry := e.setup.registry
              phase := .preparing project e.setup.registry.plugins } }
  | loads {location : String} {project : Project} (phase : t.phase = .loading location)
      (outcome : (e.setup.load location).outcome = .ok project) :
      Advances e task t
        { e with
          project := if t.epoch = e.epoch then some project else e.project
          stages := e.stages ++ [.preparing]
          tasks := e.tasks.set task { t with phase := .preparing project t.registry.plugins } }
  | failsToLoad {location : String} {fault : Fixture.Fault} (phase : t.phase = .loading location)
      (outcome : (e.setup.load location).outcome = .error fault) (spoken : fault ≠ .silent) :
      Advances e task t
        { e with
          tasks := e.tasks.set task { t with phase := .finished (.error (.fixture fault)) } }
  | prepares {project : Project} {name : String} {plugin : Plugin}
      {rest : List (String × Plugin)}
      (phase : t.phase = .preparing project ((name, plugin) :: rest))
      (outcome : plugin.prepare project = .ok ()) :
      Advances e task t
        { e with
          prepared := e.prepared ++ [⟨t.epoch, name, project⟩]
          tasks := e.tasks.set task { t with phase := .preparing project rest } }
  | failsToPrepare {project : Project} {name : String} {plugin : Plugin}
      {rest : List (String × Plugin)} {failure : Failure}
      (phase : t.phase = .preparing project ((name, plugin) :: rest))
      (outcome : plugin.prepare project = .error failure) :
      Advances e task t
        { e with
          tasks := e.tasks.set task
            { t with phase := .finished (.error (.plugin (.unprepared name failure))) } }
  | completes {project : Project} (phase : t.phase = .preparing project []) :
      Advances e task t
        { e with
          ready := if t.epoch = e.epoch then true else e.ready
          stages := if t.epoch = e.epoch then e.stages ++ [.ready] else e.stages
          tasks := e.tasks.set task { t with phase := .finished (.ok ()) } }

theorem loaded_eq (e : Engine) (task : Nat) (t : SetupTask) (project : Project) :
    e.loaded task t project =
      { e with
        project := if t.epoch = e.epoch then some project else e.project
        stages := e.stages ++ [.preparing]
        tasks := e.tasks.set task { t with phase := .preparing project t.registry.plugins } } := by
  unfold loaded
  split <;> rfl

theorem complete_eq (e : Engine) (task : Nat) (t : SetupTask) :
    e.complete task t =
      { e with
        ready := if t.epoch = e.epoch then true else e.ready
        stages := if t.epoch = e.epoch then e.stages ++ [.ready] else e.stages
        tasks := e.tasks.set task { t with phase := .finished (.ok ()) } } := by
  unfold complete
  split <;> rfl

theorem advances_begin (phase : t.phase = .queued) : e.Advances task t (e.begin task t) := by
  cases given : t.source with
  | given project =>
      have h : e.Advances task t _ := .adopts phase given
      simpa [begin, given, loaded_eq, report] using h
  | located location =>
      have place : e.setup.locationFor? t.source = some (e.locationOf location) := by
        rw [given]
        rfl
      have h : e.Advances task t _ := .begins phase place
      simpa [begin, given, setPhase, report, locationOf] using h
  | usual =>
      have place : e.setup.locationFor? t.source = some e.setup.config.fixtures.usual := by
        rw [given]
        rfl
      have h : e.Advances task t _ := .begins phase place
      simpa [begin, given, setPhase, report] using h

/-- Every step of a task is one of the ways in which it goes on. -/
theorem advances_advance (found : e.tasks[task]? = some t) :
    e.Advances task t (e.advance task) := by
  cases phase : t.phase with
  | queued =>
      simp only [advance, found, phase]
      exact advances_begin phase
  | loading location =>
      cases outcome : (e.setup.load location).outcome with
      | ok project =>
          simp only [advance, found, phase, outcome, loaded_eq]
          exact .loads phase outcome
      | error fault =>
          cases fault with
          | silent =>
              simp only [advance, found, phase, outcome]
              exact .hangs phase outcome
          | _ =>
              simp only [advance, found, phase, outcome]
              exact .failsToLoad phase outcome nofun
  | preparing project remaining =>
      cases remaining with
      | nil =>
          simp only [advance, found, phase, complete_eq]
          exact .completes phase
      | cons entry rest =>
          cases outcome : entry.2.prepare project with
          | ok _ =>
              simp only [advance, found, phase, outcome]
              exact .prepares phase outcome
          | error failure =>
              simp only [advance, found, phase, outcome]
              exact .failsToPrepare phase outcome
  | finished outcome =>
      simp only [advance, found, phase]
      exact .ended phase

/-- There is no such task. -/
theorem advance_of_none (missing : e.tasks[task]? = none) : e.advance task = e := by
  simp only [advance, missing]

namespace Advances

theorem setup_eq (h : e.Advances task t e') : e'.setup = e.setup := by
  cases h <;> rfl

theorem epoch_eq (h : e.Advances task t e') : e'.epoch = e.epoch := by
  cases h <;> rfl

theorem registryEpoch_eq (h : e.Advances task t e') : e'.registryEpoch = e.registryEpoch := by
  cases h <;> rfl

/-- A step of a task changes that task only. -/
theorem tasks_eq (h : e.Advances task t e') :
    e'.tasks = e.tasks ∨ ∃ t', t.Follows e t' ∧ e'.tasks = e.tasks.set task t' := by
  cases h with
  | ended | hangs => exact .inl rfl
  | begins phase _ | adopts phase _ | loads phase _ | failsToLoad phase _ _ | prepares phase _
  | failsToPrepare phase _ | completes phase =>
      refine .inr ⟨_, ?_, rfl⟩
      exact ⟨rfl, rfl, by simp [phase, Phase.begun], by simp [phase, Phase.begun]⟩

end Advances

/-! ### Callers -/

/-- **No work is done.**  Who waits and for what may be different, and a new task may be in the
queue. -/
structure Idles (e e' : Engine) : Prop where
  setup_eq : e'.setup = e.setup
  epoch_eq : e'.epoch = e.epoch
  registryEpoch_eq : e'.registryEpoch = e.registryEpoch
  project_eq : e'.project = e.project
  ready_eq : e'.ready = e.ready
  stages_eq : e'.stages = e.stages
  prepared_eq : e'.prepared = e.prepared
  tasks_eq : e'.tasks = e.tasks ∨ ∃ source, e'.tasks = e.tasks ++ [{ source := source }]

namespace Idles

theorem refl (e : Engine) : e.Idles e := ⟨rfl, rfl, rfl, rfl, rfl, rfl, rfl, .inl rfl⟩

/-- Other callers, and another task that they join. -/
theorem callers (e : Engine) (calls : List CallState) (registered : Option Nat) :
    e.Idles { e with calls, registered } := ⟨rfl, rfl, rfl, rfl, rfl, rfl, rfl, .inl rfl⟩

end Idles

theorem release_eq (e : Engine) (task : Nat) :
    e.release task = { e with
      registered :=
        if e.registered = some task && (e.tasks[task]?.bind SetupTask.outcome?).isSome then none
        else e.registered } := by
  unfold release
  split
  · next h => rw [if_pos h]
  · next h => rw [if_neg h]

theorem idles_ask (e : Engine) (source : Source) : e.Idles (e.ask source) := by
  unfold ask
  split
  · exact .callers ..
  · split
    · exact ⟨rfl, rfl, rfl, rfl, rfl, rfl, rfl, .inr ⟨source, rfl⟩⟩
    · split
      · rw [release_eq]
        exact .callers ..
      · exact .callers ..

theorem idles_resume (e : Engine) (call : Nat) : e.Idles (e.resume call) := by
  unfold resume
  split
  · split
    · rw [release_eq]
      exact .callers ..
    · exact .refl e
  · exact .refl e

theorem idles_cancel (e : Engine) (call : Nat) : e.Idles (e.cancel call) := by
  unfold cancel
  split
  · rw [release_eq]
    exact .callers ..
  · exact .refl e

/-! ### Resets -/

/-- **The ways in which an engine is reset.**  With a registry for the new epoch the engine is as at
the beginning, but for tasks that are there.  If the factory fails, only the project is gone. -/
inductive Resets (e : Engine) : Engine → Prop where
  | renews {registry : Registry} (built : e.setup.factory = .ok registry) :
      Resets e
        { e with
          setup := { e.setup with registry }
          epoch := e.epoch + 1
          registryEpoch := e.epoch + 1
          project := none
          ready := false
          registered := none }
  | fails {failure : Failure} (refused : e.setup.factory = .error failure) :
      Resets e { e with epoch := e.epoch + 1, project := none }

theorem resets_reset (e : Engine) : e.Resets e.reset := by
  unfold reset
  dsimp only
  split
  · next registry built => exact .renews built
  · next failure refused => exact .fails refused

namespace Resets

theorem epoch_eq (h : e.Resets e') : e'.epoch = e.epoch + 1 := by
  cases h <;> rfl

theorem project_eq (h : e.Resets e') : e'.project = none := by
  cases h <;> rfl

theorem tasks_eq (h : e.Resets e') : e'.tasks = e.tasks := by
  cases h <;> rfl

theorem calls_eq (h : e.Resets e') : e'.calls = e.calls := by
  cases h <;> rfl

/-- Only the registry is another one. -/
theorem setup_eq (h : e.Resets e') :
    e'.setup = { e.setup with registry := e'.setup.registry } := by
  cases h <;> rfl

/-- If the factory fails, the engine is as ready as it was. -/
theorem ready_of_refused (h : e.Resets e') {failure : Failure}
    (refused : e.setup.factory = .error failure) : e'.ready = e.ready := by
  cases h with
  | renews built => cases built.symm.trans refused
  | fails => rfl

/-- A reset leaves no engine ready, unless the factory fails. -/
theorem refused_of_ready (h : e.Resets e') (ready : e'.ready = true) :
    (∃ failure, e.setup.factory = .error failure) ∧ e.ready = true := by
  cases h with
  | renews => cases ready
  | fails refused => exact ⟨⟨_, refused⟩, ready⟩

end Resets

/-! ### Moves and histories -/

/-- **The ways in which an engine is moved.** -/
inductive Moved (e : Engine) : Move → Engine → Prop where
  | idles {m : Move} {e' : Engine} (caller : ∀ task, m ≠ .advance task) (h : e.Idles e') :
      Moved e m e'
  | lacks {task : Nat} (missing : e.tasks[task]? = none) : Moved e (.advance task) e
  | advances {task : Nat} {t : SetupTask} {e' : Engine} (found : e.tasks[task]? = some t)
      (h : e.Advances task t e') : Moved e (.advance task) e'
  | resets {e' : Engine} (h : e.Resets e') : Moved e .reset e'

theorem moved_step (e : Engine) (m : Move) : e.Moved m (e.step m) := by
  cases m with
  | ask source => exact .idles nofun (idles_ask e source)
  | advance task =>
      cases found : e.tasks[task]? with
      | none =>
          rw [step, advance_of_none found]
          exact .lacks found
      | some t => exact .advances found (advances_advance found)
  | resume call => exact .idles nofun (idles_resume e call)
  | cancel call => exact .idles nofun (idles_cancel e call)
  | reset => exact .resets (resets_reset e)

namespace Moved

variable {m : Move}

/-- No move changes more of the setup than the registry. -/
theorem setup_eq (h : e.Moved m e') :
    e'.setup = { e.setup with registry := e'.setup.registry } := by
  cases h with
  | idles _ h => rw [h.setup_eq]
  | lacks => rfl
  | advances _ h => rw [h.setup_eq]
  | resets h => exact h.setup_eq

theorem epoch_le (h : e.Moved m e') : e.epoch ≤ e'.epoch := by
  cases h with
  | idles _ h => exact Nat.le_of_eq h.epoch_eq.symm
  | lacks => exact Nat.le_refl _
  | advances _ h => exact Nat.le_of_eq h.epoch_eq.symm
  | resets h => exact h.epoch_eq ▸ Nat.le_succ _

/-- Only steps of its own change a task. -/
theorem task_eq (h : e.Moved m e') (found : e.tasks[task]? = some t) (other : m ≠ .advance task) :
    e'.tasks[task]? = some t := by
  cases h with
  | idles _ h =>
      rcases h.tasks_eq with hs | ⟨source, hs⟩
      · rw [hs, found]
      · rw [hs, List.getElem?_append_left (List.getElem?_eq_some_iff.mp found).1, found]
  | @advances i _ _ _ h =>
      have hi : i ≠ task := fun h => other (h ▸ rfl)
      rcases h.tasks_eq with hs | ⟨_, _, hs⟩
      · rw [hs, found]
      · rw [hs, List.getElem?_set_ne hi, found]
  | lacks => exact found
  | resets h => exact h.tasks_eq ▸ found

end Moved

/-- **What every move keeps** is kept by every history. -/
theorem steps_kept {P : Engine → Prop} (kept : ∀ {e e' m}, Moved e m e' → P e → P e') :
    ∀ {e : Engine} (moves : List Move), P e → P (e.steps moves)
  | _, [], he => he
  | e, m :: rest, he => steps_kept kept rest (kept (moved_step e m) he)

/-- Moves change the registry of a setup, and nothing else of it. -/
theorem setup_steps (setup : EngineSetup) (moves : List Move) :
    ∃ registry, ((start setup).steps moves).setup = { setup with registry } :=
  steps_kept (P := fun e => ∃ registry, e.setup = { setup with registry })
    (fun {_ e' _} h ⟨_, same⟩ => ⟨e'.setup.registry, by rw [h.setup_eq, same]⟩) moves
    ⟨setup.registry, rfl⟩

/-- Tasks that have begun did so in an epoch that has come. -/
def EpochsCome (e : Engine) : Prop :=
  ∀ t ∈ e.tasks, t.phase.begun = true → t.epoch ≤ e.epoch

theorem Moved.epochsCome {m : Move} (h : e.Moved m e') (he : e.EpochsCome) : e'.EpochsCome := by
  intro t ht begun
  cases h with
  | idles _ h =>
      rw [h.epoch_eq]
      rcases h.tasks_eq with hs | ⟨source, hs⟩
      · exact he t (hs ▸ ht) begun
      · rw [hs, List.mem_append, List.mem_singleton] at ht
        rcases ht with ht | rfl
        · exact he t ht begun
        · exact absurd begun Bool.false_ne_true
  | @advances _ t₀ _ found h =>
      rw [h.epoch_eq]
      rcases h.tasks_eq with hs | ⟨t', follows, hs⟩
      · exact he t (hs ▸ ht) begun
      · rcases List.mem_or_eq_of_mem_set (hs ▸ ht) with ht | rfl
        · exact he t ht begun
        · -- the task itself: it keeps its epoch, or takes the one that is now
          rw [follows.epoch]
          split
          · next hb => exact he t₀ (List.mem_of_getElem? found) hb
          · exact Nat.le_refl _
  | lacks => exact he t ht begun
  | resets h =>
      rw [h.epoch_eq]
      exact Nat.le_succ_of_le (he t (h.tasks_eq ▸ ht) begun)

theorem epochsCome_steps (setup : EngineSetup) (moves : List Move) :
    ((start setup).steps moves).EpochsCome :=
  steps_kept Moved.epochsCome moves fun _ ht => nomatch ht

end Engine

end Verdict
