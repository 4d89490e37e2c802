import Verdict.Proofs.Simulation.Slot

/-!
# Simulation: attempts that fail

A call is made when no task is under way, no other task is started and the engine is not reset until
the call has ended.  If it fails, the engine is as unready as before.  Its project is replaced when
the fixture is loaded, before any plugin is prepared, and nothing puts the old one back.

* `rests_of_idle`: while no task is under way, the engine rests.
* `Stands`, `Attempt`: what the task of the call has made of the engine, by how far it is.
* `failed_attempt`: after a failure to load, and after a failure that the call was given from an
  earlier task, the engine has the project and the files that it had.  After a failure of a plugin
  it has those that the source of the call stood for, so failing is not atomic
  (`not_atomic_of_broken`).
-/

namespace Verdict

namespace Engine

variable {setup : EngineSetup} {e e' : Engine} {task call : Nat} {t : SetupTask} {source : Source}
  {outcome : Except SetupFault Unit}

/-! ### What every history keeps -/

theorem config_history (e : Engine) (h : List Occasion) :
    (e.history h).setup.config = e.setup.config :=
  history_kept (P := fun e' => e'.setup.config = e.setup.config) (fun o _ e' same => by
    rw [(moved_meet e' o).setup_eq]
    exact same) rfl

/-- The files of an engine are those of its project. -/
theorem availableFiles_eq (config : e'.setup.config = e.setup.config)
    (project : e'.project = e.project) : e'.availableFiles = e.availableFiles := by
  rw [availableFiles, availableFiles, config, project]

theorem Moved.tasks_length_le {m : Move} (h : e.Moved m e') :
    e.tasks.length ≤ e'.tasks.length := by
  cases h with
  | idles _ idle =>
      rcases idle.tasks_eq with same | ⟨_, added⟩
      · exact Nat.le_of_eq (congrArg List.length same.symm)
      · simp [added]
  | lacks => exact Nat.le_refl _
  | advances _ h =>
      rcases h.tasks_eq with same | ⟨_, _, set⟩
      · exact Nat.le_of_eq (congrArg List.length same.symm)
      · simp [set]
  | resets h => exact Nat.le_of_eq (congrArg List.length h.tasks_eq.symm)

theorem tasks_length_le_history (e : Engine) (h : List Occasion) :
    e.tasks.length ≤ (e.history h).tasks.length :=
  history_kept (P := fun e' => e.tasks.length ≤ e'.tasks.length)
    (fun o _ e' le => Nat.le_trans le (moved_meet e' o).tasks_length_le) (Nat.le_refl _)

/-- No task is added in a history: none is added in its parts. -/
theorem tasks_length_split {h k : List Occasion}
    (single : (e.history (h ++ k)).tasks.length = e.tasks.length) :
    (e.history h).tasks.length = e.tasks.length ∧
      ((e.history h).history k).tasks.length = (e.history h).tasks.length := by
  have first := tasks_length_le_history e h
  have second := tasks_length_le_history (e.history h) k
  rw [history_append] at single
  omega

/-- The registered task is there. -/
def SlotThere (e : Engine) : Prop := ∀ i, e.registered = some i → i < e.tasks.length

theorem SlotThere.step (there : e.SlotThere) (m : Move) : (e.step m).SlotThere := by
  cases m with
  | ask source =>
      have asked := asks_ask e source
      rw [Engine.step]
      generalize e.ask source = e' at asked
      cases asked with
      | served | joins => exact there
      | starts =>
          rintro i taken
          obtain rfl := Option.some.inj taken
          simp
      | inherits =>
          intro i taken
          cases taken
  | advance task =>
      intro i taken
      rw [Engine.step, advance_registered] at taken
      exact Nat.lt_of_lt_of_le (there i taken) (moved_step e (.advance task)).tasks_length_le
  | resume call =>
      have resumed := resumes_resume e call
      rw [Engine.step]
      generalize e.resume call = e' at resumed
      cases resumed with
      | passes => exact there
      | ends =>
          intro i taken
          split at taken
          · cases taken
          · exact there i taken
  | cancel call =>
      have cancelled := cancels_cancel e call
      rw [Engine.step]
      generalize e.cancel call = e' at cancelled
      cases cancelled with
      | passes => exact there
      | leaves =>
          intro i taken
          split at taken
          · cases taken
          · exact there i taken
  | reset =>
      have resets := resets_reset e
      rw [Engine.step]
      generalize e.reset = e' at resets
      cases resets with
      | renews =>
          intro i taken
          cases taken
      | fails => exact there

theorem slotThere_history (setup : EngineSetup) (h : List Occasion) :
    ((start setup).history h).SlotThere :=
  history_kept (P := SlotThere) (fun o _ e there =>
    SlotThere.step (e := e.amid o.surroundings) there o.move) nofun

/-- A call that waited and has ended was given the outcome of its task. -/
theorem outcome_of_ended {later : List Occasion} (waits : e.calls[call]? = some (.waiting task))
    (ended : (e.history later).calls[call]? = some (.ended outcome)) :
    (e.history later).outcomeOf? task = some outcome := by
  have fares : ((e.history later).calls[call]? = some (.waiting task) ∨
      (e.history later).calls[call]? = some .cancelled) ∨
        (e.history later).EndedWith call task := by
    refine history_kept (P := fun e => (e.calls[call]? = some (.waiting task) ∨
      e.calls[call]? = some .cancelled) ∨ e.EndedWith call task) (fun o _ e he => ?_)
      (.inl (.inl waits))
    rcases he with (waits | off) | ended
    · rcases call_step (e := e.amid o.surroundings) waits o.move with
        same | ⟨i, own, ⟨-, off⟩ | ⟨outcome, -, finished, ended⟩⟩
      · exact .inl (.inl same)
      · exact .inl (.inr off)
      · obtain rfl : task = i := by simpa using own
        have still := outcomeOf?_step (e := e.amid o.surroundings) finished o.move
        exact .inr ⟨outcome, still, ended⟩
    · rcases call_step (e := e.amid o.surroundings) off o.move with same | ⟨_, waits, -⟩
      · exact .inl (.inr same)
      · cases waits
    · exact .inr (ended.meet o)
  rcases fares with (waits | off) | ⟨own, finished, same⟩
  · cases waits.symm.trans ended
  · cases off.symm.trans ended
  · cases same.symm.trans ended
    exact finished

/-! ### While no task is under way -/

/-- No work is done, and no task is added. -/
theorem Idles.tasks_same (idle : e.Idles e') (single : e'.tasks.length = e.tasks.length) :
    e'.tasks = e.tasks := by
  rcases idle.tasks_eq with same | ⟨_, added⟩
  · exact same
  · simp [added] at single

/-- While no task is under way, and none is added, the engine rests. -/
theorem Moved.rests {m : Move} (h : e.Moved m e') (idle : ∀ i, ¬ e.Runs i) (steady : m ≠ .reset)
    (single : e'.tasks.length = e.tasks.length) : e'.tasks = e.tasks ∧ Rests e e' := by
  cases h with
  | idles _ none_ =>
      exact ⟨none_.tasks_same single, none_.ready_eq, none_.project_eq, none_.prepared_eq,
        none_.stages_eq⟩
  | lacks => exact ⟨rfl, rfl, rfl, rfl, rfl⟩
  | @advances task t _ found adv =>
      rcases adv.effect with same | ⟨running, -⟩
      · rw [same]
        exact ⟨rfl, rfl, rfl, rfl, rfl⟩
      · exact absurd ⟨t, found, running⟩ (idle task)
  | resets => exact absurd rfl steady

theorem rests_of_idle {h : List Occasion} (idle : ∀ i, ¬ e.Runs i) (steady : Steady h)
    (single : (e.history h).tasks.length = e.tasks.length) : Rests e (e.history h) := by
  induction h generalizing e with
  | nil => exact ⟨rfl, rfl, rfl, rfl⟩
  | cons o rest ih =>
      obtain ⟨first, later⟩ := tasks_length_split (h := [o]) single
      obtain ⟨tasks, met⟩ := (moved_meet e o).rests idle (steady o List.mem_cons_self) first
      have rests : Rests e (e.meet o) :=
        ⟨met.ready_eq, met.project_eq, met.prepared_eq, met.stages_eq⟩
      have next : ∀ i, ¬ (e.meet o).Runs i := by
        rintro i ⟨t, found, running⟩
        exact idle i ⟨t, tasks ▸ found, running⟩
      exact rests.trans (ih next (fun o ho => steady o (List.mem_cons_of_mem _ ho)) later)

/-! ### The task of a call -/

/-- At some step of the task the source stands for the project. -/
def Came (setup : EngineSetup) (source : Source) (task : Nat) (h : List Occasion)
    (project : Project) : Prop :=
  ∃ o ∈ h, o.move = .advance task ∧ (setup.amid o.surroundings).projectFor? source = some project

theorem Came.concat {h : List Occasion} {project : Project}
    (came : Came setup source task h project) (o : Occasion) :
    Came setup source task (h ++ [o]) project := by
  obtain ⟨a, mem, rest⟩ := came
  exact ⟨a, List.mem_append_left _ mem, rest⟩

/-- What a task that is under way alone has made of the engine, by how far it is. -/
def Stands (before : Option Project) (came : Project → Prop) (e : Engine) : Phase → Prop
  | .queued | .loading _ | .finished (.error (.fixture _)) =>
    e.ready = false ∧ e.project = before
  | .preparing project _ => e.ready = false ∧ e.project = some project ∧ came project
  | .finished (.error (.plugin _)) =>
    e.ready = false ∧ ∃ project, e.project = some project ∧ came project
  | .finished (.ok _) => True

theorem Stands.mono {before : Option Project} {came came' : Project → Prop} {phase : Phase}
    (sub : ∀ p, came p → came' p) (ready : e'.ready = e.ready) (project : e'.project = e.project)
    (h : Stands before came e phase) : Stands before came' e' phase := by
  unfold Stands at h ⊢
  rw [ready, project]
  split at h
  · exact h
  · exact h
  · exact h
  · exact ⟨h.1, h.2.1, sub _ h.2.2⟩
  · obtain ⟨unready, p, loaded, own⟩ := h
    exact ⟨unready, p, loaded, sub p own⟩
  · trivial

/-- **An attempt to make an engine ready**: one task is under way, at most, and the engine stands as
this task has made it. -/
structure Attempt (setup : EngineSetup) (source : Source) (before : Option Project) (task : Nat)
    (h : List Occasion) (e : Engine) : Prop where
  config : e.setup.config = setup.config
  only : ∀ i, e.Runs i → i = task
  stands : ∃ t, e.tasks[task]? = some t ∧ t.source = source ∧
    (t.phase.begun = true → t.epoch = e.epoch) ∧
      (∀ location, t.phase = .loading location → setup.locationFor? source = some location) ∧
        Stands before (Came setup source task h) e t.phase

namespace Attempt

variable {before : Option Project} {h : List Occasion}

/-- Nothing is done that concerns the attempt. -/
theorem still (a : Attempt setup source before task h e) (o : Occasion)
    (config : e'.setup.config = e.setup.config) (epoch : e'.epoch = e.epoch)
    (tasks : e'.tasks = e.tasks) (ready : e'.ready = e.ready) (project : e'.project = e.project) :
    Attempt setup source before task (h ++ [o]) e' := by
  obtain ⟨t, found, own, begun, loading, stands⟩ := a.stands
  refine ⟨config.trans a.config, fun i ⟨t, found, running⟩ => a.only i ⟨t, tasks ▸ found, running⟩,
    t, tasks ▸ found, own, fun b => (begun b).trans epoch.symm, loading, ?_⟩
  exact stands.mono (fun p came => came.concat o) ready project

/-- The task goes on. -/
theorem goesOn (a : Attempt setup source before task h e) (o : Occasion) {t' : SetupTask}
    (found : e.tasks[task]? = some t) (config : e'.setup.config = e.setup.config)
    (tasks : e'.tasks = e.tasks.set task t') (own : t'.source = source)
    (epoch : t'.epoch = e'.epoch)
    (loading : ∀ location, t'.phase = .loading location →
      setup.locationFor? source = some location)
    (stands : Stands before (Came setup source task (h ++ [o])) e' t'.phase) :
    Attempt setup source before task (h ++ [o]) e' := by
  refine ⟨config.trans a.config, fun i ⟨u, there, running⟩ => ?_, t', ?_, own, fun _ => epoch,
    loading, stands⟩
  · rcases own_or_other (tasks ▸ there) with ⟨rfl, -⟩ | ⟨-, there⟩
    · rfl
    · exact a.only i ⟨u, there, running⟩
  · rw [tasks, List.getElem?_set_self (List.getElem?_eq_some_iff.mp found).1]

theorem advance (a : Attempt setup source before task h e) {w : Surroundings}
    (found : e.tasks[task]? = some t) (adv : (e.amid w).Advances task t e') :
    Attempt setup source before task (h ++ [⟨w, .advance task⟩]) e' := by
  obtain ⟨u, there, own, begun, loading, stands⟩ := a.stands
  obtain rfl := Option.some.inj (there.symm.trans found)
  have came {project : Project}
      (now : (setup.amid w).projectFor? source = some project) :
      Came setup source task (h ++ [⟨w, .advance task⟩]) project :=
    ⟨⟨w, .advance task⟩, by simp, rfl, now⟩
  cases adv with
  | ended | hangs => exact a.still _ rfl rfl rfl rfl rfl
  | begins phase place =>
      rw [phase] at stands
      refine a.goesOn _ found rfl rfl own rfl (fun location same => ?_) stands
      obtain rfl := Phase.loading.inj same
      rw [← place, amid_setup, EngineSetup.locationFor?_amid, own]
      exact EngineSetup.locationFor?_congr a.config.symm _
  | adopts phase given =>
      rw [phase] at stands
      refine a.goesOn _ found rfl rfl own rfl nofun ⟨stands.1, rfl, came ?_⟩
      rw [← own, given]
      rfl
  | @loads location project phase outcome =>
      -- no reset came since the task began, so what it loads becomes the project
      rw [phase] at stands
      have epoch := begun (by rw [phase]; rfl)
      refine a.goesOn _ found rfl rfl own epoch nofun ⟨stands.1, if_pos epoch, came ?_⟩
      have place : (setup.amid w).locationFor? source = some location := by
        rw [EngineSetup.locationFor?_amid, loading location phase]
      rw [EngineSetup.projectFor?_of_location place]
      exact congrArg Except.toOption outcome
  | failsToLoad phase _ _ =>
      rw [phase] at stands
      exact a.goesOn _ found rfl rfl own (begun (by rw [phase]; rfl)) nofun stands
  | prepares phase _ =>
      rw [phase] at stands
      obtain ⟨unready, loaded, brought⟩ := stands
      refine a.goesOn _ found rfl rfl own (begun (by rw [phase]; rfl)) nofun ?_
      exact ⟨unready, loaded, brought.concat _⟩
  | failsToPrepare phase _ =>
      rw [phase] at stands
      obtain ⟨unready, loaded, brought⟩ := stands
      refine a.goesOn _ found rfl rfl own (begun (by rw [phase]; rfl)) nofun ?_
      exact ⟨unready, _, loaded, brought.concat _⟩
  | completes phase =>
      exact a.goesOn _ found rfl rfl own (begun (by rw [phase]; rfl)) nofun trivial

/-- **Every move keeps it** that is no reset and adds no task. -/
theorem meet (a : Attempt setup source before task h e) {o : Occasion} (steady : o.move ≠ .reset)
    (single : (e.meet o).tasks.length = e.tasks.length) :
    Attempt setup source before task (h ++ [o]) (e.meet o) := by
  obtain ⟨w, m⟩ := o
  have moved := moved_meet e ⟨w, m⟩
  generalize e.meet ⟨w, m⟩ = e' at moved single
  cases moved with
  | idles _ idle =>
      have config : e'.setup.config = e.setup.config := by
        rw [idle.setup_eq]
        rfl
      exact a.still _ config idle.epoch_eq (idle.tasks_same single) idle.ready_eq idle.project_eq
  | lacks => exact a.still _ rfl rfl rfl rfl rfl
  | @advances i t _ found adv =>
      by_cases own : i = task
      · subst own
        exact a.advance found adv
      · -- the other tasks have finished
        rcases adv.effect with same | ⟨running, -⟩
        · rw [same]
          exact a.still _ rfl rfl rfl rfl rfl
        · exact absurd (a.only i ⟨t, found, running⟩) own
  | resets => exact absurd rfl steady

theorem history (a : Attempt setup source before task [] e) {h : List Occasion} (steady : Steady h)
    (single : (e.history h).tasks.length = e.tasks.length) :
    Attempt setup source before task h (e.history h) := by
  revert steady single
  refine history_induction (P := fun h e' => Steady h → e'.tasks.length = e.tasks.length →
    Attempt setup source before task h e') (fun _ _ => a) (fun h o ih steady single => ?_) h
  obtain ⟨earlier, last⟩ := tasks_length_split (h := h) (k := [o])
    (by rw [history_append]; exact single)
  exact (ih (fun o ho => steady o (List.mem_append_left _ ho)) earlier).meet (steady o (by simp))
    last

end Attempt

/-- **A call when no task is under way.**  It is answered because the engine is ready; it starts an
attempt and waits; or a task that has finished is registered still, and no task is started. -/
theorem ask_of_idle (config : e.setup.config = setup.config) (there : e.SlotThere)
    (idle : ∀ i, ¬ e.Runs i) (source : Source) :
    (e.ask source).calls[e.calls.length]? = some (.ended (.ok ())) ∨
      (e.registered = none ∧ Attempt setup source e.project e.tasks.length [] (e.ask source) ∧
        (e.ask source).calls[e.calls.length]? = some (.waiting e.tasks.length)) ∨
      (e.registered ≠ none ∧ e.ready = false ∧ (e.ask source).tasks = e.tasks) := by
  have asked := asks_ask e source
  generalize e.ask source = e' at asked
  cases asked with
  | served ready => exact .inl (by simp)
  | starts unready free =>
      refine .inr (.inl ⟨free, ⟨config, fun i ⟨t, found, running⟩ => ?_, { source := source }, ?_,
        rfl, nofun, nofun, unready, rfl⟩, by simp⟩)
      · rcases old_or_added found with old | ⟨new, -⟩
        · exact absurd ⟨t, old, running⟩ (idle i)
        · exact new
      · simp
  | @joins task unready taken pending =>
      have found := List.getElem?_eq_getElem (there task taken)
      exact absurd (runs_of_outcome_none found pending) (idle task)
  | inherits unready taken finished => exact .inr (.inr ⟨by simp [taken], unready, rfl⟩)

/-- What a task that has failed leaves. -/
theorem Attempt.failed {before : Option Project} {h : List Occasion} {fault : SetupFault}
    (a : Attempt setup source before task h e) (failed : e.outcomeOf? task = some (.error fault)) :
    Stands before (Came setup source task h) e (.finished (.error fault)) := by
  obtain ⟨t, found, -, -, -, stands⟩ := a.stands
  obtain ⟨u, there, finished⟩ := exists_of_outcome failed
  obtain rfl := Option.some.inj (found.symm.trans there)
  have phase : t.phase = .finished (.error fault) := by
    unfold SetupTask.outcome? at finished
    split at finished
    · next same => rw [same, Option.some.inj finished]
    · cases finished
  exact phase ▸ stands

/-! ### The call fails -/

/-- The files of a project that are not excluded by the settings. -/
theorem availableFiles_of_project {project : Project} (config : e.setup.config = setup.config)
    (loaded : e.project = some project) :
    e.availableFiles = project.listFiles { excluded := setup.config.fixtures.excluded } := by
  rw [availableFiles, loaded, config]

/-- **A call that fails**, made when no task is under way.  No other task is started and the engine
is not reset until it has ended.  Then the engine is not ready, and

* if the fixture could not be loaded, or the call was given the failure of an earlier task, the
  engine has the project and the files that it had;
* if the call started a task and a plugin failed, the engine has the project that the source of the
  call stood for, and the files of that. -/
theorem failed_attempt (setup : EngineSetup) (h : List Occasion) (asked : Occasion)
    (later : List Occasion) (source : Source) (fault : SetupFault)
    (idle : ∀ i, ¬ ((start setup).history h).Runs i) (own : asked.move = .ask source)
    (steady : Steady later)
    (single : (((start setup).history h).history (asked :: later)).tasks.length =
      (((start setup).history h).meet asked).tasks.length)
    (failed : (((start setup).history h).history (asked :: later)).calls[
      ((start setup).history h).calls.length]? = some (.ended (.error fault))) :
    let now := (start setup).history h
    let e := now.history (asked :: later)
    e.ready = false ∧
      ((∃ f, fault = .fixture f) ∨ now.registered ≠ none →
        e.project = now.project ∧ e.availableFiles = now.availableFiles) ∧
      ((∃ f, fault = .plugin f) → now.registered = none → ∃ project,
        Came setup source now.tasks.length later project ∧ e.project = some project ∧
          e.availableFiles =
            project.listFiles { excluded := setup.config.fixtures.excluded }) := by
  intro now e
  have config : now.setup.config = setup.config := config_history (start setup) h
  have same : e.setup.config = now.setup.config := config_history now (asked :: later)
  have made : now.meet asked = (now.amid asked.surroundings).ask source := by
    rw [meet, own]
    rfl
  have idles := idles_ask (now.amid asked.surroundings) source
  have call := ask_of_idle (e := now.amid asked.surroundings) config (slotThere_history setup h)
    idle source
  rw [← made] at idles call
  rcases call with served | ⟨free, attempt, waits⟩ | ⟨taken, unready, tasks⟩
  · -- a call that was answered at once has not failed
    cases (ended_history served later).symm.trans failed
  · have a := attempt.history steady single
    have stands := a.failed (outcome_of_ended waits failed)
    cases fault with
    | fixture f =>
        obtain ⟨unready, kept⟩ := stands
        refine ⟨unready, fun _ => ⟨kept, availableFiles_eq same kept⟩, fun other => ?_⟩
        obtain ⟨f, wrong⟩ := other
        cases wrong
    | plugin f =>
        obtain ⟨unready, project, loaded, came⟩ := stands
        refine ⟨unready, fun other => ?_, fun _ _ => ⟨project, came, loaded, ?_⟩⟩
        · rcases other with ⟨f, wrong⟩ | taken
          · cases wrong
          · exact absurd free taken
        · exact availableFiles_of_project (same.trans config) loaded
  · -- the call only waits for a task that has finished
    have quiet : ∀ i, ¬ (now.meet asked).Runs i := by
      rintro i ⟨t, found, running⟩
      exact idle i ⟨t, tasks ▸ found, running⟩
    have rests := rests_of_idle quiet steady single
    have kept : e.project = now.project := rests.project_eq.trans idles.project_eq
    refine ⟨rests.ready_eq.trans (idles.ready_eq.trans unready),
      fun _ => ⟨kept, availableFiles_eq same kept⟩, fun _ free => absurd free taken⟩

/-- An engine with a plugin that cannot be prepared. -/
def brokenSetup : EngineSetup where
  registry :=
    { plugins := [("broken",
        { name := "broken", prepare := fun _ => .error ⟨"RuntimeError", "boom"⟩ })] }
  load location := .failed (.refused location 404)

/-- A move of that engine. -/
def broken (m : Move) : Occasion := ⟨brokenSetup.surroundings, m⟩

/-- The call for a project of one file. -/
def brokenCall : Occasion := broken (.ask (.given (.ofFiles [("a.txt", "x")])))

/-- The task goes on until the plugin has failed, and then the call goes on. -/
def brokenTurns : List Occasion := [.advance 0, .advance 0, .resume 0].map broken

/-- The call fails because of the plugin, and the engine has the project of the call. -/
theorem failed_attempt_of_broken :
    let now := start brokenSetup
    let e := now.history (brokenCall :: brokenTurns)
    let fault : PluginFault := .unprepared "broken" ⟨"RuntimeError", "boom"⟩
    (∀ i, ¬ now.Runs i) ∧ Steady brokenTurns ∧ e.tasks.length = (now.meet brokenCall).tasks.length ∧
      e.calls[now.calls.length]? = some (.ended (.error (.plugin fault))) ∧ e.ready = false ∧
        ∃ project, Came brokenSetup (.given (.ofFiles [("a.txt", "x")])) 0 brokenTurns project ∧
          e.project = some project ∧ e.availableFiles =
            project.listFiles { excluded := brokenSetup.config.fixtures.excluded } := by
  intro now e fault
  have idle : ∀ i, ¬ now.Runs i := fun i ⟨t, found, _⟩ => nomatch found
  have steady : Steady brokenTurns := by simp [Steady, brokenTurns, broken]
  obtain ⟨unready, -, loaded⟩ := failed_attempt brokenSetup [] brokenCall brokenTurns _
    (.plugin fault) idle rfl steady rfl rfl
  exact ⟨idle, steady, rfl, rfl, unready, loaded ⟨fault, rfl⟩ rfl⟩

/-- Before the call the engine had no project and no files. -/
theorem not_atomic_of_broken :
    let now := start brokenSetup
    let e := now.history (brokenCall :: brokenTurns)
    (∀ i, ¬ now.Runs i) ∧
      e.calls[now.calls.length]? = some (.ended (.error (.plugin
        (.unprepared "broken" ⟨"RuntimeError", "boom"⟩)))) ∧
      ¬ (e.project = now.project ∧ e.availableFiles = now.availableFiles) ∧
        now.availableFiles = [] ∧ e.availableFiles = ["a.txt"] := by
  intro now e
  have idle : ∀ i, ¬ now.Runs i := fun i ⟨t, found, _⟩ => nomatch found
  refine ⟨idle, rfl, fun ⟨same, _⟩ => ?_, rfl, ?_⟩
  · cases same
  · decide

end Engine

end Verdict
