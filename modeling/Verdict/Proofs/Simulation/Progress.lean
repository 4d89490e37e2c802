import Verdict.Proofs.Simulation.Flight

/-!
# Simulation: what tasks achieve

In a history without a reset, everything that an engine has is owed to the task that runs, or to the
one that made it ready.

* `StartedBy`, `Brings`: the call that started a task, and the project that the task came to by the
  source of that call.
* `Flight`: the project of the engine is that of the task that prepares plugins, which were prepared
  for it last of all; and so it is when the engine is ready, with all plugins.
* `flight_history`: this holds after every history without a reset.
-/

namespace Verdict

namespace EngineSetup

theorem locationFor?_congr {s s' : EngineSetup} (config : s.config = s'.config) (source : Source) :
    s.locationFor? source = s'.locationFor? source := by
  cases source <;> simp [locationFor?, config]

end EngineSetup

namespace Engine

variable {setup : EngineSetup} {h : List Occasion} {e e' : Engine} {task : Nat} {t : SetupTask}
  {source : Source} {project : Project}

/-- A call that is made now starts a task. -/
def Free (e : Engine) : Prop := e.ready = false ∧ e.registered = none

/-- A call of the history, made with a source, starts a task. -/
def StartedBy (setup : EngineSetup) (h : List Occasion) (task : Nat) (source : Source)
    (after : List Occasion) : Prop :=
  ∃ before asked, h = before ++ asked :: after ∧ asked.move = .ask source ∧
    ((start setup).history before).Free ∧ ((start setup).history before).tasks.length = task

/-- A call of the history starts a task, and at a later step of the task the source of the call
stands for a project. -/
def Brings (setup : EngineSetup) (h : List Occasion) (task : Nat) (source : Source)
    (project : Project) : Prop :=
  ∃ after, StartedBy setup h task source after ∧
    ∃ o ∈ after, o.move = .advance task ∧
      (setup.amid o.surroundings).projectFor? source = some project

theorem StartedBy.concat {after : List Occasion} (s : StartedBy setup h task source after)
    (o : Occasion) : StartedBy setup (h ++ [o]) task source (after ++ [o]) := by
  obtain ⟨before, asked, split, rest⟩ := s
  exact ⟨before, asked, by simp [split], rest⟩

theorem Brings.concat (b : Brings setup h task source project) (o : Occasion) :
    Brings setup (h ++ [o]) task source project := by
  obtain ⟨after, started, later, mem, rest⟩ := b
  exact ⟨after ++ [o], started.concat o, later, List.mem_append_left _ mem, rest⟩

/-- The preparations of these plugins for a project are the last ones, one after another. -/
def LastPrepared (names : List String) (project : Project) (e : Engine) : Prop :=
  ∃ earlier, e.prepared = earlier ++ names.map fun name => ⟨e.epoch, name, project⟩

/-- At first all plugins of a registry are still to be prepared. -/
theorem exists_lastPrepared {registry : Registry} {names : List String}
    (all : registry.pluginNames = names) (project : Project) (e : Engine) :
    ∃ done, names = done ++ Table.keys registry.plugins ∧ LastPrepared done project e :=
  ⟨[], all.symm, e.prepared, by simp⟩

/-- **What the tasks have achieved.** -/
structure Flight (setup : EngineSetup) (h : List Occasion) (e : Engine) : Prop where
  config : e.setup.config = setup.config
  names : e.setup.registry.pluginNames = setup.registry.pluginNames
  started : ∀ {i : Nat} {t : SetupTask}, e.tasks[i]? = some t →
    ∃ after, StartedBy setup h i t.source after
  loading : ∀ {i : Nat} {t : SetupTask} {location : String}, e.tasks[i]? = some t →
    t.phase = .loading location → setup.locationFor? t.source = some location ∧
      t.registry.pluginNames = setup.registry.pluginNames
  preparing : ∀ {i : Nat} {t : SetupTask} {project : Project} {rest : List (String × Plugin)},
    e.tasks[i]? = some t → t.phase = .preparing project rest →
      e.project = some project ∧ Brings setup h i t.source project ∧
        ∃ done, setup.registry.pluginNames = done ++ Table.keys rest ∧ LastPrepared done project e
  ready : e.ready = true → ∃ i source project, e.outcomeOf? i = some (.ok ()) ∧
    e.project = some project ∧ Brings setup h i source project ∧
      LastPrepared setup.registry.pluginNames project e

namespace Flight

theorem start (setup : EngineSetup) : Flight setup [] (Engine.start setup) where
  config := rfl
  names := rfl
  started := nofun
  loading := nofun
  preparing := nofun
  ready := nofun

/-- No work is done: a task that was not there is in the queue, and a call started it. -/
theorem idles (f : Flight setup h e) {o : Occasion} (idle : (e.amid o.surroundings).Idles e')
    (new : ∀ {i : Nat} {t : SetupTask}, e'.tasks[i]? = some t → e.tasks[i]? = some t ∨
      t.phase = .queued ∧ ∃ after, StartedBy setup (h ++ [o]) i t.source after)
    (old : ∀ {i outcome}, e.outcomeOf? i = some outcome → e'.outcomeOf? i = some outcome) :
    Flight setup (h ++ [o]) e' := by
  have last {names : List String} {project : Project} (l : LastPrepared names project e) :
      LastPrepared names project e' := by
    obtain ⟨earlier, prepared⟩ := l
    exact ⟨earlier, by rw [idle.prepared_eq, idle.epoch_eq]; exact prepared⟩
  refine ⟨?_, ?_, fun {i t} found => ?_, fun {i t location} found phase => ?_,
    fun {i t project rest} found phase => ?_, fun ready => ?_⟩
  · rw [idle.setup_eq]
    exact f.config
  · rw [idle.setup_eq]
    simpa using f.names
  · rcases new found with there | ⟨-, started⟩
    · obtain ⟨after, started⟩ := f.started there
      exact ⟨_, started.concat o⟩
    · exact started
  · rcases new found with there | ⟨queued, -⟩
    · exact f.loading there phase
    · simp [queued] at phase
  · rcases new found with there | ⟨queued, -⟩
    · obtain ⟨loaded, brings, done, names, prepared⟩ := f.preparing there phase
      exact ⟨idle.project_eq.trans loaded, brings.concat o, done, names, last prepared⟩
    · simp [queued] at phase
  · obtain ⟨i, source, project, ok, loaded, brings, prepared⟩ := f.ready (idle.ready_eq ▸ ready)
    exact ⟨i, source, project, old ok, idle.project_eq.trans loaded, brings.concat o,
      last prepared⟩

/-- A task goes on: the others have finished, so only what the task itself comes to counts. -/
theorem advances (f : Flight setup h e) (s : SingleFlight e) {o : Occasion} {t' : SetupTask}
    (found : e.tasks[task]? = some t) (running : t.outcome? = none)
    (setup_eq : e'.setup = e.setup.amid o.surroundings)
    (tasks : e'.tasks = e.tasks.set task t') (source : t'.source = t.source)
    (loading : ∀ {location}, t'.phase = .loading location →
      setup.locationFor? t.source = some location ∧
        t'.registry.pluginNames = setup.registry.pluginNames)
    (preparing : ∀ {project rest}, t'.phase = .preparing project rest →
      e'.project = some project ∧ Brings setup (h ++ [o]) task t.source project ∧
        ∃ done, setup.registry.pluginNames = done ++ Table.keys rest ∧
          LastPrepared done project e')
    (ready : e'.ready = true → ∃ source project, t'.outcome? = some (.ok ()) ∧
      e'.project = some project ∧ Brings setup (h ++ [o]) task source project ∧
        LastPrepared setup.registry.pluginNames project e') :
    Flight setup (h ++ [o]) e' := by
  have hlt : task < e.tasks.length := (List.getElem?_eq_some_iff.mp found).1
  have here : e'.tasks[task]? = some t' := by rw [tasks, List.getElem?_set_self hlt]
  have own_or_old {i : Nat} {u : SetupTask} (there : e'.tasks[i]? = some u) :
      i = task ∧ u = t' ∨ e.tasks[i]? = some u ∧ u.outcome? ≠ none := by
    rcases own_or_other (tasks ▸ there) with own | ⟨other, there⟩
    · exact .inl own
    · exact .inr ⟨there, fun pending =>
        other (s.runs_unique ⟨u, there, pending⟩ ⟨t, found, running⟩)⟩
  refine ⟨?_, ?_, fun {i u} there => ?_, fun {i u location} there phase => ?_,
    fun {i u project rest} there phase => ?_, fun now => ?_⟩
  · rw [setup_eq]
    exact f.config
  · rw [setup_eq]
    simpa using f.names
  · rcases own_or_old there with ⟨rfl, rfl⟩ | ⟨there, -⟩
    · obtain ⟨after, started⟩ := f.started found
      exact ⟨_, source ▸ started.concat o⟩
    · obtain ⟨after, started⟩ := f.started there
      exact ⟨_, started.concat o⟩
  · rcases own_or_old there with ⟨rfl, rfl⟩ | ⟨-, finished⟩
    · exact source ▸ loading phase
    · simp [SetupTask.outcome?, phase] at finished
  · rcases own_or_old there with ⟨rfl, rfl⟩ | ⟨-, finished⟩
    · exact source ▸ preparing phase
    · simp [SetupTask.outcome?, phase] at finished
  · obtain ⟨source, project, ok, rest⟩ := ready now
    exact ⟨task, source, project, by simp [outcomeOf?, here, ok], rest⟩

/-- No work is done, and no task is added. -/
theorem same (f : Flight setup h e) {o : Occasion}
    (idle : (e.amid o.surroundings).Idles (e.meet o)) (tasks : (e.meet o).tasks = e.tasks) :
    Flight setup (h ++ [o]) (e.meet o) :=
  f.idles idle (fun found => .inl (tasks ▸ found)) fun out =>
    outcomeOf?_step (e := e.amid o.surroundings) out o.move

/-- The engine has the same plugins in other surroundings. -/
theorem amid_names (f : Flight setup h e) (w : Surroundings) :
    (e.setup.amid w).registry.pluginNames = setup.registry.pluginNames :=
  (EngineSetup.amid_pluginNames _ _).trans f.names

/-- The call that started a task brings the project that the source stands for at its next step. -/
theorem brings (f : Flight setup h e) {o : Occasion} (found : e.tasks[task]? = some t)
    (own : o.move = .advance task)
    (stands : (setup.amid o.surroundings).projectFor? t.source = some project) :
    Brings setup (h ++ [o]) task t.source project := by
  obtain ⟨after, started⟩ := f.started found
  exact ⟨after ++ [o], started.concat o, o, by simp, own, stands⟩

theorem advance (s : SingleFlight e) (f : Flight setup h e) {w : Surroundings}
    (found : e.tasks[task]? = some t) (adv : (e.amid w).Advances task t e') :
    Flight setup (h ++ [⟨w, .advance task⟩]) e' := by
  have epoch : t.epoch = e.epoch :=
    (s.task_epoch t (List.mem_of_getElem? found)).trans s.epoch.symm
  obtain rfl | ⟨running, -⟩ := adv.effect
  · exact f.idles (o := ⟨w, .advance task⟩) (.refl _) .inl id
  have unready : e.ready ≠ true := by
    simp [s.unready_of_runs ⟨t, found, running⟩]
  cases adv with
  | ended | hangs => exact f.idles (o := ⟨w, .advance task⟩) (.refl _) .inl id
  | begins phase place =>
      refine f.advances s (o := ⟨w, .advance task⟩) found running rfl rfl rfl (fun same => ?_)
        nofun (fun now => absurd now unready)
      obtain rfl := Phase.loading.inj same
      refine ⟨?_, f.amid_names w⟩
      rw [← place, amid_setup, EngineSetup.locationFor?_amid]
      exact EngineSetup.locationFor?_congr f.config.symm _
  | @adopts project phase given =>
      refine f.advances s (o := ⟨w, .advance task⟩) found running rfl rfl rfl nofun (fun same => ?_)
        (fun now => absurd now unready)
      obtain ⟨rfl, rfl⟩ := Phase.preparing.inj same
      exact ⟨rfl, f.brings found rfl (by rw [given]; rfl),
        exists_lastPrepared (f.amid_names w) project _⟩
  | @loads location project phase outcome =>
      refine f.advances s (o := ⟨w, .advance task⟩) found running rfl rfl rfl nofun (fun same => ?_)
        (fun now => absurd now unready)
      obtain ⟨rfl, rfl⟩ := Phase.preparing.inj same
      obtain ⟨place, all⟩ := f.loading found phase
      refine ⟨if_pos epoch, f.brings found rfl ?_, exists_lastPrepared all project _⟩
      rw [← EngineSetup.locationFor?_amid (w := w)] at place
      rw [EngineSetup.projectFor?_of_location place]
      exact congrArg Except.toOption outcome
  | failsToLoad | failsToPrepare =>
      exact f.advances s (o := ⟨w, .advance task⟩) found running rfl rfl rfl nofun nofun
        (fun now => absurd now unready)
  | @prepares project name plugin rest phase outcome =>
      refine f.advances s (o := ⟨w, .advance task⟩) found running rfl rfl rfl nofun (fun same => ?_)
        (fun now => absurd now unready)
      obtain ⟨rfl, rfl⟩ := Phase.preparing.inj same
      obtain ⟨loaded, brings, done, names, earlier, prepared⟩ := f.preparing found phase
      refine ⟨loaded, brings.concat _, done ++ [name], by simp [names, Table.keys], earlier, ?_⟩
      simp [prepared, epoch]
  | @completes project phase =>
      refine f.advances s (o := ⟨w, .advance task⟩) found running rfl rfl rfl
        (fun same => by cases same) (fun same => by cases same) (fun _ => ?_)
      obtain ⟨loaded, brings, done, names, prepared⟩ := f.preparing found phase
      obtain rfl : setup.registry.pluginNames = done := by simpa [Table.keys] using names
      exact ⟨t.source, project, rfl, loaded, brings.concat _, prepared⟩

/-- A call is made: if it starts a task, that is the one with the next number. -/
theorem ask (f : Flight setup h e) (reached : e = (Engine.start setup).history h)
    (w : Surroundings) (source : Source) :
    Flight setup (h ++ [⟨w, .ask source⟩]) ((e.amid w).ask source) := by
  have asked := asks_ask (e.amid w) source
  have idle := idles_ask (e.amid w) source
  have old {i : Nat} {outcome : Except SetupFault Unit} (out : e.outcomeOf? i = some outcome) :
      ((e.amid w).ask source).outcomeOf? i = some outcome :=
    outcomeOf?_step (e := e.amid w) out (.ask source)
  generalize (e.amid w).ask source = e' at asked idle old
  refine f.idles (o := ⟨w, .ask source⟩) idle (fun {i t} found => ?_) old
  cases asked with
  | served | joins | inherits => exact .inl found
  | starts unready free =>
      rcases old_or_added found with there | ⟨rfl, rfl⟩
      · exact .inl there
      · exact .inr ⟨rfl, [], h, _, rfl, rfl, reached ▸ ⟨unready, free⟩, reached ▸ rfl⟩

theorem meet (s : SingleFlight e) (f : Flight setup h e)
    (reached : e = (Engine.start setup).history h) {o : Occasion} (steady : o.move ≠ .reset) :
    Flight setup (h ++ [o]) (e.meet o) := by
  obtain ⟨w, m⟩ := o
  cases m with
  | ask source => exact f.ask reached w source
  | advance task =>
      cases found : e.tasks[task]? with
      | none =>
          have none_ : e.meet ⟨w, .advance task⟩ = e.amid w := advance_of_none (e := e.amid w) found
          exact f.same (none_ ▸ .refl _) (none_ ▸ rfl)
      | some t => exact f.advance s found (advances_advance (e := e.amid w) found)
  | resume call => exact f.same (idles_resume (e.amid w) call) (resume_tasks (e.amid w) call)
  | cancel call => exact f.same (idles_cancel (e.amid w) call) (cancel_tasks (e.amid w) call)
  | reset => exact absurd rfl steady

end Flight

/-- **What the tasks have achieved** after a history without a reset. -/
theorem flight_history (setup : EngineSetup) {h : List Occasion} (steady : Steady h) :
    SingleFlight ((start setup).history h) ∧ Flight setup h ((start setup).history h) := by
  revert steady
  refine history_induction
    (P := fun h e => Steady h → SingleFlight e ∧ Flight setup h e)
    (fun _ => ⟨.start setup, .start setup⟩) (fun h o ih steady => ?_) h
  have earlier : Steady h := fun o ho => steady o (List.mem_append_left _ ho)
  have last : o.move ≠ .reset := steady o (by simp)
  obtain ⟨s, f⟩ := ih earlier
  exact ⟨s.meet last, f.meet s rfl last⟩

end Engine

end Verdict
