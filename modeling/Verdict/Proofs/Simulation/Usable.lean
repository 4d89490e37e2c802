import Verdict.Proofs.Simulation.Ending
import Verdict.Proofs.Simulation.Flight

/-!
# Simulation: engines that are ready

An engine that says it is ready can be used, whatever has happened to it, unless a reset stopped
halfway.  Several tasks may be under way, of this epoch and of earlier ones, and share what they
write to.

* `Engine.Supplied`: a task of the present epoch has come to its project.  The engine has a project
  exactly then.
* `Furnished`: plugins are prepared in the order of the registry that a task took; an engine that is
  ready owes it to a task that took the registry which the engine has.  Every move keeps that
  (`Moved.furnished`).
* `Halted`: the engine was ready when it was last reset, and the factory of registries failed.  The
  project was gone by then, and the engine is ready still (`Halted.ready`).
* `ready_is_usable_unless_stranded`: an engine that is ready has had all plugins of its registry
  prepared, and it has a project unless it is stranded by such a reset.
-/

namespace Verdict

/-- The task has come to its project. -/
def SetupTask.loaded (t : SetupTask) : Bool :=
  match t.phase with
  | .preparing _ _ | .finished (.ok _) | .finished (.error (.plugin _)) => true
  | _ => false

theorem SetupTask.begun_of_loaded {t : SetupTask} (h : t.loaded = true) :
    t.phase.begun = true := by
  cases phase : t.phase with
  | queued => simp [loaded, phase] at h
  | _ => rfl

/-- The engine is to be reset, and the factory fails. -/
def Occasion.Fails (o : Occasion) : Prop :=
  o.move = .reset ∧ ∃ failure, o.surroundings.factory = .error failure

namespace Engine

variable {setup : EngineSetup} {h : List Occasion} {e e' : Engine} {task : Nat}
  {t t' : SetupTask}

/-! ### Projects -/

/-- A task that began in the present epoch has come to its project. -/
def Supplied (e : Engine) : Prop := ∃ t ∈ e.tasks, t.loaded = true ∧ t.epoch = e.epoch

/-- The engine has a project exactly if a task of the present epoch has come to it. -/
def Stocked (e : Engine) : Prop := e.project.isSome = true ↔ e.Supplied

/-- A task is changed, and counts as before. -/
theorem Stocked.keeps (s : e.Stocked) (found : e.tasks[task]? = some t)
    (project : e'.project = e.project) (epoch : e'.epoch = e.epoch)
    (tasks : e'.tasks = e.tasks.set task t')
    (same : t'.loaded = true ∧ t'.epoch = e.epoch ↔ t.loaded = true ∧ t.epoch = e.epoch) :
    e'.Stocked := by
  have hlt : task < e.tasks.length := (List.getElem?_eq_some_iff.mp found).1
  rw [Stocked, project, Supplied, tasks, epoch]
  refine s.trans ⟨?_, ?_⟩
  · rintro ⟨u, hu, counts⟩
    by_cases own : e.tasks[task]? = some u
    · obtain rfl := Option.some.inj (found.symm.trans own)
      exact ⟨t', List.mem_set hlt t', same.mpr counts⟩
    · exact ⟨u, mem_set_of_mem hu own, counts⟩
  · rintro ⟨u, hu, counts⟩
    rcases List.mem_or_eq_of_mem_set hu with old | rfl
    · exact ⟨u, old, counts⟩
    · exact ⟨t, List.mem_of_getElem? found, same.mp counts⟩

/-- A task comes to its project in the present epoch. -/
theorem stocked_of_loaded (found : e.tasks[task]? = some t) (project : e'.project.isSome = true)
    (epoch : e'.epoch = e.epoch) (tasks : e'.tasks = e.tasks.set task t')
    (loaded : t'.loaded = true) (own : t'.epoch = e.epoch) : e'.Stocked := by
  have hlt : task < e.tasks.length := (List.getElem?_eq_some_iff.mp found).1
  exact iff_of_true project
    ⟨t', tasks ▸ List.mem_set hlt t', loaded, own.trans epoch.symm⟩

theorem Advances.stocked (h : e.Advances task t e') (found : e.tasks[task]? = some t)
    (s : e.Stocked) : e'.Stocked := by
  cases h with
  | ended | hangs => exact s
  | begins phase _ | failsToLoad phase _ _ | prepares phase _ | failsToPrepare phase _
  | completes phase =>
      exact s.keeps found rfl rfl rfl (by simp [SetupTask.loaded, phase])
  | adopts phase _ => exact stocked_of_loaded found rfl rfl rfl rfl rfl
  | loads phase _ =>
      by_cases own : t.epoch = e.epoch
      · exact stocked_of_loaded found (by simp [own]) rfl rfl rfl own
      · exact s.keeps found (if_neg own) rfl rfl (by simp [own])

/-- What tasks have come to in earlier epochs does not count after a reset. -/
theorem Resets.stocked (h : e.Resets e') (epochs : e.EpochsCome) : e'.Stocked := by
  refine iff_of_false (by simp [h.project_eq]) ?_
  rintro ⟨t, ht, loaded, epoch⟩
  have earlier := epochs t (h.tasks_eq ▸ ht) (SetupTask.begun_of_loaded loaded)
  rw [h.epoch_eq] at epoch
  omega

theorem Idles.stocked (h : e.Idles e') (s : e.Stocked) : e'.Stocked := by
  rw [Stocked, h.project_eq, Supplied, h.epoch_eq]
  refine s.trans ?_
  rcases h.tasks_eq with same | ⟨source, more⟩
  · rw [same, Supplied]
  · simp [Supplied, more, SetupTask.loaded]

/-! ### Plugins -/

/-- Plugins of the registry of an epoch were prepared for a project, in this order. -/
def Prepared (e : Engine) (epoch : Nat) (names : List String) (project : Project) : Prop :=
  (names.map fun name => (⟨epoch, name, project⟩ : Preparation)).Sublist e.prepared

/-- A task that took the registry which the engine has finished well, with all of its plugins. -/
def Completed (e : Engine) : Prop :=
  ∃ t ∈ e.tasks, t.outcome? = some (.ok ()) ∧ e.registryEpoch ≤ t.epoch ∧
    ∃ project, e.Prepared t.epoch e.setup.registry.pluginNames project

/-- Tasks that began when the registry was there have taken it. -/
def Took (e : Engine) : Prop :=
  ∀ t ∈ e.tasks, t.phase.begun = true → e.registryEpoch ≤ t.epoch →
    t.registry.pluginNames = e.setup.registry.pluginNames

theorem Advances.took (h : e.Advances task t e') (found : e.tasks[task]? = some t)
    (took : e.Took) : e'.Took := by
  intro u hu begun since
  rw [h.setup_eq]
  rw [h.registryEpoch_eq] at since
  rcases h.tasks_eq with same | ⟨t', follows, set⟩
  · exact took u (same ▸ hu) begun since
  · rcases List.mem_or_eq_of_mem_set (set ▸ hu) with old | rfl
    · exact took u old begun since
    · -- the task itself takes the registry now, or had done so
      rw [follows.registry]
      rw [follows.epoch] at since
      split
      · next before =>
          exact took t (List.mem_of_getElem? found) before (by simpa [before] using since)
      · rfl

/-- **What tasks have furnished an engine with.** -/
structure Furnished (e : Engine) : Prop where
  epochs : e.EpochsCome
  built : e.registryEpoch ≤ e.epoch
  took : e.Took
  stocked : e.Stocked
  preparing : ∀ t ∈ e.tasks, ∀ project rest, t.phase = .preparing project rest →
    ∃ done, t.registry.pluginNames = done ++ Table.keys rest ∧ e.Prepared t.epoch done project
  ready : e.ready = true → e.Completed

namespace Furnished

theorem start (setup : EngineSetup) : Furnished (Engine.start setup) where
  epochs := fun _ ht => nomatch ht
  built := Nat.le_refl _
  took := fun _ ht => nomatch ht
  stocked := by simp [Stocked, Supplied, Engine.start]
  preparing := fun _ ht => nomatch ht
  ready := nofun

theorem amid (f : Furnished e) (w : Surroundings) : Furnished (e.amid w) where
  epochs := f.epochs
  built := f.built
  took t ht begun since := by
    rw [amid_setup, EngineSetup.amid_pluginNames]
    exact f.took t ht begun since
  stocked := f.stocked
  preparing := f.preparing
  ready now := by
    rw [Completed, amid_setup, EngineSetup.amid_pluginNames]
    exact f.ready now

/-- No work is done: another task can only be in the queue. -/
theorem idles (f : Furnished e) (idle : e.Idles e') (epochs : e'.EpochsCome) : Furnished e' := by
  have there (t : SetupTask) (ht : t ∈ e'.tasks) (begun : t.phase.begun = true) :
      t ∈ e.tasks := by
    rcases idle.tasks_eq with same | ⟨source, more⟩
    · exact same ▸ ht
    · rcases List.mem_append.mp (more ▸ ht) with there | added
      · exact there
      · simp [List.mem_singleton.mp added, Phase.begun] at begun
  have old (t : SetupTask) (ht : t ∈ e.tasks) : t ∈ e'.tasks := by
    rcases idle.tasks_eq with same | ⟨source, more⟩
    · exact same ▸ ht
    · exact more ▸ List.mem_append_left _ ht
  refine ⟨epochs, ?_, fun t ht begun => ?_, idle.stocked f.stocked,
    fun t ht project rest phase => ?_, fun ready => ?_⟩
  · rw [idle.registryEpoch_eq, idle.epoch_eq]
    exact f.built
  · rw [idle.registryEpoch_eq, idle.setup_eq]
    exact f.took t (there t ht begun) begun
  · simp only [Prepared, idle.prepared_eq]
    exact f.preparing t (there t ht (by rw [phase]; rfl)) project rest phase
  · obtain ⟨t, ht, finished⟩ := f.ready (idle.ready_eq ▸ ready)
    refine ⟨t, old t ht, ?_⟩
    simp only [idle.registryEpoch_eq, idle.setup_eq, Prepared, idle.prepared_eq]
    exact finished

/-- A task goes on: what it comes to is to be shown, the rest stays. -/
theorem advances (f : Furnished e) (found : e.tasks[task]? = some t)
    (running : t.outcome? = none) (setup : e'.setup = e.setup) (epoch : e'.epoch = e.epoch)
    (built : e'.registryEpoch = e.registryEpoch) (epochs : e'.EpochsCome) (took : e'.Took)
    (stocked : e'.Stocked) (tasks : e'.tasks = e.tasks.set task t')
    (prepared : e.prepared.Sublist e'.prepared)
    (preparing : ∀ project rest, t'.phase = .preparing project rest →
      ∃ done, t'.registry.pluginNames = done ++ Table.keys rest ∧
        e'.Prepared t'.epoch done project)
    (ready : e'.ready = true → e.ready = true ∨ t'.outcome? = some (.ok ()) ∧
      e.registryEpoch ≤ t'.epoch ∧
        ∃ project, e'.Prepared t'.epoch e.setup.registry.pluginNames project) :
    Furnished e' := by
  have hlt : task < e.tasks.length := (List.getElem?_eq_some_iff.mp found).1
  refine ⟨epochs, ?_, took, stocked, fun u hu project rest phase => ?_, fun now => ?_⟩
  · rw [built, epoch]
    exact f.built
  · rcases List.mem_or_eq_of_mem_set (tasks ▸ hu) with old | rfl
    · obtain ⟨done, all, ordered⟩ := f.preparing u old project rest phase
      exact ⟨done, all, ordered.trans prepared⟩
    · exact preparing project rest phase
  · rw [Completed, built, setup]
    rcases ready now with before | finished
    · obtain ⟨u, hu, ok, since, project, ordered⟩ := f.ready before
      -- the task that finished is not the one that goes on
      have other : e.tasks[task]? ≠ some u := by
        rintro same
        obtain rfl := Option.some.inj (found.symm.trans same)
        simp [running] at ok
      exact ⟨u, tasks ▸ mem_set_of_mem hu other, ok, since, project, ordered.trans prepared⟩
    · exact ⟨t', tasks ▸ List.mem_set hlt t', finished⟩

end Furnished

theorem Advances.furnished (h : e.Advances task t e') (found : e.tasks[task]? = some t)
    (f : Furnished e) (epochs : e'.EpochsCome) : Furnished e' := by
  have mem := List.mem_of_getElem? found
  have took := h.took found f.took
  have stocked := h.stocked found f.stocked
  obtain rfl | ⟨running, -⟩ := h.effect
  · exact f
  cases h with
  | ended | hangs => exact f
  | begins | failsToLoad | failsToPrepare =>
      exact f.advances found running rfl rfl rfl epochs took stocked rfl (.refl _) nofun .inl
  | adopts | loads =>
      refine f.advances found running rfl rfl rfl epochs took stocked rfl (.refl _)
        (fun project rest same => ?_) .inl
      obtain ⟨rfl, rfl⟩ := Phase.preparing.inj same
      exact ⟨[], rfl, List.nil_sublist _⟩
  | @prepares project name plugin rest phase _ =>
      obtain ⟨done, all, ordered⟩ := f.preparing t mem _ _ phase
      refine f.advances found running rfl rfl rfl epochs took stocked rfl
        (List.sublist_append_left _ _) (fun project rest same => ?_) .inl
      obtain ⟨rfl, rfl⟩ := Phase.preparing.inj same
      refine ⟨done ++ [name], by simp [all, Table.keys], ?_⟩
      rw [Prepared, List.map_append]
      exact ordered.append (.refl _)
  | @completes project phase =>
      obtain ⟨done, all, ordered⟩ := f.preparing t mem _ _ phase
      obtain rfl : t.registry.pluginNames = done := by simpa [Table.keys] using all
      refine f.advances found running rfl rfl rfl epochs took stocked rfl (.refl _)
        (fun project rest same => by cases same) (fun now => ?_)
      by_cases epoch : t.epoch = e.epoch
      · have since : e.registryEpoch ≤ t.epoch := epoch ▸ f.built
        have same := f.took t mem (by rw [phase]; rfl) since
        exact .inr ⟨rfl, since, project, same ▸ ordered⟩
      · exact .inl (by simpa [epoch] using now)

/-- **Every move keeps it.** -/
theorem Moved.furnished {m : Move} (h : e.Moved m e') (f : Furnished e) : Furnished e' := by
  have epochs := h.epochsCome f.epochs
  cases h with
  | idles _ idle => exact f.idles idle epochs
  | lacks => exact f
  | advances found h => exact h.furnished found f epochs
  | resets h =>
      have stocked := h.stocked f.epochs
      cases h with
      | renews =>
          -- no task has begun since the registry was built
          refine ⟨epochs, Nat.le_refl _, fun t ht begun since => ?_, stocked, f.preparing, nofun⟩
          exact absurd (f.epochs t ht begun) (Nat.not_le.mpr since)
      | fails => exact ⟨epochs, Nat.le_succ_of_le f.built, f.took, stocked, f.preparing, f.ready⟩

theorem furnished_history (setup : EngineSetup) (h : List Occasion) :
    Furnished ((start setup).history h) :=
  history_kept (fun o _ _ f => (moved_meet _ o).furnished (f.amid o.surroundings)) (.start setup)

/-! ### Resets that stop halfway -/

/-- The engine was ready when it was last reset, and the factory failed. -/
def Halted (setup : EngineSetup) (h : List Occasion) : Prop :=
  ∃ before o after, h = before ++ o :: after ∧ o.Fails ∧
    ((start setup).history before).ready = true ∧ Steady after

theorem Halted.concat (halted : Halted setup h) {o : Occasion} (steady : o.move ≠ .reset) :
    Halted setup (h ++ [o]) := by
  obtain ⟨before, reset, after, split, fails, ready, since⟩ := halted
  refine ⟨before, reset, after ++ [o], by simp [split], fails, ready, fun a ha => ?_⟩
  rcases List.mem_append.mp ha with old | new
  · exact since a old
  · exact List.mem_singleton.mp new ▸ steady

/-- Until it is reset, an engine that is ready stays so. -/
theorem Moved.ready_of_ready {m : Move} (h : e.Moved m e') (steady : m ≠ .reset)
    (ready : e.ready = true) : e'.ready = true := by
  cases h with
  | idles _ idle => exact idle.ready_eq.trans ready
  | lacks => exact ready
  | advances _ h =>
      rcases h.effect with rfl | ⟨-, t', -, -, ⟨-, same⟩ | ⟨-, same⟩⟩
      · exact ready
      · exact same.trans ready
      · rw [same, ready, ite_self]
  | resets => exact absurd rfl steady

theorem resets_meet {o : Occasion} (reset : o.move = .reset) :
    (e.amid o.surroundings).Resets (e.meet o) := by
  rw [meet, reset, step]
  exact resets_reset _

/-- A reset that stops halfway leaves an engine as ready as it was. -/
theorem ready_meet_of_fails {o : Occasion} (fails : o.Fails) : (e.meet o).ready = e.ready := by
  obtain ⟨reset, failure, refused⟩ := fails
  exact (resets_meet reset).ready_of_refused refused

/-- The engine is ready still. -/
theorem Halted.ready (halted : Halted setup h) : ((start setup).history h).ready = true := by
  obtain ⟨before, reset, after, rfl, fails, ready, since⟩ := halted
  rw [history_append, history_cons]
  exact history_kept (P := fun e => e.ready = true)
    (fun o ho _ now => (moved_meet _ o).ready_of_ready (since o ho) now)
    ((ready_meet_of_fails fails).trans ready)

theorem Advances.project_of_ready (h : e.Advances task t e') (found : e.tasks[task]? = some t)
    (s : e.Stocked) (given : e.ready = true → e.project.isSome = true) (ready : e'.ready = true) :
    e'.project.isSome = true := by
  cases h with
  | ended | hangs | begins | failsToLoad | prepares | failsToPrepare => exact given ready
  | adopts => rfl
  | loads =>
      dsimp only
      split
      · rfl
      · exact given ready
  | completes phase =>
      by_cases epoch : t.epoch = e.epoch
      · exact s.mpr ⟨t, List.mem_of_getElem? found, by simp [SetupTask.loaded, phase], epoch⟩
      · exact given (by simpa [epoch] using ready)

/-- Until it is reset, an engine that has a project if it is ready goes on to do so. -/
theorem Moved.project_of_ready {m : Move} (h : e.Moved m e') (s : e.Stocked)
    (steady : m ≠ .reset) (given : e.ready = true → e.project.isSome = true)
    (ready : e'.ready = true) : e'.project.isSome = true := by
  cases h with
  | idles _ idle => exact idle.project_eq ▸ given (idle.ready_eq ▸ ready)
  | lacks => exact given ready
  | advances found h => exact h.project_of_ready found s given ready
  | resets => exact absurd rfl steady

/-- **An engine that is ready has a project**, unless a reset of it stopped halfway. -/
theorem project_or_halted (setup : EngineSetup) (h : List Occasion)
    (ready : ((start setup).history h).ready = true) :
    ((start setup).history h).project.isSome = true ∨ Halted setup h := by
  revert ready
  refine history_induction (P := fun h e => e.ready = true → e.project.isSome = true ∨
    Halted setup h) (fun ready => by cases ready) (fun h o ih ready => ?_) h
  by_cases reset : o.move = .reset
  · obtain ⟨refused, before⟩ := (resets_meet reset).refused_of_ready ready
    exact .inr ⟨h, o, [], rfl, ⟨reset, refused⟩, before, by simp [Steady]⟩
  · by_cases halted : Halted setup h
    · exact .inr (halted.concat reset)
    · have stocked := ((furnished_history setup h).amid o.surroundings).stocked
      exact .inl ((moved_meet _ o).project_of_ready stocked reset
        (fun before => (ih before).resolve_right halted) ready)

/-! ### Stranded engines -/

/-- **An engine is stranded**: it was ready when it was last reset, the factory failed, and no task
has come to a project since. -/
def Stranded (setup : EngineSetup) (h : List Occasion) : Prop :=
  Halted setup h ∧ ¬((start setup).history h).Supplied

theorem project_eq_none_iff (setup : EngineSetup) (h : List Occasion) :
    ((start setup).history h).ready = true ∧ ((start setup).history h).project = none ↔
      Stranded setup h := by
  have stocked := (furnished_history setup h).stocked
  constructor
  · rintro ⟨ready, without⟩
    have unsupplied := mt stocked.mpr (by simp [without])
    exact ⟨(project_or_halted setup h ready).resolve_left (by simp [without]), unsupplied⟩
  · rintro ⟨halted, unsupplied⟩
    have without := mt stocked.mp unsupplied
    exact ⟨halted.ready, by simpa using without⟩

/-- A run that is not for a content of its own misses a project only if the engine is ready and has
none. -/
theorem project_of_error {q : RunRequest} {make : MakeContext} (own : q.own = none)
    (missing : (e.snapshot.run q make).1.error = some Obstacle.noProject.message) :
    e.ready = true ∧ e.project = none := by
  obtain ⟨ready, without⟩ := Snapshot.projectFor_of_error missing
  simp only [Snapshot.projectFor, own] at without
  exact ⟨ready, Option.map_eq_none_iff.mp without⟩

/-- If the engine is ready and has no project, a run of a rule with conditions misses it. -/
theorem run_error_of_none (ready : e.ready = true) (without : e.project = none) {q : RunRequest}
    {make : MakeContext} (own : q.own = none) {rule : Rule} (read : q.input.read = .ok rule)
    (conditions : rule.conditions.isSome = true) :
    (e.snapshot.run q make).1.error = some Obstacle.noProject.message := by
  obtain ⟨c, conditions⟩ := Option.isSome_iff_exists.mp conditions
  have ready' : e.snapshot.ready = true := ready
  have without' : e.snapshot.projectFor q = none := by
    have none_ : e.snapshot.project = none := without
    simp [Snapshot.projectFor, own, none_]
  simp [Snapshot.run, ready', read, conditions, without', RunResult.obstructed]

/-- **When an engine that is ready can be used.**  After any history, an engine that is ready has
had all plugins of its registry prepared by a task that finished well.  It has a project, and no run
for a file or for the whole project misses one, unless it is stranded; then it is ready, has no
project, and every such run of a rule with conditions misses it. -/
theorem ready_is_usable_unless_stranded (setup : EngineSetup) (h : List Occasion) :
    let e := (start setup).history h
    (e.ready = true → e.Completed) ∧
    (¬Stranded setup h →
      (e.ready = true → ∃ project, e.project = some project) ∧
      (∀ input file options,
        (e.simulate input file options).1.error ≠ some Obstacle.noProject.message) ∧
      ∀ input extra options make,
        (e.simulateGlobal input extra options make).1.error ≠ some Obstacle.noProject.message) ∧
    (Stranded setup h → e.ready = true ∧ e.project = none ∧
      ∀ input rule, RuleInput.read input = .ok rule → rule.conditions.isSome = true →
        (∀ file options,
          (e.simulate input file options).1.error = some Obstacle.noProject.message) ∧
        ∀ extra options make, (e.simulateGlobal input extra options make).1.error =
          some Obstacle.noProject.message) := by
  intro e
  have iff := project_eq_none_iff setup h
  refine ⟨(furnished_history setup h).ready, fun sound => ⟨fun ready => ?_, ?_, ?_⟩,
    fun stranded => ?_⟩
  · exact Option.ne_none_iff_exists'.mp fun without => sound (iff.mp ⟨ready, without⟩)
  · exact fun input file options missing => sound (iff.mp (project_of_error rfl missing))
  · exact fun input extra options make missing => sound (iff.mp (project_of_error rfl missing))
  · obtain ⟨ready, without⟩ := iff.mpr stranded
    refine ⟨ready, without, fun input rule read conditions => ⟨?_, ?_⟩⟩
    · exact fun file options => run_error_of_none ready without rfl read conditions
    · exact fun extra options make => run_error_of_none ready without rfl read conditions

/-- Surroundings in which the factory names a plugin twice. -/
def unbuildable : Surroundings where
  load _ := .failed .silent
  prepare := Plugin.prepare
  factory := (Registry.ofEnabled (some ["patterns", "patterns"])).mapError fun fault =>
    ⟨"PluginError", fault.message⟩

/-- An engine is made ready. -/
def readying : List Occasion :=
  [.ask (.given (.ofFiles [("a.txt", "x")])), .advance 0, .advance 0, .resume 0].map
    (⟨unbuildable, ·⟩)

/-- It can be used, since it has not been reset. -/
theorem ready_is_usable_after_readying :
    let e := (start { load := unbuildable.load }).history readying
    e.ready = true ∧ ¬Stranded { load := unbuildable.load } readying ∧ e.Completed ∧
      (∃ project, e.project = some project) ∧ ∀ input file options,
        (e.simulate input file options).1.error ≠ some Obstacle.noProject.message := by
  intro e
  have ready : e.ready = true := by decide
  have sound : ¬Stranded { load := unbuildable.load } readying := by
    rintro ⟨⟨before, o, after, split, ⟨reset, -⟩, -, -⟩, -⟩
    have steady : Steady readying := by simp [Steady, readying]
    exact steady o (split ▸ List.mem_append_right _ List.mem_cons_self) reset
  obtain ⟨completed, usable, -⟩ :=
    ready_is_usable_unless_stranded { load := unbuildable.load } readying
  obtain ⟨loaded, runs, -⟩ := usable sound
  exact ⟨ready, sound, completed ready, loaded ready, runs⟩

/-- It is reset, and that stops halfway: it says that it is ready, and has no project for a run. -/
theorem stranded_of_unbuildable :
    let e := (start { load := unbuildable.load }).history (readying ++ [⟨unbuildable, .reset⟩])
    e.ready = true ∧ e.project.isNone = true ∧
      (e.simulate (.rule Snapshot.backendRule) "a.txt").1.error =
        some "No fixture data loaded" := by
  decide

end Engine

end Verdict
