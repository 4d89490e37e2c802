import Verdict.Proofs.Simulation.Move

/-!
# Simulation: tasks that outlive a reset

A reset begins a new epoch, even if the factory of registries fails, and a task of an earlier one
goes on.  What the task can still do is decided by when it began.

* `SetupTask.Spent`: a task that began in an epoch that is over, or that never comes to a project.
  In a later epoch its steps leave the engine alone (`Advances.leavesAlone`), and every move keeps
  it so (`Moved.outlived`).
* `leavesAlone_after_reset_iff`: a task leaves the engine alone after a reset, whatever else happens,
  exactly if it had begun before or comes to no project.

A task that is still in the queue when the engine is reset takes the new epoch when it begins, so
the reset does not stop it (`ready_after_reset`).
-/

namespace Verdict

/-- The task never comes to a project. -/
def SetupTask.Barren (s : EngineSetup) (t : SetupTask) : Prop :=
  match t.phase with
  | .queued => s.projectFor? t.source = none
  | .loading location => (s.load location).outcome.toOption = none
  | .preparing _ _ => False
  | .finished _ => True

/-- **A task that does not count after an epoch**: it began until then, or it never comes to a
project. -/
def SetupTask.Spent (s : EngineSetup) (last : Nat) (t : SetupTask) : Prop :=
  t.phase.begun = true ∧ t.epoch ≤ last ∨ t.Barren s

namespace SetupTask.Spent

variable {s : EngineSetup} {last : Nat} {t : SetupTask}

/-- The registry has no part in it. -/
theorem withRegistry (h : t.Spent s last) (registry : Registry) :
    t.Spent { s with registry } last := h

/-- A spent task that prepares plugins began before. -/
theorem epoch_le (h : t.Spent s last) {project : Project} {rest : List (String × Plugin)}
    (phase : t.phase = .preparing project rest) : t.epoch ≤ last := by
  rcases h with ⟨_, h⟩ | h
  · exact h
  · simp [Barren, phase] at h

/-- A spent task whose project is loaded began before. -/
theorem epoch_le_of_loads (h : t.Spent s last) {location : String} {project : Project}
    (phase : t.phase = .loading location) (outcome : (s.load location).outcome = .ok project) :
    t.epoch ≤ last := by
  rcases h with ⟨_, h⟩ | h
  · exact h
  · simp [Barren, phase, outcome, Except.toOption] at h

/-- A task that is given a project and has not begun is not spent. -/
theorem not_given (h : t.Spent s last) (phase : t.phase = .queued) (project : Project) :
    t.source ≠ .given project := by
  intro given
  rcases h with ⟨hb, _⟩ | h
  · simp [phase, Phase.begun] at hb
  · simp [Barren, phase, given, EngineSetup.projectFor?] at h

end SetupTask.Spent

namespace Engine

variable {e e' : Engine} {task last : Nat} {t : SetupTask}

/-- **A step that leaves the engine alone.**  The engine is as ready as before and has the same
project, and plugins are prepared only of the registries of epochs until the given one. -/
structure LeavesAlone (last : Nat) (e e' : Engine) : Prop where
  ready_eq : e'.ready = e.ready
  project_eq : e'.project = e.project
  prepared_earlier : ∃ added, e'.prepared = e.prepared ++ added ∧ ∀ p ∈ added, p.epoch ≤ last

theorem LeavesAlone.of_eq (hr : e'.ready = e.ready) (hp : e'.project = e.project)
    (hd : e'.prepared = e.prepared) : LeavesAlone last e e' :=
  ⟨hr, hp, [], by simp [hd], nofun⟩

/-- A task that does not count after an epoch, in an engine in which that epoch is over. -/
def Outlived (task last : Nat) (e : Engine) : Prop :=
  last < e.epoch ∧ ∃ t, e.tasks[task]? = some t ∧ t.Spent e.setup last

/-! ### What a spent task does -/

theorem Advances.leavesAlone (h : e.Advances task t e') (spent : t.Spent e.setup last)
    (hlast : last < e.epoch) : LeavesAlone last e e' := by
  have gone (ht : t.epoch ≤ last) : t.epoch ≠ e.epoch :=
    Nat.ne_of_lt (Nat.lt_of_le_of_lt ht hlast)
  cases h with
  | ended | hangs | begins | failsToLoad | failsToPrepare => exact .of_eq rfl rfl rfl
  | adopts phase given => exact absurd given (spent.not_given phase _)
  | loads phase outcome =>
      have ht := spent.epoch_le_of_loads phase outcome
      exact .of_eq rfl (if_neg (gone ht)) rfl
  | prepares phase _ =>
      have ht := spent.epoch_le phase
      exact ⟨rfl, rfl, [_], rfl, fun p hp => List.mem_singleton.mp hp ▸ ht⟩
  | completes phase =>
      have ht := spent.epoch_le phase
      exact .of_eq (if_neg (gone ht)) rfl rfl

theorem Outlived.leavesAlone (h : e.Outlived task last) :
    LeavesAlone last e (e.advance task) := by
  obtain ⟨hlast, t, found, spent⟩ := h
  exact (advances_advance found).leavesAlone spent hlast

/-- A task that began in an epoch that is over goes on in that epoch. -/
theorem Advances.early (h : e.Advances task t e') (found : e.tasks[task]? = some t)
    (begun : t.phase.begun = true) :
    ∃ t', e'.tasks[task]? = some t' ∧ t'.phase.begun = true ∧ t'.epoch = t.epoch := by
  rcases h.tasks_eq with hs | ⟨t', follows, hs⟩
  · exact ⟨t, hs ▸ found, begun, rfl⟩
  · have hlt := (List.getElem?_eq_some_iff.mp found).1
    exact ⟨t', hs ▸ List.getElem?_set_self hlt, follows.begun, by simp [follows.epoch, begun]⟩

/-- A task that comes to no project goes on without one. -/
theorem Advances.barren (h : e.Advances task t e') (found : e.tasks[task]? = some t)
    (barren : t.Barren e.setup) : ∃ t', e'.tasks[task]? = some t' ∧ t'.Barren e.setup := by
  have now (t' : SetupTask) : (e.tasks.set task t')[task]? = some t' :=
    List.getElem?_set_self (List.getElem?_eq_some_iff.mp found).1
  cases h with
  | ended | hangs => exact ⟨t, found, barren⟩
  | begins phase place =>
      simp only [SetupTask.Barren, phase] at barren
      exact ⟨_, now _, (EngineSetup.projectFor?_of_location place).symm.trans barren⟩
  | failsToLoad | failsToPrepare | completes => exact ⟨_, now _, trivial⟩
  -- the other ways need a project
  | adopts phase given => simp [SetupTask.Barren, phase, given, EngineSetup.projectFor?] at barren
  | loads phase outcome => simp [SetupTask.Barren, phase, outcome, Except.toOption] at barren
  | prepares phase _ => simp [SetupTask.Barren, phase] at barren

theorem Advances.spent (h : e.Advances task t e') (found : e.tasks[task]? = some t)
    (spent : t.Spent e.setup last) : ∃ t', e'.tasks[task]? = some t' ∧ t'.Spent e.setup last := by
  rcases spent with ⟨begun, hle⟩ | barren
  · obtain ⟨t', found', begun', heq⟩ := h.early found begun
    exact ⟨t', found', .inl ⟨begun', heq ▸ hle⟩⟩
  · obtain ⟨t', found', barren'⟩ := h.barren found barren
    exact ⟨t', found', .inr barren'⟩

theorem Moved.outlived {m : Move} (h : e.Moved m e') (out : e.Outlived task last) :
    e'.Outlived task last := by
  obtain ⟨hlast, t, found, spent⟩ := out
  refine ⟨Nat.lt_of_lt_of_le hlast h.epoch_le, ?_⟩
  by_cases own : m = .advance task
  · subst own
    cases h with
    | idles caller _ => exact absurd rfl (caller task)
    | lacks => exact ⟨t, found, spent⟩
    | advances found' h =>
        obtain rfl := Option.some.inj (found.symm.trans found')
        rw [h.setup_eq]
        exact h.spent found spent
  · rw [h.setup_eq]
    exact ⟨t, h.task_eq found own, spent.withRegistry _⟩

/-! ### What a task in the queue does -/

/-- A task in the queue that will come to a project gives it to the engine in a step or two. -/
theorem Advances.project_of_queued (h : e.Advances task t e') (found : e.tasks[task]? = some t)
    (queued : t.phase = .queued) {project : Project}
    (hp : e.setup.projectFor? t.source = some project) :
    e'.project = some project ∨
      e'.project = e.project ∧ (e'.advance task).project = some project := by
  cases h with
  | @begins location _ place =>
      rw [EngineSetup.projectFor?_of_location place] at hp
      have hlt := (List.getElem?_eq_some_iff.mp found).1
      refine .inr ⟨rfl, ?_⟩
      cases outcome : (e.setup.load location).outcome with
      | ok loaded =>
          simp only [outcome, Except.toOption, Option.some.injEq] at hp
          simp [advance, List.getElem?_set_self hlt, outcome, loaded_eq, hp]
      | error fault => simp [outcome, Except.toOption] at hp
  | adopts _ given =>
      rw [given] at hp
      exact .inl hp
  -- the other ways are those of tasks that have begun
  | ended phase | hangs phase _ | loads phase _ | failsToLoad phase _ _ | prepares phase _
  | failsToPrepare phase _ | completes phase => simp [queued] at phase

/-- What has begun when the engine is reset, or comes to no project, does not count any more. -/
theorem outlived_reset (he : e.EpochsCome) (found : e.tasks[task]? = some t)
    (h : t.phase.begun = true ∨ e.setup.projectFor? t.source = none) :
    e.reset.Outlived task e.epoch := by
  have resets := resets_reset e
  refine ⟨resets.epoch_eq ▸ Nat.lt_succ_self _, t, resets.tasks_eq ▸ found, ?_⟩
  rw [resets.setup_eq]
  refine SetupTask.Spent.withRegistry ?_ _
  by_cases begun : t.phase.begun = true
  · exact .inl ⟨begun, he t (List.mem_of_getElem? found) begun⟩
  · refine .inr ?_
    rw [SetupTask.Barren, Phase.queued_of_not_begun begun]
    exact h.resolve_left begun

/-- A task in the queue that will come to a project gives it to the engine after the reset. -/
theorem not_leavesAlone_of_queued (found : e.tasks[task]? = some t) (queued : t.phase = .queued)
    {project : Project} (hp : e.setup.projectFor? t.source = some project) :
    ∃ after, ¬ LeavesAlone last (e.reset.steps after) ((e.reset.steps after).advance task) := by
  have resets := resets_reset e
  have none_ : e.reset.project ≠ some project := by simp [resets.project_eq]
  have found : e.reset.tasks[task]? = some t := resets.tasks_eq ▸ found
  have hp : e.reset.setup.projectFor? t.source = some project := by
    rw [resets.setup_eq]
    exact hp
  have adv : e.reset.Advances task t (e.reset.advance task) := advances_advance found
  rcases adv.project_of_queued found queued hp with h | ⟨hsame, h⟩
  · exact ⟨[], fun alone => none_ (alone.project_eq.symm.trans h)⟩
  · exact ⟨[.advance task], fun alone =>
      none_ (hsame.symm.trans (alone.project_eq.symm.trans h))⟩

/-- **Tasks after a reset**, whether it went through or the factory failed.  A task that was there
when the engine was reset leaves it alone with every step, whatever moves come in between, exactly
if it had begun before the reset or comes to no project. -/
theorem leavesAlone_after_reset_iff (setup : EngineSetup) (before : List Move) (task : Nat)
    (t : SetupTask) (found : ((start setup).steps before).tasks[task]? = some t) :
    let e := (start setup).steps before
    (∀ after, LeavesAlone e.epoch (e.reset.steps after) ((e.reset.steps after).advance task)) ↔
      t.phase.begun = true ∨ setup.projectFor? t.source = none := by
  intro e
  obtain ⟨registry, hsetup⟩ : ∃ registry, e.setup = { setup with registry } :=
    setup_steps setup before
  have same : e.setup.projectFor? t.source = setup.projectFor? t.source := by
    rw [hsetup]
    rfl
  rw [← same]
  constructor
  · intro alone
    by_cases begun : t.phase.begun = true
    · exact .inl begun
    · refine .inr (Option.eq_none_iff_forall_ne_some.mpr fun project hp => ?_)
      have queued := Phase.queued_of_not_begun begun
      obtain ⟨after, h⟩ := not_leavesAlone_of_queued found queued hp
      exact h (alone after)
  · intro spent after
    have out := outlived_reset (epochsCome_steps setup before) found spent
    exact (steps_kept Moved.outlived after out).leavesAlone

/-- An engine with one plugin. -/
def pluginSetup : EngineSetup where
  registry := { plugins := [("plugin", { name := "plugin" })] }
  load _ := .failed .silent

/-- A task that has begun before the reset. -/
theorem leavesAlone_after_reset_of_begun :
    let e := (start pluginSetup).steps [.ask (.given (.ofFiles [])), .advance 0]
    (∃ t, e.tasks[0]? = some t ∧ t.phase.begun = true) ∧
      ∀ after, LeavesAlone e.epoch (e.reset.steps after) ((e.reset.steps after).advance 0) :=
  ⟨⟨_, rfl, rfl⟩, (leavesAlone_after_reset_iff pluginSetup
    [.ask (.given (.ofFiles [])), .advance 0] 0 _ rfl).mpr (.inl rfl)⟩

/-- A task that is in the queue at the reset: it prepares the plugin of the new epoch, gives the
engine its project and makes it ready. -/
theorem ready_after_reset :
    let e := ((start pluginSetup).steps [.ask (.given (.ofFiles []))]).reset
    let now := e.steps [.advance 0, .advance 0, .advance 0]
    e.tasks.length = 1 ∧ e.ready = false ∧ e.project.isNone = true ∧
      now.ready = true ∧ now.project.isSome = true ∧
        now.prepared.map (fun p => (p.epoch, p.plugin)) = [(e.epoch, "plugin")] := by
  decide

end Engine

end Verdict
