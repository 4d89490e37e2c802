import Verdict.Proofs.Simulation.Caller

/-!
# Simulation: one task at a time

An engine that is never reset stays in its first epoch, and its tasks take turns: a task that runs
is the registered one, so no call starts another before it has finished.

* `SingleFlight`: what the tasks, the registered one and the calls have to do with each other.
  Every move but a reset keeps it (`SingleFlight.step`).
* `SingleFlight.rests_history`: once the engine is ready, it rests until it is reset.
-/

namespace Verdict

/-- No new epoch begins. -/
def Steady (h : List Occasion) : Prop := ∀ o ∈ h, o.move ≠ .reset

namespace Engine

variable {e e' : Engine} {task : Nat} {t : SetupTask}

/-! ### Tasks, the registered one, and calls -/

/-- **One task at a time.** -/
structure SingleFlight (e : Engine) : Prop where
  epoch : e.epoch = 0
  task_epoch : ∀ t ∈ e.tasks, t.epoch = 0
  /-- Only the registered task runs. -/
  registered_of_runs : ∀ {i}, e.Runs i → e.registered = some i
  registered_there : ∀ {i}, e.registered = some i → i < e.tasks.length
  waited_there : ∀ {i}, .waiting i ∈ e.calls → i < e.tasks.length
  ready_of_ok : ∀ {i}, e.outcomeOf? i = some (.ok ()) → e.ready = true
  ready_of_served : .ended (.ok ()) ∈ e.calls → e.ready = true
  idle_of_ready : e.ready = true → ∀ i, ¬ e.Runs i

namespace SingleFlight

theorem runs_unique (s : SingleFlight e) {i j : Nat} (hi : e.Runs i) (hj : e.Runs j) : i = j :=
  Option.some.inj ((s.registered_of_runs hi).symm.trans (s.registered_of_runs hj))

theorem unready_of_runs (s : SingleFlight e) (running : e.Runs task) : e.ready = false :=
  Bool.eq_false_iff.mpr fun ready => s.idle_of_ready ready task running

/-- If the registered task has finished, no task runs. -/
theorem idle_of_registered (s : SingleFlight e) {outcome : Except SetupFault Unit}
    (taken : e.registered = some task) (finished : e.outcomeOf? task = some outcome) (i : Nat) :
    ¬ e.Runs i := by
  intro running
  obtain rfl := Option.some.inj (taken.symm.trans (s.registered_of_runs running))
  exact not_runs_of_outcome finished running

theorem start (setup : EngineSetup) : SingleFlight (Engine.start setup) where
  epoch := rfl
  task_epoch := nofun
  registered_of_runs := fun ⟨_, found, _⟩ => nomatch found
  registered_there := nofun
  waited_there := nofun
  ready_of_ok := nofun
  ready_of_served := nofun
  idle_of_ready := nofun

theorem amid (s : SingleFlight e) (w : Surroundings) : SingleFlight (e.amid w) :=
  ⟨s.epoch, s.task_epoch, s.registered_of_runs, s.registered_there, s.waited_there, s.ready_of_ok,
    s.ready_of_served, s.idle_of_ready⟩

/-- Other calls, and no registered task only if none runs. -/
theorem callers (s : SingleFlight e) {calls : List CallState} {registered : Option Nat}
    (slot : registered = e.registered ∨ registered = none ∧ ∀ i, ¬ e.Runs i)
    (waits : ∀ i, .waiting i ∈ calls → i < e.tasks.length)
    (served : .ended (.ok ()) ∈ calls → e.ready = true) :
    SingleFlight { e with calls, registered } where
  epoch := s.epoch
  task_epoch := s.task_epoch
  registered_of_runs {i} running := by
    rcases slot with rfl | ⟨-, idle⟩
    · exact s.registered_of_runs running
    · exact absurd running (idle i)
  registered_there {i} taken := by
    rcases slot with rfl | ⟨rfl, -⟩
    · exact s.registered_there taken
    · cases taken
  waited_there := waits _
  ready_of_ok := s.ready_of_ok
  ready_of_served := served
  idle_of_ready := s.idle_of_ready

/-- A new task is the only one that runs, if none was registered. -/
theorem added (s : SingleFlight e) (unready : e.ready = false) (free : e.registered = none)
    (source : Source) :
    SingleFlight { e with
      tasks := e.tasks ++ [{ source := source }]
      registered := some e.tasks.length
      calls := e.calls ++ [.waiting e.tasks.length] } where
  epoch := s.epoch
  task_epoch t ht := by
    rcases List.mem_append.mp ht with old | new
    · exact s.task_epoch t old
    · rw [List.mem_singleton.mp new]
  registered_of_runs {i} := by
    rintro ⟨t, found, running⟩
    rcases old_or_added found with old | ⟨rfl, -⟩
    · have taken := s.registered_of_runs ⟨t, old, running⟩
      rw [free] at taken
      cases taken
    · rfl
  registered_there {i} taken := by
    obtain rfl := Option.some.inj taken
    simp
  waited_there {i} waits := by
    rcases List.mem_append.mp waits with old | new
    · exact Nat.lt_of_lt_of_le (s.waited_there old) (by simp)
    · obtain rfl : i = e.tasks.length := by simpa using new
      simp
  ready_of_ok {i} finished := by
    obtain ⟨t, found, ok⟩ := exists_of_outcome finished
    rcases old_or_added found with old | ⟨-, rfl⟩
    · exact s.ready_of_ok (i := i) (by simpa [outcomeOf?, old] using ok)
    · cases ok
  ready_of_served served := s.ready_of_served (by simpa using served)
  idle_of_ready ready := absurd ready (by simp [unready])

theorem ask (s : SingleFlight e) (source : Source) : SingleFlight (e.ask source) := by
  have asked := asks_ask e source
  generalize e.ask source = e' at asked
  cases asked with
  | served ready =>
      refine s.callers (.inl rfl) (fun i waits => ?_) (fun _ => ready)
      exact s.waited_there (by simpa using waits)
  | @joins task unready taken pending =>
      refine s.callers (.inl rfl) (fun i waits => ?_) (fun served => ?_)
      · rcases List.mem_append.mp waits with old | new
        · exact s.waited_there old
        · obtain rfl : i = task := by simpa using new
          exact s.registered_there taken
      · exact s.ready_of_served (by simpa using served)
  | @inherits task outcome unready taken finished =>
      refine s.callers (.inr ⟨rfl, s.idle_of_registered taken finished⟩) (fun i waits => ?_)
        (fun served => ?_)
      · exact s.waited_there (by simpa using waits)
      · rcases List.mem_append.mp served with old | new
        · exact s.ready_of_served old
        · obtain rfl : outcome = .ok () := by simpa [eq_comm] using new
          exact s.ready_of_ok finished
  | starts unready free => exact s.added unready free source

/-- A call is given another state, and the registered task is given up if it has finished. -/
theorem settles (s : SingleFlight e) {call : Nat} {state : CallState} {registered : Option Nat}
    (slot : registered = e.registered ∨ registered = none ∧ ∀ i, ¬ e.Runs i)
    (settled : ∀ i, state ≠ .waiting i) (served : state = .ended (.ok ()) → e.ready = true) :
    SingleFlight { e with calls := e.calls.set call state, registered } := by
  refine s.callers slot (fun i waits => ?_) (fun ok => ?_)
  · rcases List.mem_or_eq_of_mem_set waits with old | new
    · exact s.waited_there old
    · exact absurd new.symm (settled i)
  · rcases List.mem_or_eq_of_mem_set ok with old | new
    · exact s.ready_of_served old
    · exact served new.symm

theorem resume (s : SingleFlight e) (call : Nat) : SingleFlight (e.resume call) := by
  have resumed := resumes_resume e call
  generalize e.resume call = e' at resumed
  cases resumed with
  | passes => exact s
  | @ends task outcome waits finished =>
      refine s.settles ?_ nofun fun ok => ?_
      · split
        · next taken => exact .inr ⟨rfl, s.idle_of_registered taken finished⟩
        · exact .inl rfl
      · obtain rfl : outcome = .ok () := by simpa using ok
        exact s.ready_of_ok finished

theorem cancel (s : SingleFlight e) (call : Nat) : SingleFlight (e.cancel call) := by
  have cancelled := cancels_cancel e call
  generalize e.cancel call = e' at cancelled
  cases cancelled with
  | passes => exact s
  | @leaves task waits =>
      refine s.settles ?_ nofun nofun
      split
      · next given =>
          simp only [Bool.and_eq_true, decide_eq_true_eq] at given
          obtain ⟨outcome, finished⟩ := Option.isSome_iff_exists.mp given.2
          exact .inr ⟨rfl, s.idle_of_registered given.1 finished⟩
      · exact .inl rfl

/-- The task that runs goes on.  The others have finished, and stay as they are. -/
theorem goesOn (s : SingleFlight e) (runs : e.Runs task) {t' : SetupTask}
    (epoch : e'.epoch = e.epoch) (registered : e'.registered = e.registered)
    (calls : e'.calls = e.calls) (tasks : e'.tasks = e.tasks.set task t') (own : t'.epoch = 0)
    (outcome : t'.outcome? ≠ some (.ok ()) ∧ e'.ready = false ∨
      t'.outcome? = some (.ok ()) ∧ e'.ready = true) : SingleFlight e' := by
  have unready := s.unready_of_runs runs
  have changed {i : Nat} {u : SetupTask} (there : e'.tasks[i]? = some u) :
      i = task ∧ u = t' ∨ e.tasks[i]? = some u ∧ u.outcome? ≠ none := by
    rcases own_or_other (tasks ▸ there) with own | ⟨other, there⟩
    · exact .inl own
    · exact .inr ⟨there, fun pending => other (s.runs_unique ⟨u, there, pending⟩ runs)⟩
  refine ⟨epoch.trans s.epoch, fun u hu => ?_, ?_, fun taken => ?_, fun waits => ?_,
    fun {i} ok => ?_, fun served => ?_, fun ready i => ?_⟩
  · rcases List.mem_or_eq_of_mem_set (tasks ▸ hu) with hu | rfl
    · exact s.task_epoch u hu
    · exact own
  · rintro i ⟨u, there, pending⟩
    rcases changed there with ⟨rfl, -⟩ | ⟨-, finished⟩
    · rw [registered]
      exact s.registered_of_runs runs
    · exact absurd pending finished
  · rw [tasks, List.length_set]
    exact s.registered_there (registered ▸ taken)
  · rw [tasks, List.length_set]
    exact s.waited_there (calls ▸ waits)
  · obtain ⟨u, there, ok⟩ := exists_of_outcome ok
    rcases changed there with ⟨-, rfl⟩ | ⟨there, -⟩
    · rcases outcome with ⟨failed, -⟩ | ⟨-, ready⟩
      · exact absurd ok failed
      · exact ready
    · have ready : e.ready = true := s.ready_of_ok (i := i) (by simp [outcomeOf?, there, ok])
      simp [unready] at ready
  · exact absurd (s.ready_of_served (calls ▸ served)) (by simp [unready])
  · rintro ⟨u, there, pending⟩
    rcases changed there with ⟨-, rfl⟩ | ⟨-, finished⟩
    · rcases outcome with ⟨-, still⟩ | ⟨ok, -⟩
      · simp [still] at ready
      · simp [pending] at ok
    · exact finished pending

theorem advance (s : SingleFlight e) (task : Nat) : SingleFlight (e.advance task) := by
  cases found : e.tasks[task]? with
  | none =>
      rw [advance_of_none found]
      exact s
  | some t =>
      have h := advances_advance found
      generalize e.advance task = e' at h
      obtain rfl | ⟨running, t', follows, tasks, outcome⟩ := h.effect
      · exact s
      have runs : e.Runs task := ⟨t, found, running⟩
      have old : t.epoch = 0 := s.task_epoch t (List.mem_of_getElem? found)
      refine s.goesOn runs h.epoch_eq h.registered_eq h.calls_eq tasks ?_ ?_
      · rw [follows.epoch, old, s.epoch, ite_self]
      · rcases outcome with ⟨failed, same⟩ | ⟨ok, ready⟩
        · exact .inl ⟨failed, same.trans (s.unready_of_runs runs)⟩
        · exact .inr ⟨ok, by rw [ready, old, s.epoch, if_pos rfl]⟩

/-- **Every move but a reset keeps it.** -/
theorem step (s : SingleFlight e) {m : Move} (steady : m ≠ .reset) : SingleFlight (e.step m) := by
  cases m with
  | ask source => exact s.ask source
  | advance task => exact s.advance task
  | resume call => exact s.resume call
  | cancel call => exact s.cancel call
  | reset => exact absurd rfl steady

theorem meet (s : SingleFlight e) {o : Occasion} (steady : o.move ≠ .reset) :
    SingleFlight (e.meet o) :=
  (s.amid o.surroundings).step steady

theorem history (s : SingleFlight e) {h : List Occasion} (steady : Steady h) :
    SingleFlight (e.history h) :=
  history_kept (fun o ho _ he => he.meet (steady o ho)) s

end SingleFlight

/-- The engine is as ready as before, with the same project, preparations and reports. -/
structure Rests (e e' : Engine) : Prop where
  ready_eq : e'.ready = e.ready
  project_eq : e'.project = e.project
  prepared_eq : e'.prepared = e.prepared
  stages_eq : e'.stages = e.stages

theorem Rests.trans {e'' : Engine} (h : Rests e e') (h' : Rests e' e'') : Rests e e'' :=
  ⟨h'.ready_eq.trans h.ready_eq, h'.project_eq.trans h.project_eq,
    h'.prepared_eq.trans h.prepared_eq, h'.stages_eq.trans h.stages_eq⟩

namespace SingleFlight

/-- An engine that is ready rests in every move but a reset. -/
theorem rests_step (s : SingleFlight e) (ready : e.ready = true) {m : Move}
    (steady : m ≠ .reset) : Rests e (e.step m) := by
  have moved := moved_step e m
  generalize e.step m = e' at moved
  cases moved with
  | idles _ idle => exact ⟨idle.ready_eq, idle.project_eq, idle.prepared_eq, idle.stages_eq⟩
  | lacks => exact ⟨rfl, rfl, rfl, rfl⟩
  | @advances task t _ found h =>
      rcases h.effect with same | ⟨running, -⟩
      · rw [same]
        exact ⟨rfl, rfl, rfl, rfl⟩
      · exact absurd ⟨t, found, running⟩ (s.idle_of_ready ready task)
  | resets => exact absurd rfl steady

/-- **An engine that is ready rests** until it is reset. -/
theorem rests_history (s : SingleFlight e) (ready : e.ready = true) {h : List Occasion}
    (steady : Steady h) : Rests e (e.history h) := by
  have kept : SingleFlight (e.history h) ∧ Rests e (e.history h) := by
    refine history_kept (P := fun e' => SingleFlight e' ∧ Rests e e')
      (fun o ho e' ⟨s', rests⟩ => ⟨s'.meet (steady o ho), ?_⟩) ⟨s, rfl, rfl, rfl, rfl⟩
    have more : Rests (e'.amid o.surroundings) (e'.meet o) :=
      (s'.amid o.surroundings).rests_step (rests.ready_eq.trans ready) (steady o ho)
    exact rests.trans ⟨more.ready_eq, more.project_eq, more.prepared_eq, more.stages_eq⟩
  exact kept.2

end SingleFlight

end Engine

end Verdict
