import Verdict.Proofs.Simulation.Joining

/-!
# Simulation: when a call starts afresh

The registered task is given up by someone who waits for it and goes on, or is called off, after it
has finished.  If nobody waits for it when it finishes, nobody gives it up, and it stays registered
until the next call, which is answered with its outcome.

* `FinishedAlone`: a task finished when nobody waited for it, and nobody has asked since.
* `FinishedAlone.cancelled`: that happens only if somebody is called off.
* `Held`: the registered task has finished and nobody waits for it.  Only a call changes that.
* `explained_history`: a finished task that is still registered is waited for, or finished alone.
* `starts_iff`: if no task is under way and nobody waits, a call starts a task of its own exactly if
  no task finished alone.  Otherwise it fails as that task did (`not_starts_after_abandoned`).
-/

namespace Verdict

namespace Engine

variable {setup : EngineSetup} {h : List Occasion} {e e' : Engine} {task call : Nat}
  {source : Source} {outcome : Except SetupFault Unit}

/-- A call starts a task of its own and waits for it. -/
structure Starts (e : Engine) (source : Source) : Prop where
  tasks : (e.ask source).tasks = e.tasks ++ [{ source := source }]
  calls : (e.ask source).calls = e.calls ++ [.waiting e.tasks.length]

theorem Free.starts (free : e.Free) (source : Source) : e.Starts source := by
  have asked := asks_ask e source
  constructor <;> generalize e.ask source = e' at asked <;> cases asked with
    | served ready => simp [free.1] at ready
    | starts => rfl
    | joins _ taken | inherits _ taken => simp [free.2] at taken

/-- A call ends at once with the failure of a task; the next one starts a task of its own. -/
structure Replays (e : Engine) (source : Source) (task : Nat) : Prop where
  tasks : (e.ask source).tasks = e.tasks
  fails : ∃ fault, e.outcomeOf? task = some (.error fault) ∧
    (e.ask source).calls = e.calls ++ [.ended (.error fault)]
  next : ∀ next, (e.ask source).Starts next

/-- A task finished when nobody waited for it, and nobody has asked since. -/
def FinishedAlone (setup : EngineSetup) (h : List Occasion) (task : Nat) : Prop :=
  ∃ before last after, h = before ++ last :: after ∧ last.move = .advance task ∧
    ((start setup).history before).Runs task ∧
      (∃ outcome, ((start setup).history (before ++ [last])).outcomeOf? task = some outcome) ∧
        .waiting task ∉ ((start setup).history before).calls ∧
          ∀ o ∈ after, ∀ source, o.move ≠ .ask source

theorem FinishedAlone.concat (alone : FinishedAlone setup h task) {o : Occasion}
    (quiet : ∀ source, o.move ≠ .ask source) : FinishedAlone setup (h ++ [o]) task := by
  obtain ⟨before, last, after, split, own, runs, finished, nobody, since⟩ := alone
  refine ⟨before, last, after ++ [o], by simp [split], own, runs, finished, nobody, ?_⟩
  intro a ha
  rcases List.mem_append.mp ha with ha | ha
  · exact since a ha
  · rw [List.mem_singleton.mp ha]
    exact quiet

/-! ### A finished task stays registered -/

/-- The registered task has finished, and nobody waits for it. -/
structure Held (e : Engine) (task : Nat) : Prop where
  taken : e.registered = some task
  finished : ∃ outcome, e.outcomeOf? task = some outcome
  nobody : .waiting task ∉ e.calls

theorem Held.ne (held : e.Held task) {i : Nat} (waits : e.calls[call]? = some (.waiting i)) :
    e.registered ≠ some i := by
  intro taken
  obtain rfl := Option.some.inj (held.taken.symm.trans taken)
  exact held.nobody (List.mem_of_getElem? waits)

/-- Nobody waits for it either when a call has come to its end. -/
theorem Held.settled (held : e.Held task) {state : CallState} (ended : state ≠ .waiting task) :
    .waiting task ∉ e.calls.set call state := by
  intro waits
  rcases List.mem_or_eq_of_mem_set waits with old | new
  · exact held.nobody old
  · exact ended new.symm

/-- Only a new call gives up a finished task that nobody waits for. -/
theorem Held.step (held : e.Held task) {m : Move} (quiet : ∀ source, m ≠ .ask source)
    (steady : m ≠ .reset) : (e.step m).Held task := by
  obtain ⟨outcome, finished⟩ := held.finished
  have still := outcomeOf?_step finished m
  cases m with
  | ask source => exact absurd rfl (quiet source)
  | reset => exact absurd rfl steady
  | advance i =>
      refine ⟨(advance_registered e i).trans held.taken, ⟨outcome, still⟩, ?_⟩
      rw [Engine.step, advance_calls]
      exact held.nobody
  | resume call =>
      have resumed := resumes_resume e call
      rw [Engine.step] at still ⊢
      generalize e.resume call = e' at resumed still
      cases resumed with
      | passes => exact held
      | ends waits _ =>
          exact ⟨(if_neg (held.ne waits)).trans held.taken, ⟨outcome, still⟩, held.settled (by simp)⟩
  | cancel call =>
      have cancelled := cancels_cancel e call
      rw [Engine.step] at still ⊢
      generalize e.cancel call = e' at cancelled still
      cases cancelled with
      | passes => exact held
      | leaves waits =>
          refine ⟨?_, ⟨outcome, still⟩, held.settled (by simp)⟩
          simpa [held.ne waits] using held.taken

theorem Held.meet (held : e.Held task) {o : Occasion} (quiet : ∀ source, o.move ≠ .ask source)
    (steady : o.move ≠ .reset) : (e.meet o).Held task :=
  Held.step (e := e.amid o.surroundings) ⟨held.taken, held.finished, held.nobody⟩ quiet steady

/-- A task that finished alone is registered still. -/
theorem FinishedAlone.held (alone : FinishedAlone setup h task) (steady : Steady h) :
    ((start setup).history h).Held task := by
  obtain ⟨before, last, after, rfl, own, runs, finished, nobody, since⟩ := alone
  have s := (SingleFlight.start setup).history (h := before) fun o ho => steady o (by simp [ho])
  have split : before ++ last :: after = before ++ [last] ++ after := by simp
  rw [split, history_append (k := after)]
  refine history_kept (P := fun e => e.Held task) (fun o ho _ he =>
    he.meet (since o ho) (steady o (by simp [ho]))) ⟨?_, finished, ?_⟩
  all_goals
    rw [history_append, history_cons, history_nil, Engine.meet, own, Engine.step]
  · rw [advance_registered]
    exact s.registered_of_runs runs
  · rw [advance_calls]
    exact nobody

/-- A task finishes alone only if somebody was called off: the call that started it would wait. -/
theorem FinishedAlone.cancelled (alone : FinishedAlone setup h task) (steady : Steady h) :
    ∃ o ∈ h, ∃ call, o.move = .cancel call := by
  by_contra uncancelled
  obtain ⟨before, last, after, rfl, -, runs, -, nobody, -⟩ := alone
  have steady' : Steady before := fun o ho => steady o (by simp [ho])
  obtain ⟨t, found, running⟩ := id runs
  obtain ⟨since, first, asked, rfl, own, free, rfl⟩ :=
    (flight_history setup steady').2.started found
  have kept : ∀ o ∈ since, o.move ≠ .cancel ((start setup).history first).calls.length :=
    fun o ho off => uncancelled ⟨o, by simp [ho], _, off⟩
  have joins : ((start setup).history first).joined =
      ((start setup).history first).tasks.length := by
    rw [joined, free.2, Option.getD_none]
  rcases (fares steady' own).waits free.1 kept with waits | ⟨outcome, finished, -⟩
  · exact nobody (joins ▸ List.mem_of_getElem? waits)
  · exact not_runs_of_outcome (joins ▸ finished) runs

/-! ### Why a finished task is registered -/

/-- Why a finished task is registered still: somebody waits for it, or it finished alone. -/
def Explained (setup : EngineSetup) (h : List Occasion) (e : Engine) : Prop :=
  ∀ k outcome, e.registered = some k → e.outcomeOf? k = some outcome →
    .waiting k ∈ e.calls ∨ FinishedAlone setup h k

theorem explained_start (setup : EngineSetup) : Explained setup [] (start setup) := by
  intro k outcome taken
  cases taken

/-- A call joins a task that runs, starts one, or leaves none registered. -/
theorem explained_ask (unready : e.ready = false) (source : Source) :
    Explained setup h (e.ask source) := by
  have asked := asks_ask e source
  generalize e.ask source = e' at asked
  intro k outcome taken' finished'
  cases asked with
  | served ready => simp [unready] at ready
  | starts =>
      obtain rfl := Option.some.inj taken'
      simp [outcomeOf?, SetupTask.outcome?] at finished'
  | joins _ taken pending =>
      obtain rfl := Option.some.inj (taken.symm.trans taken')
      cases pending.symm.trans finished'
  | inherits => cases taken'

theorem explained_advance (s : SingleFlight e) (explained : Explained setup h e)
    (reached : e = (start setup).history h) {o : Occasion} {i : Nat} (own : o.move = .advance i) :
    Explained setup (h ++ [o]) (e.meet o) := by
  intro k outcome taken' finished'
  have moved : e.meet o = (e.amid o.surroundings).advance i := by rw [meet, own, step]
  have calls : (e.meet o).calls = e.calls := by rw [moved, advance_calls, amid_calls]
  have taken : e.registered = some k := by
    rw [moved, advance_registered] at taken'
    exact taken'
  rw [calls]
  by_cases waits : .waiting k ∈ e.calls
  · exact .inl waits
  refine .inr ?_
  cases pending : e.outcomeOf? k with
  | some outcome =>
      have alone := (explained k outcome taken pending).resolve_left waits
      exact alone.concat (by simp [own])
  | none =>
      have there := List.getElem?_eq_getElem (s.registered_there taken)
      have runs := runs_of_outcome_none there pending
      have last : o.move = .advance k := by
        by_contra other
        have kept := (moved_meet e o).task_eq there other
        rw [outcomeOf?, kept] at finished'
        rw [outcomeOf?, there] at pending
        cases pending.symm.trans finished'
      subst reached
      exact ⟨h, o, [], rfl, last, runs, ⟨outcome, by simpa using finished'⟩, waits,
        fun o mem => by cases mem⟩

theorem Explained.concat (explained : Explained setup h e) {o : Occasion}
    (quiet : ∀ source, o.move ≠ .ask source) : Explained setup (h ++ [o]) e :=
  fun k outcome taken finished =>
    (explained k outcome taken finished).imp_right fun alone => alone.concat quiet

/-- A call comes to its end.  If it waited for the finished task, that is registered no longer. -/
theorem Explained.settles (explained : Explained setup h e) {state : CallState}
    {registered : Option Nat}
    (slot : ∀ k outcome, registered = some k → e.outcomeOf? k = some outcome →
      e.registered = some k ∧ e.calls[call]? ≠ some (.waiting k)) :
    Explained setup h { e with calls := e.calls.set call state, registered } := by
  intro k outcome taken' finished
  obtain ⟨taken, other⟩ := slot k outcome taken' finished
  exact (explained k outcome taken finished).imp_left fun waits => mem_set_of_mem waits other

theorem Explained.resume (explained : Explained setup h e) (call : Nat) :
    Explained setup h (e.resume call) := by
  have resumed := resumes_resume e call
  generalize e.resume call = e' at resumed
  cases resumed with
  | passes => exact explained
  | @ends i _ waits _ =>
      refine explained.settles fun k _ taken _ => ?_
      split at taken
      · cases taken
      · next other =>
          refine ⟨taken, fun waits' => other ?_⟩
          obtain rfl : i = k := by simpa using waits.symm.trans waits'
          exact taken

theorem Explained.cancel (explained : Explained setup h e) (call : Nat) :
    Explained setup h (e.cancel call) := by
  have cancelled := cancels_cancel e call
  generalize e.cancel call = e' at cancelled
  cases cancelled with
  | passes => exact explained
  | @leaves i waits =>
      refine explained.settles fun k _ taken finished => ?_
      split at taken
      · cases taken
      · next other =>
          refine ⟨taken, fun waits' => other ?_⟩
          obtain rfl : i = k := by simpa using waits.symm.trans waits'
          have taken : e.registered = some i := taken
          have finished : e.outcomeOf? i = _ := finished
          simp [taken, finished]

theorem explained_meet (s : SingleFlight e)
    (explained : e.ready = false → Explained setup h e) (reached : e = (start setup).history h)
    {o : Occasion} (steady : o.move ≠ .reset) (unready : (e.meet o).ready = false) :
    Explained setup (h ++ [o]) (e.meet o) := by
  have before : e.ready = false := by
    refine Bool.eq_false_iff.mpr fun ready => ?_
    have rests := (s.amid o.surroundings).rests_step ready steady
    exact absurd (rests.ready_eq.trans ready) (by simpa [meet] using unready)
  have explained := explained before
  obtain ⟨w, m⟩ := o
  cases m with
  | ask source => exact explained_ask (e := e.amid w) before source
  | advance i => exact explained_advance s explained reached rfl
  | resume call => exact (Explained.resume (e := e.amid w) explained call).concat (by simp)
  | cancel call => exact (Explained.cancel (e := e.amid w) explained call).concat (by simp)
  | reset => exact absurd rfl steady

/-- **A finished task that is still registered** is waited for, or finished alone. -/
theorem explained_history (setup : EngineSetup) {h : List Occasion} (steady : Steady h)
    (unready : ((start setup).history h).ready = false) :
    Explained setup h ((start setup).history h) := by
  revert steady unready
  refine history_induction (P := fun h e => Steady h → e.ready = false → Explained setup h e)
    (fun _ _ => explained_start setup) (fun h o ih steady unready => ?_) h
  have earlier : Steady h := fun o ho => steady o (List.mem_append_left _ ho)
  have s := (SingleFlight.start setup).history earlier
  exact explained_meet s (ih earlier) rfl (steady o (by simp)) unready

/-! ### The next call -/

theorem SingleFlight.replays (s : SingleFlight e) (unready : e.ready = false)
    (held : e.Held task) (source : Source) : e.Replays source task := by
  obtain ⟨outcome, finished⟩ := held.finished
  have failed : ∃ fault, outcome = .error fault := by
    cases outcome with
    | ok _ => exact absurd (s.ready_of_ok finished) (by simp [unready])
    | error fault => exact ⟨fault, rfl⟩
  obtain ⟨fault, rfl⟩ := failed
  have answer : e.ask source =
      { e with registered := none, calls := e.calls ++ [.ended (.error fault)] } := by
    have asked := asks_ask e source
    generalize e.ask source = e' at asked
    cases asked with
    | served ready => simp [unready] at ready
    | starts _ free => simp [held.taken] at free
    | joins _ taken pending =>
        obtain rfl := Option.some.inj (held.taken.symm.trans taken)
        exact absurd (pending.symm.trans finished) nofun
    | inherits _ taken same =>
        obtain rfl := Option.some.inj (held.taken.symm.trans taken)
        obtain rfl := Option.some.inj (finished.symm.trans same)
        rfl
  refine ⟨by rw [answer], ⟨fault, finished, by rw [answer]⟩, fun next => ?_⟩
  rw [answer]
  exact Free.starts (e := { e with registered := none, calls := _ }) ⟨unready, rfl⟩ next

/-- **When a call starts afresh.**  If the engine is not ready, no task is under way and nobody
waits, a call starts a task of its own exactly if no task finished alone.  Otherwise it fails at
once as that task did, and it is the call after it that starts a task. -/
theorem starts_iff (setup : EngineSetup) (h : List Occasion) (source : Source)
    (steady : Steady h) (unready : ((start setup).history h).ready = false)
    (idle : ∀ i, ¬ ((start setup).history h).Runs i)
    (nobody : ∀ i, .waiting i ∉ ((start setup).history h).calls) :
    (((start setup).history h).Starts source ↔ ∀ task, ¬ FinishedAlone setup h task) ∧
      ∀ task, FinishedAlone setup h task → ((start setup).history h).Replays source task := by
  have s := (SingleFlight.start setup).history steady
  have explained := explained_history setup steady unready
  have replays (task : Nat) (alone : FinishedAlone setup h task) :=
    s.replays unready (alone.held steady) source
  refine ⟨⟨fun starts task alone => ?_, fun none_ => ?_⟩, replays⟩
  · have same := starts.tasks.symm.trans (replays task alone).tasks
    simp at same
  · refine Free.starts ⟨unready, Option.eq_none_iff_forall_ne_some.mpr fun k taken => ?_⟩ source
    cases pending : ((start setup).history h).outcomeOf? k with
    | none =>
        have there := List.getElem?_eq_getElem (s.registered_there taken)
        exact idle k (runs_of_outcome_none there pending)
    | some outcome =>
        rcases explained k outcome taken pending with waits | alone
        · exact nobody k waits
        · exact none_ k alone

/-- An engine without plugins, whose locations are all refused. -/
def refusedSetup : EngineSetup where
  load location := .failed (.refused location 404)

/-- A call whose task fails, and which goes on afterwards. -/
def attended : List Occasion :=
  [.ask .usual, .advance 0, .advance 0, .resume 0].map (⟨refusedSetup.surroundings, ·⟩)

/-- A call that is called off before its task fails. -/
def abandoned : List Occasion :=
  [.ask .usual, .advance 0, .cancel 0, .advance 0].map (⟨refusedSetup.surroundings, ·⟩)

/-- If there is one task and it has finished, none is under way. -/
theorem idle_of_single {t : SetupTask} (tasks : e.tasks = [t])
    (finished : t.outcome? = some outcome) (i : Nat) : ¬ e.Runs i := by
  rintro ⟨u, found, running⟩
  rw [tasks] at found
  obtain rfl : u = t := List.mem_singleton.mp (List.mem_of_getElem? found)
  simp [running] at finished

/-- After a failure that its caller has learned of, the next call starts a task. -/
theorem starts_after_attended :
    let e := (start refusedSetup).history attended
    Steady attended ∧ e.ready = false ∧ (∀ i, ¬ e.Runs i) ∧ (∀ i, .waiting i ∉ e.calls) ∧
      e.Starts (.given (.ofFiles [])) ∧ ∀ task, ¬ FinishedAlone refusedSetup attended task := by
  intro e
  have steady : Steady attended := by simp [Steady, attended]
  have idle : ∀ i, ¬ e.Runs i := idle_of_single rfl rfl
  have nobody : ∀ i, .waiting i ∉ e.calls := by
    intro i waits
    cases List.mem_singleton.mp waits
  have starts : e.Starts (.given (.ofFiles [])) := ⟨rfl, rfl⟩
  have next := starts_iff refusedSetup attended (.given (.ofFiles [])) steady rfl idle nobody
  exact ⟨steady, rfl, idle, nobody, starts, next.1.mp starts⟩

/-- After a failure that nobody waited for, the next call fails with it, whatever its source. -/
theorem not_starts_after_abandoned :
    let e := (start refusedSetup).history abandoned
    Steady abandoned ∧ e.ready = false ∧ (∀ i, ¬ e.Runs i) ∧ (∀ i, .waiting i ∉ e.calls) ∧
      ¬ e.Starts (.given (.ofFiles [])) ∧
        (e.ask (.given (.ofFiles []))).tasks.length = 1 ∧
          (e.ask (.given (.ofFiles []))).calls[1]? =
            some (.ended (.error (.fixture (.refused e.setup.config.fixtures.usual 404)))) := by
  intro e
  have steady : Steady abandoned := by simp [Steady, abandoned]
  have idle : ∀ i, ¬ e.Runs i := idle_of_single rfl rfl
  have nobody : ∀ i, .waiting i ∉ e.calls := by
    intro i waits
    cases List.mem_singleton.mp waits
  refine ⟨steady, rfl, idle, nobody, fun starts => ?_, rfl, rfl⟩
  exact absurd (congrArg List.length starts.tasks) (by decide)

end Engine

end Verdict
