import Verdict.Proofs.Simulation.Progress
import Verdict.Proofs.Simulation.Reset

/-!
# Simulation: joining a task

Who asks while a task is under way joins it, and is answered with its outcome.

* `Phase.left`: the steps that are left to a task.  Each of its turns takes one away, and no move
  adds one (`left_history`), so a task that gets turns enough finishes.
* `EndedWith`: a call has ended with the outcome of a task.  A call that nobody calls off waits for
  the task that it joined until it has (`fares_history`).
* `flight_shared`: one task at a time, its outcome for everyone who joined it, and once the engine
  is ready, nothing that changes it.
-/

namespace Verdict

/-- The steps that are left to a task of an engine. -/
def Phase.left (s : EngineSetup) : Phase → Nat
  | .queued => s.registry.pluginNames.length + 3
  | .loading _ => s.registry.pluginNames.length + 2
  | .preparing _ rest => rest.length + 1
  | .finished _ => 0

theorem SetupTask.outcome_of_left_eq_zero {s : EngineSetup} {t : SetupTask}
    (h : t.phase.left s = 0) : ∃ outcome, t.outcome? = some outcome := by
  cases phase : t.phase with
  | finished outcome => exact ⟨outcome, by rw [SetupTask.outcome?, phase]⟩
  | _ => simp [Phase.left, phase] at h

/-- The task goes on, and the location of its source, if there is one, answers. -/
def EngineSetup.Turn (s : EngineSetup) (source : Source) (task : Nat) (o : Occasion) : Prop :=
  o.move = .advance task ∧ ∀ location, s.locationFor? source = some location →
    (o.surroundings.load location).outcome ≠ .error .silent

namespace Engine

variable {setup : EngineSetup} {h : List Occasion} {e e' : Engine} {task call : Nat}
  {t : SetupTask} {source : Source}

/-! ### The steps that are left -/

theorem Advances.left (adv : e.Advances task t e') (found : e.tasks[task]? = some t)
    (all : e.setup.registry.plugins.length = setup.registry.pluginNames.length)
    (taken : ∀ location, t.phase = .loading location →
      t.registry.plugins.length = setup.registry.pluginNames.length) :
    ∃ t', e'.tasks[task]? = some t' ∧ t'.source = t.source ∧
      (t'.phase.left setup ≤ t.phase.left setup - 1 ∨
        t' = t ∧ ∃ location, t.phase = .loading location ∧
          (e.setup.load location).outcome = .error .silent) := by
  have now (t' : SetupTask) : (e.tasks.set task t')[task]? = some t' :=
    List.getElem?_set_self (List.getElem?_eq_some_iff.mp found).1
  cases adv with
  | ended phase => exact ⟨t, found, rfl, .inl (by simp [phase, Phase.left])⟩
  | hangs phase silent => exact ⟨t, found, rfl, .inr ⟨rfl, _, phase, silent⟩⟩
  | begins phase _ | failsToLoad phase _ _ | failsToPrepare phase _ | completes phase
  | prepares phase _ => exact ⟨_, now _, rfl, .inl (by simp [phase, Phase.left])⟩
  | adopts phase _ => exact ⟨_, now _, rfl, .inl (by simp [phase, Phase.left, all])⟩
  | loads phase _ =>
      exact ⟨_, now _, rfl, .inl (by simp [phase, Phase.left, taken _ phase])⟩

/-- No move adds a step to a task, and its turns take one away. -/
theorem Flight.left_meet (f : Flight setup h e) (found : e.tasks[task]? = some t) (o : Occasion) :
    ∃ t', (e.meet o).tasks[task]? = some t' ∧ t'.source = t.source ∧
      t'.phase.left setup ≤ t.phase.left setup ∧
      (setup.Turn t.source task o → t'.phase.left setup ≤ t.phase.left setup - 1) := by
  by_cases own : o.move = .advance task
  · have length {r : Registry} (same : r.pluginNames = setup.registry.pluginNames) :
        r.plugins.length = setup.registry.pluginNames.length := by
      rw [← same, Registry.pluginNames, Table.keys, List.length_map]
    have taken (location : String) (phase : t.phase = .loading location) :=
      length (f.loading found phase).2
    have moved : e.meet o = (e.amid o.surroundings).advance task := by rw [Engine.meet, own, step]
    rw [moved]
    obtain ⟨t', there, source, fewer | ⟨rfl, location, phase, silent⟩⟩ :=
      (advances_advance (e := e.amid o.surroundings) found).left found
        (length (f.amid_names o.surroundings)) taken
    · exact ⟨t', there, source, Nat.le_trans fewer (Nat.sub_le _ _), fun _ => fewer⟩
    · refine ⟨t', there, rfl, Nat.le_refl _, fun turn => ?_⟩
      exact absurd silent (turn.2 location (f.loading found phase).1)
  · have kept := (moved_meet e o).task_eq found own
    exact ⟨t, kept, rfl, Nat.le_refl _, fun turn => absurd turn.1 own⟩

/-- **Every turn takes a step away.** -/
theorem left_history {before during turns : List Occasion} (steady : Steady (before ++ during))
    (found : ((start setup).history before).tasks[task]? = some t)
    (within : turns.Sublist during) (own : ∀ o ∈ turns, setup.Turn t.source task o) :
    ∃ t', ((start setup).history (before ++ during)).tasks[task]? = some t' ∧
      t'.source = t.source ∧ t'.phase.left setup ≤ t.phase.left setup - turns.length := by
  induction during generalizing before turns t with
  | nil =>
      obtain rfl := List.sublist_nil.mp within
      exact ⟨t, by simpa using found, rfl, Nat.le_refl _⟩
  | cons o during ih =>
      have split : before ++ o :: during = before ++ [o] ++ during := by simp
      rw [split] at steady ⊢
      have earlier : Steady before := fun o ho => steady o (by simp [ho])
      obtain ⟨t₁, there, source, le, fewer⟩ := (flight_history setup earlier).2.left_meet found o
      have found₁ : ((start setup).history (before ++ [o])).tasks[task]? = some t₁ := by
        simpa using there
      rw [← source] at own fewer
      cases within with
      | cons _ within =>
          obtain ⟨t', there', source', le'⟩ := ih steady found₁ within own
          exact ⟨t', there', source'.trans source, by omega⟩
      | cons_cons _ within =>
          obtain ⟨t', there', source', le'⟩ :=
            ih steady found₁ within fun o ho => own o (List.mem_cons_of_mem _ ho)
          have taken := fewer (own o List.mem_cons_self)
          exact ⟨t', there', source'.trans source, by rw [List.length_cons]; omega⟩

/-- No task has more steps left than one in the queue. -/
theorem Flight.left_le (f : Flight setup h e) (found : e.tasks[task]? = some t) :
    t.phase.left setup ≤ Phase.queued.left setup := by
  cases phase : t.phase with
  | queued => exact Nat.le_refl _
  | loading location => simp [Phase.left]
  | finished outcome => simp [Phase.left]
  | preparing project rest =>
      obtain ⟨-, -, done, names, -⟩ := f.preparing found phase
      simp only [Phase.left, names, List.length_append, Table.keys, List.length_map]
      omega

/-- **A task that gets turns enough finishes.** -/
theorem outcome_of_turns {before during turns : List Occasion}
    (steady : Steady (before ++ during))
    (found : ((start setup).history before).tasks[task]? = some t)
    (within : turns.Sublist during) (own : ∀ o ∈ turns, setup.Turn t.source task o)
    (enough : Phase.queued.left setup ≤ turns.length) :
    ∃ outcome, ((start setup).history (before ++ during)).outcomeOf? task = some outcome := by
  have earlier : Steady before := fun o ho => steady o (by simp [ho])
  have most := (flight_history setup earlier).2.left_le found
  obtain ⟨t', there, -, le⟩ := left_history steady found within own
  obtain ⟨outcome, finished⟩ :=
    SetupTask.outcome_of_left_eq_zero (s := setup) (t := t') (by omega)
  exact ⟨outcome, by rw [outcomeOf?, there]; exact finished⟩

/-! ### Calls -/

/-- A call that has ended stays so. -/
theorem ended_meet {outcome : Except SetupFault Unit}
    (ended : e.calls[call]? = some (.ended outcome)) (o : Occasion) :
    (e.meet o).calls[call]? = some (.ended outcome) := by
  rcases call_step (e := e.amid o.surroundings) ended o.move with same | ⟨_, waits, -⟩
  · exact same
  · cases waits

theorem ended_history {outcome : Except SetupFault Unit}
    (ended : e.calls[call]? = some (.ended outcome)) (later : List Occasion) :
    (e.history later).calls[call]? = some (.ended outcome) :=
  history_kept (P := fun e => e.calls[call]? = some (.ended outcome))
    (fun o _ _ he => ended_meet he o) ended

/-- A call has ended with the outcome of a task. -/
def EndedWith (e : Engine) (call task : Nat) : Prop :=
  ∃ outcome, e.outcomeOf? task = some outcome ∧ e.calls[call]? = some (.ended outcome)

theorem EndedWith.meet (h : e.EndedWith call task) (o : Occasion) :
    (e.meet o).EndedWith call task := by
  obtain ⟨outcome, finished, ended⟩ := h
  exact ⟨outcome, outcomeOf?_step (e := e.amid o.surroundings) finished o.move, ended_meet ended o⟩

theorem EndedWith.history (h : e.EndedWith call task) (later : List Occasion) :
    (e.history later).EndedWith call task :=
  history_kept (P := fun e => e.EndedWith call task) (fun o _ _ he => he.meet o) h

/-- The task that a call joins: the registered one, or else a new one. -/
def joined (e : Engine) : Nat := e.registered.getD e.tasks.length

/-- A call that is made when the engine is not ready waits for the registered task, or for a new
one, unless the registered task has finished: then it ends with the outcome of that. -/
theorem fares_ask (unready : e.ready = false) (source : Source) :
    (e.ask source).calls[e.calls.length]? = some (.waiting e.joined) ∨
      (e.ask source).EndedWith e.calls.length e.joined := by
  rw [joined]
  have asked := asks_ask e source
  generalize e.ask source = e' at asked
  cases asked with
  | served ready => simp [unready] at ready
  | starts _ free => exact .inl (by simp [free])
  | joins _ taken pending => exact .inl (by simp [taken])
  | inherits _ taken finished => exact .inr ⟨_, by rw [taken]; exact finished, by simp⟩

/-- **A call that nobody calls off** waits for its task until it ends with the outcome of it. -/
theorem fares_history {later : List Occasion}
    (h : e.calls[call]? = some (.waiting task) ∨ e.EndedWith call task)
    (kept : ∀ o ∈ later, o.move ≠ .cancel call) :
    (e.history later).calls[call]? = some (.waiting task) ∨
      (e.history later).EndedWith call task := by
  refine history_kept (P := fun e => e.calls[call]? = some (.waiting task) ∨ e.EndedWith call task)
    (fun o ho e he => ?_) h
  rcases he with waits | ended
  · rcases call_step (e := e.amid o.surroundings) waits o.move with
      same | ⟨i, own, ⟨off, -⟩ | ⟨outcome, -, finished, ended⟩⟩
    · exact .inl same
    · exact absurd off (kept o ho)
    · obtain rfl : task = i := by simpa using own
      have still := outcomeOf?_step (e := e.amid o.surroundings) finished o.move
      exact .inr ⟨outcome, still, ended⟩
  · exact .inr (ended.meet o)

/-- A call that goes on when its task has finished ends with the outcome of it. -/
theorem ended_of_resume {outcome : Except SetupFault Unit}
    (waits : e.calls[call]? = some (.waiting task)) (finished : e.outcomeOf? task = some outcome)
    {o : Occasion} (own : o.move = .resume call) : (e.meet o).EndedWith call task := by
  have resumed := resumes_resume (e.amid o.surroundings) call
  have moved : e.meet o = (e.amid o.surroundings).resume call := by rw [meet, own, step]
  rw [moved]
  generalize (e.amid o.surroundings).resume call = e' at resumed
  cases resumed with
  | passes still =>
      rw [show e.outcomeOf? task = none from still task waits] at finished
      cases finished
  | @ends i outcome' waits' finished' =>
      obtain rfl : task = i := by simpa using waits.symm.trans waits'
      have hlt : call < e.calls.length := (List.getElem?_eq_some_iff.mp waits).1
      exact ⟨outcome', finished', List.getElem?_set_self hlt⟩

/-- What comes after a call lets it end: its task has turns enough, and then the call goes on. -/
def TurnsCome (setup : EngineSetup) (source : Source) (task call : Nat) (after : List Occasion) :
    Prop :=
  ∃ during resumed rest, after = during ++ resumed :: rest ∧ resumed.move = .resume call ∧
    ∃ turns : List Occasion, turns.Sublist during ∧ Phase.queued.left setup ≤ turns.length ∧
      ∀ o ∈ turns, setup.Turn source task o

/-- **How a call fares** that is made in one state of an engine, by another state, with what came
after the call. -/
structure Fares (setup : EngineSetup) (now : Engine) (after : List Occasion) (e : Engine) :
    Prop where
  /-- An engine that is ready answers at once. -/
  served : now.ready = true → e.calls[now.calls.length]? = some (.ended (.ok ()))
  /-- A call that nobody calls off waits for the task that it joined, or has ended with the outcome
  of it. -/
  waits : now.ready = false → (∀ o ∈ after, o.move ≠ .cancel now.calls.length) →
    e.calls[now.calls.length]? = some (.waiting now.joined) ∨
      e.EndedWith now.calls.length now.joined
  /-- It ends, if what comes after it lets it. -/
  ends : now.ready = false → (∀ o ∈ after, o.move ≠ .cancel now.calls.length) →
    ∃ t, e.tasks[now.joined]? = some t ∧
      (TurnsCome setup t.source now.joined now.calls.length after →
        e.EndedWith now.calls.length now.joined)

/-- The task that a waiting call, or one that has ended with its outcome, has to do with. -/
theorem SingleFlight.task_of_call (s : SingleFlight e)
    (h : e.calls[call]? = some (.waiting task) ∨ e.EndedWith call task) :
    ∃ t, e.tasks[task]? = some t := by
  rcases h with waits | ⟨outcome, finished, -⟩
  · exact ⟨_, List.getElem?_eq_getElem (s.waited_there (List.mem_of_getElem? waits))⟩
  · obtain ⟨t, found, -⟩ := exists_of_outcome finished
    exact ⟨t, found⟩

theorem fares {before after : List Occasion} {asked : Occasion}
    (steady : Steady (before ++ asked :: after)) (own : asked.move = .ask source) :
    Fares setup ((start setup).history before) after
      ((start setup).history (before ++ asked :: after)) := by
  have split : before ++ asked :: after = before ++ [asked] ++ after := by simp
  rw [split] at steady ⊢
  have steady₁ : Steady (before ++ [asked]) := fun o ho => steady o (List.mem_append_left _ ho)
  have s₁ := (flight_history setup steady₁).1
  rw [history_append (k := after)]
  -- the state in which the call was made, and the one right after
  generalize hnow : (start setup).history before = now
  have made : (start setup).history (before ++ [asked]) =
      (now.amid asked.surroundings).ask source := by
    rw [history_append, hnow, history_cons, history_nil, meet, own, step]
  have first (unready : now.ready = false) :=
    fares_ask (e := now.amid asked.surroundings) unready source
  rw [← made] at first
  refine ⟨fun ready => ?_, fun unready kept => fares_history (first unready) kept,
    fun unready kept => ?_⟩
  · rw [made]
    refine ended_history ?_ after
    simp [ask, ready, addCall]
  · obtain ⟨t₁, found₁⟩ := s₁.task_of_call (first unready)
    obtain ⟨t, found, source_eq, -⟩ :=
      left_history steady found₁ (List.nil_sublist _) fun o mem => by cases mem
    rw [history_append (k := after)] at found
    refine ⟨t, found, fun come => ?_⟩
    obtain ⟨during, resumed, rest, rfl, goes, turns, within, enough, turn⟩ := come
    rw [history_append, history_cons]
    have kept' : ∀ o ∈ during, o.move ≠ .cancel now.calls.length := fun o ho =>
      kept o (List.mem_append_left _ ho)
    rcases fares_history (first unready) kept' with waits | ended
    · have steady' : Steady (before ++ [asked] ++ during) := fun o ho => steady o (by
        simp only [List.mem_append] at ho ⊢
        exact ho.imp_right .inl)
      obtain ⟨outcome, finished⟩ :=
        outcome_of_turns steady' found₁ within (source_eq ▸ turn) enough
      rw [history_append (k := during)] at finished
      exact (ended_of_resume waits finished goes).history rest
    · exact (ended.meet resumed).history rest

/-- **One flight for all.**  In a history without a reset at most one task is under way.  Every call
joins it, or is answered at once if the engine is ready, and ends with its outcome; a call that ends
well leaves the engine ready.  And once the engine is ready, its project is the one that the call
brought which started the successful task, all plugins were last prepared for it, and nothing
changes that or is reported any more. -/
theorem flight_shared (setup : EngineSetup) (h : List Occasion) (steady : Steady h) :
    let e := (start setup).history h
    (∀ i j, e.Runs i → e.Runs j → i = j) ∧
    (∀ before asked after source, h = before ++ asked :: after → asked.move = .ask source →
      Fares setup ((start setup).history before) after e) ∧
    (.ended (.ok ()) ∈ e.calls → e.ready = true) ∧
    (e.ready = true → ∃ task source project,
      e.outcomeOf? task = some (.ok ()) ∧ Brings setup h task source project ∧
        e.project = some project ∧ LastPrepared setup.registry.pluginNames project e ∧
          ∀ later, Steady later → Rests e (e.history later)) := by
  intro e
  obtain ⟨s, f⟩ := flight_history setup steady
  refine ⟨fun i j => s.runs_unique, fun before asked after source split own => ?_,
    s.ready_of_served, fun ready => ?_⟩
  · simp only [e]
    subst split
    exact fares steady own
  · obtain ⟨task, source, project, ok, loaded, brings, prepared⟩ := f.ready ready
    exact ⟨task, source, project, ok, brings, loaded, prepared,
      fun later steady' => s.rests_history ready steady'⟩

/-- Two calls: the second is made while the task of the first is under way, and goes on first. -/
def twoCalls : List Occasion :=
  [.ask (.given (.ofFiles [("a.txt", "")])), .advance 0, .ask (.given (.ofFiles [])), .advance 0,
    .advance 0, .advance 0, .advance 0, .resume 1, .resume 0].map (⟨pluginSetup.surroundings, ·⟩)

/-- The second of two calls ends with the outcome of the task that the first one started. -/
theorem flight_shared_by_twoCalls :
    let e := (start pluginSetup).history twoCalls
    Steady twoCalls ∧ e.ready = true ∧ e.EndedWith 1 0 ∧
      ∃ task source project, Brings pluginSetup twoCalls task source project ∧
        e.project = some project ∧ LastPrepared ["plugin"] project e := by
  intro e
  have steady : Steady twoCalls := by simp [Steady, twoCalls]
  have ready : e.ready = true := by decide
  obtain ⟨-, fare, -, loaded⟩ := flight_shared pluginSetup twoCalls steady
  obtain ⟨task, source, project, -, brings, loaded, prepared, -⟩ := loaded ready
  refine ⟨steady, ready, ?_, task, source, project, brings, loaded, prepared⟩
  have second := fare (twoCalls.take 2) _ (twoCalls.drop 3) _ rfl rfl
  obtain ⟨t, found, ends⟩ := second.ends rfl (by simp [twoCalls])
  have given : t.source = .given (.ofFiles [("a.txt", "")]) :=
    (Option.some.inj (congrArg (Option.map SetupTask.source) found)).symm
  refine ends ⟨(twoCalls.drop 3).take 4, _, [_], rfl, rfl, _, .refl _, by decide, ?_⟩
  have joins : ((start pluginSetup).history (twoCalls.take 2)).joined = 0 := rfl
  rw [given, joins]
  simp [twoCalls, EngineSetup.Turn, EngineSetup.locationFor?]

end Engine

end Verdict
