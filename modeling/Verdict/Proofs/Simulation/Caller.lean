import Verdict.Proofs.Simulation.History

/-!
# Simulation: callers

What becomes of those who ask, opened once.

* `Asks`, `Resumes`, `Cancels`: the ways in which a call is made, goes on and is called off, each
  with what it requires and the engine it leads to.
* `outcomeOf?_step`: a task that has finished keeps its outcome.
* `call_step`: a waiting call ends with the outcome of its task when it goes on after the task has
  finished, or is cancelled when it is called off; nothing else changes a call.
-/

namespace Verdict

namespace Engine

variable {e e' : Engine} {task call : Nat} {source : Source} {outcome : Except SetupFault Unit}

/-- What is elsewhere in a list stays in it when a place is set. -/
theorem mem_set_of_mem {α : Type} {l : List α} {i : Nat} {a b : α} (there : a ∈ l)
    (other : l[i]? ≠ some a) : a ∈ l.set i b := by
  obtain ⟨j, hj⟩ := List.getElem?_of_mem there
  have hij : i ≠ j := fun same => other (same ▸ hj)
  exact List.mem_of_getElem? ((List.getElem?_set_ne hij).trans hj)

/-- The outcome of a task, once it has finished. -/
def outcomeOf? (e : Engine) (task : Nat) : Option (Except SetupFault Unit) :=
  e.tasks[task]?.bind SetupTask.outcome?

/-- The task is there and has not finished. -/
def Runs (e : Engine) (task : Nat) : Prop :=
  ∃ t, e.tasks[task]? = some t ∧ t.outcome? = none

theorem not_runs_of_outcome (h : e.outcomeOf? task = some outcome) : ¬ e.Runs task := by
  rintro ⟨t, found, running⟩
  simp [outcomeOf?, found, running] at h

theorem exists_of_outcome (h : e.outcomeOf? task = some outcome) :
    ∃ t, e.tasks[task]? = some t ∧ t.outcome? = some outcome := by
  obtain ⟨t, found, finished⟩ := Option.bind_eq_some_iff.mp h
  exact ⟨t, found, finished⟩

theorem runs_of_outcome_none {t : SetupTask} (found : e.tasks[task]? = some t)
    (h : e.outcomeOf? task = none) : e.Runs task :=
  ⟨t, found, by simpa [outcomeOf?, found] using h⟩

/-! ### A call is made -/

/-- Among tasks with one added, a task is an earlier one or the added one. -/
theorem old_or_added {tasks : List SetupTask} {added t : SetupTask} {i : Nat}
    (found : (tasks ++ [added])[i]? = some t) :
    tasks[i]? = some t ∨ i = tasks.length ∧ t = added := by
  rcases Nat.lt_trichotomy i tasks.length with lt | rfl | gt
  · exact .inl (by rwa [List.getElem?_append_left lt] at found)
  · exact .inr ⟨rfl, by simpa using found.symm⟩
  · rw [List.getElem?_eq_none (by simpa using Nat.succ_le_of_lt gt)] at found
    cases found

/-- Among tasks of which one is changed, a task is that one, or another as it was. -/
theorem own_or_other {tasks : List SetupTask} {changed t : SetupTask} {i : Nat}
    (found : (tasks.set task changed)[i]? = some t) :
    i = task ∧ t = changed ∨ i ≠ task ∧ tasks[i]? = some t := by
  by_cases own : i = task
  · subst own
    have there : i < (tasks.set i changed).length := (List.getElem?_eq_some_iff.mp found).1
    rw [List.getElem?_set_self (by simpa using there)] at found
    exact .inl ⟨rfl, (Option.some.inj found).symm⟩
  · rw [List.getElem?_set_ne (Ne.symm own)] at found
    exact .inr ⟨own, found⟩

/-- **The ways in which a call is made.** -/
inductive Asks (e : Engine) (source : Source) : Engine → Prop where
  | served (ready : e.ready = true) :
      Asks e source { e with calls := e.calls ++ [.ended (.ok ())] }
  | starts (unready : e.ready = false) (free : e.registered = none) :
      Asks e source
        { e with
          tasks := e.tasks ++ [{ source := source }]
          registered := some e.tasks.length
          calls := e.calls ++ [.waiting e.tasks.length] }
  | joins {task : Nat} (unready : e.ready = false) (taken : e.registered = some task)
      (pending : e.outcomeOf? task = none) :
      Asks e source { e with calls := e.calls ++ [.waiting task] }
  | inherits {task : Nat} {outcome : Except SetupFault Unit} (unready : e.ready = false)
      (taken : e.registered = some task) (finished : e.outcomeOf? task = some outcome) :
      Asks e source { e with registered := none, calls := e.calls ++ [.ended outcome] }

theorem asks_ask (e : Engine) (source : Source) : e.Asks source (e.ask source) := by
  cases ready : e.ready with
  | true =>
      have h : e.Asks source _ := .served ready
      simpa [ask, ready, addCall] using h
  | false =>
      cases taken : e.registered with
      | none =>
          have h : e.Asks source _ := .starts ready taken
          simpa [ask, ready, taken, addCall] using h
      | some task =>
          cases finished : e.tasks[task]?.bind SetupTask.outcome? with
          | none =>
              have h : e.Asks source _ := .joins ready taken finished
              simpa [ask, ready, taken, addCall, finished] using h
          | some outcome =>
              have h : e.Asks source _ := .inherits ready taken finished
              simpa [ask, ready, taken, addCall, release_eq, finished] using h

/-! ### A call goes on, or is called off -/

/-- **The ways in which a call goes on.** -/
inductive Resumes (e : Engine) (call : Nat) : Engine → Prop where
  | passes (still : ∀ task, e.calls[call]? = some (.waiting task) → e.outcomeOf? task = none) :
      Resumes e call e
  | ends {task : Nat} {outcome : Except SetupFault Unit}
      (waits : e.calls[call]? = some (.waiting task))
      (finished : e.outcomeOf? task = some outcome) :
      Resumes e call
        { e with
          calls := e.calls.set call (.ended outcome)
          registered := if e.registered = some task then none else e.registered }

theorem resumes_resume (e : Engine) (call : Nat) : e.Resumes call (e.resume call) := by
  unfold resume
  split
  · next task waits =>
      split
      · next outcome finished =>
          have h : e.Resumes call _ := .ends waits finished
          simpa [release_eq, finished] using h
      · next pending =>
          refine .passes fun other waits' => ?_
          obtain rfl : task = other := by simpa [waits] using waits'
          exact pending
  · next idle => exact .passes fun task waits => absurd waits (idle task)

/-- **The ways in which a call is called off.** -/
inductive Cancels (e : Engine) (call : Nat) : Engine → Prop where
  | passes (idle : ∀ task, e.calls[call]? ≠ some (.waiting task)) : Cancels e call e
  | leaves {task : Nat} (waits : e.calls[call]? = some (.waiting task)) :
      Cancels e call
        { e with
          calls := e.calls.set call .cancelled
          registered :=
            if e.registered = some task && (e.outcomeOf? task).isSome then none
            else e.registered }

theorem cancels_cancel (e : Engine) (call : Nat) : e.Cancels call (e.cancel call) := by
  unfold cancel
  split
  · next task waits =>
      rw [release_eq]
      exact .leaves waits
  · next idle => exact .passes idle

theorem resume_tasks (e : Engine) (call : Nat) : (e.resume call).tasks = e.tasks := by
  have h := resumes_resume e call
  generalize e.resume call = e' at h
  cases h <;> rfl

theorem cancel_tasks (e : Engine) (call : Nat) : (e.cancel call).tasks = e.tasks := by
  have h := cancels_cancel e call
  generalize e.cancel call = e' at h
  cases h <;> rfl

/-! ### What other moves leave to callers -/

theorem Advances.calls_eq {t : SetupTask} (h : e.Advances task t e') : e'.calls = e.calls := by
  cases h <;> rfl

theorem Advances.registered_eq {t : SetupTask} (h : e.Advances task t e') :
    e'.registered = e.registered := by
  cases h <;> rfl

theorem advance_calls (e : Engine) (task : Nat) : (e.advance task).calls = e.calls := by
  cases found : e.tasks[task]? with
  | none => rw [advance_of_none found]
  | some t => exact (advances_advance found).calls_eq

theorem advance_registered (e : Engine) (task : Nat) :
    (e.advance task).registered = e.registered := by
  cases found : e.tasks[task]? with
  | none => rw [advance_of_none found]
  | some t => exact (advances_advance found).registered_eq

/-- A task that has finished takes no further step. -/
theorem Advances.eq_of_outcome {t : SetupTask} (h : e.Advances task t e')
    (finished : t.outcome? = some outcome) : e' = e := by
  cases h with
  | ended => rfl
  | hangs phase _ | begins phase _ | adopts phase _ | loads phase _ | failsToLoad phase _ _
  | prepares phase _ | failsToPrepare phase _ | completes phase =>
      simp [SetupTask.outcome?, phase] at finished

/-- What a step makes of a task and of the readiness of the engine. -/
theorem Advances.effect {t : SetupTask} (h : e.Advances task t e') :
    e' = e ∨ t.outcome? = none ∧ ∃ t', t.Follows e t' ∧ e'.tasks = e.tasks.set task t' ∧
      (t'.outcome? ≠ some (.ok ()) ∧ e'.ready = e.ready ∨
        t'.outcome? = some (.ok ()) ∧ e'.ready = if t.epoch = e.epoch then true else e.ready) := by
  cases h with
  | ended | hangs => exact .inl rfl
  | begins phase _ | adopts phase _ | loads phase _ | failsToLoad phase _ _ | prepares phase _
  | failsToPrepare phase _ =>
      refine .inr ⟨by simp [SetupTask.outcome?, phase], _, ?_, rfl, .inl ⟨?_, rfl⟩⟩
      · exact ⟨rfl, rfl, by simp [phase, Phase.begun], by simp [phase, Phase.begun]⟩
      · simp [SetupTask.outcome?]
  | completes phase =>
      refine .inr ⟨by simp [SetupTask.outcome?, phase], _, ?_, rfl, .inr ⟨rfl, rfl⟩⟩
      exact ⟨rfl, rfl, by simp [phase, Phase.begun], by simp [phase, Phase.begun]⟩

theorem advance_of_outcome (h : e.outcomeOf? task = some outcome) : e.advance task = e := by
  obtain ⟨t, found, finished⟩ := exists_of_outcome h
  exact (advances_advance found).eq_of_outcome finished

/-- A task that has finished keeps its outcome. -/
theorem outcomeOf?_step (h : e.outcomeOf? task = some outcome) (m : Move) :
    (e.step m).outcomeOf? task = some outcome := by
  obtain ⟨t, found, finished⟩ := exists_of_outcome h
  by_cases own : m = .advance task
  · subst own
    rw [step, advance_of_outcome h, h]
  · have kept := (moved_step e m).task_eq found own
    simp [outcomeOf?, kept, finished]

/-- **What becomes of a call.**  Only going on and being called off change it. -/
theorem call_step {state : CallState} (h : e.calls[call]? = some state) (m : Move) :
    (e.step m).calls[call]? = some state ∨
      ∃ task, state = .waiting task ∧
        ((m = .cancel call ∧ (e.step m).calls[call]? = some .cancelled) ∨
          ∃ outcome, m = .resume call ∧ e.outcomeOf? task = some outcome ∧
            (e.step m).calls[call]? = some (.ended outcome)) := by
  have hlt : call < e.calls.length := (List.getElem?_eq_some_iff.mp h).1
  have longer (added : List CallState) : (e.calls ++ added)[call]? = some state := by
    rw [List.getElem?_append_left hlt, h]
  cases m with
  | ask source =>
      have asked := asks_ask e source
      rw [step]
      generalize e.ask source = e' at asked
      cases asked with
      | served | starts | joins | inherits => exact .inl (longer _)
  | advance task => exact .inl (by rw [step, advance_calls, h])
  | reset =>
      rw [step, (resets_reset e).calls_eq]
      exact .inl h
  | resume other =>
      have resumed := resumes_resume e other
      rw [step]
      generalize e.resume other = e' at resumed
      cases resumed with
      | passes => exact .inl h
      | @ends task outcome waits finished =>
          by_cases own : other = call
          · subst own
            obtain rfl := Option.some.inj (h.symm.trans waits)
            exact .inr ⟨task, rfl, .inr ⟨outcome, rfl, finished, List.getElem?_set_self hlt⟩⟩
          · exact .inl (by rw [List.getElem?_set_ne own, h])
  | cancel other =>
      have cancelled := cancels_cancel e other
      rw [step]
      generalize e.cancel other = e' at cancelled
      cases cancelled with
      | passes => exact .inl h
      | @leaves task waits =>
          by_cases own : other = call
          · subst own
            obtain rfl := Option.some.inj (h.symm.trans waits)
            exact .inr ⟨task, rfl, .inl ⟨rfl, List.getElem?_set_self hlt⟩⟩
          · exact .inl (by rw [List.getElem?_set_ne own, h])

end Engine

end Verdict
