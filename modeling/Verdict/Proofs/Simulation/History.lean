import Mathlib.Data.List.Induction
import Verdict.Proofs.Simulation.Move

/-!
# Simulation: histories in changing surroundings

What an engine meets does not stay as it is: a location may hold another fixture, or none, when it
is asked again, a plugin that failed may be prepared the next time, and the factory of registries
may give other plugins, or fail.  An occasion is a move with the surroundings in which it is made; a
history is any list of occasions.

* `steps_eq_history`: moves alone are the histories in the surroundings that the engine was built
  with.
* `history_induction`: what holds at the start and is kept by every further occasion holds after
  every history, and may speak of the history itself.
-/

namespace Verdict

/-- What a move meets: the fixtures at the locations, how plugins take their preparation, and what
the factory of registries gives. -/
structure Surroundings where
  load : String → Fixture.Loading
  prepare : Plugin → Project → Except Failure Unit
  factory : Except Failure Registry

/-- A move in given surroundings. -/
structure Occasion where
  surroundings : Surroundings
  move : Move

namespace EngineSetup

/-- The setup in other surroundings. -/
def amid (s : EngineSetup) (w : Surroundings) : EngineSetup :=
  { s with
    load := w.load
    factory := w.factory
    registry := { s.registry with
      plugins := s.registry.plugins.map fun (name, p) =>
        (name, { p with prepare := w.prepare p }) } }

/-- The surroundings that a setup itself describes. -/
def surroundings (s : EngineSetup) : Surroundings := ⟨s.load, Plugin.prepare, s.factory⟩

variable (s : EngineSetup) (w : Surroundings)

@[simp] theorem amid_config : (s.amid w).config = s.config := rfl

@[simp] theorem amid_load : (s.amid w).load = w.load := rfl

@[simp] theorem amid_factory : (s.amid w).factory = w.factory := rfl

@[simp] theorem amid_pluginNames :
    (s.amid w).registry.pluginNames = s.registry.pluginNames := by
  simp [amid, Registry.pluginNames, Table.keys]

@[simp] theorem amid_surroundings : s.amid s.surroundings = s := by
  simp [amid, surroundings]

@[simp] theorem locationFor?_amid (source : Source) :
    (s.amid w).locationFor? source = s.locationFor? source := by
  cases source <;> rfl

end EngineSetup

namespace Engine

/-- The engine in other surroundings. -/
def amid (e : Engine) (w : Surroundings) : Engine := { e with setup := e.setup.amid w }

section Amid

variable (e : Engine) (w : Surroundings)

@[simp] theorem amid_setup : (e.amid w).setup = e.setup.amid w := rfl
@[simp] theorem amid_epoch : (e.amid w).epoch = e.epoch := rfl
@[simp] theorem amid_registryEpoch : (e.amid w).registryEpoch = e.registryEpoch := rfl
@[simp] theorem amid_project : (e.amid w).project = e.project := rfl
@[simp] theorem amid_ready : (e.amid w).ready = e.ready := rfl
@[simp] theorem amid_tasks : (e.amid w).tasks = e.tasks := rfl
@[simp] theorem amid_registered : (e.amid w).registered = e.registered := rfl
@[simp] theorem amid_calls : (e.amid w).calls = e.calls := rfl
@[simp] theorem amid_stages : (e.amid w).stages = e.stages := rfl
@[simp] theorem amid_prepared : (e.amid w).prepared = e.prepared := rfl

end Amid

/-- What an occasion does. -/
def meet (e : Engine) (o : Occasion) : Engine := (e.amid o.surroundings).step o.move

/-- What a history does. -/
def history (e : Engine) (occasions : List Occasion) : Engine := occasions.foldl meet e

variable {e : Engine}

theorem moved_meet (e : Engine) (o : Occasion) :
    (e.amid o.surroundings).Moved o.move (e.meet o) := moved_step _ _

@[simp] theorem history_nil : e.history [] = e := rfl

@[simp] theorem history_cons (o : Occasion) (rest : List Occasion) :
    e.history (o :: rest) = (e.meet o).history rest := rfl

@[simp] theorem history_append (h k : List Occasion) :
    e.history (h ++ k) = (e.history h).history k := List.foldl_append

/-- Moves alone are histories in the surroundings that the engine has. -/
theorem steps_eq_history : ∀ {e : Engine} (moves : List Move),
    e.steps moves = e.history (moves.map (⟨e.setup.surroundings, ·⟩))
  | _, [] => rfl
  | e, m :: rest => by
      have own : e.amid e.setup.surroundings = e := by simp [amid]
      have kept : (e.step m).setup.surroundings = e.setup.surroundings := by
        rw [(moved_step e m).setup_eq]
        rfl
      have next : e.meet ⟨e.setup.surroundings, m⟩ = e.step m := by rw [meet, own]
      rw [List.map_cons, history_cons, next, ← kept]
      exact steps_eq_history rest

/-- **What every occasion keeps** is kept by every history. -/
theorem history_kept {P : Engine → Prop} {occasions : List Occasion}
    (kept : ∀ o ∈ occasions, ∀ {e : Engine}, P e → P (e.meet o)) (he : P e) :
    P (e.history occasions) := by
  induction occasions generalizing e with
  | nil => exact he
  | cons o rest ih =>
      exact ih (fun o ho => kept o (List.mem_cons_of_mem _ ho)) (kept o List.mem_cons_self he)

/-- What holds at the start and is kept by every further occasion holds after every history. -/
theorem history_induction {P : List Occasion → Engine → Prop} (start : P [] e)
    (kept : ∀ h o, P h (e.history h) → P (h ++ [o]) ((e.history h).meet o)) :
    ∀ h, P h (e.history h) := by
  intro h
  induction h using List.reverseRecOn with
  | nil => exact start
  | append_singleton h o ih =>
      rw [history_append]
      exact kept h o ih

end Engine

end Verdict
