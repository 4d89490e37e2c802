import Verdict.Proofs.Simulation.Inquiry
import Verdict.Proofs.Simulation.Manner

/-!
# Simulation: runs that share an engine

Runs of one engine share it, and each of them keeps its state in a memory among those of the others.

* `Shared`: the engine and the memories.  `Course.within` works in one memory as the course works on
  its state alone (`turn_within`, `alone_within`).
* `Manner.run`: a run, with what it shares in the open: it looks at the engine where it needs it,
  and takes a memory of its own.
* `turn_run`: the first turn of a run takes all that the run ever takes from the engine.
* `alone_run`: the run alone comes to what a run comes to that never waits.
-/

namespace Verdict

/-- What runs share: the engine, and the memories, which are known by their positions. -/
structure Shared where
  engine : Engine
  memories : List Run := []

namespace Shared

variable (s : Shared) {a b : Nat}

/-- The memory at a position. -/
def memory (s : Shared) (a : Nat) : Run := (s.memories[a]?).getD {}

/-- Another content of the memory at a position. -/
def put (s : Shared) (a : Nat) (run : Run) : Shared :=
  { s with memories := s.memories.set a run }

/-- One more memory. -/
def allot (s : Shared) : Shared := { s with memories := s.memories ++ [{}] }

@[simp] theorem put_engine (run : Run) : (s.put a run).engine = s.engine := rfl

@[simp] theorem put_length (run : Run) : (s.put a run).memories.length = s.memories.length :=
  List.length_set

@[simp] theorem put_put (first second : Run) : (s.put a first).put a second = s.put a second := by
  simp [put]

theorem memory_put_self (here : a < s.memories.length) (run : Run) :
    (s.put a run).memory a = run := by
  simp [memory, put, here]

theorem memory_put_ne (other : a ≠ b) (run : Run) : (s.put a run).memory b = s.memory b := by
  simp [memory, put, other]

theorem put_memory (here : a < s.memories.length) : s.put a (s.memory a) = s := by
  simp [memory, put, here]

@[simp] theorem allot_engine : s.allot.engine = s.engine := rfl

@[simp] theorem allot_length : s.allot.memories.length = s.memories.length + 1 := by
  simp [allot]

theorem memory_allot_self : s.allot.memory s.memories.length = {} := by
  simp [memory, allot]

theorem memory_allot_old (old : a < s.memories.length) : s.allot.memory a = s.memory a := by
  simp [memory, allot, List.getElem?_append_left old]

end Shared

/-! ### Courses in a memory -/

namespace Course

variable {α β : Type}

/-- Takes a memory of its own. -/
def allot : Course Shared Nat := .work Shared.allot fun s => .done s.memories.length

/-- The same course, with its state in the memory at a position. -/
def within (a : Nat) : Course Run α → Course Shared α
  | .done x => .done x
  | .work act next =>
    .work (fun s => s.put a (act (s.memory a))) fun s => (next (s.memory a)).within a
  | .wait next => .wait (next.within a)

theorem within_bind (a : Nat) (c : Course Run α) (f : α → Course Run β) :
    (c >>= f).within a = c.within a >>= fun x => (f x).within a := by
  change (c.bind f).within a = (c.within a).bind fun x => (f x).within a
  induction c with
  | done x => rfl
  | work act next ih =>
      simp only [Course.bind, within]
      exact congrArg _ (funext fun s => ih (s.memory a))
  | wait next ih => exact congrArg Course.wait ih

@[simp] theorem turn_pure {σ : Type} (x : α) (s : σ) :
    (pure x : Course σ α).turn s = (.done x, s) := rfl

@[simp] theorem turn_look_bind {σ : Type} (f : σ → Course σ α) (s : σ) :
    (look >>= f).turn s = (f s).turn s := rfl

@[simp] theorem turn_allot_bind (f : Nat → Course Shared α) (s : Shared) :
    (allot >>= f).turn s = (f s.memories.length).turn s.allot := rfl

variable {a : Nat} {s : Shared}

/-- A turn of a course in a memory changes that memory, as the course alone changes its state. -/
theorem turn_within (c : Course Run α) (here : a < s.memories.length) :
    (c.within a).turn s = ((c.turn (s.memory a)).1.within a, s.put a (c.turn (s.memory a)).2) := by
  induction c generalizing s with
  | done x => simp [within, turn, Shared.put_memory _ here]
  | work act next ih =>
      have same := ih (s.memory a) (s := s.put a (act (s.memory a))) (by simpa using here)
      simpa [within, turn, Shared.memory_put_self _ here] using same
  | wait next => simp [within, turn, Shared.put_memory _ here]

/-- What a course in a memory comes to. -/
theorem alone_within (c : Course Run α) (here : a < s.memories.length) :
    (c.within a).alone s = ((c.alone (s.memory a)).1, s.put a (c.alone (s.memory a)).2) := by
  induction c generalizing s with
  | done x => simp [within, Shared.put_memory _ here]
  | work act next ih =>
      have same := ih (s.memory a) (s := s.put a (act (s.memory a))) (by simpa using here)
      simpa [within, alone, Shared.memory_put_self _ here] using same
  | wait next ih => exact ih here

end Course

/-! ### Runs -/

namespace Manner

/-- **A run among others.**  It looks at the engine where it needs it, takes a memory, and evaluates
the conditions of its rule there. -/
def run (m : Manner) (q : RunRequest) (make : MakeContext) : Course Shared RunResult := do
  if !(← Course.look).engine.ready then return .obstructed q.target .notReady
  else match q.input.read with
  | .error message => return .obstructed q.target (.badRule message)
  | .ok rule =>
    match rule.conditions with
    | none => return .obstructed q.target .noConditions
    | some conditions =>
      match (← Course.look).engine.snapshot.projectFor q with
      | none => return .obstructed q.target .noProject
      | some project =>
        match make project q.target q.options with
        | .error failure => return .obstructed q.target (.brokenDown q.breakdown failure.message)
        | .ok context =>
          let place ← Course.allot
          let registry := (← Course.look).engine.setup.registry
          let leaves ← (m.tree registry context rootPath conditions).within place
          return rule.decide conditions q.target q.options leaves

variable (m : Manner) (q : RunRequest) (make : MakeContext) (s : Shared)

/-- **The first turn of a run.**  The run is obstructed and done, or it has a memory of its own and
goes on there.  What it comes to is the result of a run of the engine as it is now. -/
theorem turn_run :
    (m.run q make).turn s = (.done (s.engine.snapshot.run q make).1, s) ∨
      ∃ c : Course Run RunResult, c.alone {} = s.engine.snapshot.run q make ∧
        (m.run q make).turn s = (c.within s.memories.length).turn s.allot := by
  have same : s.engine.snapshot.ready = s.engine.ready := rfl
  cases ready : s.engine.ready with
  | false => exact .inl (by simp [run, Snapshot.run, same, ready])
  | true =>
  cases read : q.input.read with
  | error message => exact .inl (by simp [run, Snapshot.run, same, ready, read])
  | ok rule =>
  cases conditions : rule.conditions with
  | none => exact .inl (by simp [run, Snapshot.run, same, ready, read, conditions])
  | some c =>
  cases own : s.engine.snapshot.projectFor q with
  | none => exact .inl (by simp [run, Snapshot.run, same, ready, read, conditions, own])
  | some project =>
  cases made : make project q.target q.options with
  | error failure =>
      exact .inl (by simp [run, Snapshot.run, same, ready, read, conditions, own, made])
  | ok ctx =>
      have walks : s.engine.snapshot.Walks q make rule c ctx :=
        ⟨ready, read, conditions, project, own, made⟩
      refine .inr ⟨m.tree s.engine.setup.registry ctx rootPath c >>= fun leaves =>
        pure (rule.decide c q.target q.options leaves), ?_, ?_⟩
      · rw [walks.run_eq, Course.alone_bind, alone_tree, Course.alone_pure]
        rfl
      · rw [Course.within_bind]
        simp only [run, Course.turn_look_bind, Course.turn_allot_bind, ready, read, conditions, own,
          made, Bool.not_true, Bool.false_eq_true, if_false]
        rfl

/-- What a run comes to alone. -/
theorem alone_run : ((m.run q make).alone s).1 = (s.engine.snapshot.run q make).1 := by
  rw [← Course.alone_turn]
  rcases m.turn_run q make s with obstructed | ⟨c, alone, begun⟩
  · rw [obstructed, Course.alone_done]
  · have here : s.memories.length < s.allot.memories.length := by simp
    rw [begun, Course.alone_turn, Course.alone_within c here, s.memory_allot_self, alone]

end Manner

end Verdict
