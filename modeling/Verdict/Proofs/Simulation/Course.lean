/-!
# Simulation: courses

What takes its course among others, which go on while it waits.

* `Course`: work on a state that others may work on too, and waits.  Between two waits nobody else
  goes on.
* `turn`: a course goes on to its next wait.  `alone`: it goes on to its end, and nobody else does
  anything meanwhile.
* `alone_turns`, `exists_turns_eq_done`: turns that nobody comes between add up to the course alone,
  and so many of them come to its end.
-/

namespace Verdict

/-- The course of something that works on a state.  It is done; or it works on the state, and what
it does next depends on the state as it was; or it waits, and others may go on. -/
inductive Course (σ α : Type) where
  | done (a : α)
  | work (act : σ → σ) (next : σ → Course σ α)
  | wait (next : Course σ α)

namespace Course

variable {σ α β : Type}

/-- One course after another. -/
def bind : Course σ α → (α → Course σ β) → Course σ β
  | .done a, f => f a
  | .work act next, f => .work act fun s => (next s).bind f
  | .wait next, f => .wait (next.bind f)

instance : Monad (Course σ) where
  pure := .done
  bind := bind

/-- Looks at the state. -/
def look : Course σ σ := .work id .done

/-- Changes the state. -/
def change (act : σ → σ) : Course σ Unit := .work act fun _ => .done ()

/-- What a course has come to, once it is done. -/
def result? : Course σ α → Option α
  | .done a => some a
  | _ => none

/-- The course goes on to its next wait. -/
def turn : Course σ α → σ → Course σ α × σ
  | .done a, s => (.done a, s)
  | .work act next, s => (next s).turn (act s)
  | .wait next, s => (next, s)

/-- So many turns, one right after another. -/
def turns : Nat → Course σ α → σ → Course σ α × σ
  | 0, c, s => (c, s)
  | n + 1, c, s => turns n (c.turn s).1 (c.turn s).2

/-- The course goes on to its end. -/
def alone : Course σ α → σ → α × σ
  | .done a, s => (a, s)
  | .work act next, s => (next s).alone (act s)
  | .wait next, s => next.alone s

theorem result?_eq_some {c : Course σ α} {a : α} : c.result? = some a ↔ c = .done a := by
  cases c <;> simp [result?]

/-! ### Alone -/

@[simp] theorem alone_done (a : α) (s : σ) : (done a : Course σ α).alone s = (a, s) := rfl

@[simp] theorem alone_pure (a : α) (s : σ) : (pure a : Course σ α).alone s = (a, s) := rfl

@[simp] theorem alone_look (s : σ) : (look : Course σ σ).alone s = (s, s) := rfl

@[simp] theorem alone_change (act : σ → σ) (s : σ) : (change act).alone s = ((), act s) := rfl

@[simp] theorem alone_bind (c : Course σ α) (f : α → Course σ β) (s : σ) :
    (c >>= f).alone s = (f (c.alone s).1).alone (c.alone s).2 := by
  change (c.bind f).alone s = _
  induction c generalizing s with
  | done a => rfl
  | work act next ih => exact ih s (act s)
  | wait next ih => exact ih s

/-! ### Turns -/

/-- A turn takes nothing from what the course comes to. -/
theorem alone_turn (c : Course σ α) (s : σ) : (c.turn s).1.alone (c.turn s).2 = c.alone s := by
  induction c generalizing s with
  | done a => rfl
  | work act next ih => exact ih s (act s)
  | wait next => rfl

theorem alone_turns (n : Nat) (c : Course σ α) (s : σ) :
    (c.turns n s).1.alone (c.turns n s).2 = c.alone s := by
  induction n generalizing c s with
  | zero => rfl
  | succ n ih => exact (ih _ _).trans (alone_turn c s)

@[simp] theorem turns_done (n : Nat) (a : α) (s : σ) :
    (done a : Course σ α).turns n s = (.done a, s) := by
  induction n with
  | zero => rfl
  | succ n ih => exact ih

/-- **Enough turns come to the end** that the course comes to alone. -/
theorem exists_turns_eq_done (c : Course σ α) (s : σ) :
    ∃ n, ∀ k ≥ n, c.turns k s = (.done (c.alone s).1, (c.alone s).2) := by
  induction c generalizing s with
  | done a => exact ⟨0, fun k _ => turns_done k a s⟩
  | work act next ih =>
      -- the work is a part of the next turn, so there has to be one
      obtain ⟨n, hn⟩ := ih s (act s)
      refine ⟨n + 1, fun k hk => ?_⟩
      obtain ⟨k, rfl⟩ : ∃ j, k = j + 1 := ⟨k - 1, by omega⟩
      exact hn (k + 1) (by omega)
  | wait next ih =>
      obtain ⟨n, hn⟩ := ih s
      refine ⟨n + 1, fun k hk => ?_⟩
      obtain ⟨k, rfl⟩ : ∃ j, k = j + 1 := ⟨k - 1, by omega⟩
      exact hn k (by omega)

/-- What turns have come to is what the course comes to alone. -/
theorem eq_alone_of_turns {n : Nat} {c : Course σ α} {s : σ} {a : α}
    (h : (c.turns n s).1.result? = some a) : a = (c.alone s).1 := by
  have same := alone_turns n c s
  rw [result?_eq_some.mp h] at same
  exact congrArg Prod.fst same

end Course

end Verdict
