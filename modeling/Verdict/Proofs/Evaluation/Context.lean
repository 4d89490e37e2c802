import Verdict.Evaluation.Walk

/-!
# Evaluation: contexts

A walk takes little from its context: the target, and what the facts of its leaves answer there.
Contexts that agree in these, leaf by leaf, are not told apart.

* `Leaf.evaluate_congr`: one leaf has the same result in both, and leaves the same state behind.
* `Condition.evaluate_congr`: so does a tree, if all of its leaves agree.
-/

namespace Verdict

/-- Two contexts agree on a leaf: they are about one target, and the fact of the leaf, if a plugin
provides it, answers the same in both, whatever the state of the run is. -/
structure Context.AgreeOn (r : Registry) (l : Leaf) (ctx other : Context) : Prop where
  current : ctx.current = other.current
  answers : ∀ f, r.facts.get? l.fact = some f →
    ∀ run, f.calculate l.params ctx run = f.calculate l.params other run

section Agreement

variable {r : Registry} {l : Leaf} {ctx other : Context}

theorem Fact.run_congr {f : Fact} {name : String} {params : Option (Table String Value)} {run : Run}
    (same : f.calculate params ctx run = f.calculate params other run) :
    f.run name params ctx run = f.run name params other run := by
  simp only [Fact.run, same]

theorem Registry.resolve_congr (agree : ctx.AgreeOn r l other) (run : Run) :
    r.resolve ctx l.fact l.params run = r.resolve other l.fact l.params run := by
  unfold Registry.resolve
  split
  · rfl
  · split
    · rw [agree.current]
    · split
      · rfl
      · next f provided => exact Fact.run_congr (agree.answers f provided run)

theorem Leaf.find_congr (agree : ctx.AgreeOn r l other) (run : Run) :
    l.find ctx r run = l.find other r run := by
  simp only [Leaf.find, Registry.resolve_congr agree run]

/-- A leaf does not tell contexts apart that agree on it. -/
theorem Leaf.evaluate_congr (agree : ctx.AgreeOn r l other) (path : List String) (run : Run) :
    l.evaluate path ctx r run = l.evaluate path other r run := by
  have target : ctx.target = other.target := congrArg Descriptor.path agree.current
  simp only [Leaf.evaluate, Leaf.find_congr agree run, target]

end Agreement

namespace Condition

variable {r : Registry} {ctx other : Context}

mutual

/-- **A walk** does not tell contexts apart that agree on all leaves: the results are the same, and
so is the state at the end. -/
theorem evaluate_congr : ∀ (path : List String) (c : Condition) (run : Run),
    (∀ l ∈ c.leaves, ctx.AgreeOn r l other) →
    c.evaluate ctx r path run = c.evaluate other r path run
  | path, .leaf l, run, agree => by
      have same := Leaf.evaluate_congr (agree l (List.mem_singleton_self l)) path run
      simp only [evaluate, same]
  | _, .all children, run, agree | _, .any children, run, agree => by
      simp only [evaluate]
      exact evaluateFrom_congr _ 0 children run agree
  | path, .not child, run, agree => by
      simp only [evaluate, evaluate_congr _ child run agree]
  | _, .invalid _, _, _ => rfl

/-- A walk over siblings does not either. -/
theorem evaluateFrom_congr : ∀ (path : List String) (index : Nat) (cs : List Condition) (run : Run),
    (∀ l ∈ leavesOf cs, ctx.AgreeOn r l other) →
    evaluateFrom ctx r path index cs run = evaluateFrom other r path index cs run
  | _, _, [], _, _ => rfl
  | path, index, child :: rest, run, agree => by
      have first := evaluate_congr (path ++ [toString index]) child run fun l hl =>
        agree l (List.mem_append_left _ hl)
      have others := fun between => evaluateFrom_congr path (index + 1) rest between fun l hl =>
        agree l (List.mem_append_right _ hl)
      simp only [evaluateFrom, first, others]

end

end Condition

end Verdict
