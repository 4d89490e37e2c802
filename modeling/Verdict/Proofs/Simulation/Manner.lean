import Verdict.Evaluation.Walk
import Verdict.Proofs.Simulation.Course

/-!
# Simulation: evaluation that waits

Facts and operators may wait while they are calculated.  A manner says where they do; the evaluation
of conditions waits where they wait, and nowhere else.

* `Manner`: a course for every fact and operator.  Alone, it comes to what the fact or the operator
  answers.
* `alone_resolve`, `alone_apply`, `alone_leaf`: so do the parts of a leaf, and a leaf.
* `alone_tree`: so does a tree of conditions.
-/

namespace Verdict

/-- Notes that a fact was calculated. -/
def Run.note (run : Run) (name : String) : Run :=
  { run with calculated := run.calculated ++ [name] }

/-- What a fact leaves behind in a run. -/
def Run.take (run : Run) (answer : Answer) : Run :=
  answer.published.foldl (fun r (name, v) => r.learn name v) (run.warn answer.warnings)

theorem Run.take_note (run : Run) (answer : Answer) (name : String) :
    (run.take answer).note name = (run.note name).take answer := by
  have learnt (values : List (String × Value)) (run : Run) :
      (values.foldl (fun r (name, v) => r.learn name v) run).note name =
        values.foldl (fun r (name, v) => r.learn name v) (run.note name) := by
    induction values generalizing run with
    | nil => rfl
    | cons value rest ih => exact ih _
  exact learnt answer.published (run.warn answer.warnings)

/-- The calculation of a fact, by what it leaves behind. -/
theorem Fact.run_eq (f : Fact) (name : String) (params : Option (Table String Value))
    (ctx : Context) (run : Run) :
    f.run name params ctx run =
      let after := (run.note name).take (f.calculate params ctx run)
      match (f.calculate params ctx run).outcome with
      | .ok v => (.ok v, after.learn name v)
      | .error failure => (.error (.factFailed name failure), after) := rfl

/-- **Where facts and operators wait.**  Their courses work on the state of their run only.  A
course that nobody comes between comes to what is answered, and leaves the state as it is left by
that. -/
structure Manner where
  fact : Fact → Option (Table String Value) → Context → Course Run (Except Failure Value)
  operator : Operator → Value → Value → Course Run (Except Failure Value)
  alone_fact : ∀ f params ctx run, (fact f params ctx).alone run =
    ((f.calculate params ctx run).outcome, run.take (f.calculate params ctx run))
  alone_operator : ∀ op a b run, (operator op a b).alone run = (op.evaluate a b, run)

namespace Manner

/-- Every fact and operator waits once and then answers. -/
def patient : Manner where
  fact f params ctx := .wait do
    let answer := f.calculate params ctx (← Course.look)
    Course.change (·.take answer)
    return answer.outcome
  operator op a b := .wait (return op.evaluate a b)
  alone_fact _ _ _ _ := rfl
  alone_operator _ _ _ _ := rfl

variable (m : Manner) (r : Registry) (ctx : Context)

/-! ### Facts and operators -/

/-- Resolves a fact. -/
def resolve (name : String) (params : Option (Table String Value)) :
    Course Run (Except LeafFault Value) := do
  let run ← Course.look
  match run.cache.get? name with
  | some v => return .ok v
  | none =>
    if name = targetFact then return .ok ctx.current.toValue
    else match r.facts.get? name with
      | none => return .error (.unknownFact name)
      | some f =>
        let outcome ← m.fact f params ctx
        Course.change (·.note name)
        match outcome with
        | .ok v =>
          Course.change (·.learn name v)
          return .ok v
        | .error failure => return .error (.factFailed name failure)

/-- Applies the operator of a name. -/
def apply (name : String) (a b : Value) : Course Run (Except LeafFault Bool) :=
  match Builtin.named? name with
  | some op => return .ok (op.holds a b)
  | none =>
    match r.operators.get? name with
    | none => return .error (.unknownOperator name)
    | some op => do
      match ← m.operator op a b with
      | .ok v => return .ok v.truthy
      | .error failure => return .error (.operatorFailed name failure)

theorem alone_resolve (name : String) (params : Option (Table String Value)) (run : Run) :
    (m.resolve r ctx name params).alone run = r.resolve ctx name params run := by
  unfold resolve Registry.resolve
  rw [Course.alone_bind, Course.alone_look]
  cases run.cache.get? name with
  | some v => rfl
  | none =>
      by_cases target : name = targetFact
      · simp only [target, if_true]
        rfl
      · simp only [target, if_false]
        cases r.facts.get? name with
        | none => rfl
        | some f =>
            simp only [Course.alone_bind, m.alone_fact, Course.alone_change, Run.take_note,
              Fact.run_eq]
            cases (f.calculate params ctx run).outcome <;> rfl

theorem alone_apply (name : String) (a b : Value) (run : Run) :
    (m.apply r name a b).alone run = (r.apply name a b, run) := by
  unfold apply Registry.apply
  cases Builtin.named? name with
  | some op => rfl
  | none =>
      cases r.operators.get? name with
      | none => rfl
      | some op =>
          simp only [Course.alone_bind, m.alone_operator]
          cases op.evaluate a b <;> rfl

/-! ### Leaves -/

/-- Judges the value of a leaf. -/
def judge (l : Leaf) (value : Value) : Course Run Leaf.Finding :=
  match value.select? l.selector with
  | .error fault => return .unresolved (.selectorFailed fault)
  | .ok part => return .judged part (← m.apply r l.operator part l.value)

/-- Finds what there is to report of a leaf. -/
def find (l : Leaf) : Course Run Leaf.Finding := do
  match ← m.resolve r ctx l.fact l.params with
  | .ok v => m.judge r l v
  | .error fault => return .unresolved fault

/-- Evaluates a leaf at a path. -/
def leaf (path : List String) (l : Leaf) : Course Run LeafResult := do
  let found ← m.find r ctx l
  Course.change (·.warn ((found.fault?.map (·.warnings ctx.target path)).getD []))
  return l.report path found

theorem alone_judge (l : Leaf) (value : Value) (run : Run) :
    (m.judge r l value).alone run = (l.judge r value, run) := by
  unfold judge Leaf.judge
  cases value.select? l.selector with
  | error fault => rfl
  | ok part => simp [alone_apply]

theorem alone_find (l : Leaf) (run : Run) : (m.find r ctx l).alone run = l.find ctx r run := by
  unfold find Leaf.find
  rw [Course.alone_bind, alone_resolve]
  cases r.resolve ctx l.fact l.params run with
  | mk resolved after =>
      cases resolved with
      | ok v => exact m.alone_judge r l v after
      | error fault => rfl

theorem alone_leaf (path : List String) (l : Leaf) (run : Run) :
    (m.leaf r ctx path l).alone run = l.evaluate path ctx r run := by
  simp [leaf, Leaf.evaluate, alone_find]

/-! ### Trees -/

mutual

/-- Evaluates the leaves of a tree at a path. -/
def tree (path : List String) : Condition → Course Run (List LeafResult)
  | .leaf l => return [← m.leaf r ctx path l]
  | .all children => trees (path ++ [NodeKind.all.key]) 0 children
  | .any children => trees (path ++ [NodeKind.any.key]) 0 children
  | .not child => return (← tree (path ++ [NodeKind.not.key]) child).map LeafResult.inverted
  | .invalid _ => do
    Course.change (·.warn [invalidNodeWarning path])
    return []

/-- Evaluates the leaves of siblings, the first of which has the given index. -/
def trees (path : List String) (index : Nat) : List Condition → Course Run (List LeafResult)
  | [] => return []
  | child :: rest => do
    let first ← tree (path ++ [toString index]) child
    let others ← trees path (index + 1) rest
    return first ++ others

end

mutual

/-- **The evaluation of a tree, alone**, is the one that never waits. -/
theorem alone_tree : ∀ (path : List String) (c : Condition) (run : Run),
    (m.tree r ctx path c).alone run = c.evaluate ctx r path run
  | path, .leaf l, run => by simp [tree, Condition.evaluate, alone_leaf]
  | path, .all children, run | path, .any children, run => alone_trees _ 0 children run
  | path, .not child, run => by simp [tree, Condition.evaluate, alone_tree _ child]
  | path, .invalid _, run => rfl

theorem alone_trees : ∀ (path : List String) (index : Nat) (cs : List Condition) (run : Run),
    (m.trees r ctx path index cs).alone run = Condition.evaluateFrom ctx r path index cs run
  | _, _, [], run => rfl
  | path, index, child :: rest, run => by
      simp [trees, Condition.evaluateFrom, alone_tree _ child, alone_trees path (index + 1) rest]

end

end Manner

end Verdict
