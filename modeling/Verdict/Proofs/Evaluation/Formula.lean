import Verdict.Proofs.Evaluation.Visit

/-!
# Evaluation: formulas

What the decision on a tree of conditions says of the outcomes of its leaves.  The walk inverts an
outcome once for every negation above the leaf, and the decision negates what it reads once for
every negation on the way to the leaf; so every leaf is read as it was found, and only groups and
invalid nodes feel the negations above them.

* `Condition.unnegated`: the tree without its negations.  Below an odd number of them `all` and
  `any` change places, and an invalid node is true.
* `holds_eq_value`: over the outcomes that a walk reports, the decision is the value of that
  formula over the outcomes as they were found.
* `Condition.asReported`: the tree as its trace reads, where a negation is left to the outcomes.
-/

namespace Verdict

/-- A formula without negations.  Leaves are known by their numbers. -/
inductive Formula where
  | leaf (number : Nat)
  | constant (b : Bool)
  | all (parts : List Formula)
  | any (parts : List Formula)

namespace Formula

mutual

/-- The value of a formula over outcomes of its leaves. -/
def value (outcome : Nat → Bool) : Formula → Bool
  | .leaf number => outcome number
  | .constant b => b
  | .all parts => allTrue outcome parts
  | .any parts => anyTrue outcome parts

/-- All formulas are true. -/
def allTrue (outcome : Nat → Bool) : List Formula → Bool
  | [] => true
  | part :: rest => value outcome part && allTrue outcome rest

/-- Some formula is true. -/
def anyTrue (outcome : Nat → Bool) : List Formula → Bool
  | [] => false
  | part :: rest => value outcome part || anyTrue outcome rest

end

end Formula

/-- The outcome of the result with a number. -/
def outcomeAt (results : List LeafResult) (number : Nat) : Bool :=
  (results[number]?.map (·.outcome)).getD false

namespace Condition

mutual

/-- The formula of a tree below an odd (`negated`) or even number of negations.  Its leaves are
numbered from left to right, beginning with `first`. -/
def unnegated (negated : Bool) (first : Nat) : Condition → Formula
  | .leaf _ => .leaf first
  | .all children =>
    if negated then .any (unnegatedAll negated first children)
    else .all (unnegatedAll negated first children)
  | .any children =>
    if negated then .all (unnegatedAll negated first children)
    else .any (unnegatedAll negated first children)
  | .not child => unnegated (!negated) first child
  | .invalid _ => .constant negated

/-- The formulas of trees one after another. -/
def unnegatedAll (negated : Bool) (first : Nat) : List Condition → List Formula
  | [] => []
  | child :: rest =>
    unnegated negated first child :: unnegatedAll negated (first + child.leaves.length) rest

end

mutual

/-- The formula of a tree in which a negation stands for the outcomes below it, which are inverted
already. -/
def asReported (first : Nat) : Condition → Formula
  | .leaf _ => .leaf first
  | .all children => .all (asReportedAll first children)
  | .any children => .any (asReportedAll first children)
  | .not child => asReported first child
  | .invalid _ => .constant false

/-- The formulas of trees one after another. -/
def asReportedAll (first : Nat) : List Condition → List Formula
  | [] => []
  | child :: rest => asReported first child :: asReportedAll (first + child.leaves.length) rest

end

mutual

/-- Every negation in the tree stands over a leaf. -/
def negatesOnlyLeaves : Condition → Bool
  | .leaf _ => true
  | .all children => negateOnlyLeaves children
  | .any children => negateOnlyLeaves children
  | .not (.leaf _) => true
  | .not _ => false
  | .invalid _ => true

/-- Every negation in the trees stands over a leaf. -/
def negateOnlyLeaves : List Condition → Bool
  | [] => true
  | child :: rest => negatesOnlyLeaves child && negateOnlyLeaves rest

end

mutual

/-- Where negations stand over leaves only, no group changes its place. -/
theorem unnegated_eq_asReported : ∀ {c : Condition} (first : Nat), c.negatesOnlyLeaves = true →
    c.unnegated false first = c.asReported first
  | .leaf _, _, _ | .invalid _, _, _ | .not (.leaf _), _, _ => rfl
  | .all children, first, h | .any children, first, h => by
      simp only [negatesOnlyLeaves] at h
      simp [unnegated, asReported, unnegatedAll_eq_asReportedAll first h]
  | .not (.all _), _, h | .not (.any _), _, h | .not (.not _), _, h | .not (.invalid _), _, h => by
      simp [negatesOnlyLeaves] at h

theorem unnegatedAll_eq_asReportedAll : ∀ {cs : List Condition} (first : Nat),
    negateOnlyLeaves cs = true → unnegatedAll false first cs = asReportedAll first cs
  | [], _, _ => rfl
  | child :: rest, first, h => by
      simp only [negateOnlyLeaves, Bool.and_eq_true] at h
      simp only [unnegatedAll, asReportedAll, unnegated_eq_asReported first h.1,
        unnegatedAll_eq_asReportedAll _ h.2]

end

/-! ### The decision as a value -/

section Value

variable {ctx : Context} {r : Registry} {outcomes : Table (List String) Bool}
  {outcome : Nat → Bool}

variable (ctx r outcomes outcome) in
/-- The table has what visits report, and the numbering, which begins with `first`, what they
found. -/
structure Reads (first : Nat) (visits : List Visit) : Prop where
  byPath : ∀ v ∈ visits, outcomes.get? v.path = some ((v.found ctx r).outcome ^^ v.negated)
  byNumber : ∀ i v, visits[i]? = some v → outcome (first + i) = (v.found ctx r).outcome

theorem Reads.left {first : Nat} {xs ys : List Visit}
    (h : Reads ctx r outcomes outcome first (xs ++ ys)) : Reads ctx r outcomes outcome first xs :=
  ⟨fun v hv => h.byPath v (List.mem_append_left _ hv), fun i v hv =>
    h.byNumber i v (List.getElem?_append_left (List.getElem?_eq_some_iff.mp hv).1 ▸ hv)⟩

theorem Reads.right {first : Nat} {xs ys : List Visit}
    (h : Reads ctx r outcomes outcome first (xs ++ ys)) :
    Reads ctx r outcomes outcome (first + xs.length) ys := by
  refine ⟨fun v hv => h.byPath v (List.mem_append_right _ hv), fun i v hv => ?_⟩
  rw [Nat.add_assoc]
  refine h.byNumber (xs.length + i) v ?_
  rw [List.getElem?_append_right (Nat.le_add_right _ _), Nat.add_sub_cancel_left]
  exact hv

mutual

/-- **The decision as a value.**  Below an odd number of negations the value is negated once
more. -/
theorem holds_eq_value : ∀ (path : List String) (negated : Bool) (first : Nat) (c : Condition)
    (run : Run), Reads ctx r outcomes outcome first (c.visits ctx r path negated run) →
    c.holds outcomes path = ((c.unnegated negated first).value outcome ^^ negated)
  | path, negated, first, .leaf l, run, h => by
      have hpath := h.byPath _ List.mem_cons_self
      have hnumber := h.byNumber 0 _ rfl
      simp only [holds, unnegated, Formula.value, hpath, Option.getD_some]
      rw [← hnumber, Nat.add_zero]
  | path, negated, first, .all children, run, h => by
      rw [holds, allHold_eq_value _ _ _ _ children run h]
      cases negated <;> simp [unnegated, Formula.value]
  | path, negated, first, .any children, run, h => by
      rw [holds, anyHolds_eq_value _ _ _ _ children run h]
      cases negated <;> simp [unnegated, Formula.value]
  | path, negated, first, .not child, run, h => by
      rw [holds, holds_eq_value _ _ _ child run h, unnegated]
      cases negated <;> simp
  | path, negated, first, .invalid _, run, _ => by
      simp [holds, unnegated, Formula.value]

theorem allHold_eq_value : ∀ (path : List String) (negated : Bool) (first index : Nat)
    (cs : List Condition) (run : Run),
    Reads ctx r outcomes outcome first (visitsFrom ctx r path negated index cs run) →
    allHold outcomes path index cs =
      if negated then !Formula.anyTrue outcome (unnegatedAll negated first cs)
      else Formula.allTrue outcome (unnegatedAll negated first cs)
  | _, negated, _, _, [], _, _ => by cases negated <;> rfl
  | path, negated, first, index, child :: rest, run, h => by
      have hrest := h.right
      rw [visits_length] at hrest
      rw [allHold, holds_eq_value _ _ _ child run h.left, allHold_eq_value _ _ _ _ rest _ hrest]
      -- below an odd number of negations this is De Morgan's law for the head and the rest
      cases negated <;> simp [unnegatedAll, Formula.allTrue, Formula.anyTrue]

theorem anyHolds_eq_value : ∀ (path : List String) (negated : Bool) (first index : Nat)
    (cs : List Condition) (run : Run),
    Reads ctx r outcomes outcome first (visitsFrom ctx r path negated index cs run) →
    anyHolds outcomes path index cs =
      if negated then !Formula.allTrue outcome (unnegatedAll negated first cs)
      else Formula.anyTrue outcome (unnegatedAll negated first cs)
  | _, negated, _, _, [], _, _ => by cases negated <;> rfl
  | path, negated, first, index, child :: rest, run, h => by
      have hrest := h.right
      rw [visits_length] at hrest
      rw [anyHolds, holds_eq_value _ _ _ child run h.left, anyHolds_eq_value _ _ _ _ rest _ hrest]
      cases negated <;> simp [unnegatedAll, Formula.allTrue, Formula.anyTrue]

end

/-- The outcomes of a walk are read as they were found. -/
theorem reads_walk (c : Condition) (path : List String) (run : Run) :
    Reads ctx r (outcomesByPath (c.evaluate ctx r path run).1)
      (outcomeAt ((c.visits ctx r path false run).map (·.found ctx r))) 0
      (c.visits ctx r path false run) := by
  refine ⟨fun v hv => outcomesByPath_visit ctx r hv, fun i v hv => ?_⟩
  simp [outcomeAt, hv]

end Value

end Condition

end Verdict
