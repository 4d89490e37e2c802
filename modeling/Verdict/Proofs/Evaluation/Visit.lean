import Std.Data.String.ToNat
import Verdict.Evaluation.Walk

/-!
# Evaluation: visits

The walk over a tree of conditions comes to every leaf once, from left to right.  A visit is a leaf
as the walk comes to it: its path, whether the negations above it are odd in number, and the state
of the run before it is evaluated.

* `evaluate_eq_visits`: the results of a walk are the results of its leaves where it comes to them,
  inverted below an odd number of negations.
* `visits_leaves`: the walk comes to the leaves of the tree, in their order.
* `visits_paths_nodup`: no two visits share a path, so the outcome of each is found by its path
  (`outcomesByPath_visit`).
* `walk_invariant`: what warnings and the evaluations of leaves keep holds before every visit and
  after the walk.
-/

namespace Verdict

/-- A leaf as a walk comes to it. -/
structure Visit where
  leaf : Leaf
  path : List String
  /-- The negations above the leaf are odd in number. -/
  negated : Bool
  before : Run

/-! ### Inversion -/

namespace LeafResult

/-- The result, inverted if it is asked for. -/
def invertedIf (b : Bool) (r : LeafResult) : LeafResult :=
  if b then r.inverted else r

@[simp] theorem invertedIf_outcome (b : Bool) (r : LeafResult) :
    (r.invertedIf b).outcome = (r.outcome ^^ b) := by
  cases b <;> simp [invertedIf, inverted]

@[simp] theorem invertedIf_path (b : Bool) (r : LeafResult) : (r.invertedIf b).path = r.path := by
  cases b <;> rfl

@[simp] theorem invertedIf_error (b : Bool) (r : LeafResult) :
    (r.invertedIf b).error = r.error := by
  cases b <;> rfl

theorem invertedIf_inverted (b : Bool) (r : LeafResult) :
    r.inverted.invertedIf b = r.invertedIf (!b) := by
  cases b <;> simp [invertedIf, inverted]

end LeafResult

namespace Visit

variable (v : Visit) (ctx : Context) (r : Registry)

/-- The result of the leaf where the walk comes to it. -/
def found : LeafResult := (v.leaf.evaluate v.path ctx r v.before).1

/-- The result as the walk reports it. -/
def reported : LeafResult := (v.found ctx r).invertedIf v.negated

@[simp] theorem found_path : (v.found ctx r).path = v.path := rfl

@[simp] theorem reported_path : (v.reported ctx r).path = v.path := by
  simp [reported]

end Visit

namespace Condition

variable (ctx : Context) (r : Registry)

/-! ### The visits of a walk -/

mutual

/-- The visits of a walk over a tree at a path. -/
def visits (path : List String) (negated : Bool) : Condition → Run → List Visit
  | .leaf l, run => [⟨l, path, negated, run⟩]
  | .all children, run => visitsFrom (path ++ [NodeKind.all.key]) negated 0 children run
  | .any children, run => visitsFrom (path ++ [NodeKind.any.key]) negated 0 children run
  | .not child, run => visits (path ++ [NodeKind.not.key]) (!negated) child run
  | .invalid _, _ => []

/-- The visits of a walk over siblings, the first of which has the given index. -/
def visitsFrom (path : List String) (negated : Bool) (index : Nat) :
    List Condition → Run → List Visit
  | [], _ => []
  | child :: rest, run =>
    visits (path ++ [toString index]) negated child run ++
      visitsFrom path negated (index + 1) rest
        (evaluate ctx r (path ++ [toString index]) child run).2

end

mutual

theorem visits_leaves : ∀ (path : List String) (negated : Bool) (c : Condition) (run : Run),
    (c.visits ctx r path negated run).map (·.leaf) = c.leaves
  | _, _, .leaf _, _ => rfl
  | _, _, .all children, run | _, _, .any children, run => by
      simp only [visits, leaves, visitsFrom_leaves]
  | _, _, .not child, run => by simp only [visits, leaves, visits_leaves]
  | _, _, .invalid _, _ => rfl

theorem visitsFrom_leaves : ∀ (path : List String) (negated : Bool) (index : Nat)
    (cs : List Condition) (run : Run),
    (visitsFrom ctx r path negated index cs run).map (·.leaf) = leavesOf cs
  | _, _, _, [], _ => rfl
  | path, negated, index, child :: rest, run => by
      simp only [visitsFrom, leavesOf, List.map_append, visits_leaves, visitsFrom_leaves]

end

theorem visits_length (path : List String) (negated : Bool) (c : Condition) (run : Run) :
    (c.visits ctx r path negated run).length = c.leaves.length := by
  rw [← visits_leaves ctx r path negated c run, List.length_map]

/-! ### Results -/

mutual

/-- The results of a walk below an odd (`negated`) or even number of negations, inverted
accordingly, are what its visits report. -/
theorem evaluate_map_invertedIf : ∀ (path : List String) (negated : Bool) (c : Condition)
    (run : Run),
    (c.evaluate ctx r path run).1.map (·.invertedIf negated) =
      (c.visits ctx r path negated run).map (·.reported ctx r)
  | _, _, .leaf _, _ => rfl
  | _, _, .all children, run | _, _, .any children, run => by
      simp only [evaluate, visits, evaluateFrom_map_invertedIf]
  | path, negated, .not child, run => by
      simp only [evaluate, visits, List.map_map, ← evaluate_map_invertedIf]
      refine List.map_congr_left fun result _ => ?_
      exact result.invertedIf_inverted negated
  | _, _, .invalid _, _ => rfl

theorem evaluateFrom_map_invertedIf : ∀ (path : List String) (negated : Bool) (index : Nat)
    (cs : List Condition) (run : Run),
    (evaluateFrom ctx r path index cs run).1.map (·.invertedIf negated) =
      (visitsFrom ctx r path negated index cs run).map (·.reported ctx r)
  | _, _, _, [], _ => rfl
  | path, negated, index, child :: rest, run => by
      simp only [evaluateFrom, visitsFrom, List.map_append, evaluate_map_invertedIf,
        evaluateFrom_map_invertedIf]

end

/-- **The results of a walk** are the results of its leaves where it comes to them, inverted below
an odd number of negations. -/
theorem evaluate_eq_visits (path : List String) (c : Condition) (run : Run) :
    (c.evaluate ctx r path run).1 = (c.visits ctx r path false run).map (·.reported ctx r) := by
  rw [← evaluate_map_invertedIf]
  exact (List.map_id _).symm

/-- Every leaf has its visit and the result that the visit reports. -/
theorem exists_visit (path : List String) (c : Condition) (run : Run) {i : Nat} {l : Leaf}
    (hl : c.leaves[i]? = some l) : ∃ v, (c.visits ctx r path false run)[i]? = some v ∧ v.leaf = l ∧
      (c.evaluate ctx r path run).1[i]? = some (v.reported ctx r) := by
  rw [← visits_leaves ctx r path false c run, List.getElem?_map] at hl
  obtain ⟨v, hv, leaf⟩ := Option.map_eq_some_iff.mp hl
  refine ⟨v, hv, leaf, ?_⟩
  rw [evaluate_eq_visits, List.getElem?_map, hv]
  rfl

/-! ### Paths -/

mutual

/-- A walk over a tree at a path stays below that path. -/
theorem visits_below : ∀ {path : List String} {negated : Bool} {c : Condition} {run : Run}
    {v : Visit}, v ∈ c.visits ctx r path negated run → path <+: v.path
  | path, _, .leaf _, _, v, h => by
      obtain rfl := List.mem_singleton.mp h
      exact List.prefix_refl path
  | path, _, .all _, _, v, h | path, _, .any _, _, v, h => by
      obtain ⟨j, -, hj⟩ := visitsFrom_below h
      rw [List.append_assoc] at hj
      exact (List.prefix_append path _).trans hj
  | path, _, .not _, _, v, h => (List.prefix_append path _).trans (visits_below h)
  | _, _, .invalid _, _, v, h => nomatch h

/-- A walk over siblings stays below their paths. -/
theorem visitsFrom_below : ∀ {path : List String} {negated : Bool} {index : Nat}
    {cs : List Condition} {run : Run} {v : Visit},
    v ∈ visitsFrom ctx r path negated index cs run →
      ∃ j, index ≤ j ∧ path ++ [toString j] <+: v.path
  | _, _, _, [], _, v, h => nomatch h
  | path, negated, index, child :: rest, run, v, h => by
      rcases List.mem_append.mp h with h | h
      · exact ⟨index, Nat.le_refl _, visits_below h⟩
      · obtain ⟨j, hj, hp⟩ := visitsFrom_below h
        exact ⟨j, Nat.le_of_succ_le hj, hp⟩

end

/-- One path is not below two siblings. -/
theorem eq_of_below_siblings {path p : List String} {i j : Nat}
    (hi : path ++ [toString i] <+: p) (hj : path ++ [toString j] <+: p) : i = j := by
  have h := List.prefix_of_prefix_length_le hi hj (by simp)
  rw [List.prefix_append_right_inj] at h
  have h' : toString i = toString j := by simpa using h
  exact Nat.repr_injective h'

mutual

theorem visits_paths_nodup : ∀ (path : List String) (negated : Bool) (c : Condition) (run : Run),
    ((c.visits ctx r path negated run).map (·.path)).Nodup
  | _, _, .leaf _, _ => List.nodup_cons.mpr ⟨List.not_mem_nil, List.nodup_nil⟩
  | _, _, .all children, run | _, _, .any children, run => visitsFrom_paths_nodup _ _ _ children run
  | _, _, .not child, run => visits_paths_nodup _ _ child run
  | _, _, .invalid _, _ => List.nodup_nil

theorem visitsFrom_paths_nodup : ∀ (path : List String) (negated : Bool) (index : Nat)
    (cs : List Condition) (run : Run),
    ((visitsFrom ctx r path negated index cs run).map (·.path)).Nodup
  | _, _, _, [], _ => List.nodup_nil
  | path, negated, index, child :: rest, run => by
      simp only [visitsFrom, List.map_append]
      refine List.nodup_append.mpr
        ⟨visits_paths_nodup _ _ child run, visitsFrom_paths_nodup _ _ _ rest _, ?_⟩
      intro p hp q hq e
      obtain ⟨v, hv, rfl⟩ := List.mem_map.mp hp
      obtain ⟨w, hw, rfl⟩ := List.mem_map.mp hq
      obtain ⟨j, hj, hbelow⟩ := visitsFrom_below ctx r hw
      have hsame : index = j := eq_of_below_siblings (visits_below ctx r hv) (e ▸ hbelow)
      omega

end

/-- The outcome that a walk reports of a leaf is found by the leaf's path. -/
theorem outcomesByPath_visit {path : List String} {c : Condition} {run : Run} {v : Visit}
    (h : v ∈ c.visits ctx r path false run) :
    (outcomesByPath (c.evaluate ctx r path run).1).get? v.path =
      some ((v.found ctx r).outcome ^^ v.negated) := by
  have hnd := visits_paths_nodup ctx r path false c run
  refine Table.get?_ofPairs_of_mem ?_ ?_
  · simpa [evaluate_eq_visits, Function.comp_def] using hnd
  · refine List.mem_map.mpr ⟨v.reported ctx r, ?_, by simp [Visit.reported]⟩
    rw [evaluate_eq_visits]
    exact List.mem_map_of_mem h

/-! ### What a walk keeps -/

/-- A statement about the leaves done so far and the state of the run is kept by warnings and by
the evaluation of a leaf. -/
structure KeptByWalk (P : List Leaf → Run → Prop) : Prop where
  warned : ∀ {done run} (messages : List String), P done run → P done (run.warn messages)
  evaluated : ∀ {done run} (l : Leaf) (path : List String), P done run →
    P (done ++ [l]) (l.evaluate path ctx r run).2

variable {ctx r} {P : List Leaf → Run → Prop}

mutual

/-- A statement that a walk keeps holds before every visit and after the walk. -/
theorem walk_invariant (kept : KeptByWalk ctx r P) : ∀ {done : List Leaf} {run : Run}
    (path : List String) (negated : Bool) (c : Condition), P done run →
    P (done ++ c.leaves) (c.evaluate ctx r path run).2 ∧
      ∀ i v, (c.visits ctx r path negated run)[i]? = some v →
        P (done ++ c.leaves.take i) v.before
  | done, run, path, negated, .leaf l, h => by
      refine ⟨kept.evaluated l path h, fun i v hv => ?_⟩
      obtain ⟨hi, rfl⟩ := List.getElem?_eq_some_iff.mp hv
      obtain rfl : i = 0 := by simpa [visits] using hi
      simpa [visits] using h
  | _, _, _, _, .all children, h | _, _, _, _, .any children, h =>
      walkFrom_invariant kept _ _ _ children h
  | _, _, _, _, .not child, h => walk_invariant kept _ _ child h
  | _, _, _, _, .invalid _, h => by
      refine ⟨?_, fun i v hv => nomatch hv⟩
      simpa [leaves, evaluate] using kept.warned _ h

theorem walkFrom_invariant (kept : KeptByWalk ctx r P) : ∀ {done : List Leaf} {run : Run}
    (path : List String) (negated : Bool) (index : Nat) (cs : List Condition), P done run →
    P (done ++ leavesOf cs) (evaluateFrom ctx r path index cs run).2 ∧
      ∀ i v, (visitsFrom ctx r path negated index cs run)[i]? = some v →
        P (done ++ (leavesOf cs).take i) v.before
  | _, _, _, _, _, [], h => ⟨by simpa [leavesOf, evaluateFrom] using h, fun i v hv => nomatch hv⟩
  | done, run, path, negated, index, child :: rest, h => by
      obtain ⟨hafter, hvisits⟩ := walk_invariant kept (path ++ [toString index]) negated child h
      obtain ⟨hend, hrest⟩ := walkFrom_invariant kept path negated (index + 1) rest hafter
      refine ⟨by simpa [leavesOf, evaluateFrom] using hend, fun i v hv => ?_⟩
      have hlen := visits_length ctx r (path ++ [toString index]) negated child run
      simp only [visitsFrom, List.getElem?_append] at hv
      simp only [leavesOf, List.take_append]
      split at hv
      · -- a visit of the first tree: none of the leaves of the rest is done yet
        rename_i hi
        have hzero : i - child.leaves.length = 0 := by omega
        simpa [hzero] using hvisits i v hv
      · -- a visit of the rest: all leaves of the first tree are done
        rename_i hi
        have hall : child.leaves.take i = child.leaves := List.take_of_length_le (by omega)
        rw [hlen] at hv
        simpa [hall] using hrest _ v hv

end

end Condition

end Verdict
