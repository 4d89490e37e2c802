import Verdict.Proofs.Evaluation.Formula

/-!
# Evaluation: negation

The decision on a rule against the trace of its leaves.

* `isMet_eq_value`: the decision is the value of the tree without its negations, over the outcomes
  of the leaves as they were found.
* `isMet_of_leaf_negations`: where negations stand over leaves only, a negation over a leaf holds
  when the leaf's own comparison holds.  The trace reports the opposite, so decision and trace
  agree exactly if the ordinary value of the tree is the same with and without these inversions.
-/

namespace Verdict

namespace Condition

/-- **The decision on a rule.**  The walk comes to the leaves of the tree in their order and reports
what it found, inverted below an odd number of negations.  The decision is the value of the tree
without its negations over what was found. -/
theorem isMet_eq_value (c : Condition) (ctx : Context) (r : Registry) (run : Run) :
    let visits := c.visits ctx r rootPath false run
    let results := (c.evaluate ctx r rootPath run).1
    visits.map (·.leaf) = c.leaves ∧ results = visits.map (·.reported ctx r) ∧
      c.isMet results =
        (c.unnegated false 0).value (outcomeAt (visits.map (·.found ctx r))) := by
  refine ⟨visits_leaves .., evaluate_eq_visits .., ?_⟩
  rw [isMet, holds_eq_value rootPath false 0 c run (reads_walk c rootPath run), Bool.xor_false]

/-! ### Negations over leaves -/

mutual

/-- Where negations stand over leaves only, a leaf below an odd number of them stands directly
below one. -/
theorem path_of_negated {ctx : Context} {r : Registry} : ∀ {c : Condition} {path : List String}
    {run : Run} {v : Visit}, c.negatesOnlyLeaves = true → v ∈ c.visits ctx r path false run →
    v.negated = true → ∃ above, v.path = above ++ [NodeKind.not.key]
  | .leaf _, _, _, v, _, hv, hn => by
      obtain rfl := List.mem_singleton.mp hv
      exact absurd hn Bool.false_ne_true
  | .all _, _, _, v, h, hv, hn | .any _, _, _, v, h, hv, hn =>
      pathFrom_of_negated (by simpa only [negatesOnlyLeaves] using h) hv hn
  | .not (.leaf _), path, _, v, _, hv, _ => by
      obtain rfl := List.mem_singleton.mp hv
      exact ⟨path, rfl⟩
  | .not (.all _), _, _, _, h, _, _ | .not (.any _), _, _, _, h, _, _
  | .not (.not _), _, _, _, h, _, _ | .not (.invalid _), _, _, _, h, _, _ => by
      simp [negatesOnlyLeaves] at h
  | .invalid _, _, _, v, _, hv, _ => nomatch hv

theorem pathFrom_of_negated {ctx : Context} {r : Registry} : ∀ {cs : List Condition}
    {path : List String} {index : Nat} {run : Run} {v : Visit}, negateOnlyLeaves cs = true →
    v ∈ visitsFrom ctx r path false index cs run → v.negated = true →
      ∃ above, v.path = above ++ [NodeKind.not.key]
  | [], _, _, _, v, _, hv, _ => nomatch hv
  | child :: rest, _, _, _, v, h, hv, hn => by
      simp only [negateOnlyLeaves, Bool.and_eq_true] at h
      rcases List.mem_append.mp hv with hv | hv
      · exact path_of_negated h.1 hv hn
      · exact pathFrom_of_negated h.2 hv hn

end

/-- **Negations over leaves.**  The decision reads every leaf as it was found, also below a
negation; it agrees with the trace exactly if the trace gives the tree the same ordinary value with
and without the inversions.  A negation over a leaf holds if the leaf's own comparison holds, and
its leaf is reported with the opposite outcome. -/
theorem isMet_of_leaf_negations (c : Condition) (h : c.negatesOnlyLeaves = true) (ctx : Context)
    (r : Registry) (run : Run) :
    let visits := c.visits ctx r rootPath false run
    let results := (c.evaluate ctx r rootPath run).1
    let found := visits.map (·.found ctx r)
    c.isMet results = (c.asReported 0).value (outcomeAt found) ∧
      (c.isMet results = (c.asReported 0).value (outcomeAt results) ↔
        (c.asReported 0).value (outcomeAt found) = (c.asReported 0).value (outcomeAt results)) ∧
      ∀ v ∈ visits, v.negated = true →
        ∃ path, v.path = path ++ [NodeKind.not.key] ∧
          (Condition.not (.leaf v.leaf)).holds (outcomesByPath results) path =
            (v.found ctx r).outcome ∧
          (v.reported ctx r).outcome = !(v.found ctx r).outcome := by
  intro visits results found
  have hmet : c.isMet results = (c.asReported 0).value (outcomeAt found) := by
    rw [← unnegated_eq_asReported 0 h]
    exact (isMet_eq_value c ctx r run).2.2
  refine ⟨hmet, by rw [hmet], fun v hv hn => ?_⟩
  obtain ⟨path, hpath⟩ := path_of_negated h hv hn
  have hfound := outcomesByPath_visit ctx r hv
  rw [hpath] at hfound
  refine ⟨path, hpath, ?_, by simp [Visit.reported, hn]⟩
  simp [holds, results, hfound, hn]

/-- The only condition: the target does not have this name. -/
def isNotNamed (name : String) : Condition :=
  .all [.not (.leaf { fact := targetFact, operator := Builtin.equal.name, value := .text name,
                      selector := some "$.fileName" })]

/-- The decision on that condition follows what its leaf finds. -/
theorem isMet_isNotNamed :
    let c := isNotNamed "App.tsx"
    let ctx := Context.ofTarget (.ofFiles [("src/App.tsx", "")]) "src/App.tsx"
    c.negatesOnlyLeaves = true ∧
      c.isMet (c.evaluate ctx {} rootPath {}).1 =
        (Formula.all [.leaf 0]).value
          (outcomeAt ((c.visits ctx {} rootPath false {}).map (·.found ctx {}))) :=
  ⟨rfl, (isMet_of_leaf_negations _ rfl _ _ _).1⟩

/-- A target of that name: the trace says that it has another, and the decision does not. -/
theorem isMet_ne_reported_of_isNotNamed :
    let c := isNotNamed "App.tsx"
    let ctx := Context.ofTarget (.ofFiles [("src/App.tsx", "")]) "src/App.tsx"
    let results := (c.evaluate ctx {} rootPath {}).1
    c.negatesOnlyLeaves = true ∧
      ¬ c.isMet results = (c.asReported 0).value (outcomeAt results) := by
  decide +kernel

end Condition

end Verdict
