import Mathlib.Data.List.FinRange
import Mathlib.Data.List.Perm.Basic
import Mathlib.Logic.Equiv.Basic
import Verdict.Proofs.Evaluation.Cache
import Verdict.Proofs.Evaluation.Fault
import Verdict.Proofs.Evaluation.Site

/-!
# Evaluation: the order of siblings

The children of a group can be put in another order, and so can those of the groups below it.

* `Reordering`: a tree that comes from another in this way, and where each child went.
* `Reordering.moves`: the leaves of the first tree in their order, each with its path in both.
* `evaluate_alone`: if facts answer by their params and the context only, and do not tell the params
  of their leaves apart, then the walk reports every site as it is alone.
* `evaluate_reordered`: the walk over the other tree reports every leaf as before, at its new path,
  and the decision is the same and as much in doubt.
-/

namespace Verdict

/-- The second tree is the first with the children of groups in another order: the child at `i`
stands at `place i`. -/
inductive Reordering : Condition → Condition → Type
  | leaf (l : Leaf) : Reordering (.leaf l) (.leaf l)
  | all {cs ds : List Condition} (place : Fin cs.length ≃ Fin ds.length)
    (each : ∀ i, Reordering cs[i] ds[place i]) : Reordering (.all cs) (.all ds)
  | any {cs ds : List Condition} (place : Fin cs.length ≃ Fin ds.length)
    (each : ∀ i, Reordering cs[i] ds[place i]) : Reordering (.any cs) (.any ds)
  | not {c d : Condition} (child : Reordering c d) : Reordering (.not c) (.not d)
  | invalid (keys : Table String Value) : Reordering (.invalid keys) (.invalid keys)

/-- A leaf with its paths in two trees. -/
structure Relocation where
  leaf : Leaf
  old : List String
  new : List String

namespace Relocation

/-- Where the leaf was. -/
def oldSite (m : Relocation) : Site := ⟨m.leaf, m.old⟩

/-- Where the leaf is. -/
def newSite (m : Relocation) : Site := ⟨m.leaf, m.new⟩

end Relocation

namespace Reordering

mutual

/-- The tree with the children of all groups where they are. -/
def refl : (c : Condition) → Reordering c c
  | .leaf l => .leaf l
  | .all children => .all (Equiv.refl _) (reflAt children)
  | .any children => .any (Equiv.refl _) (reflAt children)
  | .not child => .not (refl child)
  | .invalid keys => .invalid keys

/-- Each of the trees with the children of all groups where they are. -/
def reflAt : (cs : List Condition) → (i : Fin cs.length) → Reordering cs[i] cs[i]
  | c :: _, ⟨0, _⟩ => refl c
  | _ :: rest, ⟨i + 1, h⟩ => reflAt rest ⟨i, Nat.lt_of_succ_lt_succ h⟩

end

/-- The moves of the leaves, in the order of the first tree.  The trees are at the given paths. -/
def moves {c d : Condition} : Reordering c d → List String → List String → List Relocation
  | .leaf l, old, new => [⟨l, old, new⟩]
  | .all place each, old, new =>
    (List.finRange _).flatMap fun i =>
      (each i).moves (old ++ [NodeKind.all.key] ++ [toString i.val])
        (new ++ [NodeKind.all.key] ++ [toString (place i).val])
  | .any place each, old, new =>
    (List.finRange _).flatMap fun i =>
      (each i).moves (old ++ [NodeKind.any.key] ++ [toString i.val])
        (new ++ [NodeKind.any.key] ++ [toString (place i).val])
  | .not child, old, new => child.moves (old ++ [NodeKind.not.key]) (new ++ [NodeKind.not.key])
  | .invalid _, _, _ => []

end Reordering

namespace Condition

/-! ### Siblings by their indices -/

theorem sitesFrom_eq_flatMap (path : List String) : ∀ (index : Nat) (cs : List Condition),
    sitesFrom path index cs =
      (List.finRange cs.length).flatMap fun i => cs[i].sites (path ++ [toString (index + i.val)])
  | _, [] => rfl
  | index, child :: rest => by
      change _ = (List.finRange (rest.length + 1)).flatMap _
      rw [sitesFrom, sitesFrom_eq_flatMap path (index + 1) rest, List.finRange_succ,
        List.flatMap_cons, List.flatMap_map]
      simp [Nat.add_assoc, Nat.add_comm 1]

theorem allHold_iff {outcomes : Table (List String) Bool} {path : List String} :
    ∀ {index : Nat} {cs : List Condition}, allHold outcomes path index cs = true ↔
      ∀ i : Fin cs.length, cs[i].holds outcomes (path ++ [toString (index + i.val)]) = true
  | _, [] => ⟨fun _ i => i.elim0, fun _ => rfl⟩
  | index, child :: rest => by
      rw [allHold, Bool.and_eq_true, allHold_iff]
      refine Iff.trans ?_ Fin.forall_fin_succ.symm
      simp [Nat.add_assoc, Nat.add_comm 1]

theorem anyHolds_iff {outcomes : Table (List String) Bool} {path : List String} :
    ∀ {index : Nat} {cs : List Condition}, anyHolds outcomes path index cs = true ↔
      ∃ i : Fin cs.length, cs[i].holds outcomes (path ++ [toString (index + i.val)]) = true
  | _, [] => ⟨fun h => (nomatch h), fun ⟨i, _⟩ => i.elim0⟩
  | index, child :: rest => by
      rw [anyHolds, Bool.or_eq_true, anyHolds_iff]
      refine Iff.trans ?_ Fin.exists_fin_succ.symm
      simp [Nat.add_assoc, Nat.add_comm 1]

end Condition

namespace Reordering

variable {c d : Condition} {old new : List String} {before after : Table (List String) Bool}

/-! ### Moves and sites -/

theorem moves_old (order : Reordering c d) (old new : List String) :
    (order.moves old new).map Relocation.oldSite = c.sites old := by
  induction order generalizing old new with
  | leaf | invalid => rfl
  | all place each ih | any place each ih =>
      simp only [moves, Condition.sites, Condition.sitesFrom_eq_flatMap, List.map_flatMap, ih,
        Nat.zero_add]
  | not child ih => exact ih _ _

/-- Numbering the children of the second tree from the first reaches all of them, once each. -/
theorem finRange_place {m n : Nat} (place : Fin m ≃ Fin n) :
    ((List.finRange m).map place).Perm (List.finRange n) := by
  refine (List.perm_ext_iff_of_nodup ?_ (List.nodup_finRange n)).mpr fun j => ?_
  · exact (List.nodup_finRange m).map place.injective
  · simp [List.mem_map, place.surjective j]

theorem moves_new (order : Reordering c d) (old new : List String) :
    ((order.moves old new).map Relocation.newSite).Perm (d.sites new) := by
  induction order generalizing old new with
  | leaf | invalid => exact .refl _
  | @all cs ds place each ih | @any cs ds place each ih =>
      simp only [moves, Condition.sites, Condition.sitesFrom_eq_flatMap, List.map_flatMap,
        Nat.zero_add]
      refine List.Perm.trans ?_ ((finRange_place place).flatMap_right _)
      rw [List.flatMap_map]
      exact List.Perm.flatMap_left _ fun i _ => ih i _ _
  | not child ih => exact ih _ _

/-- A leaf has as many negations above it in the second tree as in the first. -/
theorem moves_negations (order : Reordering c d)
    (same : old.count NodeKind.not.key = new.count NodeKind.not.key) :
    ∀ m ∈ order.moves old new, m.old.count NodeKind.not.key = m.new.count NodeKind.not.key := by
  induction order generalizing old new with
  | leaf l =>
      intro m hm
      obtain rfl := List.mem_singleton.mp hm
      exact same
  | all place each ih | any place each ih =>
      intro m hm
      obtain ⟨i, -, hm⟩ := List.mem_flatMap.mp hm
      refine ih i ?_ m hm
      simp only [List.count_append, same, List.count_singleton,
        beq_eq_false_iff_ne.mpr (Condition.toString_ne_not _)]
  | not child ih => exact ih (by simp only [List.count_append, same])
  | invalid keys => exact fun m hm => nomatch hm

/-! ### The decision -/

/-- The trees hold alike by outcomes that are alike at the old and the new path of every leaf. -/
theorem holds_eq (order : Reordering c d)
    (same : ∀ m ∈ order.moves old new, after.get? m.new = before.get? m.old) :
    d.holds after new = c.holds before old := by
  induction order generalizing old new with
  | leaf l => exact congrArg (·.getD false) (same ⟨l, old, new⟩ (List.mem_singleton_self _))
  | all place each ih =>
      rw [Condition.holds, Condition.holds, Bool.eq_iff_iff, Condition.allHold_iff,
        Condition.allHold_iff]
      refine (place.forall_congr fun i => ?_).symm
      simp only [Nat.zero_add]
      rw [ih i fun m hm => same m (List.mem_flatMap.mpr ⟨i, List.mem_finRange i, hm⟩)]
  | any place each ih =>
      rw [Condition.holds, Condition.holds, Bool.eq_iff_iff, Condition.anyHolds_iff,
        Condition.anyHolds_iff]
      refine (place.exists_congr fun i => ?_).symm
      simp only [Nat.zero_add]
      rw [ih i fun m hm => same m (List.mem_flatMap.mpr ⟨i, List.mem_finRange i, hm⟩)]
  | not child ih => exact congrArg (!·) (ih same)
  | invalid keys => rfl

end Reordering

/-! ### Sites reported alone -/

/-- Leaves of one fact carry params that the fact does not tell apart, such as equal ones. -/
def Condition.AnswersAlike (r : Registry) (ctx : Context) (c : Condition) : Prop :=
  ∀ l ∈ c.leaves, ∀ m ∈ c.leaves, l.fact = m.fact →
    r.alone ctx l.fact l.params = r.alone ctx l.fact m.params

/-- Equal params are not told apart. -/
theorem Condition.AnswersAlike.of_params {r : Registry} {ctx : Context} {c : Condition}
    (equal : ∀ l ∈ c.leaves, ∀ m ∈ c.leaves, l.fact = m.fact → l.params = m.params) :
    c.AnswersAlike r ctx :=
  fun l hl m hm fact => congrArg (r.alone ctx l.fact) (equal l hl m hm fact)

section Alone

variable {r : Registry} {ctx : Context}

/-- What a walk from the root reports of a site, if its leaf is evaluated in a fresh run. -/
def Site.alone (r : Registry) (ctx : Context) (s : Site) : LeafResult :=
  (s.leaf.evaluate s.path ctx r {}).1.invertedIf (s.path.count NodeKind.not.key).bodd

@[simp] theorem Site.alone_path (s : Site) : (s.alone r ctx).path = s.path :=
  LeafResult.invertedIf_path _ _

/-- A leaf is reported as it is alone if the earlier leaves of its fact are answered alike. -/
theorem Run.Keeps.evaluate_alone {run : Run} {done : List Leaf} (keeps : run.Keeps r ctx done)
    (hr : r.FactsArePure) {l : Leaf} (path : List String)
    (alike : ∀ e ∈ done, e.fact = l.fact →
      r.alone ctx l.fact e.params = r.alone ctx l.fact l.params) :
    (l.evaluate path ctx r run).1 = (l.evaluate path ctx r {}).1 := by
  have answer : (r.resolve ctx l.fact l.params run).1 = r.alone ctx l.fact l.params := by
    rw [keeps.resolve_served hr l, Leaf.served]
    cases first : r.firstAnswered ctx l.fact done with
    | none => rfl
    | some e =>
        obtain ⟨mem, fact, -⟩ := Registry.firstAnswered_some first
        exact alike e mem fact
  show l.report path (l.find ctx r run).1 = l.report path (l.find ctx r {}).1
  rw [Leaf.find_fst, Leaf.find_fst, answer, Registry.alone]

/-- **Sites alone.**  The walk reports its sites as they are alone. -/
theorem Condition.evaluate_alone (hr : r.FactsArePure) {c : Condition}
    (alike : c.AnswersAlike r ctx) :
    (c.evaluate ctx r rootPath {}).1 = (c.sites rootPath).map (Site.alone r ctx) := by
  rw [evaluate_eq_visits, ← visits_sites ctx r rootPath false c {}, List.map_map]
  have fresh : Run.Keeps r ctx [] {} := fun name => by simp [Registry.firstAnswered]
  refine List.map_congr_left fun v mem => ?_
  obtain ⟨i, hv⟩ := List.getElem?_of_mem mem
  have keeps := (walk_invariant hr.keptByWalk_keeps rootPath false c fresh).2 i v hv
  have found : v.found ctx r = (v.leaf.evaluate v.path ctx r {}).1 := by
    refine keeps.evaluate_alone hr v.path fun e he fact => ?_
    have isLeaf : v.leaf ∈ c.leaves := by
      rw [← visits_leaves ctx r rootPath false c {}]
      exact List.mem_map_of_mem mem
    exact fact ▸ alike e (List.mem_of_mem_take he) v.leaf isLeaf fact
  have parity : v.negated = (v.path.count NodeKind.not.key).bodd := by
    obtain ⟨below, path, negated⟩ := visits_negated ctx r mem
    have root : rootPath.count NodeKind.not.key = 0 := by decide
    rw [path, List.count_append, root, Nat.zero_add, negated, Bool.false_xor]
  simp only [Visit.reported, Function.comp, Site.alone, found, parity]

/-! ### The walk over the other tree -/

variable {c d : Condition}

theorem Condition.AnswersAlike.reordered (alike : c.AnswersAlike r ctx) (order : Reordering c d) :
    d.AnswersAlike r ctx := by
  have leaves : ∀ e : Condition, e.leaves = (e.sites rootPath).map (·.leaf) := by
    intro e
    rw [← visits_sites ctx r rootPath false e {}, List.map_map]
    exact (visits_leaves ctx r rootPath false e {}).symm
  have same : d.leaves.Perm c.leaves := by
    rw [leaves d, leaves c, ← order.moves_old rootPath rootPath, List.map_map]
    refine (((order.moves_new rootPath rootPath).map (·.leaf)).symm).trans ?_
    rw [List.map_map]
    exact .refl _
  exact fun l hl m hm fact => alike l (same.mem_iff.mp hl) m (same.mem_iff.mp hm) fact

/-- A leaf is reported as before, at its new path. -/
theorem Reordering.alone_newSite (order : Reordering c d) {m : Relocation}
    (mem : m ∈ order.moves rootPath rootPath) :
    m.newSite.alone r ctx = { m.oldSite.alone r ctx with path := m.new } := by
  have negations := order.moves_negations rfl m mem
  simp only [Site.alone, Relocation.newSite, Relocation.oldSite, negations]
  cases (m.new.count NodeKind.not.key).bodd <;> rfl

theorem hasFaults_perm {results others : List LeafResult} (same : results.Perm others) :
    hasFaults results = hasFaults others := by
  rw [Bool.eq_iff_iff, hasFaults_iff, hasFaults_iff]
  simp only [same.mem_iff]

/-- The outcome of a result is found under its path. -/
theorem Condition.outcomesByPath_of_mem {path : List String} {run : Run} {result : LeafResult}
    (mem : result ∈ (c.evaluate ctx r path run).1) :
    (outcomesByPath (c.evaluate ctx r path run).1).get? result.path = some result.outcome := by
  have visited := mem
  rw [evaluate_eq_visits] at visited
  obtain ⟨v, hv, rfl⟩ := List.mem_map.mp visited
  simpa [Visit.reported] using outcomesByPath_visit ctx r hv

/-- **The order of siblings.**  Suppose that facts answer by their params and the context only, and
do not tell apart the params that leaves pass them.  With the children of groups in another order
the walk reports every leaf as before, at its new path; the errors put the decision in doubt if they
did before, and the decision is the same.  Of operators nothing is supposed: by their type they are
functions of the two values that they compare. -/
theorem Condition.evaluate_reordered (r : Registry) (hr : r.FactsArePure) (ctx : Context)
    (order : Reordering c d) (alike : c.AnswersAlike r ctx) :
    let before := (c.evaluate ctx r rootPath {}).1
    let after := (d.evaluate ctx r rootPath {}).1
    let moves := order.moves rootPath rootPath
    moves.map Relocation.oldSite = c.sites rootPath ∧
      (moves.map Relocation.newSite).Perm (d.sites rootPath) ∧
      before.map (·.path) = moves.map (·.old) ∧
      after.Perm (List.zipWith (fun result m => { result with path := m.new }) before moves) ∧
      hasFaults after = hasFaults before ∧ d.isMet after = c.isMet before := by
  intro before after moves
  have oldSites := order.moves_old rootPath rootPath
  have newSites := order.moves_new rootPath rootPath
  have hbefore : before = moves.map fun m => m.oldSite.alone r ctx := by
    rw [show before = _ from evaluate_alone hr alike, ← oldSites, List.map_map]
    rfl
  have hafter : after.Perm (moves.map fun m => { m.oldSite.alone r ctx with path := m.new }) := by
    rw [show after = _ from evaluate_alone hr (alike.reordered order)]
    refine (newSites.map (Site.alone r ctx)).symm.trans ?_
    rw [List.map_map]
    exact .of_eq (List.map_congr_left fun m mem => order.alone_newSite mem)
  refine ⟨oldSites, newSites, ?_, ?_, ?_, ?_⟩
  · rw [hbefore, List.map_map]
    exact List.map_congr_left fun m _ => m.oldSite.alone_path
  · rw [hbefore, List.zipWith_map_left, List.zipWith_self]
    exact hafter
  · rw [hasFaults_perm hafter, hbefore, Bool.eq_iff_iff, hasFaults_iff, hasFaults_iff]
    simp only [List.mem_map, exists_exists_and_eq_and]
    exact Iff.rfl
  · refine order.holds_eq fun m mem => ?_
    -- the outcomes of a leaf stand under its old and its new path
    have was : m.oldSite.alone r ctx ∈ before := hbefore ▸ List.mem_map_of_mem mem
    have is : { m.oldSite.alone r ctx with path := m.new } ∈ after :=
      hafter.mem_iff.mpr (List.mem_map.mpr ⟨m, mem, rfl⟩)
    have outcome := outcomesByPath_of_mem was
    rw [Site.alone_path] at outcome
    exact (outcomesByPath_of_mem is).trans outcome.symm

end Alone

/-! ### Two trees of the same leaves -/

/-- A leaf on a fact that no plugin provides. -/
def Leaf.unprovided : Leaf where
  fact := "unprovided"
  operator := Builtin.equal.name
  value := .null

/-- A file is missing, and either it is not or the fact that nobody provides is null. -/
def Condition.groups : Condition :=
  .all [.leaf (.lacks "b.txt"), .any [.not (.leaf (.lacks "b.txt")), .leaf .unprovided]]

/-- The same with the children of both groups the other way round. -/
def Condition.groupsReversed : Condition :=
  .all [.any [.leaf .unprovided, .not (.leaf (.lacks "b.txt"))], .leaf (.lacks "b.txt")]

/-- What changes from one to the other. -/
def Reordering.ofGroups : Reordering .groups .groupsReversed :=
  .all Fin.revPerm fun
    | 0 => refl _
    | 1 => .any Fin.revPerm fun
      | 0 => refl _
      | 1 => refl _

/-- The paths of the three leaves in both trees, the decisions and whether they are in doubt. -/
theorem Condition.evaluate_reordered_groups :
    let r := Registry.requiredFiles
    let ctx := Context.ofTarget (.ofFiles [("a.txt", "")]) "a.txt"
    let before := (groups.evaluate ctx r rootPath {}).1
    let after := (groupsReversed.evaluate ctx r rootPath {}).1
    r.FactsArePure ∧ groups.AnswersAlike r ctx ∧
      (Reordering.ofGroups.moves rootPath rootPath).map (fun m => (m.old, m.new)) =
        [(["conditions", "all", "0"], ["conditions", "all", "1"]),
          (["conditions", "all", "1", "any", "0", "not"],
            ["conditions", "all", "0", "any", "1", "not"]),
          (["conditions", "all", "1", "any", "1"], ["conditions", "all", "0", "any", "0"])] ∧
      hasFaults after = hasFaults before ∧
      groupsReversed.isMet after = groups.isMet before := by
  intro r ctx before after
  have alike : groups.AnswersAlike r ctx := by
    refine .of_params fun l hl m hm fact => ?_
    simp only [groups, leaves, leavesOf, List.cons_append, List.nil_append, List.mem_cons,
      List.not_mem_nil, or_false] at hl hm
    rcases hl with rfl | rfl | rfl <;> rcases hm with rfl | rfl | rfl <;>
      first | rfl | exact absurd fact (by decide)
  obtain ⟨-, -, -, -, doubt, decision⟩ :=
    evaluate_reordered r Registry.requiredFiles_factsArePure ctx .ofGroups alike
  exact ⟨Registry.requiredFiles_factsArePure, alike, rfl, doubt, decision⟩

end Verdict
