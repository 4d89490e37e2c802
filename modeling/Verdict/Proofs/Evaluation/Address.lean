import Verdict.Proofs.Evaluation.Formula
import Verdict.Proofs.Evaluation.Site
import Verdict.Proofs.Rule.Reading
import Verdict.Proofs.Value.Selector

/-!
# Evaluation: the paths of a trace

The path of a result, joined by points, is a selector of the value that the rule was read from, and
addresses the pairs that the leaf was read from.

* `written_of_read`: every site of a tree is written where its path leads in the value that the tree
  was read from.
* `holds_eq_decided`: the decision by paths is the decision by the outcomes of the leaves in their
  order.
* `trace_addresses_leaves`: the paths of a trace are different, and each leads to the pairs of its
  leaf.
-/

namespace Verdict

open Schema

/-! ### Sites in the values that trees are read from -/

/-- Every step of a path is short enough for the number of a position. -/
def Value.ShortSteps (path : List String) : Prop :=
  ∀ step ∈ path, step.length ≤ Number.maxIntegerDigits

instance (path : List String) : Decidable (Value.ShortSteps path) :=
  inferInstanceAs (Decidable (∀ step ∈ path, step.length ≤ Number.maxIntegerDigits))

/-- What follows `path` in the path of the site leads, in the value at `path`, to the pairs that the
leaf of the site is read from. -/
def Site.WrittenIn (s : Site) (path : List String) (v : Value) : Prop :=
  ∃ below pairs, s.path = path ++ below ∧ (∀ step ∈ below, Value.IsStep step) ∧
    (Value.ShortSteps below → v.walk below = .ok (.mapping pairs)) ∧
    Condition.kindOfPairs pairs = some .leaf ∧ Condition.readLeaf pairs = .ok s.leaf ∧
    (v.IsJson → (Value.mapping pairs).IsJson)

namespace Site.WrittenIn

variable {s : Site} {path : List String}

/-- A site in a part of a value, one step further. -/
theorem of_step {v w : Value} {token : String} (h : s.WrittenIn (path ++ [token]) w)
    (isStep : Value.IsStep token) (part : w ∈ v.parts)
    (leads : token.length ≤ Number.maxIntegerDigits → v.step token = .ok w) :
    s.WrittenIn path v := by
  obtain ⟨below, pairs, hpath, steps, hwalk, kind, read, json⟩ := h
  refine ⟨token :: below, pairs, by simp [hpath], ?_, ?_, kind, read, fun hv => json (hv.part part)⟩
  · exact List.forall_mem_cons.mpr ⟨isStep, steps⟩
  · intro short
    obtain ⟨first, rest⟩ := List.forall_mem_cons.mp short
    rw [Value.walk, leads first]
    exact hwalk rest

theorem of_entry {pairs : Pairs} {key : String} {w : Value} (isStep : Value.IsStep key)
    (entry : Table.get? pairs (.text key) = some w) (h : s.WrittenIn (path ++ [key]) w) :
    s.WrittenIn path (.mapping pairs) := by
  refine h.of_step isStep (Value.mem_parts_of_get?_text entry) fun _ => ?_
  rw [Value.step, entry]
  rfl

theorem of_item {v item : Value} {items : List Value} {i : Nat}
    (held : v = .list items ∨ v = .tuple items) (hi : items[i]? = some item)
    (h : s.WrittenIn (path ++ [toString i]) item) : s.WrittenIn path v := by
  have part : item ∈ v.parts := by
    rcases held with rfl | rfl <;> exact List.mem_of_getElem? hi
  refine h.of_step (Value.isStep_toString i) part fun short => ?_
  have leads : Value.itemAt items (toString i) = .ok ((items[i]?).getD .null) :=
    Value.itemAt_toString short
  rw [hi] at leads
  rcases held with rfl | rfl <;> exact leads

end Site.WrittenIn

namespace Condition

/-- If the items of a list are read one after another, every site is written in one of them. -/
theorem written_of_readFrom {path : List String} : ∀ {items : List Value}
    (_ : ∀ item ∈ items, ∀ hs c path, readWithin hs item = .ok c →
      ∀ s ∈ c.sites path, s.WrittenIn path item)
    {hs : Holders} {index : Nat} {cs : List Condition}, readFrom hs index items = .ok cs →
    ∀ s ∈ sitesFrom path index cs,
      ∃ i item, items[i]? = some item ∧ s.WrittenIn (path ++ [toString (index + i)]) item
  | [], _, _, _, _, read, s, hs => by
      cases read
      cases hs
  | v :: rest, each, hs, index, cs, read, s, hmem => by
      obtain ⟨c, others, hc, hothers, rfl⟩ := readFrom_cons_eq_ok.mp read
      rcases List.mem_append.mp hmem with hmem | hmem
      · exact ⟨0, v, rfl, each v List.mem_cons_self _ c _ hc s hmem⟩
      · obtain ⟨i, item, hi, written⟩ := written_of_readFrom
          (fun item hitem => each item (List.mem_cons_of_mem v hitem)) hothers s hmem
        refine ⟨i + 1, item, hi, ?_⟩
        rwa [Nat.add_right_comm, Nat.add_assoc] at written

/-- **Sites are written where their paths lead**: those of a tree in the value that it was read
from, and those of siblings in the list that they were read from. -/
theorem written_of_read (v : Value) :
    (∀ hs c path, readWithin hs v = .ok c → ∀ s ∈ c.sites path, s.WrittenIn path v) ∧
      ∀ hs cs path, readChildren hs v = .ok cs → ∀ s ∈ sitesFrom path 0 cs, s.WrittenIn path v := by
  induction v using Value.induction_parts with
  | step v ih =>
  refine ⟨fun hs c path read s hmem => ?_, fun hs cs path read s hmem => ?_⟩
  · rcases exists_pairs_of_readWithin read with ⟨pairs, rfl, reads⟩ | rfl
    · cases reads with
      | @leaf l kind readLeaf =>
          obtain rfl := List.mem_singleton.mp hmem
          exact ⟨[], pairs, by simp, by simp, fun _ => rfl, kind, readLeaf, id⟩
      | all _ entry readAll =>
          exact .of_entry (Value.isStep_of_all (by decide) (by decide)) entry
            ((ih _ (Value.mem_parts_of_get?_text entry)).2 _ _ _ readAll s hmem)
      | any _ entry readAny =>
          exact .of_entry (Value.isStep_of_all (by decide) (by decide)) entry
            ((ih _ (Value.mem_parts_of_get?_text entry)).2 _ _ _ readAny s hmem)
      | not _ entry readNot =>
          exact .of_entry (Value.isStep_of_all (by decide) (by decide)) entry
            ((ih _ (Value.mem_parts_of_get?_text entry)).1 _ _ _ readNot s hmem)
      | invalid => cases hmem
    · cases hmem
  · rcases exists_items_of_readChildren read with ⟨items, held, readItems⟩ | rfl
    · have each : ∀ item ∈ items, ∀ hs c path, readWithin hs item = .ok c →
          ∀ s ∈ c.sites path, s.WrittenIn path item := fun item hitem =>
        (ih item (by rcases held with rfl | rfl <;> exact hitem)).1
      obtain ⟨i, item, hi, written⟩ := written_of_readFrom each readItems s hmem
      rw [Nat.zero_add] at written
      exact .of_item held hi written
    · cases hmem

/-! ### Results in the value of a rule -/

end Condition

namespace LeafResult

/-- The pairs are read as the fact, the operator and the value that the result reports. -/
structure ReadIn (result : LeafResult) (pairs : Pairs) : Prop where
  fact : required pairs "fact" (readTextOf 1) = .ok result.fact
  operator : required pairs "operator" (readTextOf 1) = .ok result.operator
  value : Table.get? pairs (.text "value") = some result.operand

/-- The pairs have the very fact, operator and value that the result reports. -/
structure StandsIn (result : LeafResult) (pairs : Pairs) : Prop where
  fact : Table.get? pairs (.text "fact") = some (.text result.fact)
  operator : Table.get? pairs (.text "operator") = some (.text result.operator)
  value : Table.get? pairs (.text "value") = some result.operand

theorem ReadIn.standsIn {result : LeafResult} {pairs : Pairs} (h : result.ReadIn pairs)
    (json : (Value.mapping pairs).IsJson) : result.StandsIn pairs :=
  ⟨(required_text_eq_ok json).mp h.fact |>.1, (required_text_eq_ok json).mp h.operator |>.1, h.value⟩

end LeafResult

/-- The leaf of a site is read from pairs that its path leads to from the root of the rule. -/
theorem Rule.written_of_read {raw : Value} {rule : Rule} {c : Condition}
    (read : Rule.read raw = .ok rule) (conditions : rule.conditions = some c) :
    ∀ s ∈ c.sites rootPath, s.WrittenIn [] raw := by
  intro s hs
  obtain ⟨pairs, rfl, -, readConditions, -⟩ := Rule.read_eq_ok.mp read
  rw [conditions] at readConditions
  rcases optional_eq_ok.mp readConditions with ⟨-, absent⟩ | ⟨v, entry, readConditions⟩
  · cases absent
  · rcases nullable_eq_ok.mp readConditions with ⟨-, absent⟩ | ⟨-, _, readGroup, same⟩
    · cases absent
    · cases same
      have readRoot : Condition.readWithin [] v = .ok c := by
        unfold Condition.readGroup at readGroup
        split at readGroup
        · exact readGroup
        · exact readGroup
        · exact readGroup
        · simp at readGroup
      exact .of_entry (Value.isStep_of_all (by decide) (by decide)) entry
        ((Condition.written_of_read v).1 _ _ _ readRoot s hs)

namespace Condition

/-! ### The decision by number -/

mutual

/-- The tree holds by the outcomes of its leaves, which are numbered from left to right, beginning
with `first`.  An invalid node does not hold. -/
def decided (outcome : Nat → Bool) (first : Nat) : Condition → Bool
  | .leaf _ => outcome first
  | .all children => allDecided outcome first children
  | .any children => anyDecided outcome first children
  | .not child => !decided outcome first child
  | .invalid _ => false

/-- All trees hold. -/
def allDecided (outcome : Nat → Bool) (first : Nat) : List Condition → Bool
  | [] => true
  | child :: rest =>
    decided outcome first child && allDecided outcome (first + child.leaves.length) rest

/-- Some tree holds. -/
def anyDecided (outcome : Nat → Bool) (first : Nat) : List Condition → Bool
  | [] => false
  | child :: rest =>
    decided outcome first child || anyDecided outcome (first + child.leaves.length) rest

end

mutual

theorem sites_length : ∀ (path : List String) (c : Condition),
    (c.sites path).length = c.leaves.length
  | _, .leaf _ | _, .invalid _ => rfl
  | _, .all children | _, .any children => sitesFrom_length _ _ children
  | _, .not child => sites_length _ child

theorem sitesFrom_length : ∀ (path : List String) (index : Nat) (cs : List Condition),
    (sitesFrom path index cs).length = (leavesOf cs).length
  | _, _, [] => rfl
  | path, index, child :: rest => by
      simp only [sitesFrom, leavesOf, List.length_append, sites_length, sitesFrom_length]

end

section Numbered

variable {outcomes : Table (List String) Bool} {outcome : Nat → Bool}

variable (outcomes outcome) in
/-- The table has the outcomes of sites by their paths, numbered beginning with `first`. -/
def Numbers (first : Nat) (sites : List Site) : Prop :=
  ∀ i s, sites[i]? = some s → outcomes.get? s.path = some (outcome (first + i))

theorem Numbers.left {first : Nat} {ss ts : List Site}
    (h : Numbers outcomes outcome first (ss ++ ts)) : Numbers outcomes outcome first ss :=
  fun i s hs => h i s (List.getElem?_append_left (List.getElem?_eq_some_iff.mp hs).1 ▸ hs)

theorem Numbers.right {first : Nat} {ss ts : List Site}
    (h : Numbers outcomes outcome first (ss ++ ts)) :
    Numbers outcomes outcome (first + ss.length) ts := by
  intro i s hs
  rw [Nat.add_assoc]
  refine h (ss.length + i) s ?_
  rw [List.getElem?_append_right (Nat.le_add_right _ _), Nat.add_sub_cancel_left]
  exact hs

mutual

/-- **The decision by number.**  A tree holds by its outcomes under their paths as it does by the
outcomes of its leaves in their order. -/
theorem holds_eq_decided : ∀ (path : List String) (first : Nat) (c : Condition),
    Numbers outcomes outcome first (c.sites path) → c.holds outcomes path = c.decided outcome first
  | path, first, .leaf l, h => by
      have found := h 0 ⟨l, path⟩ rfl
      rw [Nat.add_zero] at found
      rw [holds, decided, found, Option.getD_some]
  | _, _, .all children, h => allHold_eq_allDecided _ _ _ children h
  | _, _, .any children, h => anyHolds_eq_anyDecided _ _ _ children h
  | _, _, .not child, h => congrArg (!·) (holds_eq_decided _ _ child h)
  | _, _, .invalid _, _ => rfl

theorem allHold_eq_allDecided : ∀ (path : List String) (first index : Nat) (cs : List Condition),
    Numbers outcomes outcome first (sitesFrom path index cs) →
    allHold outcomes path index cs = allDecided outcome first cs
  | _, _, _, [], _ => rfl
  | path, first, index, child :: rest, h => by
      have others := h.right
      rw [sites_length] at others
      rw [allHold, allDecided, holds_eq_decided _ _ child h.left,
        allHold_eq_allDecided _ _ _ rest others]

theorem anyHolds_eq_anyDecided : ∀ (path : List String) (first index : Nat) (cs : List Condition),
    Numbers outcomes outcome first (sitesFrom path index cs) →
    anyHolds outcomes path index cs = anyDecided outcome first cs
  | _, _, _, [], _ => rfl
  | path, first, index, child :: rest, h => by
      have others := h.right
      rw [sites_length] at others
      rw [anyHolds, anyDecided, holds_eq_decided _ _ child h.left,
        anyHolds_eq_anyDecided _ _ _ rest others]

end

end Numbered

/-! ### The paths of a trace -/

variable (ctx : Context) (r : Registry)

/-- A result of a walk carries the parts of a site of the tree. -/
theorem mem_evaluate {c : Condition} {path : List String} {run : Run} {result : LeafResult}
    (h : result ∈ (c.evaluate ctx r path run).1) : ∃ s ∈ c.sites path, result.path = s.path ∧
      result.fact = s.leaf.fact ∧ result.operator = s.leaf.operator ∧
      result.operand = s.leaf.value := by
  rw [evaluate_eq_visits] at h
  obtain ⟨v, hv, rfl⟩ := List.mem_map.mp h
  refine ⟨⟨v.leaf, v.path⟩, ?_, ?_⟩
  · rw [← visits_sites ctx r path false c run]
    exact List.mem_map_of_mem hv
  · rw [Visit.reported, LeafResult.invertedIf_eq]
    exact ⟨rfl, rfl, rfl, rfl⟩

theorem evaluate_paths_nodup (path : List String) (c : Condition) (run : Run) :
    ((c.evaluate ctx r path run).1.map (·.path)).Nodup := by
  have distinct := visits_paths_nodup ctx r path false c run
  simpa [evaluate_eq_visits, Function.comp_def] using distinct

/-- The outcomes of a walk stand under their paths in the order of the leaves. -/
theorem numbers_walk (path : List String) (c : Condition) (run : Run) :
    Numbers (outcomesByPath (c.evaluate ctx r path run).1)
      (outcomeAt (c.evaluate ctx r path run).1) 0 (c.sites path) := by
  intro i s hs
  rw [← visits_sites ctx r path false c run, List.getElem?_map] at hs
  obtain ⟨v, hv, rfl⟩ := Option.map_eq_some_iff.mp hs
  rw [outcomesByPath_visit ctx r (List.mem_of_getElem? hv), evaluate_eq_visits, outcomeAt,
    Nat.zero_add, List.getElem?_map, hv]
  simp [Visit.reported]

/-- **The paths of a trace identify its leaves.**  The results of the conditions of a rule have
different paths; each path, joined by points, selects in the value of the rule a mapping of the
shape of a leaf, which has the fact, the operator and the value that the result reports, as it
stands if the value is one of JSON.  So the outcomes by path are those of all results, and the
decision reads at each leaf the outcome of that leaf.

A selector refuses a number of more than 4300 digits (`Value.ShortSteps`): it would be the position
of an item in a list of at least 10⁴³⁰⁰ items. -/
theorem trace_addresses_leaves {raw : Value} {rule : Rule} {c : Condition}
    (read : Rule.read raw = .ok rule) (conditions : rule.conditions = some c) (run : Run) :
    let results := (c.evaluate ctx r rootPath run).1
    (results.map (·.path)).Nodup ∧
      (∀ result ∈ results, Value.ShortSteps result.path → ∃ pairs,
        raw.select (".".intercalate result.path) = .ok (.mapping pairs) ∧
          kindOfPairs pairs = some .leaf ∧ result.ReadIn (unrolledPairs pairs) ∧
          (raw.IsJson → result.StandsIn pairs)) ∧
      outcomesByPath results = results.map (fun result => (result.path, result.outcome)) ∧
      c.isMet results = c.decided (outcomeAt results) 0 := by
  intro results
  have distinct : (results.map (·.path)).Nodup := evaluate_paths_nodup ctx r rootPath c run
  refine ⟨distinct, fun result mem short => ?_, ?_,
    holds_eq_decided rootPath 0 c (numbers_walk ctx r rootPath c run)⟩
  · obtain ⟨s, hs, hpath, hfact, hoperator, hvalue⟩ := mem_evaluate ctx r mem
    obtain ⟨below, pairs, hbelow, steps, hwalk, kind, readLeaf, json⟩ :=
      Rule.written_of_read read conditions s hs
    rw [List.nil_append] at hbelow
    have below_eq : below = result.path := hbelow.symm.trans hpath.symm
    subst below_eq
    have root : rootPath <+: s.path := by
      rw [← visits_sites ctx r rootPath false c run] at hs
      obtain ⟨v, hv, rfl⟩ := List.mem_map.mp hs
      exact visits_below ctx r hv
    have unmarked : ∀ first, result.path.head? = some first → first.toList.head? ≠ some '$' := by
      obtain ⟨rest, hrest⟩ := root
      rw [hpath, ← hrest]
      rintro _ ⟨⟩
      decide
    obtain ⟨fact, operator, value, -⟩ := readLeaf_eq_ok.mp readLeaf
    have readIn : result.ReadIn (unrolledPairs pairs) := by
      refine ⟨hfact ▸ fact, hoperator ▸ operator, ?_⟩
      obtain ⟨v, entry, same⟩ := required_eq_ok.mp value
      cases same
      rw [entry, hvalue]
    refine ⟨pairs, ?_, kind, readIn, fun hraw => ?_⟩
    · rw [Value.select_intercalate steps unmarked, hwalk short]
    · rw [unrolledPairs_of_isJson (json hraw)] at readIn
      exact readIn.standsIn (json hraw)
  · refine Table.ofPairs_of_nodup ?_
    simpa [Table.keys, Function.comp_def] using distinct

end Condition

/-! ### A rule with nested groups -/

/-- The file has the given name. -/
def Leaf.naming (name : String) : Leaf :=
  { fact := "fileData", operator := "equal", value := .text name, selector := some "$.fileName" }

/-- Two conditions, the second of which has eleven alternatives. -/
def Condition.nested : Condition :=
  .all [.leaf (.naming "first"), .not (.any
    (List.replicate 10 (.leaf (.naming "other")) ++ [.leaf (.naming "last")]))]

/-- The leaf as it is written. -/
def Value.writtenNaming (name : String) : Value :=
  .ofTable [("fact", .text "fileData"), ("operator", .text "equal"), ("path", .text "$.fileName"),
    ("value", .text name)]

/-- A rule with these conditions as it is written. -/
def Value.writtenNested : Value :=
  .ofTable [("name", .text "nested"),
    ("conditions", .ofTable [("all", .list [writtenNaming "first", .ofTable [("not",
      .ofTable [("any", .list (List.replicate 10 (writtenNaming "other") ++
        [writtenNaming "last"]))])]])]),
    ("event", .ofTable [("type", .text "warning"), ("message", .text "Fired")])]

/-- The path of the last result leads to the eleventh alternative. -/
theorem Condition.trace_addresses_last :
    let results := (nested.evaluate (.ofTarget (.ofFiles []) "a.txt") {} rootPath {}).1
    ∃ rule, Rule.read .writtenNested = .ok rule ∧ rule.conditions = some nested ∧
      ∃ result, results[11]? = some result ∧
        ".".intercalate result.path = "conditions.all.1.not.any.10" ∧
        result.operand = .text "last" ∧ ∃ pairs,
          Value.writtenNested.select "conditions.all.1.not.any.10" = .ok (.mapping pairs) ∧
            result.ReadIn (unrolledPairs pairs) := by
  intro results
  obtain ⟨rule, read, conditions⟩ :
      ∃ rule, Rule.read .writtenNested = .ok rule ∧ rule.conditions = some nested :=
    ⟨_, rfl, rfl⟩
  obtain ⟨result, last⟩ : ∃ result, results[11]? = some result := ⟨_, rfl⟩
  have path : result.path = ["conditions", "all", "1", "not", "any", "10"] := by
    have h : results[11]?.map (·.path) = some ["conditions", "all", "1", "not", "any", "10"] := by
      decide
    rw [last] at h
    exact Option.some.inj h
  have operand : result.operand = .text "last" := by
    have h : results[11]?.map (·.operand) = some (.text "last") := rfl
    rw [last] at h
    exact Option.some.inj h
  have joined : ".".intercalate result.path = "conditions.all.1.not.any.10" := by
    rw [path]
    decide
  have short : Value.ShortSteps result.path := by
    rw [path]
    decide
  obtain ⟨-, each, -⟩ := trace_addresses_leaves (.ofTarget (.ofFiles []) "a.txt") {} read
    conditions {}
  obtain ⟨pairs, selected, -, readIn, -⟩ := each result (List.mem_of_getElem? last) short
  rw [joined] at selected
  exact ⟨rule, read, conditions, result, last, joined, operand, pairs, selected, readIn⟩

end Verdict
