import Mathlib.Data.List.Forall2
import Verdict.Proofs.Rule.Reading

/-!
# Rules: the grammar of conditions

The values of JSON that are read as conditions.

* `Derives`: the grammar, a case for each kind of node, with the levels of nodes that a tree may
  have.
* `readWithin_ok_iff`: a condition is read exactly if the grammar derives it, with a level for every
  condition that does not hold it already.
* `kindsMatch_of_readWithin`: what is read has the kinds of the value at every level.
* `reads_derived`: both for a condition by itself, and what follows for the root of a rule.

Reading refuses a node that more than 253 conditions hold, so the grammar has 254 levels
(`not_reads_nested`).
-/

namespace Verdict

open Schema

namespace Condition

/-! ### The grammar -/

/-- An object of the form of a leaf. -/
structure LeafForm (table : Table String Value) : Prop where
  fact : ∃ s, s ≠ "" ∧ table.get? "fact" = some (.text s)
  operator : ∃ s, s ≠ "" ∧ table.get? "operator" = some (.text s)
  value : ∃ v, table.get? "value" = some v
  path : ∀ v, table.get? "path" = some v → v = .null ∨ ∃ s, v = .text s
  params : ∀ v, table.get? "params" = some v → v = .null ∨ ∃ params, v = .ofTable params
  priority : ∀ v, table.get? "priority" = some v → v = .null ∨ ∃ n, readInteger v = .ok n
  only : ∀ key ∈ table.keys, key ∈ leafFields

/-- The value is a condition with at most so many levels of nodes. -/
inductive Derives : (levels : Nat) → Value → Prop where
  | leaf {levels : Nat} {table : Table String Value} (form : LeafForm table) :
      Derives (levels + 1) (.ofTable table)
  | all {levels : Nat} {items : List Value} (each : ∀ v ∈ items, Derives levels v) :
      Derives (levels + 1) (.ofTable [("all", .list items)])
  | any {levels : Nat} {items : List Value} (each : ∀ v ∈ items, Derives levels v) :
      Derives (levels + 1) (.ofTable [("any", .list items)])
  | not {levels : Nat} {v : Value} (child : Derives levels v) :
      Derives (levels + 1) (.ofTable [("not", v)])
  | invalid {levels : Nat} {table : Table String Value}
      (unmarked : ∀ kind ∈ NodeKind.marked, kind.key ∉ table.keys) :
      Derives (levels + 1) (.ofTable table)

/-- The tree has the kinds of the value at every level. -/
inductive KindsMatch : Condition → Value → Prop where
  | leaf {l : Leaf} {v : Value} (kind : kindOf v = some .leaf) : KindsMatch (.leaf l) v
  | all {cs : List Condition} {v : Value} {items : List Value} (kind : kindOf v = some .all)
      (entry : v.field? "all" = some (.list items)) (each : List.Forall₂ KindsMatch cs items) :
      KindsMatch (.all cs) v
  | any {cs : List Condition} {v : Value} {items : List Value} (kind : kindOf v = some .any)
      (entry : v.field? "any" = some (.list items)) (each : List.Forall₂ KindsMatch cs items) :
      KindsMatch (.any cs) v
  | not {c : Condition} {v w : Value} (kind : kindOf v = some .not)
      (entry : v.field? "not" = some w) (child : KindsMatch c w) : KindsMatch (.not c) v
  | invalid {keys : Table String Value} {v : Value} (kind : kindOf v = some .invalid) :
      KindsMatch (.invalid keys) v

/-! ### Mappings of JSON -/

/-- The pairs of the mapping of a table. -/
abbrev entriesOf (table : Table String Value) : Pairs :=
  table.map fun (k, v) => (.text k, v)

/-- What the grammar says is an object of one of five forms. -/
theorem Derives.forms {n : Nat} {v : Value} (h : Derives n v) :
    ∃ levels table, n = levels + 1 ∧ v = .ofTable table ∧ (LeafForm table ∨
      (∃ items, table = [("all", .list items)] ∧ ∀ w ∈ items, Derives levels w) ∨
      (∃ items, table = [("any", .list items)] ∧ ∀ w ∈ items, Derives levels w) ∨
      (∃ w, table = [("not", w)] ∧ Derives levels w) ∨
      ∀ kind ∈ NodeKind.marked, kind.key ∉ table.keys) := by
  cases h with
  | leaf form => exact ⟨_, _, rfl, rfl, .inl form⟩
  | all each => exact ⟨_, _, rfl, rfl, .inr (.inl ⟨_, rfl, each⟩)⟩
  | any each => exact ⟨_, _, rfl, rfl, .inr (.inr (.inl ⟨_, rfl, each⟩))⟩
  | not child => exact ⟨_, _, rfl, rfl, .inr (.inr (.inr (.inl ⟨_, rfl, child⟩)))⟩
  | invalid unmarked => exact ⟨_, _, rfl, rfl, .inr (.inr (.inr (.inr unmarked)))⟩

variable {table : Table String Value}

theorem noOthers_entriesOf {names : List String} :
    noOthers names (entriesOf table) = .ok () ↔
      ∀ key ∈ table.keys, key ∈ names := by
  rw [noOthers_eq_ok]
  constructor
  · intro known key hkey
    obtain ⟨p, hp, rfl⟩ := List.mem_map.mp hkey
    obtain ⟨s, hs, same⟩ := known _ (List.mem_map_of_mem hp)
    exact Atom.text.inj same ▸ hs
  · intro known p hp
    obtain ⟨q, hq, rfl⟩ := List.mem_map.mp hp
    exact ⟨q.1, known q.1 (List.mem_map_of_mem hq), rfl⟩

/-- A table of one key. -/
theorem eq_singleton {key : String} {v : Value} (distinct : table.keys.Nodup)
    (only : ∀ k ∈ table.keys, k ∈ [key]) (entry : table.get? key = some v) : table = [(key, v)] := by
  match table, distinct, only, entry with
  | [(k, w)], _, only, entry =>
      obtain rfl : k = key := by simpa [Table.keys] using only
      obtain rfl : w = v := by simpa [Table.get?] using entry
      rfl
  | p :: q :: rest, distinct, only, _ =>
      have first : p.1 = key := by simpa using only p.1 (by simp [Table.keys])
      have second : q.1 = key := by simpa using only q.1 (by simp [Table.keys])
      simp [Table.keys, first, second] at distinct

/-- A value is read as a list of conditions only if it is a list. -/
theorem eq_list_of_readChildren {hs : Holders} {v : Value} {cs : List Condition} (json : v.IsJson)
    (read : readChildren hs v = .ok cs) :
    ∃ items, v = .list items ∧ readFrom hs 0 items = .ok cs := by
  cases json with
  | @list items _ => exact ⟨items, rfl, read⟩
  | atom | mapping => simp [Value.ofTable, Value.ofPairs, readChildren] at read

theorem kindOf_eq_invalid_iff : kindOf (.ofTable table) = some .invalid ↔
    ∀ kind ∈ NodeKind.marked, kind.key ∉ table.keys := by
  have absent : ∀ key, table.has key = false ↔ key ∉ table.keys := fun key => by
    rw [← Bool.not_eq_true, Table.has_iff_mem_keys]
  have written : ∀ key, Table.has (entriesOf table) (.text key) =
      table.has key := fun key => by rw [Table.has, Table.has, Value.get?_ofTable]
  simp only [← absent]
  show kindOfPairs _ = _ ↔ _
  simp only [kindOfPairs, written]
  split
  · next empty => simpa using empty
  · next kind one =>
      have hkind : kind ∈ NodeKind.marked.filter fun kind => table.has kind.key := by simp [one]
      obtain ⟨marked, present⟩ := List.mem_filter.mp hkind
      constructor
      · rintro ⟨⟩
        contradiction
      · intro unmarked
        simp [unmarked kind marked] at present
  · next nonempty _ =>
      refine ⟨fun same => (by cases same), fun unmarked => (nonempty ?_).elim⟩
      exact List.filter_eq_nil_iff.mpr fun kind marked => by simp [unmarked kind marked]

theorem LeafForm.kind (form : LeafForm table) : kindOf (.ofTable table) = some .leaf := by
  have absent : ∀ key, key ∉ leafFields → table.get? key = none := fun key unknown =>
    Table.get?_eq_none_iff.mpr fun present => unknown (form.only key present)
  obtain ⟨s, -, fact⟩ := form.fact
  show kindOfPairs _ = _
  simp [kindOfPairs, NodeKind.marked, NodeKind.key, Table.has, fact, absent "all" (by decide),
    absent "any" (by decide), absent "not" (by decide)]

/-! ### Leaves -/

theorem readPairs_entriesOf : ∀ t : Table String Value,
    readPairs readAny (entriesOf t) = .ok t
  | [] => rfl
  | (k, v) :: rest => by
      simp only [List.map_cons, readPairs, Checked.seq_eq_ok, Checked.functorMap_eq_ok]
      exact ⟨_, rest, ⟨_, v, ⟨k, rfl, rfl⟩, rfl, rfl⟩, readPairs_entriesOf rest, rfl⟩

/-- An invalid node is kept whatever its keys are. -/
theorem readKept_entriesOf (t : Table String Value) : ∃ keys, readKept (entriesOf t) = .ok keys := by
  refine ⟨_, Checked.functorMap_eq_ok.mpr ⟨(), noOthers_eq_ok.mpr fun p hp => ?_, rfl⟩⟩
  obtain ⟨q, hq, rfl⟩ := List.mem_map.mp hp
  exact ⟨q.1, List.mem_filterMap.mpr ⟨_, hp, rfl⟩, rfl⟩

/-- A value of JSON is read as an object exactly if it is one. -/
theorem readObject_ok_iff {v : Value} (json : v.IsJson) :
    (∃ o, readObject v = .ok o) ↔ ∃ t, v = .ofTable t := by
  constructor
  · rintro ⟨o, read⟩
    cases json with
    | @mapping t => exact ⟨t, rfl⟩
    | atom | list => simp [readObject, readMapping] at read
  · rintro ⟨t, rfl⟩
    exact ⟨_, Checked.map_eq_ok.mpr ⟨t, readPairs_entriesOf t, rfl⟩⟩

/-- A field that may be absent or null is read if its value, where there is one, is. -/
theorem optional_nullable_ok_iff {α : Type} {pairs : Pairs} {name : String}
    {read : Value → Checked α} :
    (∃ a, optional pairs name none (nullable read) = .ok a) ↔
      ∀ v, Table.get? pairs (.text name) = some v → v = .null ∨ ∃ a, read v = .ok a := by
  simp only [optional_eq_ok, nullable_eq_ok]
  constructor
  · rintro ⟨a, ⟨absent, -⟩ | ⟨v, entry, ⟨null, -⟩ | ⟨-, b, read, -⟩⟩⟩ w hw
    · rw [absent] at hw
      cases hw
    · exact .inl (Option.some.inj (hw.symm.trans entry) ▸ null)
    · exact .inr ⟨b, Option.some.inj (hw.symm.trans entry) ▸ read⟩
  · intro each
    cases entry : Table.get? pairs (.text name) with
    | none => exact ⟨none, .inl ⟨rfl, rfl⟩⟩
    | some v =>
        by_cases null : v = .null
        · exact ⟨none, .inr ⟨v, rfl, .inl ⟨null, rfl⟩⟩⟩
        · obtain ⟨a, read⟩ := (each v entry).resolve_left null
          exact ⟨some a, .inr ⟨v, rfl, .inr ⟨null, a, read, rfl⟩⟩⟩

/-- A field with a text that is not empty. -/
theorem required_text_ok_iff {name : String} (json : (Value.ofTable table).IsJson) :
    (∃ s, required (entriesOf table) name (readTextOf 1) = .ok s) ↔
      ∃ s, s ≠ "" ∧ table.get? name = some (.text s) := by
  refine exists_congr fun s => ?_
  have long : 1 ≤ s.length ↔ s ≠ "" := by
    rw [Nat.one_le_iff_ne_zero, ne_eq, String.length_eq_zero_iff]
  rw [required_text_eq_ok json, Value.get?_ofTable, and_comm, long]

/-- An object is read as a leaf exactly if it has the form of one. -/
theorem readLeaf_ok_iff (json : (Value.ofTable table).IsJson) :
    (∃ l, readLeaf (entriesOf table) = .ok l) ↔ LeafForm table := by
  have entry : ∀ {name v}, table.get? name = some v → v.IsJson := fun h =>
    isJson_entry json (Value.get?_ofTable _ _ ▸ h)
  have value : (∃ v, required (entriesOf table) "value" readAny = .ok v) ↔
      ∃ v, table.get? "value" = some v := by
    simp [readAny]
  rw [readLeaf_ok_iff_fields, unrolledPairs_of_isJson json, value]
  simp only [required_text_ok_iff json, optional_nullable_ok_iff, noOthers_entriesOf,
    Value.get?_ofTable]
  constructor
  · rintro ⟨fact, operator, value, path, params, priority, only⟩
    refine ⟨fact, operator, value, fun v h => (path v h).imp_right ?_,
      fun v h => (params v h).imp_right (readObject_ok_iff (entry h)).mp, priority, only⟩
    exact Exists.imp fun s => (readText_eq_ok (entry h)).mp
  · rintro ⟨fact, operator, value, path, params, priority, only⟩
    refine ⟨fact, operator, value, fun v h => (path v h).imp_right ?_,
      fun v h => (params v h).imp_right (readObject_ok_iff (entry h)).mpr, priority, only⟩
    exact Exists.imp fun s => (readText_eq_ok (entry h)).mpr

/-! ### Trees -/

section Trees

variable {hs : Holders}

/-- The levels left below the holders. -/
def Holders.levels (hs : Holders) : Nat := maxDepth + 1 - hs.depth

theorem Holders.levels_list (index : Nat) : Holders.levels (.list index :: hs) = Holders.levels hs :=
  rfl

theorem Holders.levels_node (kind : NodeKind) (room : Holders.depth hs ≤ maxDepth) :
    Holders.levels hs = Holders.levels (.node kind :: hs) + 1 := by
  have deeper : Holders.depth (.node kind :: hs) = Holders.depth hs + 1 := by
    simp [Holders.depth]
  unfold Holders.levels
  omega

/-- Siblings are read exactly if each is. -/
theorem readFrom_ok_iff : ∀ {items : List Value} (index : Nat),
    (∀ v ∈ items, ∀ hs, (∃ c, readWithin hs v = .ok c) ↔ Derives (Holders.levels hs) v) →
    ((∃ cs, readFrom hs index items = .ok cs) ↔ ∀ v ∈ items, Derives (Holders.levels hs) v)
  | [], _, _ => by simp [readFrom]
  | v :: rest, index, each => by
      have first := each v List.mem_cons_self (.list index :: hs)
      have others := readFrom_ok_iff (index + 1)
        fun w hw => each w (List.mem_cons_of_mem v hw)
      rw [Holders.levels_list] at first
      rw [List.forall_mem_cons, ← first, ← others]
      simp only [readFrom_cons_eq_ok]
      constructor
      · rintro ⟨_, c, cs, hc, hcs, rfl⟩
        exact ⟨⟨c, hc⟩, cs, hcs⟩
      · rintro ⟨⟨c, hc⟩, cs, hcs⟩
        exact ⟨_, c, cs, hc, hcs, rfl⟩

/-- What is read from siblings has their kinds. -/
theorem kindsMatch_of_readFrom : ∀ {items : List Value} {index : Nat} {cs : List Condition},
    (∀ v ∈ items, ∀ hs c, readWithin hs v = .ok c → KindsMatch c v) →
    readFrom hs index items = .ok cs → List.Forall₂ KindsMatch cs items
  | [], _, _, _, read => by
      cases read
      exact .nil
  | v :: rest, _, _, each, read => by
      obtain ⟨c, others, hc, hothers, rfl⟩ := readFrom_cons_eq_ok.mp read
      exact .cons (each v List.mem_cons_self _ c hc)
        (kindsMatch_of_readFrom (fun w hw => each w (List.mem_cons_of_mem v hw)) hothers)

/-- The value is read as a condition exactly if the grammar derives it, and as a list of conditions
exactly if it is a list of which the grammar derives every item. -/
def IsReadAsDerived (v : Value) : Prop :=
  (∀ hs, (∃ c, readWithin hs v = .ok c) ↔ Derives (Holders.levels hs) v) ∧
    ∀ hs, (∃ cs, readChildren hs v = .ok cs) ↔
      ∃ items, v = .list items ∧ ∀ w ∈ items, Derives (Holders.levels hs) w

/-- What a mapping is read as, the grammar says, as far as it says what is read of the parts. -/
theorem derives_of_readsAs {c : Condition} (json : (Value.ofTable table).IsJson)
    (distinct : table.keys.Nodup) (part : ∀ w ∈ (Value.ofTable table).parts, IsReadAsDerived w)
    (room : Holders.depth hs ≤ maxDepth) (reads : ReadsAs hs (entriesOf table) c) :
    Derives (Holders.levels hs) (.ofTable table) := by
  -- a group or a negation has its key only
  have single (kind : NodeKind) {w : Value}
      (entry : Table.get? (entriesOf table) (.text kind.key) = some w)
      (only : noOthers [kind.key] (entriesOf table) = .ok ()) : table = [(kind.key, w)] :=
    eq_singleton distinct (noOthers_entriesOf.mp only) (by rwa [Value.get?_ofTable] at entry)
  cases reads with
  | leaf _ readLeaf =>
      rw [Holders.levels_node .leaf room]
      exact .leaf ((readLeaf_ok_iff json).mp ⟨_, readLeaf⟩)
  | all _ entry readAll only =>
      obtain ⟨items, rfl, each⟩ :=
        ((part _ (Value.mem_parts_of_get?_text entry)).2 _).mp ⟨_, readAll⟩
      rw [Holders.levels_node .all room, single .all entry only]
      exact .all each
  | any _ entry readAny only =>
      obtain ⟨items, rfl, each⟩ :=
        ((part _ (Value.mem_parts_of_get?_text entry)).2 _).mp ⟨_, readAny⟩
      rw [Holders.levels_node .any room, single .any entry only]
      exact .any each
  | not _ entry readNot only =>
      have child := ((part _ (Value.mem_parts_of_get?_text entry)).1 _).mp ⟨_, readNot⟩
      rw [Holders.levels_node .not room, single .not entry only]
      exact .not child
  | invalid kind _ =>
      rw [Holders.levels_node .invalid room]
      exact .invalid (kindOf_eq_invalid_iff.mp kind)

/-- What the grammar says is read, as far as the parts are. -/
theorem readWithin_of_derives {v : Value} (json : v.IsJson)
    (part : ∀ w ∈ v.parts, IsReadAsDerived w) (h : Derives (Holders.levels hs) v) :
    ∃ c, readWithin hs v = .ok c := by
  obtain ⟨levels, table, hlevels, rfl, form⟩ := h.forms
  have room : Holders.depth hs ≤ maxDepth := by
    unfold Holders.levels at hlevels
    omega
  have below (kind : NodeKind) : levels = Holders.levels (.node kind :: hs) :=
    Nat.succ.inj (hlevels.symm.trans (Holders.levels_node kind room))
  have reads : ∃ c, ReadsAs hs (entriesOf table) c := by
    rcases form with form | ⟨items, rfl, each⟩ | ⟨items, rfl, each⟩ | ⟨w, rfl, child⟩ | unmarked
    · obtain ⟨l, read⟩ := (readLeaf_ok_iff json).mpr form
      exact ⟨.leaf l, .leaf form.kind read⟩
    · rw [below .all] at each
      obtain ⟨cs, read⟩ := ((part _ List.mem_cons_self).2 (.node .all :: hs)).mpr ⟨_, rfl, each⟩
      exact ⟨.all cs, .all rfl rfl read rfl⟩
    · rw [below .any] at each
      obtain ⟨cs, read⟩ := ((part _ List.mem_cons_self).2 (.node .any :: hs)).mpr ⟨_, rfl, each⟩
      exact ⟨.any cs, .any rfl rfl read rfl⟩
    · rw [below .not] at child
      obtain ⟨c, read⟩ := ((part _ List.mem_cons_self).1 (.node .not :: hs)).mpr child
      exact ⟨.not c, .not rfl rfl read rfl⟩
    · obtain ⟨keys, read⟩ := readKept_entriesOf table
      exact ⟨.invalid keys, .invalid (kindOf_eq_invalid_iff.mpr unmarked) read⟩
  obtain ⟨c, reads⟩ := reads
  exact ⟨c, readWithin_mapping_iff.mpr ⟨room, reads⟩⟩

/-- **What the grammar says is read**, and what is read it says: a condition within its holders, and
a list of conditions. -/
theorem readWithin_ok_iff {v : Value} (json : v.IsJson) : IsReadAsDerived v := by
  -- a group holds a list, whose items are parts of a part: both statements go along together
  induction json using Value.IsJson.induction_parts with
  | step v json part =>
  refine ⟨fun hs => ⟨?_, readWithin_of_derives json part⟩, fun hs => ⟨?_, ?_⟩⟩
  · rintro ⟨c, read⟩
    cases json with
    | mapping distinct entries =>
        obtain ⟨room, reads⟩ := readWithin_mapping_iff.mp read
        exact derives_of_readsAs (.mapping distinct entries) distinct part room reads
    | atom | list => simp [readWithin] at read
  · rintro ⟨cs, read⟩
    obtain ⟨items, rfl, readItems⟩ := eq_list_of_readChildren json read
    exact ⟨items, rfl, (readFrom_ok_iff 0 fun w hw => (part w hw).1).mp ⟨cs, readItems⟩⟩
  · rintro ⟨items, rfl, each⟩
    exact (readFrom_ok_iff 0 fun w hw => (part w hw).1).mpr each

/-- What is read has the kinds of the value at every level. -/
theorem kindsMatch_of_readWithin {v : Value} (json : v.IsJson) :
    (∀ hs c, readWithin hs v = .ok c → KindsMatch c v) ∧
      ∀ hs cs, readChildren hs v = .ok cs →
        ∃ items, v = .list items ∧ List.Forall₂ KindsMatch cs items := by
  induction json using Value.IsJson.induction_parts with
  | step v json part =>
  refine ⟨fun hs c read => ?_, fun hs cs read => ?_⟩
  · cases v with
    | mapping pairs =>
        obtain ⟨-, reads⟩ := readWithin_mapping_iff.mp read
        cases reads with
        | leaf kind _ => exact .leaf kind
        | all kind entry readAll _ =>
            obtain ⟨items, rfl, each⟩ := (part _ (Value.mem_parts_of_get?_text entry)).2 _ _ readAll
            exact .all kind entry each
        | any kind entry readAny _ =>
            obtain ⟨items, rfl, each⟩ := (part _ (Value.mem_parts_of_get?_text entry)).2 _ _ readAny
            exact .any kind entry each
        | not kind entry readNot _ =>
            exact .not kind entry ((part _ (Value.mem_parts_of_get?_text entry)).1 _ _ readNot)
        | invalid kind _ => exact .invalid kind
    | cycle => cases json
    | _ => simp [readWithin] at read
  · obtain ⟨items, rfl, readItems⟩ := eq_list_of_readChildren json read
    refine ⟨items, rfl, ?_⟩
    exact kindsMatch_of_readFrom (fun w hw => (part w hw).1) readItems

end Trees

end Condition

/-! ### The root of a rule -/

namespace Condition

/-- What a rule may have as its conditions: nothing, or a group or a negation. -/
def RootForm : Option Value → Prop
  | none => True
  | some v => v = .null ∨ Derives (maxDepth + 1) v ∧
      (kindOf v = some .all ∨ kindOf v = some .any ∨ kindOf v = some .not)

theorem readGroup_ok_iff {v : Value} (json : v.IsJson) :
    (∃ c, readGroup v = .ok c) ↔ Derives (maxDepth + 1) v ∧
      (kindOf v = some .all ∨ kindOf v = some .any ∨ kindOf v = some .not) := by
  have grammar : (∃ c, read v = .ok c) ↔ Derives (maxDepth + 1) v := (readWithin_ok_iff json).1 []
  rw [← grammar]
  unfold readGroup
  split <;> simp_all

theorem rootForm_iff (json : (Value.ofTable table).IsJson) :
    (∃ c, optional (entriesOf table) "conditions" none (nullable readGroup) = .ok c) ↔
      RootForm (table.get? "conditions") := by
  rw [optional_nullable_ok_iff, Value.get?_ofTable]
  cases entry : table.get? "conditions" with
  | none => simp [RootForm]
  | some v =>
      have part : v.IsJson := isJson_entry json (Value.get?_ofTable _ _ ▸ entry)
      simp only [Option.some.injEq, forall_eq', readGroup_ok_iff part]
      rfl

end Condition

/-- A rule is read if each of its fields is. -/
theorem Rule.read_ok_iff_fields {pairs : Pairs} :
    (∃ rule, Rule.read (.mapping pairs) = .ok rule) ↔
      (∃ s, required pairs "name" Rule.readName = .ok s) ∧
      (∃ c, optional pairs "conditions" none (nullable Condition.readGroup) = .ok c) ∧
      (∃ e, required pairs "event" (fun v => Event.read (v.unrolledWithin [.mapping pairs] 2)) =
        .ok e) ∧
      (∃ n, optional pairs "priority" none (nullable readInteger) = .ok n) := by
  simp only [Rule.read_eq_ok]
  constructor
  · rintro ⟨rule, _, ⟨⟩, name, conditions, event, priority⟩
    exact ⟨⟨_, name⟩, ⟨_, conditions⟩, ⟨_, event⟩, ⟨_, priority⟩⟩
  · rintro ⟨⟨s, name⟩, ⟨c, conditions⟩, ⟨e, event⟩, ⟨n, priority⟩⟩
    exact ⟨⟨s, c, e, n⟩, pairs, rfl, name, conditions, event, priority⟩

namespace Condition

/-- An object is read as a rule if its conditions have the form of a root, and its name, its event
and its priority are read. -/
theorem read_rule_ok_iff (json : (Value.ofTable table).IsJson) :
    (∃ rule, Rule.read (.ofTable table) = .ok rule) ↔
      (∃ s v, table.get? "name" = some v ∧ Rule.readName v = .ok s) ∧
      RootForm (table.get? "conditions") ∧
      (∃ e v, table.get? "event" = some v ∧ Event.read v = .ok e) ∧
      (∀ v, table.get? "priority" = some v → v = .null ∨ ∃ n, readInteger v = .ok n) := by
  have event : (∃ e, required (entriesOf table) "event"
      (fun v => Event.read (v.unrolledWithin [.mapping (entriesOf table)] 2)) = .ok e) ↔
      ∃ e v, table.get? "event" = some v ∧ Event.read v = .ok e := by
    simp only [required_eq_ok, Value.get?_ofTable]
    refine exists_congr fun e => exists_congr fun v => and_congr_right fun entry => ?_
    rw [(isJson_entry json (Value.get?_ofTable _ _ ▸ entry)).unrolledWithin]
  rw [Value.ofTable, Value.ofPairs, Rule.read_ok_iff_fields, rootForm_iff json, event,
    optional_nullable_ok_iff]
  simp only [required_eq_ok, Value.get?_ofTable]

theorem isJson_erase {key : String} (json : (Value.ofTable table).IsJson) :
    (Value.ofTable (table.erase key)).IsJson := by
  obtain ⟨distinct, entries⟩ := json.table
  have kept : (table.erase key).Sublist table := List.filter_sublist
  exact .mapping (distinct.sublist (kept.map _)) fun p hp => entries p (kept.subset hp)

/-- **The values of JSON that are conditions.**  A value is read as a condition exactly if the
grammar derives it with at most 254 levels of nodes; the tree that is read has the kinds of the
value at every level; and an object is a rule exactly if it is one without its conditions, and these
are absent, null, or a condition that is a group or a negation. -/
theorem reads_derived {v : Value} (json : v.IsJson) :
    ((∃ c, read v = .ok c) ↔ Derives (maxDepth + 1) v) ∧
      (∀ c, read v = .ok c → KindsMatch c v) ∧
      ∀ table, v = .ofTable table → ((∃ rule, Rule.read v = .ok rule) ↔
        (∃ rule, Rule.read (.ofTable (table.erase "conditions")) = .ok rule) ∧
          RootForm (table.get? "conditions")) := by
  refine ⟨(readWithin_ok_iff json).1 [], (kindsMatch_of_readWithin json).1 [], ?_⟩
  rintro table rfl
  rw [read_rule_ok_iff json, read_rule_ok_iff (isJson_erase json), Table.get?_erase_self,
    Table.get?_erase_of_ne (by decide), Table.get?_erase_of_ne (by decide),
    Table.get?_erase_of_ne (by decide)]
  simp only [RootForm, true_and]
  tauto

theorem isJson_empty : (Value.ofTable []).IsJson :=
  .mapping List.nodup_nil (by simp)

/-- A group of a leaf and the negation of a node without keys. -/
def writtenGroup : Value :=
  .ofTable [("all", .list [.ofTable [("fact", .text "fileData"), ("operator", .text "equal"),
    ("value", .int 1), ("priority", .text "2")], .ofTable [("not", .ofTable [])]])]

theorem isJson_writtenGroup : writtenGroup.IsJson := by
  have leaf : (Value.ofTable [("fact", .text "fileData"), ("operator", .text "equal"),
      ("value", .int 1), ("priority", .text "2")]).IsJson :=
    .mapping (by decide) (by simpa using ⟨.atom rfl, .atom rfl, .atom rfl, .atom rfl⟩)
  have negation : (Value.ofTable [("not", .ofTable [])]).IsJson :=
    .mapping (by decide) (by simpa using isJson_empty)
  refine .mapping (by decide) ?_
  simpa using .list (by simpa using ⟨leaf, negation⟩)

/-- The group is read, so it is derived, and what is read has its kinds. -/
theorem reads_writtenGroup : writtenGroup.IsJson ∧ Derives (maxDepth + 1) writtenGroup ∧
    ∃ c, read writtenGroup = .ok c ∧ KindsMatch c writtenGroup := by
  obtain ⟨grammar, kinds, -⟩ := reads_derived isJson_writtenGroup
  obtain ⟨c, read⟩ : ∃ c, read writtenGroup = .ok c := ⟨_, rfl⟩
  exact ⟨isJson_writtenGroup, grammar.mp ⟨c, read⟩, c, read, kinds c read⟩

/-! ### Levels -/

/-- So many negations, one in the other, of a node without keys. -/
def nestedNots : Nat → Value
  | 0 => .ofTable []
  | n + 1 => .ofTable [("not", nestedNots n)]

theorem isJson_nestedNots : ∀ n, (nestedNots n).IsJson
  | 0 => isJson_empty
  | n + 1 => .mapping (by simp [Table.keys]) (by simpa using isJson_nestedNots n)

theorem derives_nestedNots_iff : ∀ {n levels : Nat}, Derives levels (nestedNots n) ↔ n < levels
  | n, 0 => by
      refine ⟨fun h => ?_, nofun⟩
      obtain ⟨_, _, noLevel, -⟩ := h.forms
      cases noLevel
  | 0, levels + 1 => ⟨fun _ => levels.succ_pos, fun _ => .invalid (fun _ _ => List.not_mem_nil)⟩
  | n + 1, levels + 1 => by
      rw [Nat.succ_lt_succ_iff, ← derives_nestedNots_iff]
      refine ⟨fun h => ?_, .not⟩
      obtain ⟨_, table, ⟨⟩, same, form⟩ := h.forms
      obtain rfl := Value.ofTable_injective same
      rcases form with form | ⟨_, other, -⟩ | ⟨_, other, -⟩ | ⟨_, ⟨⟩, child⟩ | unmarked
      · exact absurd (form.only "not" List.mem_cons_self) (by decide)
      · simp at other
      · simp at other
      · exact child
      · exact absurd List.mem_cons_self (unmarked .not (by decide))

/-- With 254 negations the grammar derives a tree that is not read: they hold a node too many. -/
theorem not_reads_nested : (nestedNots 254).IsJson ∧ (∃ levels, Derives levels (nestedNots 254)) ∧
    ¬ ∃ c, read (nestedNots 254) = .ok c := by
  refine ⟨isJson_nestedNots 254, ⟨255, derives_nestedNots_iff.mpr (by decide)⟩, fun read => ?_⟩
  have derived := ((readWithin_ok_iff (isJson_nestedNots 254)).1 []).mp read
  exact absurd (derives_nestedNots_iff.mp derived) (by decide)

end Condition

end Verdict
