import Verdict.Proofs.Table
import Verdict.Value

/-!
# Values: parts

Values by what they hold.

* `induction_parts`: what holds of a value as soon as it holds of its parts holds of every value.
* `IsJson`: the values that JSON can write.  They hold no references to their holders, so unrolling
  leaves them as they are (`IsJson.unrolledWithin`), and mappings among them are tables with text
  keys, found by these keys (`get?_ofTable`).
* `IsData`: these values, and tuples of them.  `Definite`: those of them in which there is no NaN.
-/

namespace Verdict

/-- A text is the only key equal to it. -/
@[simp] theorem Atom.beq_text (a : Atom) (s : String) :
    (a == Atom.text s) = decide (a = .text s) := by
  cases a <;> rfl

namespace Value

/-- The entry of a text in pairs of which the keys may be any atoms. -/
theorem mem_of_get?_text {s : String} {v : Value} :
    ∀ {pairs : List (Atom × Value)}, Table.get? pairs (.text s) = some v → (.text s, v) ∈ pairs
  | (k, w) :: rest, h => by
      rw [Table.get?, Atom.beq_text] at h
      by_cases hk : k = .text s
      · subst hk
        obtain rfl : w = v := by simpa using h
        exact List.mem_cons_self
      · exact List.mem_cons_of_mem _ (mem_of_get?_text (by simpa [hk] using h))

/-- A table written as a mapping is found by its keys. -/
@[simp] theorem get?_ofTable (key : String) : ∀ t : Table String Value,
    Table.get? (t.map fun (k, v) => (Atom.text k, v)) (.text key) = t.get? key
  | [] => rfl
  | (k, v) :: rest => by
      simp only [List.map_cons, Table.get?, Atom.beq_text, Atom.text.injEq, get?_ofTable key rest]
      by_cases h : k = key <;> simp [h]

theorem insert_ofTable (key : String) (w : Value) : ∀ t : Table String Value,
    Table.insert (t.map fun (k, v) => (Atom.text k, v)) (.text key) w =
      (t.insert key w).map fun (k, v) => (Atom.text k, v)
  | [] => rfl
  | (k, v) :: rest => by
      simp only [List.map_cons, Table.insert, Atom.beq_text, Atom.text.injEq,
        insert_ofTable key w rest]
      by_cases h : k = key <;> simp [h]

theorem insertAll_ofTable : ∀ pairs t : Table String Value,
    Table.insertAll (t.map fun (k, v) => (Atom.text k, v))
        (pairs.map fun (k, v) => (Atom.text k, v)) =
      (t.insertAll pairs).map fun (k, v) => (Atom.text k, v)
  | [], _ => rfl
  | (key, w) :: rest, t => by
      show Table.insertAll (Table.insert (t.map _) (Atom.text key) w) (rest.map _) = _
      rw [insert_ofTable, insertAll_ofTable rest (t.insert key w)]
      rfl

/-- A table written as a mapping is the table of its pairs. -/
theorem ofPairs_ofTable {t : Table String Value} (distinct : t.keys.Nodup) :
    Table.ofPairs (t.map fun (k, v) => (Atom.text k, v)) = t.map fun (k, v) => (Atom.text k, v) :=
  (insertAll_ofTable t []).trans (congrArg (List.map _) (Table.ofPairs_of_nodup distinct))

/-! ### Parts -/

/-- The values that a value holds itself. -/
def parts : Value → List Value
  | .list items | .tuple items => items
  | .mapping pairs => pairs.map (·.2)
  | .record _ fields => fields.map (·.2)
  | .atom _ | .set _ | .cycle .. => []

theorem sizeOf_lt_of_mem_entries {v : Value} {pairs : List (Atom × Value)}
    (h : v ∈ pairs.map (·.2)) : sizeOf v < sizeOf pairs := by
  obtain ⟨⟨k, w⟩, hp, rfl⟩ := List.mem_map.mp h
  have hlt := List.sizeOf_lt_of_mem hp
  have hpair : sizeOf (k, w) = 1 + sizeOf k + sizeOf w := rfl
  show sizeOf w < sizeOf pairs
  omega

theorem sizeOf_lt_of_mem_parts {v w : Value} (h : w ∈ v.parts) : sizeOf w < sizeOf v := by
  cases v with
  | list items | tuple items =>
      have hlt : sizeOf w < sizeOf items := List.sizeOf_lt_of_mem h
      simp only [list.sizeOf_spec, tuple.sizeOf_spec]
      omega
  | mapping pairs | record kind pairs =>
      have hlt := sizeOf_lt_of_mem_entries h
      simp only [mapping.sizeOf_spec, record.sizeOf_spec]
      omega
  | atom | set | cycle => cases h

/-- What holds of a value as soon as it holds of its parts holds of every value. -/
theorem induction_parts {P : Value → Prop} (step : ∀ v : Value, (∀ w ∈ v.parts, P w) → P v)
    (v : Value) : P v :=
  step v fun w _ => induction_parts step w
termination_by sizeOf v
decreasing_by exact sizeOf_lt_of_mem_parts ‹_›

/-- The value of an entry is a part of the mapping. -/
theorem mem_parts_of_get?_text {pairs : List (Atom × Value)} {key : String} {w : Value}
    (entry : Table.get? pairs (.text key) = some w) : w ∈ (mapping pairs).parts :=
  List.mem_map_of_mem (mem_of_get?_text entry)

/-! ### Values of JSON -/

end Value

/-- An atom that JSON can write. -/
def Atom.isJson : Atom → Bool
  | .null | .bool _ | .int _ | .float _ | .text _ => true
  | .date _ | .moment _ | .bytes _ => false

namespace Value

/-- A value that JSON can write. -/
inductive IsJson : Value → Prop where
  | atom {a : Atom} (h : a.isJson = true) : IsJson (.atom a)
  | list {items : List Value} (h : ∀ v ∈ items, IsJson v) : IsJson (.list items)
  | mapping {table : Table String Value} (distinct : table.keys.Nodup)
      (h : ∀ p ∈ table, IsJson p.2) : IsJson (.ofTable table)

theorem IsJson.part {v w : Value} (h : v.IsJson) (hw : w ∈ v.parts) : w.IsJson := by
  cases h with
  | atom => cases hw
  | list hitems => exact hitems w hw
  | @mapping table _ hentries =>
      obtain ⟨p, hp, rfl⟩ := List.mem_map.mp hw
      obtain ⟨q, hq, rfl⟩ := List.mem_map.mp hp
      exact hentries q hq

/-- What holds of a value of JSON as soon as it holds of its parts holds of every value of JSON. -/
theorem IsJson.induction_parts {P : (v : Value) → v.IsJson → Prop}
    (step : ∀ (v : Value) (json : v.IsJson),
      (∀ w (hw : w ∈ v.parts), P w (json.part hw)) → P v json)
    {v : Value} (json : v.IsJson) : P v json := by
  induction v using Value.induction_parts with
  | step v ih => exact step v json fun w hw => ih w hw (json.part hw)

theorem ofTable_injective {t u : Table String Value} (h : Value.ofTable t = .ofTable u) : t = u := by
  refine (List.map_inj_right ?_).mp (Value.mapping.inj h)
  rintro ⟨k, v⟩ ⟨l, w⟩ same
  obtain ⟨sameKey, rfl⟩ := Prod.mk.inj same
  rw [Atom.text.inj sameKey]

/-- The table of a mapping of JSON. -/
theorem IsJson.table {t : Table String Value} (h : (Value.ofTable t).IsJson) :
    t.keys.Nodup ∧ ∀ p ∈ t, p.2.IsJson := by
  generalize same : Value.ofTable t = v at h
  cases h with
  | mapping distinct entries =>
      obtain rfl := ofTable_injective same
      exact ⟨distinct, entries⟩
  | atom | list => cases same

/-- What JSON writes is unrolled to itself. -/
theorem IsJson.unrolledWithin {v : Value} (h : v.IsJson) : ∀ (holders : List Value) (depth : Nat),
    v.unrolledWithin holders depth = v := by
  induction h with
  | atom =>
      intro holders depth
      cases depth <;> rfl
  | @list items _ ih =>
      intro holders depth
      cases depth with
      | zero => rfl
      | succ depth =>
          rw [Value.unrolledWithin]
          refine congrArg Value.list ?_
          exact (List.map_congr_left fun v hv => ih v hv _ _).trans (List.map_id items)
  | @mapping table _ _ ih =>
      intro holders depth
      cases depth with
      | zero => rfl
      | succ depth =>
          rw [Value.ofTable, Value.ofPairs, Value.unrolledWithin]
          refine congrArg Value.mapping ?_
          rw [List.map_map]
          refine List.map_congr_left fun p hp => ?_
          exact congrArg (Prod.mk _) (ih p hp _ _)

/-! ### Data -/

/-- A value of lists, tuples and mappings with text keys, over leaves that JSON can write. -/
inductive IsData : Value → Prop where
  | atom {a : Atom} (h : a.isJson = true) : IsData (.atom a)
  | list {items : List Value} (h : ∀ v ∈ items, IsData v) : IsData (.list items)
  | tuple {items : List Value} (h : ∀ v ∈ items, IsData v) : IsData (.tuple items)
  | mapping {table : Table String Value} (distinct : table.keys.Nodup)
      (h : ∀ p ∈ table, IsData p.2) : IsData (.ofTable table)

@[simp] theorem isData_atom {a : Atom} : IsData (.atom a) ↔ a.isJson = true :=
  ⟨fun h => by cases h; assumption, .atom⟩

@[simp] theorem isData_list {items : List Value} : IsData (.list items) ↔ ∀ v ∈ items, v.IsData :=
  ⟨fun h => by cases h; assumption, .list⟩

theorem IsData.item {v w : Value} {items : List Value} (h : v.IsData) (held : v.items? = some items)
    (hw : w ∈ items) : w.IsData := by
  cases h with
  | list hitems | tuple hitems =>
      obtain rfl := Option.some.inj held
      exact hitems w hw
  | atom | mapping => cases held

/-- NaN stands somewhere in the value. -/
inductive HoldsNaN : Value → Prop
  | here : HoldsNaN (.float .nan)
  | part {v w : Value} (h : w ∈ v.parts) (inner : HoldsNaN w) : HoldsNaN v

theorem holdsNaN_atom {a : Atom} : HoldsNaN (.atom a) ↔ a = .float .nan := by
  constructor
  · rintro (_ | ⟨h, -⟩)
    · rfl
    · cases h
  · rintro rfl
    exact .here

theorem holdsNaN_list {items : List Value} :
    HoldsNaN (.list items) ↔ ∃ w ∈ items, w.HoldsNaN := by
  constructor
  · rintro (_ | ⟨h, inner⟩)
    exact ⟨_, h, inner⟩
  · rintro ⟨w, h, inner⟩
    exact .part h inner

theorem holdsNaN_ofTable {t : Table String Value} :
    HoldsNaN (.ofTable t) ↔ ∃ p ∈ t, p.2.HoldsNaN := by
  have among {w : Value} : w ∈ (Value.ofTable t).parts ↔ ∃ p ∈ t, p.2 = w := by
    simp [ofTable, ofPairs, parts]
  constructor
  · intro h
    cases h with
    | part h inner =>
        obtain ⟨p, hp, rfl⟩ := among.mp h
        exact ⟨p, hp, inner⟩
  · rintro ⟨p, hp, inner⟩
    exact .part (among.mpr ⟨p, hp, rfl⟩) inner

/-- Data in which NaN stands nowhere. -/
abbrev Definite := {v : Value // v.IsData ∧ ¬v.HoldsNaN}

end Value

end Verdict
