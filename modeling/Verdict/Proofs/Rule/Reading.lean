import Verdict.Proofs.Schema.Checked
import Verdict.Rule.Reading

/-!
# Rules: what is read

The readings of leaves, conditions and rules that succeed, each taken apart once.

* `readWithin_mapping_iff`: a mapping is read as a condition exactly if it is not held by too many
  others and is read by the rules of its kind (`ReadsAs`).
* `exists_pairs_of_readWithin`, `exists_items_of_readChildren`: the values that conditions are read
  from.
* `Rule.read_eq_ok`: a rule is read exactly if it is a mapping of which the four fields are read.
-/

namespace Verdict

open Schema

/-! ### Values of JSON -/

theorem readText_eq_ok {v : Value} {s : String} (json : v.IsJson) :
    readText v = .ok s ↔ v = .text s := by
  cases json with
  | @atom a written =>
      cases a with
      | text t => simp [readText]
      | date | moment | bytes => simp [Atom.isJson] at written
      | _ => simp [readText]
  | list | mapping => simp [Value.ofTable, Value.ofPairs, readText]

/-- An entry of a mapping of JSON. -/
theorem isJson_entry {pairs : Pairs} {name : String} {v : Value}
    (json : (Value.mapping pairs).IsJson) (entry : Table.get? pairs (.text name) = some v) :
    v.IsJson :=
  json.part (Value.mem_parts_of_get?_text entry)

/-- A text field of JSON is read as it stands, if it is long enough. -/
theorem required_text_eq_ok {pairs : Pairs} {name s : String} {least : Nat}
    (json : (Value.mapping pairs).IsJson) : required pairs name (readTextOf least) = .ok s ↔
      Table.get? pairs (.text name) = some (.text s) ∧ least ≤ s.length := by
  simp only [required_eq_ok, readTextOf, Checked.check_eq_ok]
  constructor
  · rintro ⟨v, entry, text, long⟩
    obtain rfl := (readText_eq_ok (isJson_entry json entry)).mp text
    exact ⟨entry, by simpa using long⟩
  · rintro ⟨entry, long⟩
    exact ⟨_, entry, rfl, by simpa using long⟩

namespace Condition

/-! ### Leaves -/

/-- Pairs of JSON are unrolled to themselves. -/
theorem unrolledPairs_of_isJson {pairs : Pairs} (json : (Value.mapping pairs).IsJson) :
    unrolledPairs pairs = pairs := by
  rw [unrolledPairs, Value.unrolled, json.unrolledWithin]

/-- A leaf is read field by field from its pairs. -/
theorem readLeaf_eq_ok {pairs : Pairs} {l : Leaf} :
    readLeaf pairs = .ok l ↔
      required (unrolledPairs pairs) "fact" (readTextOf 1) = .ok l.fact ∧
      required (unrolledPairs pairs) "operator" (readTextOf 1) = .ok l.operator ∧
      required (unrolledPairs pairs) "value" readAny = .ok l.value ∧
      optional (unrolledPairs pairs) "path" none (nullable readText) = .ok l.selector ∧
      optional (unrolledPairs pairs) "params" none (nullable readObject) = .ok l.params ∧
      optional (unrolledPairs pairs) "priority" none (nullable readInteger) = .ok l.priority ∧
      noOthers leafFields (unrolledPairs pairs) = .ok () := by
  rw [readLeaf]
  simp only [Checked.andAlso_eq_ok, Checked.seq_eq_ok, Checked.functorMap_eq_ok]
  constructor
  · rintro ⟨⟨_, priority, ⟨_, params, ⟨_, selector, ⟨_, value, ⟨_, operator, ⟨fact, hfact, rfl⟩,
      hoperator, rfl⟩, hvalue, rfl⟩, hselector, rfl⟩, hparams, rfl⟩, hpriority, rfl⟩, hothers⟩
    exact ⟨hfact, hoperator, hvalue, hselector, hparams, hpriority, hothers⟩
  · rintro ⟨hfact, hoperator, hvalue, hselector, hparams, hpriority, hothers⟩
    exact ⟨⟨_, _, ⟨_, _, ⟨_, _, ⟨_, _, ⟨_, _, ⟨_, hfact, rfl⟩, hoperator, rfl⟩, hvalue, rfl⟩,
      hselector, rfl⟩, hparams, rfl⟩, hpriority, rfl⟩, hothers⟩

/-- A leaf is read if each of its fields is. -/
theorem readLeaf_ok_iff_fields {pairs : Pairs} :
    (∃ l, readLeaf pairs = .ok l) ↔
      (∃ s, required (unrolledPairs pairs) "fact" (readTextOf 1) = .ok s) ∧
      (∃ s, required (unrolledPairs pairs) "operator" (readTextOf 1) = .ok s) ∧
      (∃ v, required (unrolledPairs pairs) "value" readAny = .ok v) ∧
      (∃ s, optional (unrolledPairs pairs) "path" none (nullable readText) = .ok s) ∧
      (∃ o, optional (unrolledPairs pairs) "params" none (nullable readObject) = .ok o) ∧
      (∃ n, optional (unrolledPairs pairs) "priority" none (nullable readInteger) = .ok n) ∧
      noOthers leafFields (unrolledPairs pairs) = .ok () := by
  simp only [readLeaf_eq_ok]
  constructor
  · rintro ⟨l, fact, operator, value, path, params, priority, only⟩
    exact ⟨⟨_, fact⟩, ⟨_, operator⟩, ⟨_, value⟩, ⟨_, path⟩, ⟨_, params⟩, ⟨_, priority⟩, only⟩
  · rintro ⟨⟨f, fact⟩, ⟨o, operator⟩, ⟨v, value⟩, ⟨s, path⟩, ⟨p, params⟩, ⟨n, priority⟩, only⟩
    exact ⟨⟨f, o, v, s, p, n⟩, fact, operator, value, path, params, priority, only⟩

/-! ### Conditions -/

theorem readChildrenOf_eq_ok {hs : Holders} {key : String} {cs : List Condition} :
    ∀ {pairs : Pairs}, readChildrenOf hs key pairs = .ok cs ↔
      ∃ v, Table.get? pairs (.text key) = some v ∧ readChildren hs v = .ok cs
  | [] => by simp [readChildrenOf]
  | (k, v) :: rest => by
      have tail := @readChildrenOf_eq_ok hs key cs rest
      simp only [readChildrenOf, Table.get?, Atom.beq_text]
      by_cases h : k = .text key <;> simp [h, tail]

theorem readChildOf_eq_ok {hs : Holders} {c : Condition} :
    ∀ {pairs : Pairs}, readChildOf hs pairs = .ok c ↔
      ∃ v, Table.get? pairs (.text "not") = some v ∧ readWithin hs v = .ok c
  | [] => by simp [readChildOf]
  | (k, v) :: rest => by
      have tail := @readChildOf_eq_ok hs c rest
      simp only [readChildOf, Table.get?, Atom.beq_text]
      by_cases h : k = .text "not" <;> simp [h, tail]

/-- The pairs are read as a condition by the rules of their kind. -/
inductive ReadsAs (hs : Holders) (pairs : Pairs) : Condition → Prop where
  | leaf {l : Leaf} (kind : kindOfPairs pairs = some .leaf) (read : readLeaf pairs = .ok l) :
      ReadsAs hs pairs (.leaf l)
  | all {v : Value} {cs : List Condition} (kind : kindOfPairs pairs = some .all)
      (entry : Table.get? pairs (.text "all") = some v)
      (read : readChildren (.node .all :: hs) v = .ok cs) (only : noOthers ["all"] pairs = .ok ()) :
      ReadsAs hs pairs (.all cs)
  | any {v : Value} {cs : List Condition} (kind : kindOfPairs pairs = some .any)
      (entry : Table.get? pairs (.text "any") = some v)
      (read : readChildren (.node .any :: hs) v = .ok cs) (only : noOthers ["any"] pairs = .ok ()) :
      ReadsAs hs pairs (.any cs)
  | not {v : Value} {c : Condition} (kind : kindOfPairs pairs = some .not)
      (entry : Table.get? pairs (.text "not") = some v)
      (read : readWithin (.node .not :: hs) v = .ok c) (only : noOthers ["not"] pairs = .ok ()) :
      ReadsAs hs pairs (.not c)
  | invalid {keys : Table String Value} (kind : kindOfPairs pairs = some .invalid)
      (read : readKept pairs = .ok keys) : ReadsAs hs pairs (.invalid keys)

/-- **What a mapping is read as**: a condition of its kind, if not too many conditions hold it. -/
theorem readWithin_mapping_iff {hs : Holders} {pairs : Pairs} {c : Condition} :
    readWithin hs (.mapping pairs) = .ok c ↔ hs.depth ≤ maxDepth ∧ ReadsAs hs pairs c := by
  rw [readWithin]
  split
  · next mixed =>
      refine ⟨fun h => (Checked.fail_eq_ok.mp h).elim, ?_⟩
      rintro ⟨-, read⟩
      cases read <;> simp_all
  · next kind hkind =>
      rw [Checked.under_eq_ok]
      by_cases deep : maxDepth < hs.depth
      · rw [if_pos deep]
        exact ⟨fun h => (Checked.fail_eq_ok.mp h).elim, fun h => absurd h.1 (by omega)⟩
      · rw [if_neg deep, and_iff_right (by omega)]
        constructor
        · intro h
          cases kind with
          | leaf =>
              obtain ⟨l, read, rfl⟩ := Checked.map_eq_ok.mp h
              exact .leaf hkind read
          | all =>
              simp only [Checked.andAlso_eq_ok, Checked.map_eq_ok, readChildrenOf_eq_ok] at h
              obtain ⟨⟨cs, ⟨v, entry, read⟩, rfl⟩, only⟩ := h
              exact .all hkind entry read only
          | any =>
              simp only [Checked.andAlso_eq_ok, Checked.map_eq_ok, readChildrenOf_eq_ok] at h
              obtain ⟨⟨cs, ⟨v, entry, read⟩, rfl⟩, only⟩ := h
              exact .any hkind entry read only
          | not =>
              simp only [Checked.andAlso_eq_ok, Checked.map_eq_ok, readChildOf_eq_ok] at h
              obtain ⟨⟨c, ⟨v, entry, read⟩, rfl⟩, only⟩ := h
              exact .not hkind entry read only
          | invalid =>
              obtain ⟨keys, read, rfl⟩ := Checked.map_eq_ok.mp h
              exact .invalid hkind read
        · intro h
          cases h with
          | leaf same read | invalid same read =>
              obtain rfl := Option.some.inj (hkind.symm.trans same)
              exact Checked.map_eq_ok.mpr ⟨_, read, rfl⟩
          | all same entry read only | any same entry read only | not same entry read only =>
              obtain rfl := Option.some.inj (hkind.symm.trans same)
              simp only [Checked.andAlso_eq_ok, Checked.map_eq_ok, readChildrenOf_eq_ok,
                readChildOf_eq_ok]
              exact ⟨⟨_, ⟨_, entry, read⟩, rfl⟩, only⟩

/-- A condition is read from a mapping, if it is not an invalid node without keys, for which a
reference to a holder may stand. -/
theorem exists_pairs_of_readWithin {hs : Holders} {v : Value} {c : Condition}
    (read : readWithin hs v = .ok c) :
    (∃ pairs, v = .mapping pairs ∧ ReadsAs hs pairs c) ∨ c = .invalid [] := by
  cases v with
  | mapping pairs => exact .inl ⟨pairs, rfl, (readWithin_mapping_iff.mp read).2⟩
  | cycle up isMapping =>
      simp only [readWithin, readAgain] at read
      split at read
      · simp at read
      · simp at read
      · split at read
        · exact .inr (Checked.ok.inj read).symm
        · simp at read
  | _ => simp [readWithin] at read

/-- Conditions are read from the items of a list or a tuple, if there are any. -/
theorem exists_items_of_readChildren {hs : Holders} {v : Value} {cs : List Condition}
    (read : readChildren hs v = .ok cs) :
    (∃ items, (v = .list items ∨ v = .tuple items) ∧ readFrom hs 0 items = .ok cs) ∨ cs = [] := by
  cases v with
  | list items => exact .inl ⟨items, .inl rfl, read⟩
  | tuple items => exact .inl ⟨items, .inr rfl, read⟩
  | set members =>
      cases members with
      | nil => exact .inr (Checked.ok.inj read).symm
      | cons => simp [readChildren, readItems] at read
  | cycle up isMapping =>
      cases isMapping with
      | true => simp [readChildren] at read
      | false =>
          simp only [readChildren, readListAgain] at read
          split at read <;> simp at read
  | _ => simp [readChildren] at read

/-- Conditions of a list are read one after another. -/
theorem readFrom_cons_eq_ok {hs : Holders} {index : Nat} {v : Value} {rest : List Value}
    {cs : List Condition} :
    readFrom hs index (v :: rest) = .ok cs ↔ ∃ c others,
      readWithin (.list index :: hs) v = .ok c ∧ readFrom hs (index + 1) rest = .ok others ∧
        cs = c :: others := by
  rw [readFrom]
  simp only [Checked.seq_eq_ok, Checked.functorMap_eq_ok, Checked.under_eq_ok]
  constructor
  · rintro ⟨_, others, ⟨c, hc, rfl⟩, hothers, rfl⟩
    exact ⟨c, others, hc, hothers, rfl⟩
  · rintro ⟨c, others, hc, hothers, rfl⟩
    exact ⟨_, others, ⟨c, hc, rfl⟩, hothers, rfl⟩

end Condition

/-! ### Rules -/

/-- A rule is read field by field from its pairs. -/
theorem Rule.read_eq_ok {v : Value} {rule : Rule} :
    Rule.read v = .ok rule ↔ ∃ pairs, v = .mapping pairs ∧
      required pairs "name" Rule.readName = .ok rule.name ∧
      optional pairs "conditions" none (nullable Condition.readGroup) = .ok rule.conditions ∧
      required pairs "event" (fun v => Event.read (v.unrolledWithin [.mapping pairs] 2)) =
        .ok rule.event ∧
      optional pairs "priority" none (nullable readInteger) = .ok rule.priority := by
  cases v with
  | mapping pairs =>
      simp only [Rule.read, readRecord, Checked.seq_eq_ok, Checked.functorMap_eq_ok]
      constructor
      · rintro ⟨_, priority, ⟨_, event, ⟨_, conditions, ⟨name, hname, rfl⟩, hconditions, rfl⟩,
          hevent, rfl⟩, hpriority, rfl⟩
        exact ⟨pairs, rfl, hname, hconditions, hevent, hpriority⟩
      · rintro ⟨_, same, hname, hconditions, hevent, hpriority⟩
        cases same
        exact ⟨_, _, ⟨_, _, ⟨_, _, ⟨_, hname, rfl⟩, hconditions, rfl⟩, hevent, rfl⟩, hpriority, rfl⟩
  | _ => simp [Rule.read, readRecord]

end Verdict
