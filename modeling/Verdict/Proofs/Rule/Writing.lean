import Verdict.Proofs.Rule.Grammar
import Verdict.Rule.Basic
import Verdict.Simulation.Run

/-!
# Rules: written and read again

A rule that was read from JSON is written with every field present.  What is written is JSON again,
and reading it gives the same rule.

* `Leaf.Readable`: the leaves that come out of reading.  They are read from what they are written as
  (`Readable.readLeaf_entries`).
* `readWithin_toValue`: so are whole trees, at the same place among their holders.
* `Event.toValue_reads`: an event is written with its message, so no message is taken from its
  params the second time.
* `Rule.read_toValue`: a rule is read from what it is written as, and simulated alike.
-/

namespace Verdict

open Schema

namespace Value

/-- An optional value is JSON if the value is. -/
theorem isJson_ofOption {α : Type} {f : α → Value} {o : Option α}
    (each : ∀ a, o = some a → (f a).IsJson) : (ofOption f o).IsJson := by
  cases o with
  | none => exact .atom rfl
  | some a => exact each a rfl

theorem isJson_single {key : String} {v : Value} (json : v.IsJson) :
    (ofPairs [(key, v)]).IsJson :=
  .mapping (by simp [Table.keys]) (by simpa using json)

theorem isJson_optionalText (o : Option String) : (optionalText o).IsJson := by
  cases o <;> exact .atom rfl

end Value

/-! ### Fields that are written -/

namespace Schema

variable {α : Type} {pairs : Pairs} {name : String}

/-- A value of JSON is read as an object exactly if it is the object. -/
theorem readObject_eq_ok {v : Value} {o : Table String Value} (json : v.IsJson) :
    readObject v = .ok o ↔ v = .ofTable o := by
  have same {t : Table String Value} (distinct : t.keys.Nodup) :
      readObject (.ofTable t) = .ok t := by
    refine Checked.map_eq_ok.mpr ⟨t, Condition.readPairs_entriesOf t, ?_⟩
    exact Table.ofPairs_of_nodup distinct
  constructor
  · intro read
    obtain ⟨t, rfl⟩ := (Condition.readObject_ok_iff json).mp ⟨o, read⟩
    rw [same json.table.1] at read
    rw [Checked.ok.inj read]
  · rintro rfl
    exact same json.table.1

/-- What is written for an optional value is read as it. -/
theorem nullable_ofOption {read : Value → Checked α} {write : α → Value} {o : Option α}
    (each : ∀ a, o = some a → write a ≠ .null ∧ read (write a) = .ok a) :
    nullable read (Value.ofOption write o) = .ok o := by
  cases o with
  | none => rfl
  | some a =>
      obtain ⟨present, same⟩ := each a rfl
      exact nullable_eq_ok.mpr (.inr ⟨present, a, same, rfl⟩)

/-- An optional field that is written is read from what is written. -/
theorem optional_of_entry {read : Value → Checked α} {absent a : α} {v : Value}
    (entry : Table.get? pairs (.text name) = some v) (same : read v = .ok a) :
    optional pairs name absent read = .ok a :=
  optional_eq_ok.mpr (.inr ⟨v, entry, same⟩)

end Schema

/-! ### Leaves -/

/-- A leaf as it comes out of reading JSON. -/
structure Leaf.Readable (l : Leaf) : Prop where
  fact : l.fact ≠ ""
  operator : l.operator ≠ ""
  value : l.value.IsJson
  params : ∀ t, l.params = some t → (Value.ofTable t).IsJson

namespace Condition

/-- A leaf that is read from JSON is readable. -/
theorem readable_of_readLeaf {pairs : Pairs} {l : Leaf} (json : (Value.mapping pairs).IsJson)
    (read : readLeaf pairs = .ok l) : l.Readable := by
  rw [readLeaf_eq_ok, unrolledPairs_of_isJson json, required_text_eq_ok json,
    required_text_eq_ok json] at read
  obtain ⟨⟨-, fact⟩, ⟨-, operator⟩, value, -, params, -, -⟩ := read
  have nonempty {s : String} (long : 1 ≤ s.length) : s ≠ "" := by
    rintro rfl
    exact absurd long (by decide)
  refine ⟨nonempty fact, nonempty operator, ?_, fun t given => ?_⟩
  · obtain ⟨v, entry, same⟩ := required_eq_ok.mp value
    exact Checked.ok.inj same ▸ isJson_entry json entry
  · rw [given, optional_eq_ok] at params
    rcases params with ⟨-, absent⟩ | ⟨v, entry, same⟩
    · cases absent
    · have part := isJson_entry json entry
      rcases nullable_eq_ok.mp same with ⟨-, absent⟩ | ⟨-, o, read, found⟩
      · cases absent
      · obtain rfl := Option.some.inj found
        exact (readObject_eq_ok part).mp read ▸ part

end Condition

namespace Leaf

variable {l : Leaf}

theorem Readable.isJson (h : l.Readable) : l.toValue.IsJson := by
  refine .mapping (show Condition.leafFields.Nodup by decide) ?_
  simp only [List.forall_mem_cons]
  exact ⟨.atom rfl, .atom rfl, h.value, Value.isJson_optionalText _, Value.isJson_ofOption h.params,
    Value.isJson_ofOption fun _ _ => .atom rfl, nofun⟩

/-- The pairs of a leaf that is written. -/
def entries (l : Leaf) : Pairs :=
  Condition.entriesOf [("fact", .text l.fact), ("operator", .text l.operator), ("value", l.value),
    ("path", .optionalText l.selector), ("params", .ofOption .ofTable l.params),
    ("priority", .ofOption .int l.priority)]

/-- A leaf is read from what it is written as. -/
theorem Readable.readLeaf_entries (h : l.Readable) :
    Condition.readLeaf l.entries = .ok l := by
  have json : (Value.mapping l.entries).IsJson := h.isJson
  have long {s : String} (nonempty : s ≠ "") : 1 ≤ s.length :=
    Nat.one_le_iff_ne_zero.mpr (mt String.length_eq_zero_iff.mp nonempty)
  rw [Condition.readLeaf_eq_ok, Condition.unrolledPairs_of_isJson json, required_text_eq_ok json,
    required_text_eq_ok json]
  refine ⟨⟨rfl, long h.fact⟩, ⟨rfl, long h.operator⟩, required_eq_ok.mpr ⟨_, rfl, rfl⟩,
    optional_of_entry rfl ?_, optional_of_entry rfl ?_, optional_of_entry rfl ?_, rfl⟩
  · cases l.selector <;> rfl
  · refine nullable_ofOption fun t given => ⟨nofun, ?_⟩
    exact (readObject_eq_ok (h.params t given)).mpr rfl
  · exact nullable_ofOption fun _ _ => ⟨nofun, rfl⟩

end Leaf

/-! ### Trees -/

namespace Condition

/-- A node without the four keys is kept as it is. -/
theorem readKept_eq_ok {table keys : Table String Value} :
    readKept (entriesOf table) = .ok keys ↔ keys = table := by
  have same : readKept (entriesOf table) = .ok table := by
    refine Checked.functorMap_eq_ok.mpr ⟨(), noOthers_entriesOf.mpr fun key hkey => ?_, ?_⟩
    · obtain ⟨p, hp, rfl⟩ := List.mem_map.mp hkey
      exact List.mem_filterMap.mpr ⟨_, List.mem_map_of_mem hp, rfl⟩
    · rw [List.filterMap_map]
      exact List.filterMap_some
  rw [same]
  exact ⟨fun h => (Checked.ok.inj h).symm, fun h => h ▸ rfl⟩

variable {hs : Holders}

theorem readFrom_toValues : ∀ {items : List Value} {index : Nat} {cs : List Condition},
    (∀ v ∈ items, ∀ hs c, readWithin hs v = .ok c →
      c.toValue.IsJson ∧ readWithin hs c.toValue = .ok c) →
    readFrom hs index items = .ok cs →
      (∀ w ∈ toValues cs, w.IsJson) ∧ readFrom hs index (toValues cs) = .ok cs
  | [], _, _, _, read => by
      cases read
      exact ⟨nofun, rfl⟩
  | v :: rest, index, _, each, read => by
      obtain ⟨c, others, hc, hothers, rfl⟩ := readFrom_cons_eq_ok.mp read
      obtain ⟨json, same⟩ := each v List.mem_cons_self _ c hc
      obtain ⟨jsons, sames⟩ :=
        readFrom_toValues (fun w hw => each w (List.mem_cons_of_mem v hw)) hothers
      exact ⟨List.forall_mem_cons.mpr ⟨json, jsons⟩,
        readFrom_cons_eq_ok.mpr ⟨c, others, same, sames, rfl⟩⟩

/-- **A tree is read from what it is written as**, at the same place among its holders: a condition,
and a list of conditions. -/
theorem readWithin_toValue {v : Value} (json : v.IsJson) :
    (∀ hs c, readWithin hs v = .ok c → c.toValue.IsJson ∧ readWithin hs c.toValue = .ok c) ∧
      ∀ hs cs, readChildren hs v = .ok cs →
        (∀ w ∈ toValues cs, w.IsJson) ∧ readChildren hs (.list (toValues cs)) = .ok cs := by
  induction json using Value.IsJson.induction_parts with
  | step v json part =>
  refine ⟨fun hs c read => ?_, fun hs cs read => ?_⟩
  · cases json with
    | @mapping table distinct each =>
        have json : (Value.ofTable table).IsJson := .mapping distinct each
        obtain ⟨room, reads⟩ := readWithin_mapping_iff.mp read
        cases reads with
        | @leaf l _ readLeaf =>
            have readable := readable_of_readLeaf json readLeaf
            refine ⟨readable.isJson, readWithin_mapping_iff.mpr ⟨room, ?_⟩⟩
            exact .leaf rfl readable.readLeaf_entries
        | all _ entry readAll _ =>
            obtain ⟨jsons, same⟩ := (part _ (Value.mem_parts_of_get?_text entry)).2 _ _ readAll
            refine ⟨Value.isJson_single (.list jsons), ?_⟩
            exact readWithin_mapping_iff.mpr ⟨room, .all rfl rfl same rfl⟩
        | any _ entry readAny _ =>
            obtain ⟨jsons, same⟩ := (part _ (Value.mem_parts_of_get?_text entry)).2 _ _ readAny
            refine ⟨Value.isJson_single (.list jsons), ?_⟩
            exact readWithin_mapping_iff.mpr ⟨room, .any rfl rfl same rfl⟩
        | not _ entry readNot _ =>
            obtain ⟨json, same⟩ := (part _ (Value.mem_parts_of_get?_text entry)).1 _ _ readNot
            refine ⟨Value.isJson_single json, ?_⟩
            exact readWithin_mapping_iff.mpr ⟨room, .not rfl rfl same rfl⟩
        | invalid kind readKept =>
            obtain rfl := readKept_eq_ok.mp readKept
            exact ⟨json, read⟩
    | atom | list => simp [readWithin] at read
  · obtain ⟨items, rfl, readItems⟩ := eq_list_of_readChildren json read
    exact readFrom_toValues (fun w hw => (part w hw).1) readItems

/-! ### Roots -/

theorem KindsMatch.kindOf_eq {c : Condition} {v : Value} (h : KindsMatch c v) :
    kindOf v = some c.kind := by
  cases h <;> assumption

/-- The root of a rule is a condition that is a group or a negation. -/
theorem readGroup_eq_ok {v : Value} {c : Condition} (json : v.IsJson) :
    readGroup v = .ok c ↔ read v = .ok c ∧ c.isGroup = true := by
  have kind (h : read v = .ok c) : kindOf v = some c.kind :=
    ((kindsMatch_of_readWithin json).1 [] c h).kindOf_eq
  have group : readGroup v = .ok c ↔ read v = .ok c ∧
      (kindOf v = some .all ∨ kindOf v = some .any ∨ kindOf v = some .not) := by
    unfold readGroup
    split <;> simp_all
  rw [group]
  refine and_congr_right fun tree => ?_
  rw [kind tree, isGroup]
  cases c.kind <;> simp

/-- A root is read from what it is written as. -/
theorem readGroup_toValue {v : Value} {c : Condition} (json : v.IsJson)
    (read : readGroup v = .ok c) : c.toValue.IsJson ∧ readGroup c.toValue = .ok c := by
  obtain ⟨tree, group⟩ := (readGroup_eq_ok json).mp read
  obtain ⟨written, same⟩ := (readWithin_toValue json).1 [] c tree
  exact ⟨written, (readGroup_eq_ok written).mpr ⟨same, group⟩⟩

theorem toValue_ne_null (c : Condition) : c.toValue ≠ .null := by
  cases c <;> nofun

end Condition

/-! ### Events -/

namespace Event

/-- The message that is lifted is a text, and the other pairs stay. -/
theorem mem_liftMessage {pairs : Pairs} {p : Atom × Value} (h : p ∈ liftMessage pairs) :
    p ∈ pairs ∨ ∃ s, p.2 = .text s := by
  unfold liftMessage at h
  split at h
  · exact .inl h
  · split at h
    · split at h
      · next s _ =>
          rcases List.mem_append.mp h with old | lifted
          · exact .inl old
          · exact .inr ⟨s, by rw [List.mem_singleton.mp lifted]⟩
      · exact .inl h
    · exact .inl h

/-- The pairs of an event, with the message lifted, are read field by field. -/
theorem read_eq_ok {v : Value} {e : Event} :
    Event.read v = .ok e ↔ ∃ pairs, v = .mapping pairs ∧
      required (liftMessage pairs) "type" Severity.read = .ok e.severity ∧
      optional (liftMessage pairs) "message" "" readText = .ok e.message ∧
      optional (liftMessage pairs) "params" [] readObject = .ok e.params ∧
      noOthers ["type", "message", "params"] (liftMessage pairs) = .ok () := by
  cases v with
  | mapping pairs =>
      simp only [Event.read, readRecord, Checked.andAlso_eq_ok, Checked.seq_eq_ok,
        Checked.functorMap_eq_ok]
      constructor
      · rintro ⟨⟨_, params, ⟨_, message, ⟨severity, hseverity, rfl⟩, hmessage, rfl⟩, hparams, rfl⟩,
          only⟩
        exact ⟨pairs, rfl, hseverity, hmessage, hparams, only⟩
      · rintro ⟨_, same, hseverity, hmessage, hparams, only⟩
        cases same
        exact ⟨⟨_, _, ⟨_, _, ⟨_, hseverity, rfl⟩, hmessage, rfl⟩, hparams, rfl⟩, only⟩
  | _ => simp [Event.read, readRecord]

theorem isJson_params {v : Value} {e : Event} (json : v.IsJson) (read : Event.read v = .ok e) :
    (Value.ofTable e.params).IsJson := by
  obtain ⟨pairs, rfl, -, -, params, -⟩ := read_eq_ok.mp read
  rcases optional_eq_ok.mp params with ⟨-, empty⟩ | ⟨v, entry, same⟩
  · rw [empty]
    exact Condition.isJson_empty
  · have part : v.IsJson := by
      rcases mem_liftMessage (Value.mem_of_get?_text entry) with old | ⟨s, lifted⟩
      · exact json.part (List.mem_map_of_mem old)
      · rw [show v = .text s from lifted]
        exact .atom rfl
    exact (readObject_eq_ok part).mp same ▸ part

/-- **An event is read from what it is written as.**  It is written with its message, so none is
taken from its params. -/
theorem toValue_reads {e : Event} (json : (Value.ofTable e.params).IsJson) :
    e.toValue.IsJson ∧ Event.read e.toValue = .ok e := by
  refine ⟨.mapping (show ["type", "message", "params"].Nodup by decide) ?_,
    read_eq_ok.mpr ⟨_, rfl, ?_⟩⟩
  · simp only [List.forall_mem_cons]
    exact ⟨.atom rfl, .atom rfl, json, nofun⟩
  · refine ⟨required_eq_ok.mpr ⟨_, rfl, ?_⟩, optional_of_entry rfl rfl, optional_of_entry rfl ?_,
      rfl⟩
    · cases e.severity <;> rfl
    · exact (readObject_eq_ok json).mpr rfl

end Event

/-! ### Rules -/

namespace Rule

/-- A name is read from what it is written as. -/
theorem readName_text {v : Value} {s : String} (json : v.IsJson) (read : readName v = .ok s) :
    readName (.text s) = .ok s := by
  have same : v = .text s := by
    obtain ⟨text, -⟩ := Checked.check_eq_ok.mp read
    exact (readText_eq_ok json).mp (Checked.check_eq_ok.mp text).1
  exact same ▸ read

theorem isJson_of_fields {rule : Rule}
    (conditions : ∀ c, rule.conditions = some c → c.toValue.IsJson)
    (event : rule.event.toValue.IsJson) : rule.toValue.IsJson := by
  refine .mapping (show ["name", "conditions", "event", "priority"].Nodup by decide) ?_
  simp only [List.forall_mem_cons]
  exact ⟨.atom rfl, Value.isJson_ofOption conditions, event,
    Value.isJson_ofOption fun _ _ => .atom rfl, nofun⟩

/-- **A rule is read from what it is written as.**  If a value of JSON is read as a rule, what the
rule is written as is JSON too and is read as the same rule; so a run for the one value is a run for
the other. -/
theorem read_toValue {v : Value} {rule : Rule} (json : v.IsJson) (read : Rule.read v = .ok rule) :
    rule.toValue.IsJson ∧ Rule.read rule.toValue = .ok rule ∧
      ∀ (s : Snapshot) (q : RunRequest) (make : MakeContext), q.input = .value v →
        s.run { q with input := .value rule.toValue } make = s.run q make := by
  obtain ⟨pairs, rfl, name, conditions, event, priority⟩ := Rule.read_eq_ok.mp read
  have part {key : String} {w : Value} (entry : Table.get? pairs (.text key) = some w) : w.IsJson :=
    isJson_entry json entry
  have written (c : Condition) (given : rule.conditions = some c) :
      c.toValue.IsJson ∧ Condition.readGroup c.toValue = .ok c := by
    rw [given, optional_eq_ok] at conditions
    rcases conditions with ⟨-, absent⟩ | ⟨w, entry, same⟩
    · cases absent
    · rcases nullable_eq_ok.mp same with ⟨-, absent⟩ | ⟨-, _, readGroup, found⟩
      · cases absent
      · exact Condition.readGroup_toValue (part entry) (Option.some.inj found ▸ readGroup)
  obtain ⟨w, entry, readEvent⟩ := required_eq_ok.mp event
  rw [(part entry).unrolledWithin] at readEvent
  obtain ⟨eventJson, sameEvent⟩ := Event.toValue_reads (Event.isJson_params (part entry) readEvent)
  have ruleJson := isJson_of_fields (fun c given => (written c given).1) eventJson
  have same : Rule.read rule.toValue = .ok rule := by
    refine Rule.read_eq_ok.mpr ⟨_, rfl, required_eq_ok.mpr ⟨_, rfl, ?_⟩, optional_of_entry rfl ?_,
      required_eq_ok.mpr ⟨_, rfl, ?_⟩, optional_of_entry rfl ?_⟩
    · obtain ⟨w, entry, readName⟩ := required_eq_ok.mp name
      exact readName_text (part entry) readName
    · exact nullable_ofOption fun c given => ⟨c.toValue_ne_null, (written c given).2⟩
    · rw [eventJson.unrolledWithin]
      exact sameEvent
    · exact nullable_ofOption fun _ _ => ⟨nofun, rfl⟩
  refine ⟨ruleJson, same, fun s q make given => ?_⟩
  have sameInput : RuleInput.read (.value rule.toValue) = q.input.read := by
    rw [given, RuleInput.read, RuleInput.read, same, read]
  simp only [Snapshot.run, sameInput]
  rfl

/-- A rule as it may be written by hand: the message among the params, a priority as a text, a node
that is still being written, and a key that is passed over. -/
def writtenLeniently : Value :=
  .ofTable [("name", .text "lenient"), ("errorBehavior", .text "swallow"),
    ("conditions", .ofTable [("any", .list [
      .ofTable [("fact", .text "fileData"), ("operator", .text "equal"), ("value", .null),
        ("priority", .text "2")],
      .ofTable [("not", .ofTable [("note", .text "to be written")])]])]),
    ("event", .ofTable [("type", .text "info"),
      ("params", .ofTable [("message", .text "Fired")])])]

theorem isJson_writtenLeniently : writtenLeniently.IsJson := by
  have leaf : (Value.ofTable [("fact", .text "fileData"), ("operator", .text "equal"),
      ("value", .null), ("priority", .text "2")]).IsJson :=
    .mapping (by decide) (by simpa using ⟨.atom rfl, .atom rfl, .atom rfl, .atom rfl⟩)
  have unfinished : (Value.ofTable [("not", .ofTable [("note", .text "to be written")])]).IsJson :=
    Value.isJson_single (Value.isJson_single (.atom rfl))
  have conditions : (Value.ofTable [("any", .list _)]).IsJson :=
    Value.isJson_single
      (.list (List.forall_mem_cons.mpr ⟨leaf, List.forall_mem_singleton.mpr unfinished⟩))
  have event : (Value.ofTable [("type", .text "info"),
      ("params", .ofTable [("message", .text "Fired")])]).IsJson :=
    .mapping (by decide) (by simpa using ⟨.atom rfl, Value.isJson_single (.atom rfl)⟩)
  exact .mapping (by decide) (by simpa using ⟨.atom rfl, .atom rfl, conditions, event⟩)

/-- The message has been lifted once; it is there when the rule is read again. -/
theorem read_toValue_lenient : writtenLeniently.IsJson ∧
    ∃ rule, Rule.read writtenLeniently = .ok rule ∧ rule.event.message = "Fired" ∧
      Rule.read rule.toValue = .ok rule := by
  obtain ⟨rule, read, message⟩ :
      ∃ rule, Rule.read writtenLeniently = .ok rule ∧ rule.event.message = "Fired" :=
    ⟨_, rfl, rfl⟩
  obtain ⟨-, same, -⟩ := read_toValue isJson_writtenLeniently read
  exact ⟨isJson_writtenLeniently, rule, read, message, same⟩

end Rule

end Verdict
