import Verdict.Proofs.Json.Writing
import Verdict.Proofs.Rule.Writing
import Verdict.Proofs.Schema.Moment
import Verdict.Result.Basic
import Verdict.Result.Reading

/-!
# Results: sent and read again

A result that is sent as JSON is read as the same result.

* `Value.wireAt_of_fits`: values of JSON are their own wire form, unless they are nested too deeply.
* `LeafResult.read_sent`, `RunResult.read_sent`: a result is read from its wire form.
* `RunResult.read_wire`: the text of the wire form spells it, so the result is read again.
* `RunResult.not_read_wire`: values that are nested too deeply are not sent, and of the offset of a
  moment only the minutes are.
-/

namespace Verdict

open Schema

/-! ### Values of JSON -/

theorem Atom.Fits.wire {digits : Nat} {a : Atom} (h : a.Fits digits) : a.wire = .ok a := by
  cases a with
  | date | moment | bytes => exact h.elim
  | _ => rfl

/-- What is the same for each item is the same for all. -/
theorem mapM_eq_ok {ε α β : Type} {f : α → Except ε β} {g : α → β} :
    ∀ {as : List α}, (∀ a ∈ as, f a = .ok (g a)) → as.mapM f = .ok (as.map g)
  | [], _ => rfl
  | a :: as, each => by
      obtain ⟨first, each⟩ := List.forall_mem_cons.mp each
      rw [List.mapM_cons, first, mapM_eq_ok each]
      rfl

namespace Value

variable (joining : KeyJoining) {digits levels : Nat}

theorem wireItems_eq {items : List Value} {depth : Nat}
    (each : ∀ v ∈ items, wireAt joining depth v = .ok v) :
    wireItems joining depth items = .ok items := by
  induction items with
  | nil => rfl
  | cons v rest ih =>
      obtain ⟨first, each⟩ := List.forall_mem_cons.mp each
      rw [wireItems, first, ih each]
      rfl

theorem wirePairs_eq {table : Table String Value} {depth : Nat}
    (each : ∀ p ∈ table, wireAt joining depth p.2 = .ok p.2) :
    wirePairs joining id depth (table.map fun (k, v) => (.text k, v)) =
      .ok (table.map fun (k, v) => (.text k, v)) := by
  induction table with
  | nil => rfl
  | cons p rest ih =>
      obtain ⟨first, each⟩ := List.forall_mem_cons.mp each
      rw [List.map_cons, wirePairs, first, ih each]
      rfl

/-- **Values of JSON are their own wire form**, unless they are nested too deeply. -/
theorem wireAt_of_fits {v : Value} (fits : v.Fits digits levels) :
    ∀ {depth : Nat}, depth + levels ≤ wireDepthLimit → wireAt joining depth v = .ok v := by
  induction fits with
  | atom h =>
      intro depth room
      rw [wireAt, if_neg (by omega), h.wire]
      rfl
  | list _ ih =>
      intro depth room
      rw [wireAt, if_neg (by omega), wireItems_eq joining fun v hv => ih v hv (by omega)]
      rfl
  | @mapping _ table distinct _ ih =>
      intro depth room
      have apply : joining.apply (table.map fun (k, v) => (.text k, v)) =
          table.map fun (k, v) => (.text k, v) := by
        cases joining with
        | joined => exact ofPairs_ofTable distinct
        | apart => rfl
      rw [ofTable, ofPairs, wireAt, if_neg (by omega),
        wirePairs_eq joining fun p hp => ih p hp (by omega)]
      exact congrArg (fun pairs => Except.ok (mapping pairs)) apply

/-- The number of values one inside the other in a value that is sent. -/
def sentLevels : Nat := wireDepthLimit - 1

theorem wire_of_fits {v : Value} (fits : v.Fits digits sentLevels) : v.wire joining = .ok v :=
  wireAt_of_fits joining fits (by decide)

end Value

/-- The entries of a table are values of JSON that can be sent. -/
def Table.IsSendable (digits : Nat) (t : Table String Value) : Prop :=
  t.keys.Nodup ∧ ∀ p ∈ t, p.2.Fits digits Value.sentLevels

namespace Table.IsSendable

variable {digits : Nat} {t : Table String Value}

theorem wire (h : t.IsSendable digits) (joining : Value.KeyJoining) :
    t.wire joining = .ok (.ofTable t) := by
  have each : ∀ p ∈ t, (do return (p.1, ← p.2.wire joining)) =
      (Except.ok p : Except WireFault (String × Value)) := fun p hp => by
    rw [Value.wire_of_fits joining (h.2 p hp)]
    rfl
  rw [Table.wire, mapM_eq_ok each, List.map_id']
  rfl

theorem fits (h : t.IsSendable digits) : (Value.ofTable t).Fits digits (Value.sentLevels + 1) :=
  .mapping h.1 h.2

end Table.IsSendable

/-! ### Fields -/

namespace Schema

theorem readItems_eq {α : Type} {read : Value → Checked α} {write : α → Value} {as : List α}
    (each : ∀ a ∈ as, read (write a) = .ok a) :
    ∀ index, readItems read index (as.map write) = .ok as := by
  induction as with
  | nil => exact fun _ => rfl
  | cons a rest ih =>
      intro index
      obtain ⟨first, each⟩ := List.forall_mem_cons.mp each
      rw [List.map_cons, readItems, first, ih each]
      rfl

/-- A list of items is read from what they are written as. -/
theorem readList_eq {α : Type} {read : Value → Checked α} {write : α → Value} {as : List α}
    (each : ∀ a ∈ as, read (write a) = .ok a) : readList read (.list (as.map write)) = .ok as :=
  readItems_eq each 0

section

variable {α β : Type} {pairs : Pairs} {name : String} {read : Value → Checked α} {a : α} {v : Value}

theorem Checked.ok_map {f : α → β} {x : Checked α} (hx : x = .ok a) : f <$> x = .ok (f a) :=
  functorMap_eq_ok.mpr ⟨a, hx, rfl⟩

theorem Checked.ok_seq {f : Checked (α → β)} {x : Checked α} {g : α → β} (hf : f = .ok g)
    (hx : x = .ok a) : f <*> x = .ok (g a) :=
  seq_eq_ok.mpr ⟨g, a, hf, hx, rfl⟩

theorem required_of_entry (entry : Table.get? pairs (.text name) = some v)
    (same : read v = .ok a) : required pairs name read = .ok a :=
  required_eq_ok.mpr ⟨v, entry, same⟩

theorem presentName_of_entry (entry : Table.get? pairs (.text name) = some v) (other : String) :
    presentName pairs name other = name :=
  if_pos (by rw [Table.has, entry]; rfl)

/-- The first of two names of a field is the one under which it is sent. -/
theorem requiredAs_of_entry {other : String} (entry : Table.get? pairs (.text name) = some v)
    (same : read v = .ok a) : requiredAs pairs name other read = .ok a := by
  rw [requiredAs, presentName_of_entry entry]
  exact required_of_entry entry same

theorem optionalAs_of_entry {other : String} {absent : α}
    (entry : Table.get? pairs (.text name) = some v) (same : read v = .ok a) :
    optionalAs pairs name other absent read = .ok a := by
  rw [optionalAs, presentName_of_entry entry]
  exact optional_of_entry entry same

end

theorem nullable_optionalText (o : Option String) :
    nullable readText (.optionalText o) = .ok o := by
  cases o <;> rfl

end Schema

theorem Value.fits_texts {digits levels : Nat} (ss : List String) :
    (Value.texts ss).Fits digits (levels + 2) := by
  refine .list fun v hv => ?_
  obtain ⟨s, -, rfl⟩ := List.mem_map.mp hv
  exact .atom trivial

theorem Value.fits_optionalText {digits levels : Nat} (o : Option String) :
    (Value.optionalText o).Fits digits (levels + 1) := by
  cases o <;> exact .atom trivial

theorem Value.fits_ofOption {α : Type} {digits levels : Nat} {f : α → Value} {o : Option α}
    (each : ∀ a, o = some a → (f a).Fits digits (levels + 1)) :
    (Value.ofOption f o).Fits digits (levels + 1) := by
  cases o with
  | none => exact .atom trivial
  | some a => exact each a rfl

/-! ### Leaves -/

namespace LeafResult

/-- The values of a leaf's result can be sent, and its duration is finite. -/
structure IsSendable (digits : Nat) (r : LeafResult) : Prop where
  factValue : r.factValue.Fits digits Value.sentLevels
  operand : r.operand.Fits digits Value.sentLevels
  params : ∀ t, r.params = some t → t.IsSendable digits
  duration : r.duration.isFinite = true

/-- What is sent of a leaf's result. -/
def sent (r : LeafResult) : Value :=
  .ofPairs [
    ("path", .texts r.path),
    ("factName", .text r.fact),
    ("factValue", r.factValue),
    ("operator", .text r.operator),
    ("compareValue", r.operand),
    ("result", .bool r.outcome),
    ("error", .optionalText r.error),
    ("duration", .float r.duration),
    ("jsonPath", .optionalText r.selector),
    ("params", .ofOption .ofTable r.params)]

variable {digits : Nat} {r : LeafResult}

theorem wire_eq (h : r.IsSendable digits) (joining : Value.KeyJoining) :
    r.wire joining = .ok r.sent := by
  have params : r.params.mapM (·.wire joining) = .ok (r.params.map .ofTable) := by
    cases given : r.params with
    | none => rfl
    | some t =>
        rw [Option.mapM_some, (h.params t given).wire joining]
        rfl
  rw [wire, Value.wire_of_fits joining h.factValue, Value.wire_of_fits joining h.operand, params]
  cases given : r.params <;> simp [sent, given, Value.ofOption] <;> rfl

theorem fits_sent (h : r.IsSendable digits) : r.sent.Fits digits (Value.sentLevels + 2) := by
  have distinct : ["path", "factName", "factValue", "operator", "compareValue", "result", "error",
      "duration", "jsonPath", "params"].Nodup := by decide
  have path : (Value.texts r.path).Fits digits 2 := Value.fits_texts r.path
  refine .mapping distinct ?_
  simp only [List.forall_mem_cons]
  exact ⟨path.mono le_rfl (by decide), .atom trivial, h.factValue.mono le_rfl (by decide),
    .atom trivial, h.operand.mono le_rfl (by decide), .atom trivial, Value.fits_optionalText _,
    .atom h.duration, Value.fits_optionalText _,
    Value.fits_ofOption fun t given => (h.params t given).fits, nofun⟩

/-- A leaf's result is read from what is sent of it. -/
theorem read_sent (h : r.IsSendable digits) : LeafResult.read r.sent = .ok r := by
  have path : readList readText (.texts r.path) = .ok r.path := readList_eq fun _ _ => rfl
  have params : nullable readObject (.ofOption .ofTable r.params) = .ok r.params :=
    nullable_ofOption fun t given =>
      ⟨nofun, (readObject_eq_ok (h.params t given).fits.isJson).mpr rfl⟩
  show LeafResult.ofPairs _ = Checked.ok (LeafResult.mk r.path r.fact r.factValue r.operator
    r.operand r.outcome r.error r.duration r.selector r.params)
  refine Checked.ok_seq (Checked.ok_seq (Checked.ok_seq (Checked.ok_seq (Checked.ok_seq
    (Checked.ok_seq (Checked.ok_seq (Checked.ok_seq (Checked.ok_seq (Checked.ok_map
      ?path) ?fact) ?factValue) ?operator) ?operand) ?outcome) ?error) ?duration) ?selector) ?params
  case path => exact required_of_entry rfl path
  case fact => exact requiredAs_of_entry rfl rfl
  case factValue => exact optionalAs_of_entry rfl rfl
  case operator => exact required_of_entry rfl rfl
  case operand => exact optionalAs_of_entry rfl rfl
  case outcome => exact required_of_entry rfl rfl
  case error => exact optional_of_entry rfl (nullable_optionalText r.error)
  case duration => exact optional_of_entry rfl rfl
  case selector => exact optionalAs_of_entry rfl (nullable_optionalText r.selector)
  case params => exact optional_of_entry rfl params

end LeafResult

/-! ### Runs -/

namespace RunResult

/-- The values of a run's result can be sent, its durations are finite, and its timestamp is a
moment that the wire form tells. -/
structure IsSendable (digits : Nat) (r : RunResult) : Prop where
  timestamp : r.timestamp.IsProper
  duration : r.duration.isFinite = true
  leafResults : ∀ l ∈ r.leafResults, l.IsSendable digits
  event : ∀ e, r.event = some e → e.params.IsSendable digits

/-- What is sent of the result of a run. -/
def sent (r : RunResult) : Value :=
  .ofPairs [
    ("success", .bool r.success),
    ("fileName", .text r.fileName),
    ("timestamp", .text r.timestamp.wire),
    ("duration", .float r.duration),
    ("conditionResults", .list (r.leafResults.map LeafResult.sent)),
    ("finalResult", .text r.ending.word),
    ("event", .ofOption Event.toValue r.event),
    ("error", .optionalText r.error)]

/-- The number of values one inside the other in what is sent. -/
def sentLevels : Nat := Value.sentLevels + 4

variable {digits : Nat} {r : RunResult}

theorem wire_eq (h : r.IsSendable digits) (joining : Value.KeyJoining) :
    r.wire joining = .ok r.sent := by
  have leaves : r.leafResults.mapM (·.wire joining) = .ok (r.leafResults.map LeafResult.sent) :=
    mapM_eq_ok fun l hl => LeafResult.wire_eq (h.leafResults l hl) joining
  have event : r.event.mapM (·.wire joining) = .ok (r.event.map Event.toValue) := by
    cases given : r.event with
    | none => rfl
    | some e =>
        rw [Option.mapM_some, Event.wire, (h.event e given).wire joining]
        rfl
  rw [wire, leaves, event]
  cases given : r.event <;> simp [sent, given, Value.ofOption] <;> rfl

theorem fits_sent (h : r.IsSendable digits) : r.sent.Fits digits sentLevels := by
  have distinct : ["success", "fileName", "timestamp", "duration", "conditionResults",
      "finalResult", "event", "error"].Nodup := by decide
  have leaves : (Value.list (r.leafResults.map LeafResult.sent)).Fits digits
      (Value.sentLevels + 3) := by
    refine .list fun v hv => ?_
    obtain ⟨l, hl, rfl⟩ := List.mem_map.mp hv
    exact LeafResult.fits_sent (h.leafResults l hl)
  have event (e : Event) (given : r.event = some e) :
      e.toValue.Fits digits (Value.sentLevels + 3) := by
    refine .mapping (show ["type", "message", "params"].Nodup by decide) ?_
    simp only [List.forall_mem_cons]
    exact ⟨.atom trivial, .atom trivial, (h.event e given).fits.mono le_rfl (by decide), nofun⟩
  refine .mapping distinct ?_
  simp only [List.forall_mem_cons]
  exact ⟨.atom trivial, .atom trivial, .atom trivial, .atom h.duration, leaves, .atom trivial,
    Value.fits_ofOption event, Value.fits_optionalText _, nofun⟩

/-- The result of a run is read from what is sent of it. -/
theorem read_sent (h : r.IsSendable digits) (now : Moment) : RunResult.read now r.sent = .ok r := by
  have leaves : readList LeafResult.read (.list (r.leafResults.map LeafResult.sent)) =
      .ok r.leafResults :=
    readList_eq fun l hl => LeafResult.read_sent (h.leafResults l hl)
  have ending : Ending.read (.text r.ending.word) = .ok r.ending := by
    cases r.ending <;> rfl
  have event : nullable Event.read (.ofOption Event.toValue r.event) = .ok r.event :=
    nullable_ofOption fun e given =>
      ⟨nofun, (Event.toValue_reads (h.event e given).fits.isJson).2⟩
  rw [sent, Value.ofPairs, RunResult.read, readRecord]
  show _ = Checked.ok (RunResult.mk r.success r.fileName r.timestamp r.duration r.leafResults
    r.ending r.event r.error)
  refine Checked.ok_seq (Checked.ok_seq (Checked.ok_seq (Checked.ok_seq (Checked.ok_seq
    (Checked.ok_seq (Checked.ok_seq (Checked.ok_map
      ?success) ?fileName) ?timestamp) ?duration) ?leaves) ?ending) ?event) ?failure
  case success => exact required_of_entry rfl rfl
  case fileName => exact requiredAs_of_entry rfl rfl
  case timestamp => exact optional_of_entry rfl (readMoment_wire h.timestamp)
  case duration => exact optional_of_entry rfl rfl
  case leaves => exact optionalAs_of_entry rfl leaves
  case ending => exact requiredAs_of_entry rfl ending
  case event => exact optional_of_entry rfl event
  case failure => exact optional_of_entry rfl (nullable_optionalText r.error)

/-- **A result that is sent as JSON is read as the same result.**  It has a wire form, whatever
becomes of keys of one text.  The text of the wire form, on one line or on many, spells it, so any
reader of JSON finds it there, and the one of this project does as long as no integer has too many
digits.  The wire form is read as the result. -/
theorem read_wire (h : r.IsSendable digits) (joining : Value.KeyJoining) (indent : Option Nat)
    (now : Moment) :
    ∃ v, r.wire joining = .ok v ∧
      Json.Spells digits sentLevels (Json.write (.wire indent) v).toList v ∧
      (digits ≤ Number.maxIntegerDigits →
        Json.read (Json.write (.wire indent) v).toList = .ok v) ∧
      RunResult.read now v = .ok r := by
  have spells {digits : Nat} (fits : r.sent.Fits digits sentLevels) :
      Json.Spells digits sentLevels (Json.write (.wire indent) r.sent).toList r.sent := by
    rw [Json.write, String.toList_ofList]
    exact Json.spells_writeAt fits indent 0
  have fits := fits_sent h
  refine ⟨r.sent, wire_eq h joining, spells fits, fun few => ?_, read_sent h now⟩
  exact Json.read_of_spells (spells (fits.mono few le_rfl)) (by decide)

/-- A leaf that compares an integer with a floating-point number, in a run that fired. -/
def compared : RunResult where
  success := true
  fileName := "rule.json"
  leafResults := [{
    path := ["conditions", "all", "0"]
    fact := "size"
    factValue := .ofTable [("a", .list [.int 1, .null])]
    operator := "equal"
    operand := .float (.finite false (2 ^ 52) (-52) (by decide))
    outcome := false
    params := some [("unit", .text "é")] }]
  ending := .triggered
  event := some ⟨.warning, "small", [("limit", .int (-2))]⟩

theorem isSendable_compared : compared.IsSendable 1 := by
  have factValue : (Value.ofTable [("a", .list [.int 1, .null])]).Fits 1 Value.sentLevels := by
    refine .mapping (by decide) (List.forall_mem_singleton.mpr (.list fun v hv => ?_))
    simp only [List.mem_cons, List.not_mem_nil, or_false] at hv
    rcases hv with rfl | rfl
    · exact .atom (by decide : _ ≤ _)
    · exact .atom trivial
  refine ⟨⟨rfl, by decide, by decide, by decide, by decide, ?_⟩, rfl,
    List.forall_mem_singleton.mpr ⟨factValue, .atom rfl, ?_, rfl⟩, ?_⟩
  · rintro _ ⟨⟩
    decide
  · rintro _ ⟨⟩
    exact ⟨by decide, List.forall_mem_singleton.mpr (.atom trivial)⟩
  · rintro _ ⟨⟩
    exact ⟨by decide, List.forall_mem_singleton.mpr (.atom (by decide : _ ≤ _))⟩

/-- The result of `compared` is read again, with the integer and the floating-point number apart. -/
theorem read_wire_compared : compared.IsSendable 1 ∧ ∃ v, compared.wire .joined = .ok v ∧
    Json.Spells 1 sentLevels (Json.write (.wire none) v).toList v ∧
    (1 ≤ Number.maxIntegerDigits → Json.read (Json.write (.wire none) v).toList = .ok v) ∧
    RunResult.read .epoch v = .ok compared :=
  ⟨isSendable_compared, read_wire isSendable_compared .joined none .epoch⟩

end RunResult

/-! ### What is not sent -/

namespace Value

/-- Lists one inside the other. -/
def nestedLists : Nat → Value
  | 0 => .list []
  | n + 1 => .list [nestedLists n]

theorem fits_nestedLists (digits : Nat) : ∀ n, (nestedLists n).Fits digits (n + 1)
  | 0 => .list nofun
  | n + 1 => .list (List.forall_mem_singleton.mpr (fits_nestedLists digits n))

/-- Values that reach the limit of depth have no wire form. -/
theorem wireAt_nestedLists (joining : KeyJoining) : ∀ {n depth : Nat},
    wireDepthLimit ≤ depth + n → wireAt joining depth (nestedLists n) = .error .tooDeep
  | 0, depth, deep => by rw [nestedLists, wireAt, if_pos (by omega)]
  | n + 1, depth, deep => by
      rw [nestedLists, wireAt]
      split
      · rfl
      · rw [wireItems, wireAt_nestedLists joining (by omega)]
        rfl

end Value

namespace RunResult

/-- A result whose only leaf has the fact value. -/
def ofFactValue (v : Value) : RunResult where
  success := true
  fileName := "rule.json"
  leafResults := [
    { path := [], fact := "tree", factValue := v, operator := "equal", outcome := false }]
  ending := .notTriggered

/-- A result at the beginning of the year 1970 by a clock half a minute ahead of universal time. -/
def halfMinuteAhead : RunResult where
  success := true
  fileName := "rule.json"
  timestamp := { Moment.epoch with offset := some 30 }
  ending := .notTriggered

/-- A value nested too deeply is not sent, so its result is not read again; and a moment is read as
another, if its offset is not a whole number of minutes. -/
theorem not_read_wire :
    ((Value.nestedLists 254).IsJson ∧
      ∀ joining, (ofFactValue (.nestedLists 254)).wire joining = .error .tooDeep) ∧
    ∃ v r, halfMinuteAhead.wire .joined = .ok v ∧ RunResult.read .epoch v = .ok r ∧
      r.timestamp.same halfMinuteAhead.timestamp = false := by
  refine ⟨⟨(Value.fits_nestedLists 0 254).isJson, fun joining => ?_⟩, halfMinuteAhead.sent,
    { halfMinuteAhead with timestamp := .epoch }, rfl, ?_, by decide⟩
  · have deep : (Value.nestedLists 254).wire joining = .error .tooDeep :=
      Value.wireAt_nestedLists joining (by decide)
    rw [RunResult.wire, ofFactValue, List.mapM_cons, LeafResult.wire, deep]
    rfl
  · rfl

end RunResult

end Verdict
