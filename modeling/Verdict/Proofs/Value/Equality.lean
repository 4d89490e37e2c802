import Mathlib.Data.List.Perm.Subperm
import Verdict.Operator
import Verdict.Proofs.Value.Parts

/-!
# Values: strict equality

Two values are alike if they have one structure and the same leaves, where numbers count by their
values and a boolean is no number.  The equality of the operators keeps booleans apart from numbers
among its operands only: inside lists and mappings a boolean counts as one or zero.

* `alike_iff`: values are alike exactly if they are equal and no boolean meets a number in them.
* `strict_unless_confused`: so the operators that rest on equality mean what they say wherever they
  compare no two values that are equal only because a boolean counts as a number.
-/

namespace Verdict

/-- Numbers have the same value if they lie at one place. -/
theorem Num.same_iff {m n : Num} :
    m.same n = true ↔ ∃ p, m.place? = some p ∧ n.place? = some p := by
  unfold same relate
  cases m.place? <;> cases n.place? <;> simp [eq_comm]

namespace Value

/-- Two values have one structure and the same leaves.  Numbers count by their values, and booleans
are no numbers. -/
inductive Alike : Value → Value → Prop where
  | null : Alike .null .null
  | bool (b : Bool) : Alike (.bool b) (.bool b)
  | text (s : String) : Alike (.text s) (.text s)
  | number {v w : Value} {m n : Num} {p : Number.Place} (left : v.num? = some m)
      (right : w.num? = some n) (here : m.place? = some p) (there : n.place? = some p) : Alike v w
  | list {xs ys : List Value} (length : xs.length = ys.length)
      (items : ∀ (i : Nat) (x y : Value), xs[i]? = some x → ys[i]? = some y → Alike x y) :
      Alike (.list xs) (.list ys)
  | tuple {xs ys : List Value} (length : xs.length = ys.length)
      (items : ∀ (i : Nat) (x y : Value), xs[i]? = some x → ys[i]? = some y → Alike x y) :
      Alike (.tuple xs) (.tuple ys)
  | mapping {ps qs : List (Atom × Value)} (keys : ∀ key, Table.has ps key = Table.has qs key)
      (entries : ∀ key v w, Table.get? ps key = some v → Table.get? qs key = some w → Alike v w) :
      Alike (.mapping ps) (.mapping qs)

/-- At one place in both values, one has a boolean and the other a number. -/
inductive Mixes : Value → Value → Prop where
  | left {v w : Value} (h : v.isBool = true) (h' : w.num?.isSome = true) : Mixes v w
  | right {v w : Value} (h : v.num?.isSome = true) (h' : w.isBool = true) : Mixes v w
  | list {xs ys : List Value} {x y : Value} (i : Nat) (h : xs[i]? = some x)
      (h' : ys[i]? = some y) (inner : Mixes x y) : Mixes (.list xs) (.list ys)
  | tuple {xs ys : List Value} {x y : Value} (i : Nat) (h : xs[i]? = some x)
      (h' : ys[i]? = some y) (inner : Mixes x y) : Mixes (.tuple xs) (.tuple ys)
  | mapping {ps qs : List (Atom × Value)} {v w : Value} (key : Atom)
      (h : Table.get? ps key = some v) (h' : Table.get? qs key = some w) (inner : Mixes v w) :
      Mixes (.mapping ps) (.mapping qs)

/-- Two values are equal only because a boolean counts as a number in them. -/
def Confused (a b : Value) : Prop := a.equals b = true ∧ a.Mixes b

/-! ### Equality part by part -/

theorem sameItems_iff : ∀ {xs ys : List Value}, sameItems xs ys = true ↔
    xs.length = ys.length ∧
      ∀ (i : Nat) (x y : Value), xs[i]? = some x → ys[i]? = some y → same x y = true
  | [], [] => by simp [sameItems]
  | [], _ :: _ | _ :: _, [] => by simp [sameItems]
  | x :: xs, y :: ys => by
      rw [sameItems, Bool.and_eq_true, sameItems_iff, List.length_cons, List.length_cons,
        Nat.add_right_cancel_iff]
      constructor
      · rintro ⟨first, length, rest⟩
        refine ⟨length, fun i v w hv hw => ?_⟩
        cases i with
        | zero =>
            obtain rfl : x = v := by simpa using hv
            obtain rfl : y = w := by simpa using hw
            exact first
        | succ i => exact rest i v w (by simpa using hv) (by simpa using hw)
      · rintro ⟨length, items⟩
        exact ⟨items 0 x y rfl rfl, length, fun i v w hv hw =>
          items (i + 1) v w (by simpa using hv) (by simpa using hw)⟩

/-- The entries of a table with text keys are found by texts. -/
theorem get?_ofTable_eq_some {t : Table String Value} {key : Atom} {v : Value} :
    Table.get? (t.map fun (k, v) => (Atom.text k, v)) key = some v ↔
      ∃ k, key = .text k ∧ t.get? k = some v := by
  constructor
  · intro found
    -- Keys that are equal may be of different kinds, but a text is equal to texts only.
    suffices text : ∃ k, key = .text k by
      obtain ⟨k, rfl⟩ := text
      exact ⟨k, rfl, by rwa [get?_ofTable] at found⟩
    induction t with
    | nil => cases found
    | cons p rest ih =>
        rw [List.map_cons, Table.get?] at found
        split at found
        · next same =>
            refine ⟨p.1, ?_⟩
            cases key <;> simp_all [BEq.beq, Atom.same, Atom.number?]
        · exact ih found
  · rintro ⟨k, rfl, found⟩
    rwa [get?_ofTable]

theorem sameEntries_cons {k : Atom} {v : Value} {rest qs : List (Atom × Value)} :
    sameEntries ((k, v) :: rest) qs = true ↔
      (∃ w, Table.get? qs k = some w ∧ same v w = true) ∧ sameEntries rest qs = true := by
  rw [sameEntries, Bool.and_eq_true]
  cases Table.get? qs k <;> simp

/-- Every entry of a table has its like in other pairs. -/
theorem sameEntries_ofTable {t : Table String Value} {qs : List (Atom × Value)}
    (distinct : t.keys.Nodup) :
    sameEntries (t.map fun (k, v) => (Atom.text k, v)) qs = true ↔
      ∀ k v, t.get? k = some v → ∃ w, Table.get? qs (.text k) = some w ∧ same v w = true := by
  induction t with
  | nil => simp [sameEntries]
  | cons p rest ih =>
      obtain ⟨k, v⟩ := p
      obtain ⟨new, distinct⟩ := List.nodup_cons.mp distinct
      rw [List.map_cons, sameEntries_cons, ih distinct]
      constructor
      · rintro ⟨here, others⟩ l x found
        by_cases same : k = l
        · subst same
          obtain rfl : v = x := by simpa [Table.get?] using found
          exact here
        · exact others l x (by simpa [Table.get?, same] using found)
      · intro all
        refine ⟨all k v (by simp [Table.get?]), fun l x found => all l x ?_⟩
        have among : l ∈ Table.keys rest := List.mem_map_of_mem (Table.mem_of_get? found)
        have other : k ≠ l := fun same => new (same ▸ among)
        simpa [Table.get?, other] using found

/-- Mappings with text keys are equal if they have the same keys and equal entries under them. -/
theorem same_ofTable_iff {t u : Table String Value} (ht : t.keys.Nodup) (hu : u.keys.Nodup) :
    same (.ofTable t) (.ofTable u) = true ↔ (∀ k, t.has k = u.has k) ∧
      ∀ k v w, t.get? k = some v → u.get? k = some w → same v w = true := by
  rw [ofTable, ofTable, ofPairs, ofPairs, same, Bool.and_eq_true, sameEntries_ofTable ht,
    List.length_map, List.length_map, beq_iff_eq]
  simp only [get?_ofTable]
  constructor
  · rintro ⟨length, entries⟩
    have among : t.keys ⊆ u.keys := fun k hk => by
      obtain ⟨v, found⟩ := Option.isSome_iff_exists.mp (Table.has_iff_mem_keys.mpr hk)
      obtain ⟨w, found, -⟩ := entries k v found
      exact Table.has_iff_mem_keys.mp (Option.isSome_iff_exists.mpr ⟨w, found⟩)
    -- different keys, as many in one mapping as in the other
    have perm : t.keys.Perm u.keys :=
      (List.subperm_of_subset ht among).perm_of_length_le (by simp [Table.keys, length])
    refine ⟨fun k => ?_, fun k v w hv hw => ?_⟩
    · rw [Bool.eq_iff_iff, Table.has_iff_mem_keys, Table.has_iff_mem_keys]
      exact perm.mem_iff
    · obtain ⟨x, hx, same⟩ := entries k v hv
      obtain rfl := Option.some.inj (hw.symm.trans hx)
      exact same
  · rintro ⟨keys, entries⟩
    have perm : t.keys.Perm u.keys := (List.perm_ext_iff_of_nodup ht hu).mpr fun k => by
      rw [← Table.has_iff_mem_keys, ← Table.has_iff_mem_keys, keys]
    refine ⟨by simpa [Table.keys] using perm.length_eq, fun k v hv => ?_⟩
    have there : u.has k = true := by rw [← keys, Table.has, hv]; rfl
    obtain ⟨w, hw⟩ := Option.isSome_iff_exists.mp there
    exact ⟨w, hw, entries k v w hv hw⟩

/-! ### Likeness part by part -/

theorem alike_atom_iff {a b : Atom} : Alike (.atom a) (.atom b) ↔
    (∃ m n p, num? (.atom a) = some m ∧ num? (.atom b) = some n ∧ m.place? = some p ∧
      n.place? = some p) ∨
    a = b ∧ (a = .null ∨ (∃ c, a = .bool c) ∨ ∃ s, a = .text s) := by
  constructor
  · intro h
    cases h with
    | null | bool | text => simp
    | number left right here there => exact .inl ⟨_, _, _, left, right, here, there⟩
  · rintro (⟨m, n, p, left, right, here, there⟩ | ⟨rfl, rfl | ⟨c, rfl⟩ | ⟨s, rfl⟩⟩)
    · exact .number left right here there
    · exact .null
    · exact .bool c
    · exact .text s

theorem mixes_atom_iff {a b : Atom} : Mixes (.atom a) (.atom b) ↔
    isBool (.atom a) = true ∧ (num? (.atom b)).isSome = true ∨
      (num? (.atom a)).isSome = true ∧ isBool (.atom b) = true := by
  constructor
  · intro h
    cases h with
    | left h h' => exact .inl ⟨h, h'⟩
    | right h h' => exact .inr ⟨h, h'⟩
  · rintro (⟨h, h'⟩ | ⟨h, h'⟩)
    · exact .left h h'
    · exact .right h h'

/-- A boolean counts as the number one or zero. -/
theorem same_bool (b c : Bool) : (Atom.bool b).same (.bool c) = true ↔ b = c := by
  cases b <;> cases c <;> decide

/-- Leaves are alike if they are equal and not a boolean and a number. -/
theorem alike_iff_same_atom {a b : Atom} (ha : a.isJson = true) (hb : b.isJson = true) :
    Alike (.atom a) (.atom b) ↔ a.same b = true ∧ ¬Mixes (.atom a) (.atom b) := by
  rw [alike_atom_iff, mixes_atom_iff]
  cases a with
  | bool c =>
      cases b with
      | bool d => simp [same_bool, num?, isBool]
      | date | moment | bytes => cases hb
      | _ => simp [Atom.same, Atom.number?, num?, isBool]
  | date | moment | bytes => cases ha
  | _ => cases b <;> simp_all [Atom.isJson, Atom.same, Atom.number?, num?, isBool, Num.same_iff]

/-- Items are alike if they are equal and nothing mixes in them, as soon as that holds of each
pair of them. -/
theorem alike_iff_same_items {xs ys : List Value}
    (each : ∀ x ∈ xs, ∀ y ∈ ys, x.Alike y ↔ x.same y = true ∧ ¬x.Mixes y) :
    (xs.length = ys.length ∧ ∀ (i : Nat) (x y : Value), xs[i]? = some x → ys[i]? = some y →
        x.Alike y) ↔
      sameItems xs ys = true ∧
        ¬∃ (i : Nat) (x y : Value), xs[i]? = some x ∧ ys[i]? = some y ∧ x.Mixes y := by
  have each {i : Nat} {x y : Value} (hx : xs[i]? = some x) (hy : ys[i]? = some y) :=
    each x (List.mem_of_getElem? hx) y (List.mem_of_getElem? hy)
  rw [sameItems_iff]
  constructor
  · rintro ⟨length, items⟩
    refine ⟨⟨length, fun i x y hx hy => ((each hx hy).mp (items i x y hx hy)).1⟩, ?_⟩
    rintro ⟨i, x, y, hx, hy, mixed⟩
    exact ((each hx hy).mp (items i x y hx hy)).2 mixed
  · rintro ⟨⟨length, items⟩, apart⟩
    exact ⟨length, fun i x y hx hy =>
      (each hx hy).mpr ⟨items i x y hx hy, fun mixed => apart ⟨i, x, y, hx, hy, mixed⟩⟩⟩

theorem alike_list_iff {xs ys : List Value} : Alike (.list xs) (.list ys) ↔
    xs.length = ys.length ∧
      ∀ (i : Nat) (x y : Value), xs[i]? = some x → ys[i]? = some y → x.Alike y := by
  constructor
  · intro h
    cases h with
    | number left => cases left
    | list length items => exact ⟨length, items⟩
  · rintro ⟨length, items⟩
    exact .list length items

theorem alike_tuple_iff {xs ys : List Value} : Alike (.tuple xs) (.tuple ys) ↔
    xs.length = ys.length ∧
      ∀ (i : Nat) (x y : Value), xs[i]? = some x → ys[i]? = some y → x.Alike y := by
  constructor
  · intro h
    cases h with
    | number left => cases left
    | tuple length items => exact ⟨length, items⟩
  · rintro ⟨length, items⟩
    exact .tuple length items

theorem mixes_list_iff {xs ys : List Value} : Mixes (.list xs) (.list ys) ↔
    ∃ (i : Nat) (x y : Value), xs[i]? = some x ∧ ys[i]? = some y ∧ x.Mixes y := by
  constructor
  · intro h
    cases h with
    | left h | right h => cases h
    | list i hx hy inner => exact ⟨i, _, _, hx, hy, inner⟩
  · rintro ⟨i, x, y, hx, hy, inner⟩
    exact .list i hx hy inner

theorem mixes_tuple_iff {xs ys : List Value} : Mixes (.tuple xs) (.tuple ys) ↔
    ∃ (i : Nat) (x y : Value), xs[i]? = some x ∧ ys[i]? = some y ∧ x.Mixes y := by
  constructor
  · intro h
    cases h with
    | left h | right h => cases h
    | tuple i hx hy inner => exact ⟨i, _, _, hx, hy, inner⟩
  · rintro ⟨i, x, y, hx, hy, inner⟩
    exact .tuple i hx hy inner

/-- The keys of a mapping with text keys are those of its table. -/
theorem has_ofTable (t : Table String Value) (key : Atom) :
    Table.has (t.map fun (k, v) => (Atom.text k, v)) key = true ↔
      ∃ k, key = .text k ∧ t.has k = true := by
  simp only [Table.has, Option.isSome_iff_exists, get?_ofTable_eq_some]
  constructor
  · rintro ⟨v, k, rfl, found⟩
    exact ⟨k, rfl, v, found⟩
  · rintro ⟨k, rfl, v, found⟩
    exact ⟨v, k, rfl, found⟩

theorem alike_ofTable_iff {t u : Table String Value} : Alike (.ofTable t) (.ofTable u) ↔
    (∀ k, t.has k = u.has k) ∧
      ∀ k v w, t.get? k = some v → u.get? k = some w → v.Alike w := by
  unfold ofTable ofPairs
  constructor
  · intro h
    cases h with
    | number left => cases left
    | mapping keys entries =>
        refine ⟨fun k => ?_, fun k v w hv hw => ?_⟩
        · simpa [Table.has] using keys (.text k)
        · exact entries (.text k) v w (by rwa [get?_ofTable]) (by rwa [get?_ofTable])
  · rintro ⟨keys, entries⟩
    refine .mapping (fun key => ?_) fun key v w hv hw => ?_
    · rw [Bool.eq_iff_iff, has_ofTable, has_ofTable]
      simp only [keys]
    · obtain ⟨k, rfl, found⟩ := get?_ofTable_eq_some.mp hv
      rw [get?_ofTable] at hw
      exact entries k v w found hw

theorem mixes_ofTable_iff {t u : Table String Value} : Mixes (.ofTable t) (.ofTable u) ↔
    ∃ k v w, t.get? k = some v ∧ u.get? k = some w ∧ v.Mixes w := by
  unfold ofTable ofPairs
  constructor
  · intro h
    cases h with
    | left h | right h => cases h
    | mapping key hv hw inner =>
        obtain ⟨k, rfl, found⟩ := get?_ofTable_eq_some.mp hv
        rw [get?_ofTable] at hw
        exact ⟨k, _, _, found, hw, inner⟩
  · rintro ⟨k, v, w, hv, hw, inner⟩
    exact .mapping (.text k) (by rwa [get?_ofTable]) (by rwa [get?_ofTable]) inner

/-- Values are alike if they are equal by structure and nothing mixes in them. -/
theorem alike_iff_same {a b : Value} (ha : a.IsData) (hb : b.IsData) :
    a.Alike b ↔ a.same b = true ∧ ¬a.Mixes b := by
  induction ha generalizing b with
  | atom ha =>
      cases hb with
      | atom hb => exact alike_iff_same_atom ha hb
      | _ =>
          refine iff_of_false (fun h => ?_) fun h => Bool.false_ne_true h.1
          cases h with
          | number _ right => cases right
  | @list xs _ ih =>
      cases hb with
      | list hb =>
          rw [alike_list_iff, mixes_list_iff, same]
          exact alike_iff_same_items fun x hx y hy => ih x hx (hb y hy)
      | _ =>
          refine iff_of_false (fun h => ?_) fun h => Bool.false_ne_true h.1
          cases h with
          | number left => cases left
  | @tuple xs _ ih =>
      cases hb with
      | tuple hb =>
          rw [alike_tuple_iff, mixes_tuple_iff, same]
          exact alike_iff_same_items fun x hx y hy => ih x hx (hb y hy)
      | _ =>
          refine iff_of_false (fun h => ?_) fun h => Bool.false_ne_true h.1
          cases h with
          | number left => cases left
  | @mapping t ht _ ih =>
      cases hb with
      | @mapping u hu hb =>
          have each {k : String} {v w : Value} (hv : t.get? k = some v) (hw : u.get? k = some w) :=
            ih _ (Table.mem_of_get? hv) (hb _ (Table.mem_of_get? hw))
          rw [alike_ofTable_iff, mixes_ofTable_iff, same_ofTable_iff ht hu]
          constructor
          · rintro ⟨keys, entries⟩
            refine ⟨⟨keys, fun k v w hv hw => ((each hv hw).mp (entries k v w hv hw)).1⟩, ?_⟩
            rintro ⟨k, v, w, hv, hw, mixed⟩
            exact ((each hv hw).mp (entries k v w hv hw)).2 mixed
          · rintro ⟨⟨keys, entries⟩, apart⟩
            exact ⟨keys, fun k v w hv hw =>
              (each hv hw).mpr ⟨entries k v w hv hw, fun mixed => apart ⟨k, v, w, hv, hw, mixed⟩⟩⟩
      | _ =>
          refine iff_of_false (fun h => ?_) fun h => Bool.false_ne_true h.1
          cases h with
          | number left => cases left

theorem Alike.isBool_eq {a b : Value} (h : a.Alike b) : a.isBool = b.isBool := by
  have noBool {v : Value} {n : Num} (h : v.num? = some n) : v.isBool = false := by
    unfold num? at h
    split at h
    · rfl
    · rfl
    · cases h
  cases h with
  | number left right => rw [noBool left, noBool right]
  | _ => rfl

/-- **Values are alike** exactly if they are equal and nothing mixes in them. -/
theorem alike_iff_equals {a b : Value} (ha : a.IsData) (hb : b.IsData) :
    a.Alike b ↔ a.equals b = true ∧ ¬a.Mixes b := by
  rw [equals, Bool.and_eq_true, beq_iff_eq, and_assoc, ← alike_iff_same ha hb]
  exact ⟨fun h => ⟨h.isBool_eq, h⟩, And.right⟩

/-- Equality is likeness for values that are not confused. -/
theorem equals_iff_alike {a b : Value} (ha : a.IsData) (hb : b.IsData) (apart : ¬a.Confused b) :
    a.equals b = true ↔ a.Alike b := by
  rw [alike_iff_equals ha hb]
  exact ⟨fun same => ⟨same, fun mixed => apart ⟨same, mixed⟩⟩, And.left⟩

theorem isMember_iff_alike {item : Value} {items : List Value} (hitem : item.IsData)
    (hitems : ∀ v ∈ items, v.IsData) (apart : ∀ v ∈ items, ¬item.Confused v) :
    isMember item items = true ↔ ∃ v ∈ items, item.Alike v := by
  rw [isMember, List.any_eq_true]
  exact exists_congr fun v => and_congr_right fun hv =>
    equals_iff_alike hitem (hitems v hv) (apart v hv)

end Value

namespace Builtin

open Value

/-- What an operator that rests on equality is to mean. -/
def meaning? : Builtin → Option (Value → Value → Prop)
  | .equal => some Alike
  | .notEqual => some fun a b => ¬a.Alike b
  | .isIn => some fun a b => ∃ items, b.items? = some items ∧ ∃ v ∈ items, a.Alike v
  | .notIn => some fun a b => ∃ items, b.items? = some items ∧ ¬∃ v ∈ items, a.Alike v
  | .contains => some fun a b =>
    (∃ s part, a = .text s ∧ b = .text part ∧ part.toList <:+: s.toList) ∨
      ∃ items, a.items? = some items ∧ ∃ v ∈ items, b.Alike v
  | .doesNotContain => some fun a b =>
    (∃ s part, a = .text s ∧ b = .text part ∧ ¬part.toList <:+: s.toList) ∨
      ∃ items, a.items? = some items ∧ ¬∃ v ∈ items, b.Alike v
  | .lessThan | .lessThanInclusive | .greaterThan | .greaterThanInclusive => none

/-- The pairs of values that such an operator asks about. -/
def compared : Builtin → Value → Value → List (Value × Value)
  | .equal, a, b | .notEqual, a, b => [(a, b)]
  | .isIn, a, b | .notIn, a, b => (b.items?.getD []).map (a, ·)
  | .contains, a, b | .doesNotContain, a, b => (a.items?.getD []).map (b, ·)
  | _, _, _ => []

/-- What an operator says of the items of a list or tuple. -/
theorem among_iff {test : Bool → Bool} {a b : Value} : among test a b = true ↔
    ∃ items, b.items? = some items ∧ test (isMember a items) = true := by
  unfold among
  cases b.items? <;> simp

/-- What an operator says of a text, or else of the items of a list or tuple. -/
theorem holding_iff {test : Bool → Bool} {a b : Value} : holding test a b = true ↔
    (∃ s part, a = .text s ∧ b = .text part ∧ test (Text.contains s part) = true) ∨
      ∃ items, a.items? = some items ∧ test (isMember b items) = true := by
  unfold holding
  split
  · next s =>
      have noItems : (Value.text s).items? = none := rfl
      split
      · next part => simp [noItems]
      · next noText =>
          simp only [noItems, Bool.false_eq_true, reduceCtorEq, false_and, exists_false, or_false,
            false_iff]
          rintro ⟨_, part, -, rfl, -⟩
          exact noText part rfl
  · next noText =>
      rw [among_iff]
      refine ⟨.inr, ?_⟩
      rintro (⟨s, _, rfl, -⟩ | h)
      · exact absurd rfl (noText s)
      · exact h

/-- **Operators that rest on equality.**  Values are alike exactly if they are equal and nothing
mixes in them.  So such an operator means what it says, of all data without NaN, unless two of the
values that it compares are equal only because a boolean counts as a number in them. -/
theorem strict_unless_confused (a b : Definite) :
    (a.val.Alike b.val ↔ a.val.equals b.val = true ∧ ¬a.val.Mixes b.val) ∧
      ∀ (op : Builtin) (meaning : Value → Value → Prop), op.meaning? = some meaning →
        (∀ p ∈ op.compared a.val b.val, ¬p.1.Confused p.2) →
          (op.holds a.val b.val = true ↔ meaning a.val b.val) := by
  obtain ⟨a, ha, -⟩ := a
  obtain ⟨b, hb, -⟩ := b
  refine ⟨alike_iff_equals ha hb, ?_⟩
  -- a list that one of the operands is, and the other operand asked about in it
  have member {v item : Value} {items : List Value} (hv : v.IsData) (hitem : item.IsData)
      (held : v.items? = some items)
      (apart : ∀ p ∈ (v.items?.getD []).map (item, ·), ¬p.1.Confused p.2) :
      isMember item items = true ↔ ∃ w ∈ items, item.Alike w := by
    refine isMember_iff_alike hitem (fun w hw => hv.item held hw) fun w hw => ?_
    exact apart (item, w) (List.mem_map_of_mem (by simpa [held] using hw))
  intro op meaning known apart
  cases op with
  | equal =>
      obtain rfl := Option.some.inj known
      exact equals_iff_alike ha hb (apart (a, b) List.mem_cons_self)
  | notEqual =>
      obtain rfl := Option.some.inj known
      rw [holds, Bool.not_eq_true', ← Bool.not_eq_true]
      exact not_congr (equals_iff_alike ha hb (apart (a, b) List.mem_cons_self))
  | isIn =>
      obtain rfl := Option.some.inj known
      rw [holds, among_iff]
      exact exists_congr fun items => and_congr_right fun held => member hb ha held apart
  | notIn =>
      obtain rfl := Option.some.inj known
      rw [holds, among_iff]
      refine exists_congr fun items => and_congr_right fun held => ?_
      rw [Bool.not_eq_true', ← Bool.not_eq_true]
      exact not_congr (member hb ha held apart)
  | contains =>
      obtain rfl := Option.some.inj known
      rw [holds, holding_iff]
      refine or_congr (by simp only [id, Text.contains_iff]) ?_
      exact exists_congr fun items => and_congr_right fun held => member ha hb held apart
  | doesNotContain =>
      obtain rfl := Option.some.inj known
      rw [holds, holding_iff]
      refine or_congr ?_ (exists_congr fun items => and_congr_right fun held => ?_)
      · simp only [Bool.not_eq_true', ← Bool.not_eq_true, Text.contains_iff]
      · rw [Bool.not_eq_true', ← Bool.not_eq_true]
        exact not_congr (member ha hb held apart)
  | lessThan | lessThanInclusive | greaterThan | greaterThanInclusive => cases known

/-- A list is found among lists by what it holds: booleans by booleans, numbers by their values. -/
theorem isIn_of_apart :
    let a := Value.list [.bool true, .int 1]
    let b := Value.list [.list [.bool true, .float (.ofInt 1)]]
    (a.IsData ∧ ¬a.HoldsNaN) ∧ (b.IsData ∧ ¬b.HoldsNaN) ∧
      (∀ p ∈ isIn.compared a b, ¬p.1.Confused p.2) ∧
      ∃ items, b.items? = some items ∧ ∃ v ∈ items, a.Alike v := by
  intro a b
  have ha : a.IsData ∧ ¬a.HoldsNaN := by
    simp [a, Atom.isJson, holdsNaN_list, holdsNaN_atom]
  have one : Number.Binary64.ofInt 1 ≠ .nan := by decide
  have hb : b.IsData ∧ ¬b.HoldsNaN := by
    simp [b, Atom.isJson, holdsNaN_list, holdsNaN_atom, one]
  have apart : ∀ p ∈ isIn.compared a b, ¬p.1.Confused p.2 := by
    rintro p hp ⟨-, mixed⟩
    obtain rfl := List.mem_singleton.mp hp
    obtain ⟨i, x, y, hx, hy, mixed⟩ := mixes_list_iff.mp mixed
    match i with
    | 0 | 1 =>
        obtain rfl := Option.some.inj hx
        obtain rfl := Option.some.inj hy
        simp [mixes_atom_iff, num?, isBool] at mixed
    | _ + 2 => cases hx
  have found : isIn.holds a b = true := by decide
  exact ⟨ha, hb, apart,
    ((strict_unless_confused ⟨a, ha⟩ ⟨b, hb⟩).2 isIn _ rfl apart).mp found⟩

/-- Inside lists a boolean passes for the number that it counts as. -/
theorem equal_of_confused :
    let a := Value.list [.bool true]
    let b := Value.list [.int 1]
    a.IsData ∧ b.IsData ∧ equal.holds a b = true ∧ ¬a.Alike b := by
  intro a b
  have ha : a.IsData := by simp [a, Atom.isJson]
  have hb : b.IsData := by simp [b, Atom.isJson]
  refine ⟨ha, hb, by decide, fun alike => ?_⟩
  have first : Alike (.bool true) (.int 1) := (alike_list_iff.mp alike).2 0 _ _ rfl rfl
  exact absurd first.isBool_eq (by decide)

end Builtin

end Verdict
