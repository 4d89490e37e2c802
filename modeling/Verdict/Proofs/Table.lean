import Mathlib.Data.List.Nodup
import Verdict.Table

/-!
# Tables: laws

Pairs with different keys are the table of themselves (`ofPairs_of_nodup`).  What is found under a
key is what is paired with it (`get?_eq_some_iff`), whatever the order of the pairs
(`get?_of_perm`).  All pairs of a table inserted into another replace what is there under their keys
(`get?_insertAll`).

* `insertAll_insert`: inserting after all pairs of a table is inserting into that table before.
* `insertAll_insertAll`: so two tables inserted one after the other are inserted as one.
* `insertAll_idem`: what is inserted a second time changes nothing.
* `get?_insertAll_named`: of items under their names, the last one of a name is found.
-/

namespace Verdict.Table

variable {κ α : Type} [BEq κ] [LawfulBEq κ]

/-! ### Pairs with different keys -/

theorem insert_of_new {key : κ} {a : α} :
    ∀ {t : Table κ α}, key ∉ t.keys → t.insert key a = t ++ [(key, a)]
  | [], _ => rfl
  | (k, b) :: rest, new => by
      obtain ⟨other, new⟩ := not_or.mp (mt List.mem_cons.mpr new)
      rw [insert, if_neg (by simpa using Ne.symm other), insert_of_new new, List.cons_append]

theorem insertAll_of_nodup :
    ∀ {pairs : List (κ × α)} {t : Table κ α}, (keys (t ++ pairs)).Nodup →
      t.insertAll pairs = t ++ pairs
  | [], t, _ => (List.append_nil t).symm
  | (k, a) :: rest, t, distinct => by
      have new : k ∉ t.keys := fun old => by
        rw [keys, List.map_append] at distinct
        exact (List.nodup_append.mp distinct).2.2 k old k List.mem_cons_self rfl
      have step : t ++ (k, a) :: rest = t ++ [(k, a)] ++ rest := by simp
      rw [step] at distinct ⊢
      show (t.insert k a).insertAll rest = _
      rw [insert_of_new new, insertAll_of_nodup distinct]

/-- Pairs with different keys are the table of themselves. -/
theorem ofPairs_of_nodup {pairs : List (κ × α)} (distinct : (keys pairs).Nodup) :
    ofPairs pairs = pairs :=
  insertAll_of_nodup distinct

/-! ### What is found -/

theorem get?_eq_none_iff {key : κ} : ∀ {t : Table κ α}, t.get? key = none ↔ key ∉ t.keys
  | [] => by simp [keys]
  | (k, a) :: rest => by
      have tail : get? rest key = none ↔ key ∉ keys rest := get?_eq_none_iff
      by_cases h : k = key
      · simp [get?, keys, h]
      · have h' : ¬ key = k := fun e => h e.symm
        simpa [get?, keys, h, h'] using tail

theorem has_iff_mem_keys {key : κ} {t : Table κ α} : t.has key = true ↔ key ∈ t.keys := by
  rw [has, Option.isSome_iff_ne_none]
  exact (not_congr get?_eq_none_iff).trans Decidable.not_not

theorem mem_of_get? {key : κ} {a : α} : ∀ {t : Table κ α}, t.get? key = some a → (key, a) ∈ t
  | (k, b) :: rest, h => by
      by_cases hk : k = key
      · subst hk
        obtain rfl : b = a := by simpa [get?] using h
        exact List.mem_cons_self
      · exact List.mem_cons_of_mem _ (mem_of_get? (by simpa [get?, hk] using h))

theorem get?_eq_some_iff {t : Table κ α} (distinct : t.keys.Nodup) {key : κ} {a : α} :
    t.get? key = some a ↔ (key, a) ∈ t := by
  refine ⟨mem_of_get?, fun paired => ?_⟩
  have found := get?_ofPairs_of_mem distinct paired
  rwa [ofPairs_of_nodup distinct] at found

/-- A key is found with the one entry that it has in a table from which the entries are drawn. -/
theorem get?_of_drawn {t source : Table κ α} (distinct : source.keys.Nodup) {key : κ} {a : α}
    (drawn : ∀ b, t.get? key = some b → (key, b) ∈ source) (present : t.has key = true)
    (paired : (key, a) ∈ source) : t.get? key = some a := by
  obtain ⟨b, found⟩ := Option.isSome_iff_exists.mp present
  rw [found, ← (get?_eq_some_iff distinct).mpr (drawn b found)]
  exact (get?_eq_some_iff distinct).mpr paired

/-- The order of the pairs does not matter. -/
theorem get?_of_perm {t u : Table κ α} (distinct : t.keys.Nodup) (perm : t.Perm u) (key : κ) :
    t.get? key = u.get? key := by
  have distinct' : u.keys.Nodup := (perm.map Prod.fst).nodup_iff.mp distinct
  refine Option.ext fun a => ?_
  rw [get?_eq_some_iff distinct, get?_eq_some_iff distinct', perm.mem_iff]

theorem get?_erase_self (key : κ) : ∀ t : Table κ α, (t.erase key).get? key = none
  | [] => rfl
  | (k, a) :: rest => by
      have tail := get?_erase_self key rest
      by_cases h : k = key <;> simpa [erase, get?, h] using tail

theorem get?_erase_of_ne {key other : κ} (h : other ≠ key) :
    ∀ t : Table κ α, (t.erase key).get? other = t.get? other
  | [] => rfl
  | (k, a) :: rest => by
      have tail := get?_erase_of_ne h rest
      by_cases hk : k = key
      · subst hk
        simpa [erase, get?, Ne.symm h] using tail
      · have kept : erase ((k, a) :: rest) key = (k, a) :: erase rest key := by simp [erase, hk]
        rw [kept, get?, get?, tail]

/-- What is inserted is found before what was there. -/
theorem get?_insertAll (t : Table κ α) {pairs : Table κ α} (distinct : pairs.keys.Nodup)
    (key : κ) : (t.insertAll pairs).get? key = (pairs.get? key).or (t.get? key) := by
  cases found : pairs.get? key with
  | none =>
      rw [get?_insertAll_of_notMem pairs t (get?_eq_none_iff.mp found), Option.none_or]
  | some a =>
      rw [get?_insertAll_of_mem pairs t distinct (mem_of_get? found), Option.some_or]

/-- An entry of a table to which pairs were added is an old one or one of the pairs. -/
theorem get?_insertAll_cases {key : κ} {a : α} (pairs : List (κ × α)) :
    ∀ {t : Table κ α}, (t.insertAll pairs).get? key = some a →
      t.get? key = some a ∨ (key, a) ∈ pairs := by
  induction pairs with
  | nil => exact .inl
  | cons pair rest ih =>
      intro t found
      obtain ⟨k, b⟩ := pair
      rcases ih found with old | added
      · by_cases same : k = key
        · subst same
          rw [get?_insert_self] at old
          obtain rfl := Option.some.inj old
          exact .inr List.mem_cons_self
        · rw [get?_insert_of_ne t b same] at old
          exact .inl old
      · exact .inr (List.mem_cons_of_mem _ added)

/-! ### Keys -/

theorem nodup_keys_insert {t : Table κ α} (distinct : t.keys.Nodup) (key : κ) (a : α) :
    (t.insert key a).keys.Nodup := by
  by_cases present : t.has key = true
  · rwa [keys_insert_of_has t a present]
  · have new : key ∉ t.keys := fun old => present (has_iff_mem_keys.mpr old)
    rw [keys_insert_of_not_has t a (by simpa using present)]
    rw [← List.concat_eq_append]
    exact distinct.concat new

theorem nodup_keys_insertAll : ∀ (pairs : List (κ × α)) {t : Table κ α}, t.keys.Nodup →
    (t.insertAll pairs).keys.Nodup
  | [], _, distinct => distinct
  | (key, a) :: rest, _, distinct => nodup_keys_insertAll rest (nodup_keys_insert distinct key a)

/-! ### Inserting again and after others -/

/-- A second entry takes the place of the first. -/
theorem insert_insert (key : κ) (a b : α) : ∀ t : Table κ α,
    (t.insert key a).insert key b = t.insert key b
  | [] => by simp [insert]
  | (k, old) :: rest => by
      by_cases same : k = key
      · simp [insert, same]
      · simp [insert, same, insert_insert key a b rest]

/-- An entry that has its place already may as well be set before another. -/
theorem insert_insert_of_has {key other : κ} (different : key ≠ other) (a b : α) :
    ∀ {t : Table κ α}, t.has key = true →
      (t.insert other b).insert key a = (t.insert key a).insert other b
  | [], present => by simp [has] at present
  | (k, old) :: rest, present => by
      by_cases first : k = key
      · subst first
        simp [insert, different]
      · have present : has rest key = true := by simpa [has, get?, first] using present
        by_cases second : k = other
        · simp [insert, second, Ne.symm different]
        · simp [insert, first, second, insert_insert_of_has different a b present]

theorem has_insert {t : Table κ α} {key : κ} (present : t.has key = true) (other : κ) (b : α) :
    (t.insert other b).has key = true := by
  by_cases same : other = key
  · rw [has, same, get?_insert_self]
    rfl
  · rwa [has, get?_insert_of_ne t b same]

theorem has_insert_self (t : Table κ α) (key : κ) (a : α) : (t.insert key a).has key = true := by
  rw [has, get?_insert_self]
  rfl

theorem has_insertAll : ∀ {pairs : List (κ × α)} {t : Table κ α} {key : κ},
    t.has key = true ∨ key ∈ keys pairs → (t.insertAll pairs).has key = true
  | [], _, _, present => present.elim id fun none => nomatch none
  | (k, b) :: rest, t, key, present => by
      show ((t.insert k b).insertAll rest).has key = true
      refine has_insertAll ?_
      rcases present with old | added
      · exact .inl (has_insert old k b)
      · rcases List.mem_cons.mp added with rfl | later
        · exact .inl (has_insert_self t _ b)
        · exact .inr later

/-- An entry that has its place already may as well be set before others. -/
theorem insertAll_insert_of_has {key : κ} (a : α) : ∀ {pairs t : Table κ α}, key ∉ pairs.keys →
    t.has key = true → (t.insertAll pairs).insert key a = (t.insert key a).insertAll pairs
  | [], _, _, _ => rfl
  | (k, b) :: rest, t, others, present => by
      obtain ⟨different, others⟩ := not_or.mp (mt List.mem_cons.mpr others)
      show ((t.insert k b).insertAll rest).insert key a =
        ((t.insert key a).insert k b).insertAll rest
      rw [insertAll_insert_of_has a others (has_insert present k b),
        insert_insert_of_has different a b present]

/-- **Inserting after** all pairs of a table is inserting into that table before. -/
theorem insertAll_insert (key : κ) (a : α) : ∀ {pairs t : Table κ α}, pairs.keys.Nodup →
    t.insertAll (pairs.insert key a) = (t.insertAll pairs).insert key a
  | [], _, _ => rfl
  | (k, b) :: rest, t, distinct => by
      obtain ⟨new, distinct⟩ := List.nodup_cons.mp distinct
      rw [insert]
      split
      · next same =>
          obtain rfl := eq_of_beq same
          show (t.insert k a).insertAll rest = ((t.insert k b).insertAll rest).insert k a
          rw [insertAll_insert_of_has a new (has_insert_self t k b), insert_insert]
      · exact insertAll_insert key a distinct

/-- **Two tables inserted one after the other** are inserted as one. -/
theorem insertAll_insertAll : ∀ (more : List (κ × α)) {t pairs : Table κ α}, pairs.keys.Nodup →
    (t.insertAll pairs).insertAll more = t.insertAll (pairs.insertAll more)
  | [], _, _, _ => rfl
  | (key, a) :: more, t, pairs, distinct => by
      show ((t.insertAll pairs).insert key a).insertAll more =
        t.insertAll ((pairs.insert key a).insertAll more)
      rw [← insertAll_insert key a distinct,
        insertAll_insertAll more (nodup_keys_insert distinct key a)]

/-- Pairs may as well be made a table before they are inserted. -/
theorem insertAll_ofPairs (t : Table κ α) (pairs : List (κ × α)) :
    t.insertAll (ofPairs pairs) = t.insertAll pairs :=
  have distinct : keys ([] : Table κ α) |>.Nodup := List.nodup_nil
  (insertAll_insertAll pairs distinct).symm

/-- Of items that are inserted under their names, the last one of a name is found, and if there is
none, what was there. -/
theorem get?_insertAll_named (name : α → κ) (key : κ) : ∀ (items : List α) (t : Table κ α),
    (t.insertAll (items.map fun a => (name a, a))).get? key =
      (items.reverse.find? (name · == key)).or (t.get? key)
  | [], _ => rfl
  | a :: rest, t => by
      show ((t.insert (name a) a).insertAll (rest.map fun a => (name a, a))).get? key = _
      rw [get?_insertAll_named name key rest, List.reverse_cons, List.find?_append, Option.or_assoc]
      congr 1
      by_cases same : name a = key
      · subst same
        simp [get?_insert_self]
      · simp [get?_insert_of_ne t a same, same]

theorem insert_of_get? {key : κ} {a : α} : ∀ {t : Table κ α}, t.get? key = some a →
    t.insert key a = t
  | (k, b) :: rest, found => by
      by_cases same : k = key
      · obtain rfl : b = a := by simpa [get?, same] using found
        simp [insert, same]
      · have found : get? rest key = some a := by simpa [get?, same] using found
        simp [insert, same, insert_of_get? found]

theorem insertAll_of_get? : ∀ {pairs : List (κ × α)} {t : Table κ α},
    (∀ p ∈ pairs, t.get? p.1 = some p.2) → t.insertAll pairs = t
  | [], _, _ => rfl
  | (key, a) :: rest, t, found => by
      obtain ⟨first, found⟩ := List.forall_mem_cons.mp found
      show (t.insert key a).insertAll rest = t
      rw [insert_of_get? first, insertAll_of_get? found]

/-- What is inserted a second time changes nothing. -/
theorem insertAll_idem (t : Table κ α) {pairs : Table κ α} (distinct : pairs.keys.Nodup) :
    (t.insertAll pairs).insertAll pairs = t.insertAll pairs :=
  insertAll_of_get? fun _ hp => get?_insertAll_of_mem pairs t distinct hp

end Verdict.Table
