/-!
# Tables

Pairs of a key and an entry in the order in which the keys first came. Writing to a key that is
present keeps its place and replaces its entry. The main statements give what `insert` does to each
of the views `get?` and `keys`, and what a table of pairs with different keys holds.
-/

namespace Verdict

/-- Keys with their entries, in the order of first insertion. -/
abbrev Table (κ α : Type) := List (κ × α)

namespace Table

variable {κ α β : Type}

/-- The keys in order. -/
def keys (t : Table κ α) : List κ := t.map (·.1)

/-- The entries in order. -/
def entries (t : Table κ α) : List α := t.map (·.2)

variable [BEq κ]

/-- The entry of a key. -/
def get? : Table κ α → κ → Option α
  | [], _ => none
  | (k, a) :: rest, key => if k == key then some a else get? rest key

/-- The key is present. -/
def has (t : Table κ α) (key : κ) : Bool := (get? t key).isSome

/-- Sets the entry of a key, at the end if the key is new. -/
def insert : Table κ α → κ → α → Table κ α
  | [], key, a => [(key, a)]
  | (k, old) :: rest, key, a =>
    if k == key then (k, a) :: rest else (k, old) :: insert rest key a

/-- All pairs inserted one after another. -/
def insertAll (t : Table κ α) (pairs : List (κ × α)) : Table κ α :=
  pairs.foldl (fun t (k, a) => insert t k a) t

/-- The table of a list of pairs: of two pairs with one key the place is the first's and the entry
the last's. -/
def ofPairs (pairs : List (κ × α)) : Table κ α := insertAll [] pairs

/-- The pairs whose key is another. -/
def erase (t : Table κ α) (key : κ) : Table κ α := t.filter fun (k, _) => !(k == key)

@[simp] theorem get?_nil (key : κ) : get? ([] : Table κ α) key = none := rfl

theorem get?_cons (k : κ) (a : α) (rest : Table κ α) (key : κ) :
    get? ((k, a) :: rest) key = if k == key then some a else get? rest key := rfl

theorem insert_nil (key : κ) (a : α) : insert ([] : Table κ α) key a = [(key, a)] := rfl

theorem insert_cons (k : κ) (old : α) (rest : Table κ α) (key : κ) (a : α) :
    insert ((k, old) :: rest) key a =
      if k == key then (k, a) :: rest else (k, old) :: insert rest key a := rfl

theorem get?_insert_self [LawfulBEq κ] (t : Table κ α) (key : κ) (a : α) :
    get? (insert t key a) key = some a := by
  induction t with
  | nil => simp [insert_nil, get?_cons]
  | cons p rest ih =>
    obtain ⟨k, old⟩ := p
    by_cases h : k = key <;> simp [insert_cons, get?_cons, h, ih]

theorem get?_insert_of_ne [LawfulBEq κ] (t : Table κ α) {key other : κ} (a : α)
    (h : key ≠ other) : get? (insert t key a) other = get? t other := by
  induction t with
  | nil => simp [insert_nil, get?_cons, h]
  | cons p rest ih =>
    obtain ⟨k, old⟩ := p
    by_cases hk : k = key
    · simp [insert_cons, get?_cons, hk, h]
    · by_cases ho : k = other
      · subst ho; simp [insert_cons, get?_cons, hk]
      · simp [insert_cons, get?_cons, hk, ho, ih]

theorem keys_insert_of_has [LawfulBEq κ] (t : Table κ α) {key : κ} (a : α)
    (h : has t key = true) : keys (insert t key a) = keys t := by
  induction t with
  | nil => simp [has] at h
  | cons p rest ih =>
    obtain ⟨k, old⟩ := p
    by_cases hk : k = key
    · simp [insert_cons, keys, hk]
    · have h' : has rest key = true := by simpa [has, get?_cons, hk] using h
      simpa [insert_cons, keys, hk] using ih h'

theorem keys_insert_of_not_has [LawfulBEq κ] (t : Table κ α) {key : κ} (a : α)
    (h : has t key = false) : keys (insert t key a) = keys t ++ [key] := by
  induction t with
  | nil => simp [insert_nil, keys]
  | cons p rest ih =>
    obtain ⟨k, old⟩ := p
    by_cases hk : k = key
    · simp [has, get?_cons, hk] at h
    · have h' : has rest key = false := by simpa [has, get?_cons, hk] using h
      simpa [insert_cons, keys, hk] using ih h'

theorem get?_insertAll_of_notMem [LawfulBEq κ] {key : κ} :
    ∀ (pairs : List (κ × α)) (t : Table κ α), key ∉ pairs.map (·.1) →
      get? (insertAll t pairs) key = get? t key
  | [], _, _ => rfl
  | (k, a) :: rest, t, h => by
      simp only [List.map_cons, List.mem_cons, not_or] at h
      obtain ⟨hk, hrest⟩ := h
      show get? (insertAll (insert t k a) rest) key = get? t key
      rw [get?_insertAll_of_notMem rest _ hrest, get?_insert_of_ne t a (Ne.symm hk)]

theorem get?_insertAll_of_mem [LawfulBEq κ] {key : κ} {entry : α} :
    ∀ (pairs : List (κ × α)) (t : Table κ α), (pairs.map (·.1)).Nodup → (key, entry) ∈ pairs →
      get? (insertAll t pairs) key = some entry
  | (k, a) :: rest, t, hnd, h => by
      simp only [List.map_cons, List.nodup_cons] at hnd
      show get? (insertAll (insert t k a) rest) key = some entry
      rcases List.mem_cons.mp h with he | hrest
      · obtain ⟨rfl, rfl⟩ := Prod.mk.inj he
        rw [get?_insertAll_of_notMem rest _ hnd.1, get?_insert_self]
      · exact get?_insertAll_of_mem rest _ hnd.2 hrest

/-- A table of pairs with different keys has the entry of each pair. -/
theorem get?_ofPairs_of_mem [LawfulBEq κ] {pairs : List (κ × α)} {key : κ} {entry : α}
    (hnd : (pairs.map (·.1)).Nodup) (h : (key, entry) ∈ pairs) :
    get? (ofPairs pairs) key = some entry :=
  get?_insertAll_of_mem pairs [] hnd h

end Table

end Verdict
