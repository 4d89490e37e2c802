import Verdict.Fixture.Walk
import Verdict.Proofs.File.Tree

/-!
# Fixtures: what a walk meets

In a tidy tree every directory has different names for its entries, and they can be parts of a path
(`File.Node.IsTidy`).

* `mem_filesBelow`: a walk meets what the tree has at the end of names, unless that is a directory
  or stands in a directory that is passed over or cannot be listed.
* `pairwise_filesBelow`: it meets the files of a directory, by their names, before the files of its
  subdirectories (`Precedes`); so it meets nothing twice.
* `filesBelow_eq`: both together determine the list.
-/

namespace Verdict

namespace File

/-- What a node at a path has as a file, unless it is, or leads to, a directory. -/
def Node.bytesAt? (fs : System) (path : Path) : Node → Option (Except Fault (List UInt8))
  | .file bytes => some (openedBy path bytes)
  | .directory _ => none
  | .link _ => if fs.isDirectory path then none else some (fs.read path)

end File

namespace Fixture

open File (Path System Node)

/-! ### The order of a walk -/

/-- The names that lead to a file come before those that lead to another: the files of a directory
come by their names, before its subdirectories, and these come by their names. -/
inductive Precedes : List String → List String → Prop where
  | files {a b : String} (less : a < b) : Precedes [a] [b]
  | deeper {a b : String} {bs : List String} (deep : bs ≠ []) : Precedes [a] (b :: bs)
  | directories {a b : String} {as bs : List String} (less : a < b) (deep : as ≠ [])
      (deep' : bs ≠ []) : Precedes (a :: as) (b :: bs)
  | within {a : String} {as bs : List String} (inner : Precedes as bs) :
      Precedes (a :: as) (a :: bs)

namespace Precedes

theorem asymm {ns ms : List String} (h : Precedes ns ms) : ¬Precedes ms ns := by
  induction h with
  | files less =>
      rintro (less' | deep | ⟨_, deep, _⟩ | inner)
      · exact String.lt_asymm less less'
      · exact deep rfl
      · exact deep rfl
      · cases inner
  | deeper deep =>
      rintro (_ | _ | ⟨_, _, deep'⟩ | inner)
      · exact deep rfl
      · exact deep rfl
      · exact deep' rfl
      · cases inner
  | directories less deep deep' =>
      rintro (_ | _ | ⟨less', _, _⟩ | _)
      · exact deep rfl
      · exact deep' rfl
      · exact String.lt_asymm less less'
      · exact String.lt_irrefl _ less
  | within inner ih =>
      rintro (_ | _ | ⟨less, _, _⟩ | inner')
      · cases inner
      · cases inner
      · exact String.lt_irrefl _ less
      · exact ih inner'

theorem append {ns ms : List String} (h : Precedes ns ms) :
    ∀ place : List String, Precedes (place ++ ns) (place ++ ms)
  | [] => h
  | _ :: place => .within (h.append place)

/-- Things in the order of a walk, by their names, are determined by which they are. -/
theorem eq_of_pairwise {α : Type} (names : α → List String) {l l' : List α}
    (ordered : l.Pairwise fun a b => Precedes (names a) (names b))
    (ordered' : l'.Pairwise fun a b => Precedes (names a) (names b))
    (same : ∀ a, a ∈ l ↔ a ∈ l') : l = l' := by
  have nodup {l : List α} (h : l.Pairwise fun a b => Precedes (names a) (names b)) : l.Nodup :=
    h.imp fun precedes => by
      rintro rfl
      exact precedes.asymm precedes
  refine List.Perm.eq_of_pairwise ?_ ordered ordered'
    ((List.perm_ext_iff_of_nodup (nodup ordered) (nodup ordered')).mpr same)
  intro a b _ _ before after
  exact absurd after before.asymm

end Precedes

/-! ### Things in the order of their names -/

theorem mem_inOrder {α : Type} {items : List (String × α)} {x : α} :
    x ∈ inOrder items ↔ ∃ name, (name, x) ∈ items := by
  simp [inOrder]

/-- Things with different names are in the order of their names. -/
theorem pairwise_inOrder {α : Type} {items : List (String × α)} {R : α → α → Prop}
    (distinct : (items.map (·.1)).Nodup)
    (h : ∀ a x b y, (a, x) ∈ items → (b, y) ∈ items → a < b → R x y) :
    (inOrder items).Pairwise R := by
  let le (p q : String × α) : Bool := Text.atMost p.1 q.1
  have perm : (items.mergeSort le).Perm items := List.mergeSort_perm items le
  have sorted : (items.mergeSort le).Pairwise fun p q => le p q = true := by
    refine List.pairwise_mergeSort ?_ ?_ items
    · intro p q r hpq hqr
      simp only [le, Text.atMost, decide_eq_true_eq] at hpq hqr ⊢
      exact String.le_trans hpq hqr
    · intro p q
      simp only [le, Text.atMost, Bool.or_eq_true, decide_eq_true_eq]
      exact String.le_total p.1 q.1
  have different : (items.mergeSort le).Pairwise fun p q => p.1 ≠ q.1 :=
    List.pairwise_map.mp ((perm.map Prod.fst).nodup_iff.mpr distinct)
  refine List.pairwise_map.mpr ((sorted.and different).imp_of_mem ?_)
  rintro ⟨a, x⟩ ⟨b, y⟩ hx hy ⟨atMost, ne⟩
  simp only [le, Text.atMost, decide_eq_true_eq] at atMost
  exact h a x b y (perm.mem_iff.mp hx) (perm.mem_iff.mp hy) (Std.lt_of_le_of_ne atMost ne)

/-- What is taken from entries under their names has different names as well. -/
theorem filterMap_names_nodup {α β : Type} {entries : List (String × α)}
    {f : String × α → Option (String × β)} (named : ∀ p q, f p = some q → q.1 = p.1)
    (distinct : (entries.map (·.1)).Nodup) : ((entries.filterMap f).map (·.1)).Nodup := by
  refine distinct.sublist ?_
  clear distinct
  induction entries with
  | nil => exact .slnil
  | cons p rest ih =>
      cases taken : f p with
      | none =>
          rw [List.filterMap_cons_none taken]
          exact ih.cons _
      | some q =>
          rw [List.filterMap_cons_some taken, List.map_cons, List.map_cons, named p q taken]
          exact ih.cons_cons _

section Walk

variable {fs : System} {top : Path} {passedOver : List String}

/-! ### The entries of a directory -/

/-- The entry at a place as a file that is met. -/
def metAt? (fs : System) (top : Path) (place : List String) (entry : String × Node) :
    Option (String × Met) :=
  let names := place ++ [entry.1]
  (entry.2.bytesAt? fs (top.join ⟨"", names⟩)).map fun bytes => (entry.1, ⟨names, bytes⟩)

/-- The entry at a place as a directory that is entered, with the files below it. -/
def enteredAt? (fs : System) (top : Path) (passedOver place : List String)
    (entry : String × Node) : Option (String × List Met) :=
  if passedOver.contains entry.1 then none
  else match entry.2 with
    | .directory inner =>
      some (entry.1, filesBelow fs top passedOver (place ++ [entry.1]) (.directory inner))
    | _ => none

theorem filesAt_eq (place : List String) : ∀ entries : List (String × Node),
    filesAt fs top place entries = entries.filterMap (metAt? fs top place)
  | [] => rfl
  | (name, node) :: rest => by
      have ih := filesAt_eq place rest
      cases node with
      | file | directory => simp only [filesAt, ih, List.filterMap_cons]; rfl
      | link =>
          simp only [filesAt, ih, List.filterMap_cons, metAt?, Node.bytesAt?]
          split <;> rfl

theorem directoriesAt_eq (place : List String) : ∀ entries : List (String × Node),
    directoriesAt fs top passedOver place entries =
      entries.filterMap (enteredAt? fs top passedOver place)
  | [] => by simp [directoriesAt]
  | (name, node) :: rest => by
      have ih := directoriesAt_eq place rest
      cases node <;> simp only [directoriesAt, ih, List.filterMap_cons, enteredAt?] <;>
        split <;> rfl

theorem mem_filesAt {place : List String} {entries : List (String × Node)} {name : String}
    {m : Met} : (name, m) ∈ filesAt fs top place entries ↔
      ∃ node, (name, node) ∈ entries ∧ m.names = place ++ [name] ∧
        node.bytesAt? fs (top.join ⟨"", m.names⟩) = some m.bytes := by
  rw [filesAt_eq, List.mem_filterMap]
  constructor
  · rintro ⟨⟨other, node⟩, among, taken⟩
    obtain ⟨bytes, found, met⟩ := Option.map_eq_some_iff.mp taken
    obtain ⟨rfl, rfl⟩ := Prod.mk.inj met
    exact ⟨node, among, rfl, found⟩
  · rintro ⟨node, among, names, found⟩
    obtain ⟨_, bytes⟩ := m
    obtain rfl := names
    exact ⟨(name, node), among, Option.map_eq_some_iff.mpr ⟨bytes, found, rfl⟩⟩

theorem mem_directoriesAt {place : List String} {entries : List (String × Node)} {name : String}
    {ms : List Met} : (name, ms) ∈ directoriesAt fs top passedOver place entries ↔
      ∃ inner, (name, Node.directory inner) ∈ entries ∧ passedOver.contains name = false ∧
        ms = filesBelow fs top passedOver (place ++ [name]) (.directory inner) := by
  rw [directoriesAt_eq, List.mem_filterMap]
  constructor
  · rintro ⟨⟨_, node⟩, among, taken⟩
    unfold enteredAt? at taken
    split at taken
    · cases taken
    · next entered =>
        split at taken
        · next inner isDirectory =>
            obtain ⟨rfl, rfl⟩ := Prod.mk.inj (Option.some.inj taken)
            obtain rfl : node = .directory inner := isDirectory
            exact ⟨inner, among, Bool.eq_false_iff.mpr entered, rfl⟩
        · cases taken
  · rintro ⟨inner, among, entered, rfl⟩
    exact ⟨(name, .directory inner), among, by simp only [enteredAt?, entered]; rfl⟩

theorem filesAt_names_nodup {place : List String} {entries : List (String × Node)}
    (distinct : (Table.keys entries).Nodup) :
    ((filesAt fs top place entries).map (·.1)).Nodup := by
  rw [filesAt_eq]
  refine filterMap_names_nodup (fun p q taken => ?_) distinct
  obtain ⟨bytes, -, rfl⟩ := Option.map_eq_some_iff.mp taken
  rfl

theorem directoriesAt_names_nodup {place : List String} {entries : List (String × Node)}
    (distinct : (Table.keys entries).Nodup) :
    ((directoriesAt fs top passedOver place entries).map (·.1)).Nodup := by
  rw [directoriesAt_eq]
  refine filterMap_names_nodup (fun p q taken => ?_) distinct
  unfold enteredAt? at taken
  split at taken
  · cases taken
  · split at taken
    · obtain rfl := Option.some.inj taken
      rfl
    · cases taken

/-! ### Walks -/

/-- **What a walk meets.**  Below a place it meets what the tree has at the end of names, unless
that is, or leads to, a directory, or stands in a directory that is passed over or has a path that
is too long. -/
theorem mem_filesBelow {node : Node} (tidy : node.IsTidy) : ∀ {place : List String} {m : Met},
    m ∈ filesBelow fs top passedOver place node ↔
      ∃ names found, names ≠ [] ∧ m.names = place ++ names ∧
        (∀ name ∈ names.dropLast, passedOver.contains name = false) ∧
        (top.join ⟨"", m.names.dropLast⟩).isTooLong = false ∧
        node.at? names = some found ∧
        found.bytesAt? fs (top.join ⟨"", m.names⟩) = some m.bytes := by
  induction tidy with
  | file | link =>
      intro place m
      simp only [filesBelow, List.not_mem_nil, false_iff]
      rintro ⟨names, found, nonempty, -, -, -, there, -⟩
      cases names with
      | nil => exact nonempty rfl
      | cons => cases there
  | @directory entries distinct named inner ih =>
      intro place m
      have atEntry {name : String} {child : Node} (among : (name, child) ∈ entries)
          (rest : List String) : (Node.directory entries).at? (name :: rest) = child.at? rest := by
        rw [Node.at?, (Table.get?_eq_some_iff distinct).mpr among, Option.bind_some]
      rw [filesBelow]
      split
      · next long =>
          -- no directory below has a shorter path
          refine iff_of_false List.not_mem_nil ?_
          rintro ⟨names, found, nonempty, path, -, short, -, -⟩
          rw [path, List.dropLast_append_of_ne_nil nonempty] at short
          simp [Path.isTooLong_of_longer short] at long
      next short =>
      rw [List.mem_append, mem_inOrder, List.mem_flatten]
      constructor
      -- a file of the directory is at the end of one name, one of a subdirectory at that of more
      · rintro (⟨name, file⟩ | ⟨ms, entered, below⟩)
        · obtain ⟨node, among, names, bytes⟩ := mem_filesAt.mp file
          refine ⟨[name], node, by simp, names, by simp, ?_, ?_, bytes⟩
          · simpa [names] using short
          · rw [atEntry among, Node.at?]
        · obtain ⟨name, entered⟩ := mem_inOrder.mp entered
          obtain ⟨deeper, among, notPassed, rfl⟩ := mem_directoriesAt.mp entered
          obtain ⟨names, found, nonempty, path, notPassed', listed, there, bytes⟩ :=
            (ih _ _ among).mp below
          refine ⟨name :: names, found, by simp, by simp [path], ?_, listed, ?_, bytes⟩
          · rw [List.dropLast_cons_of_ne_nil nonempty]
            exact List.forall_mem_cons.mpr ⟨notPassed, notPassed'⟩
          · rw [atEntry among, there]
      · rintro ⟨names, found, nonempty, path, notPassed, listed, there, bytes⟩
        obtain ⟨name, rest, rfl⟩ := List.exists_cons_of_ne_nil nonempty
        obtain ⟨child, entry, there⟩ := Option.bind_eq_some_iff.mp there
        have among := Table.mem_of_get? entry
        cases rest with
        | nil =>
            obtain rfl : child = found := by
              cases child <;> exact Option.some.inj there
            exact .inl ⟨name, mem_filesAt.mpr ⟨child, among, path, bytes⟩⟩
        | cons next rest =>
            -- only a directory has something at the end of further names
            cases child with
            | file | link => cases there
            | directory deeper =>
                rw [List.dropLast_cons_of_ne_nil (List.cons_ne_nil _ _)] at notPassed
                obtain ⟨notPassed, notPassed'⟩ := List.forall_mem_cons.mp notPassed
                refine .inr ⟨_, mem_inOrder.mpr ⟨name, mem_directoriesAt.mpr
                  ⟨deeper, among, notPassed, rfl⟩⟩, ?_⟩
                refine (ih _ _ among).mpr
                  ⟨next :: rest, found, by simp, ?_, notPassed', listed, there, bytes⟩
                simpa using path

/-- **The order of a walk**: the files of a directory by their names, then those of its
subdirectories. -/
theorem pairwise_filesBelow {node : Node} (tidy : node.IsTidy) : ∀ {place : List String},
    (filesBelow fs top passedOver place node).Pairwise fun m m' => Precedes m.names m'.names := by
  induction tidy with
  | file | link =>
      intro place
      rw [filesBelow]
      · exact .nil
      · nofun
  | @directory entries distinct named inner ih =>
      intro place
      have ofFile {name : String} {m : Met} (h : (name, m) ∈ filesAt fs top place entries) :
          m.names = place ++ [name] := by
        obtain ⟨-, -, names, -⟩ := mem_filesAt.mp h
        exact names
      have ofDirectory {name : String} {ms : List Met}
          (h : (name, ms) ∈ directoriesAt fs top passedOver place entries) {m : Met}
          (hm : m ∈ ms) : ∃ rest, rest ≠ [] ∧ m.names = place ++ name :: rest := by
        obtain ⟨deeper, among, -, rfl⟩ := mem_directoriesAt.mp h
        obtain ⟨rest, -, nonempty, names, -⟩ := (mem_filesBelow (inner _ _ among)).mp hm
        exact ⟨rest, nonempty, by rw [names, List.append_assoc, List.singleton_append]⟩
      rw [filesBelow]
      split
      · exact .nil
      rw [List.pairwise_append, List.pairwise_flatten]
      -- among the files, in one subdirectory, across two of them, and between files and these
      refine ⟨?_, ⟨?_, ?_⟩, ?_⟩
      · refine pairwise_inOrder (filesAt_names_nodup distinct) fun a m b m' hm hm' less => ?_
        rw [ofFile hm, ofFile hm']
        exact (Precedes.files less).append place
      · intro ms hms
        obtain ⟨name, hms⟩ := mem_inOrder.mp hms
        obtain ⟨deeper, among, -, rfl⟩ := mem_directoriesAt.mp hms
        exact ih _ _ among
      · refine pairwise_inOrder (directoriesAt_names_nodup distinct) ?_
        intro a ms b ms' hms hms' less m hm m' hm'
        obtain ⟨rest, deep, names⟩ := ofDirectory hms hm
        obtain ⟨rest', deep', names'⟩ := ofDirectory hms' hm'
        rw [names, names']
        exact (Precedes.directories less deep deep').append place
      · intro m hm m' hm'
        obtain ⟨name, hm⟩ := mem_inOrder.mp hm
        obtain ⟨ms', hms', hm'⟩ := List.mem_flatten.mp hm'
        obtain ⟨name', hms'⟩ := mem_inOrder.mp hms'
        obtain ⟨rest', deep, names'⟩ := ofDirectory hms' hm'
        rw [ofFile hm, names']
        exact (Precedes.deeper deep).append place

/-- **A walk is determined** by what it meets: a list of the same files in the order of a walk is
the walk. -/
theorem filesBelow_eq {node : Node} (tidy : node.IsTidy) {place : List String} {ms : List Met}
    (ordered : ms.Pairwise fun m m' => Precedes m.names m'.names)
    (same : ∀ m, m ∈ filesBelow fs top passedOver place node ↔ m ∈ ms) :
    filesBelow fs top passedOver place node = ms := by
  exact Precedes.eq_of_pairwise Met.names (pairwise_filesBelow tidy) ordered same

end Walk

end Fixture

end Verdict
