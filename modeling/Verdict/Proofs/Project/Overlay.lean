import Verdict.Proofs.Table
import Verdict.Simulation.Run

/-!
# Projects: files laid over others

A project keeps its files twice: with their contents, and as a listing.  The two stay in step
whatever is laid over the project (`IsMade.isListed`), for the listing is extended as the keys of a
table are (`Table.keys_insertAll`).

* `withFiles_withFiles`, `withFiles_idem`: files laid over a project one after the other are laid
  over it at once, and a second time they change nothing.
* `mem_descriptors`: the descriptors are those of the files, each with the content that it has.
* `withFiles_acts`: so tables of files, merged one into the other, act on projects.
-/

namespace Verdict

namespace Project

/-- The listing names the files in their order, each once. -/
structure IsListed (p : Project) : Prop where
  listing : p.listing = p.files.keys
  distinct : p.files.keys.Nodup

/-- Projects of files, and what comes of them by laying files over them. -/
inductive IsMade : Project → Prop
  | ofFiles (files : List (String × String)) (manifest : Table String Value) (name : String) :
      IsMade (.ofFiles files manifest name)
  | withFiles {p : Project} (made : IsMade p) (extra : Table String String) :
      IsMade (p.withFiles extra)

end Project

/-- The keys of a table are extended as a listing is. -/
theorem Table.keys_insertAll {α : Type} : ∀ (pairs : List (String × α)) (t : Table String α),
    (t.insertAll pairs).keys = Project.extendListing t.keys (keys pairs)
  | [], _ => rfl
  | (key, a) :: rest, t => by
      have step : (t.insert key a).keys =
          if t.keys.contains key then t.keys else t.keys ++ [key] := by
        split
        · next old =>
            exact keys_insert_of_has t a (has_iff_mem_keys.mpr (List.contains_iff_mem.mp old))
        · next new =>
            have absent : ¬t.has key = true := fun present =>
              new (List.contains_iff_mem.mpr (has_iff_mem_keys.mp present))
            exact keys_insert_of_not_has t a (by simpa using absent)
      show ((t.insert key a).insertAll rest).keys = _
      rw [keys_insertAll rest, step]
      rfl

namespace Project

variable {p : Project}

/-! ### Listings -/

theorem isListed_ofFiles (files : List (String × String)) (manifest : Table String Value)
    (name : String) : (ofFiles files manifest name).IsListed where
  listing := rfl
  distinct := Table.nodup_keys_insertAll files List.nodup_nil

theorem IsListed.withFiles (listed : p.IsListed) (extra : Table String String) :
    (p.withFiles extra).IsListed where
  listing := by
    show extendListing p.listing extra.keys = (p.files.insertAll extra).keys
    rw [Table.keys_insertAll, listed.listing]
  distinct := Table.nodup_keys_insertAll extra listed.distinct

/-- **The listing** and the files stay in step. -/
theorem IsMade.isListed (made : p.IsMade) : p.IsListed := by
  induction made with
  | ofFiles files manifest name => exact isListed_ofFiles files manifest name
  | withFiles _ extra ih => exact ih.withFiles extra

/-! ### Overlays -/

/-- Of listed projects that share the rest only the files need be compared. -/
theorem eq_of_files {p q : Project} (hp : p.IsListed) (hq : q.IsListed) (name : p.name = q.name)
    (manifest : p.manifest = q.manifest) (files : p.files = q.files) : p = q := by
  have listing : p.listing = q.listing := by rw [hp.listing, hq.listing, files]
  cases p
  cases q
  exact (mk.injEq ..).mpr ⟨name, files, manifest, listing⟩

theorem withFiles_withFiles (listed : p.IsListed) {a : Table String String}
    (ha : a.keys.Nodup) (b : Table String String) :
    (p.withFiles a).withFiles b = p.withFiles (a.insertAll b) :=
  eq_of_files ((listed.withFiles a).withFiles b) (listed.withFiles _) rfl rfl
    (Table.insertAll_insertAll b ha)

theorem withFiles_idem (listed : p.IsListed) {a : Table String String} (ha : a.keys.Nodup) :
    (p.withFiles a).withFiles a = p.withFiles a :=
  eq_of_files ((listed.withFiles a).withFiles a) (listed.withFiles a) rfl rfl
    (Table.insertAll_idem p.files ha)

/-! ### Descriptors -/

theorem map_path_descriptors (p : Project) : p.descriptors.map (·.path) = p.listing := by
  rw [descriptors, List.map_map]
  exact List.map_id p.listing

/-- Every file is described with its content, and nothing else is. -/
theorem mem_descriptors (listed : p.IsListed) {path content : String} :
    ⟨path, content⟩ ∈ p.descriptors ↔ p.files.get? path = some content := by
  rw [descriptors, List.mem_map, listed.listing]
  constructor
  · rintro ⟨path', hpath, described⟩
    obtain ⟨rfl, rfl⟩ := Descriptor.mk.inj described
    obtain ⟨content, found⟩ := Option.isSome_iff_exists.mp (Table.has_iff_mem_keys.mpr hpath)
    rw [contentOf, found, Option.getD_some]
  · intro found
    refine ⟨path, Table.has_iff_mem_keys.mp (Option.isSome_iff_exists.mpr ⟨content, found⟩), ?_⟩
    rw [describe, contentOf, found, Option.getD_some]

/-- A run of no project of its own is about the loaded project with the files that it is asked to
lay over it; that there may be none makes no difference. -/
theorem projectFor_withFiles {s : Snapshot} {q : RunRequest} (loaded : s.project = some p)
    (noOwn : q.own = none) : s.projectFor q = some (p.withFiles q.extra) := by
  rw [Snapshot.projectFor, noOwn, loaded]
  cases extra : q.extra with
  | nil => rfl
  | cons => rfl

/-- **Tables of files act on projects.**  The listing of a project that is made of files is that of
its files, each once.  No files laid over it change nothing, files laid over it one after the other
are those of the merged table, and the same files a second time change nothing.  Each file is
described once, with the content that is laid over it, if there is one, and else with its own.  A
run that is asked to lay files over the loaded project is about that project. -/
theorem withFiles_acts (made : p.IsMade) {a : Table String String} (ha : a.keys.Nodup)
    (b : Table String String) :
    (p.listing = p.files.keys ∧ p.listing.Nodup) ∧
      p.withFiles [] = p ∧
      (p.withFiles a).withFiles b = p.withFiles (a.insertAll b) ∧
      (p.withFiles a).withFiles a = p.withFiles a ∧
      ((p.withFiles a).descriptors.map (·.path) = (p.withFiles a).listing ∧
        (p.withFiles a).listing.Nodup ∧
        ∀ path content, ⟨path, content⟩ ∈ (p.withFiles a).descriptors ↔
          (a.get? path).or (p.files.get? path) = some content) ∧
      ∀ (s : Snapshot) (q : RunRequest), s.project = some p → q.own = none → q.extra = a →
        s.projectFor q = some (p.withFiles a) := by
  have listed := made.isListed
  have laid := listed.withFiles a
  refine ⟨⟨listed.listing, listed.listing ▸ listed.distinct⟩, rfl,
    withFiles_withFiles listed ha b, withFiles_idem listed ha,
    ⟨map_path_descriptors _, laid.listing ▸ laid.distinct, fun path content => ?_⟩, ?_⟩
  · rw [mem_descriptors laid, ← Table.get?_insertAll p.files ha]
    rfl
  · rintro s q loaded noOwn rfl
    exact projectFor_withFiles loaded noOwn

/-- Files of which some are there already, laid over a project in two steps. -/
theorem withFiles_acts_overlapping :
    let p := ofFiles [("a.txt", "1"), ("b.txt", "2")] [] defaultName
    let a : Table String String := [("b.txt", "3"), ("c.txt", "4")]
    p.IsMade ∧ a.keys.Nodup ∧
      (p.withFiles a).withFiles [("d.txt", "5"), ("c.txt", "6")] =
        p.withFiles [("b.txt", "3"), ("c.txt", "6"), ("d.txt", "5")] ∧
      (p.withFiles a).listing = ["a.txt", "b.txt", "c.txt"] ∧
      ⟨"b.txt", "3"⟩ ∈ (p.withFiles a).descriptors := by
  intro p a
  have made : p.IsMade := .ofFiles ..
  have distinct : a.keys.Nodup := by decide
  have merged : a.insertAll [("d.txt", "5"), ("c.txt", "6")] =
      [("b.txt", "3"), ("c.txt", "6"), ("d.txt", "5")] := by decide
  obtain ⟨-, -, twice, -, ⟨-, -, described⟩, -⟩ :=
    withFiles_acts made distinct [("d.txt", "5"), ("c.txt", "6")]
  exact ⟨made, distinct, by rw [twice, merged], by decide, (described _ _).mpr (by decide)⟩

end Project

end Verdict
