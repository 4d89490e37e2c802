import Verdict.Fixture.Loader
import Verdict.Proofs.Fixture.Walk
import Verdict.Proofs.Json.LineEnds

/-!
# Fixtures: directories and bundles

The same files can be loaded from a directory and from a bundle.  A file of a directory is read as
a text, so its line ends become line feeds; in a bundle a content is written as a string of JSON,
which keeps them.

* `loadDirectory_eq`, `unpack_bundleOf`: what is loaded from either, file by file.
* `manifestOf_unified`: the manifest is the same for both, since line ends do not matter in JSON.
* `short_of_agrees`: a file with a path that is too long is in the project of a bundle only.
* `load_agrees_iff`: so a directory and a bundle of the same files agree exactly if no file has a
  return in it or too long a path, unless the manifest has too much of something: then neither is
  loaded.
-/

namespace Verdict

/-- The text with line feeds for its line ends. -/
def Text.unified (s : String) : String :=
  String.ofList (unifyLineEnds s.toList)

/-- A text stays as it is exactly if it has no return. -/
theorem Text.unified_eq_self_iff {s : String} : Text.unified s = s ↔ '\r' ∉ s.toList := by
  rw [← unifyLineEnds_eq_self_iff, ← String.toList_inj, unified, String.toList_ofList]

/-- The data of two projects agree, apart from their names. -/
structure Project.Agrees (p q : Project) : Prop where
  listing : p.listing = q.listing
  files : ∀ path, p.files.get? path = q.files.get? path
  manifest : p.manifest = q.manifest

namespace Fixture

open File (Path System Node)

/-- A regular file that holds a text: the names that lead to it, its bytes, and the text. -/
structure TextFile where
  names : List String
  bytes : List UInt8
  text : String
  decoded : Text.decode bytes = .ok text.toList

/-- The path of the file from the top. -/
def TextFile.path (f : TextFile) : String := "/".intercalate f.names

/-- The path by which the file is opened from a directory is not too long. -/
def TextFile.IsShortFrom (f : TextFile) (top : Path) : Prop :=
  (top.join ⟨"", f.names⟩).isTooLong = false

/-- A directory holds the files and no others, and they are in the order of a walk.  None of them
is below a directory that the settings pass over, or too large for them. -/
structure Holds (settings : FixtureSettings) (entries : List (String × Node))
    (files : List TextFile) : Prop where
  tidy : (Node.directory entries).IsTidy
  linkless : ∀ names target, (Node.directory entries).at? names ≠ some (.link target)
  holds : ∀ names bytes, (Node.directory entries).at? names = some (.file bytes) ↔
    ∃ f ∈ files, f.names = names ∧ f.bytes = bytes
  ordered : files.Pairwise fun f g => Precedes f.names g.names
  entered : ∀ f ∈ files, ∀ name ∈ f.names.dropLast, name ∉ settings.passedOver
  small : ∀ f ∈ files, (f.bytes.length : Int) ≤ settings.sizeLimit

/-- The bundle of files: a mapping with each of them under its path. -/
def bundleOf (files : List TextFile) : Value :=
  .mapping [(.text "files", .mapping (files.map fun f => (.text f.path, .text f.text)))]

/-! ### Paths -/

/-- Names without separators are determined by the path that they write. -/
theorem intercalate_injective {ns ms : List String} (nonempty : ns ≠ []) (nonempty' : ms ≠ [])
    (whole : ∀ n ∈ ns, '/' ∉ n.toList) (whole' : ∀ m ∈ ms, '/' ∉ m.toList)
    (same : "/".intercalate ns = "/".intercalate ms) : ns = ms := by
  -- the names are what stands between the separators of their path
  have split {ls : List String} (nonempty : ls ≠ []) (whole : ∀ l ∈ ls, '/' ∉ l.toList) :
      List.splitOn '/' ("/".intercalate ls).toList = ls.map String.toList := by
    rw [String.toList_intercalate]
    refine List.splitOn_intercalate '/' ?_ (by simpa using nonempty)
    simpa using whole
  have chars : ns.map String.toList = ms.map String.toList := by
    rw [← split nonempty whole, ← split nonempty' whole', same]
  exact (List.map_inj_right fun _ _ => String.toList_inj.mp).mp chars

theorem whole_of_at? {node : Node} (tidy : node.IsTidy) : ∀ {names : List String} {found : Node},
    node.at? names = some found → ∀ name ∈ names, '/' ∉ name.toList := by
  induction tidy with
  | file | link =>
      intro names found there
      cases names with
      | nil => simp
      | cons => cases there
  | @directory entries distinct named inner ih =>
      intro names found there
      cases names with
      | nil => simp
      | cons name rest =>
          obtain ⟨child, entry, there⟩ := Option.bind_eq_some_iff.mp there
          have among := Table.mem_of_get? entry
          exact List.forall_mem_cons.mpr ⟨named _ _ among, ih _ _ among there⟩

namespace Holds

variable {settings : FixtureSettings} {entries : List (String × Node)} {files : List TextFile}

theorem at? (held : Holds settings entries files) {f : TextFile} (hf : f ∈ files) :
    (Node.directory entries).at? f.names = some (.file f.bytes) :=
  (held.holds f.names f.bytes).mpr ⟨f, hf, rfl, rfl⟩

theorem names_ne_nil (held : Holds settings entries files) {f : TextFile} (hf : f ∈ files) :
    f.names ≠ [] := by
  intro empty
  have there := held.at? hf
  rw [empty] at there
  cases there

/-- No two files have one path. -/
theorem paths_nodup (held : Holds settings entries files) : (files.map TextFile.path).Nodup := by
  refine List.pairwise_map.mpr (held.ordered.imp_of_mem ?_)
  intro f g hf hg before same
  have names := intercalate_injective (held.names_ne_nil hf) (held.names_ne_nil hg)
    (whole_of_at? held.tidy (held.at? hf)) (whole_of_at? held.tidy (held.at? hg)) same
  rw [names] at before
  exact before.asymm before

/-- A walk over the directory meets the files, in their order. -/
theorem filesBelow_eq (held : Holds settings entries files) (fs : System) {top : Path}
    (short : ∀ f ∈ files, f.IsShortFrom top) :
    filesBelow fs top settings.passedOver [] (.directory entries) =
      files.map fun f => ⟨f.names, .ok f.bytes⟩ := by
  refine Fixture.filesBelow_eq held.tidy (List.pairwise_map.mpr held.ordered) fun m => ?_
  rw [mem_filesBelow held.tidy, List.mem_map]
  constructor
  · rintro ⟨names, found, -, path, -, -, there, bytes⟩
    obtain ⟨_, _⟩ := m
    obtain rfl : _ = names := path
    cases found with
    | file =>
        obtain ⟨f, hf, rfl, rfl⟩ := (held.holds _ _).mp there
        have opened := File.openedBy_of_short (short f hf) f.bytes
        exact ⟨f, hf, congrArg (Met.mk f.names) (opened.symm.trans (Option.some.inj bytes))⟩
    | directory => cases bytes
    | link => exact absurd there (held.linkless _ _)
  · rintro ⟨f, hf, rfl⟩
    refine ⟨f.names, .file f.bytes, held.names_ne_nil hf, rfl, fun name hname => ?_,
      Path.isTooLong_dropLast (short f hf), held.at? hf,
      congrArg some (File.openedBy_of_short (short f hf) _)⟩
    simpa using held.entered f hf name hname

/-- What is met under the path of a file and can be read has a path that is not too long. -/
theorem isShortFrom_of_met (held : Holds settings entries files) {fs : System} {top : Path}
    {m : Met} (met : m ∈ filesBelow fs top settings.passedOver [] (.directory entries))
    {bytes : List UInt8} (stored : m.bytes = .ok bytes) {f : TextFile} (hf : f ∈ files)
    (same : m.path = f.path) : f.IsShortFrom top := by
  obtain ⟨names, found, nonempty, path, -, -, there, read⟩ := (mem_filesBelow held.tidy).mp met
  obtain rfl : m.names = names := path
  have names : m.names = f.names := intercalate_injective nonempty (held.names_ne_nil hf)
    (whole_of_at? held.tidy there) (whole_of_at? held.tidy (held.at? hf)) same
  obtain rfl := Option.some.inj (there.symm.trans (names ▸ held.at? hf))
  have opened := (Option.some.inj read).trans stored
  rw [names] at opened
  exact (File.openedBy_eq_ok_iff.mp opened).1

end Holds

/-! ### Loading -/

section Loading

variable {settings : FixtureSettings} {entries : List (String × Node)} {files : List TextFile}

/-- Files under their paths, with a content of each. -/
def filed (files : List TextFile) (content : String → String) : Table String String :=
  files.map fun f => (f.path, content f.text)

theorem ofBytes_textFile (f : TextFile) : Text.ofBytes f.bytes = .ok (Text.unified f.text) := by
  rw [Text.ofBytes, f.decoded]
  rfl

/-- What is loaded from a directory. -/
theorem loadDirectory_eq (held : Holds settings entries files) {fs : System} {top : Path}
    (found : fs.find top = .ok (.directory entries)) (short : ∀ f ∈ files, f.IsShortFrom top) :
    loadDirectory fs settings top = assemble settings top.name (filed files Text.unified) [] := by
  have selected : (filesBelow fs top settings.passedOver [] (.directory entries)).map
      (Met.select top settings.sizeLimit) =
        files.map fun f => .text f.path (Text.unified f.text) := by
    rw [held.filesBelow_eq fs short, List.map_map]
    refine List.map_congr_left fun f hf => ?_
    have small : ¬settings.sizeLimit < f.bytes.length := Int.not_lt.mpr (held.small f hf)
    simp only [Function.comp_apply, Met.select, if_neg small, ofBytes_textFile]
    rfl
  have texts : textsOf (files.map fun f => Selected.text f.path (Text.unified f.text)) =
      filed files Text.unified := by
    rw [textsOf, List.filterMap_map]
    exact congrFun List.filterMap_eq_map files
  have warnings : warningsOf (files.map fun f => Selected.text f.path (Text.unified f.text)) =
      [] := by
    simp [warningsOf]
  simp only [loadDirectory, found, selected, texts, warnings]

theorem filesOf_texts : ∀ files : List TextFile,
    filesOf (files.map fun f => (Atom.text f.path, Value.text f.text)) = (filed files id, [])
  | [] => rfl
  | f :: files => by
      rw [List.map_cons, filesOf, filesOf_texts files]
      rfl

/-- What is loaded from a bundle. -/
theorem unpack_bundleOf (files : List TextFile) (usualName location : String) :
    unpack settings usualName location (bundleOf files) =
      assemble settings usualName (filed files id) [] := by
  have held : (bundleOf files).field? "files" =
      some (.mapping (files.map fun f => (.text f.path, .text f.text))) := rfl
  have unnamed : (bundleOf files).field? "name" = none := rfl
  have noManifest : heldManifest? (bundleOf files) = none := rfl
  simp only [unpack, held, unnamed, noManifest, filesOf_texts]
  rfl

/-! ### Manifests -/

/-- The manifest that a reading of a text leads to.  Of what is wrong with the text only an excess
counts. -/
def manifestIn : Except (Option Json.Excess) Value → Except Json.Excess (Table String Value)
  | .ok (.mapping pairs) => .ok (pairs.map fun (k, v) => (k.fieldName, v))
  | .ok _ => .ok []
  | .error none => .ok []
  | .error (some excess) => .error excess

/-- Apart from warnings, the manifest in a text is what its reading leads to. -/
theorem manifestOf_eq (fileName content : String) : (manifestOf fileName content).map (·.1) =
    manifestIn ((Json.read content.toList).mapError Json.Fault.excess?) := by
  by_cases empty : content = ""
  · subst empty
    rfl
  · have nonempty : content.isEmpty = false := by simpa using empty
    simp only [manifestOf, nonempty, Bool.false_eq_true, if_false]
    cases Json.read content.toList with
    | ok data => cases data <;> rfl
    | error fault => cases fault <;> rfl

/-- **The manifest** in a text is the one in the text with line feeds for its line ends. -/
theorem manifestOf_unified (fileName content : String) :
    (manifestOf fileName (Text.unified content)).map (·.1) =
      (manifestOf fileName content).map (·.1) := by
  rw [manifestOf_eq, manifestOf_eq, Text.unified, String.toList_ofList, Json.read_unifyLineEnds]

/-- A manifest has too much of something exactly if its text does. -/
theorem manifestOf_error_iff {fileName content : String} {excess : Json.Excess} :
    (manifestOf fileName content).map (·.1) = .error excess ↔
      Json.read content.toList = .error (.excessive excess) := by
  rw [manifestOf_eq]
  cases Json.read content.toList with
  | ok data => cases data <;> simp [manifestIn, Except.mapError]
  | error fault => cases fault <;> simp [manifestIn, Except.mapError, Json.Fault.excess?]

/-- What files lead to, but for warnings. -/
theorem assemble_outcome (name : String) (files : Table String String) (warnings : List String) :
    (assemble settings name files warnings).outcome =
      match (manifestOf settings.manifestFile
          ((files.get? settings.manifestFile).getD "")).map (·.1) with
      | .ok manifest => .ok (.ofFiles files manifest name)
      | .error excess => .error (.excessive excess) := by
  unfold assemble
  cases manifestOf settings.manifestFile ((files.get? settings.manifestFile).getD "") <;> rfl

/-- The files of a project are those that it is made of. -/
theorem files_of_assemble {name : String} {pairs : Table String String} {warnings : List String}
    {p : Project} (ok : (assemble settings name pairs warnings).outcome = .ok p) :
    p.files = Table.ofPairs pairs := by
  rw [assemble_outcome] at ok
  split at ok
  · cases ok
    rfl
  · cases ok

/-- What is selected as a text can be read. -/
theorem Met.of_select_eq_text {m : Met} {top : Path} {sizeLimit : Int} {path content : String}
    (selected : m.select top sizeLimit = .text path content) :
    m.path = path ∧ ∃ bytes, m.bytes = .ok bytes := by
  unfold Met.select at selected
  split at selected
  · cases selected
  next bytes stored =>
  refine ⟨?_, bytes, stored⟩
  split at selected
  · cases selected
  · split at selected <;> cases selected
    rfl

theorem exists_of_mem_textsOf {ms : List Met} {top : Path} {sizeLimit : Int}
    {path content : String}
    (among : (path, content) ∈ textsOf (ms.map (Met.select top sizeLimit))) :
    ∃ m ∈ ms, m.path = path ∧ ∃ bytes, m.bytes = .ok bytes := by
  obtain ⟨s, hs, isText⟩ := List.mem_filterMap.mp among
  obtain ⟨m, hm, selected⟩ := List.mem_map.mp hs
  cases s with
  | text => exact ⟨m, hm, Met.of_select_eq_text (selected.trans (by cases isText; rfl))⟩
  | warning | left => cases isText

/-! ### Agreement -/

theorem get?_filed (content : String → String) (path : String) : ∀ files : List TextFile,
    (filed files content).get? path = ((filed files id).get? path).map content
  | [] => rfl
  | f :: files => by
      have ih := get?_filed content path files
      unfold filed at ih ⊢
      simp only [List.map_cons, Table.get?, ih]
      split <;> rfl

/-- The text of the manifest among files, which is empty if there is none. -/
def manifestText (settings : FixtureSettings) (files : List TextFile) : String :=
  ((filed files id).get? settings.manifestFile).getD ""

/-- The manifest among files has too much of something. -/
def ManifestExceeds (settings : FixtureSettings) (files : List TextFile)
    (excess : Json.Excess) : Prop :=
  ∃ f ∈ files, f.path = settings.manifestFile ∧
    Json.read f.text.toList = .error (.excessive excess)

theorem manifestText_filed_unified (files : List TextFile) :
    ((filed files Text.unified).get? settings.manifestFile).getD "" =
      Text.unified (manifestText settings files) := by
  rw [get?_filed, manifestText]
  cases (filed files id).get? settings.manifestFile <;> rfl

theorem Holds.get?_filed (held : Holds settings entries files) {f : TextFile} (hf : f ∈ files) :
    (filed files id).get? f.path = some f.text := by
  refine (Table.get?_eq_some_iff ?_).mpr (List.mem_map_of_mem hf)
  rw [Table.keys, filed, List.map_map]
  exact held.paths_nodup

theorem Holds.read_manifestText_iff (held : Holds settings entries files) {excess : Json.Excess} :
    Json.read (manifestText settings files).toList = .error (.excessive excess) ↔
      ManifestExceeds settings files excess := by
  constructor
  · intro read
    cases found : (filed files id).get? settings.manifestFile with
    | none =>
        rw [manifestText, found] at read
        cases read
    | some text =>
        obtain ⟨f, hf, same⟩ := List.mem_map.mp (Table.mem_of_get? found)
        obtain ⟨path, rfl⟩ := Prod.mk.inj same
        rw [manifestText, found] at read
        exact ⟨f, hf, path, read⟩
  · rintro ⟨f, hf, path, read⟩
    rw [manifestText, ← path, held.get?_filed hf]
    exact read

theorem Holds.ofFiles_files (held : Holds settings entries files) (content : String → String)
    (manifest : Table String Value) (name : String) :
    (Project.ofFiles (filed files content) manifest name).files = filed files content := by
  refine Table.ofPairs_of_nodup ?_
  rw [Table.keys, filed, List.map_map]
  exact held.paths_nodup

theorem Holds.ofFiles_listing (held : Holds settings entries files) (content : String → String)
    (manifest : Table String Value) (name : String) :
    (Project.ofFiles (filed files content) manifest name).listing = files.map TextFile.path := by
  show Table.keys (Project.ofFiles (filed files content) manifest name).files = _
  rw [held.ofFiles_files, Table.keys, filed, List.map_map]
  rfl

/-- A file that is in the projects of a directory and of a bundle has a path that is not too long. -/
theorem short_of_agrees (held : Holds settings entries files) {fs : System} {top : Path}
    (found : fs.find top = .ok (.directory entries)) {p q : Project} {name : String}
    (ok : (loadDirectory fs settings top).outcome = .ok p)
    (ok' : (assemble settings name (filed files id) []).outcome = .ok q) (agrees : p.Agrees q) :
    ∀ f ∈ files, f.IsShortFrom top := by
  intro f hf
  have content : p.files.get? f.path = some f.text := by
    have distinct : (Table.keys (filed files id)).Nodup := by
      rw [Table.keys, filed, List.map_map]
      exact held.paths_nodup
    rw [agrees.files, files_of_assemble ok', Table.ofPairs_of_nodup distinct, held.get?_filed hf]
  rw [loadDirectory, found] at ok
  rw [files_of_assemble ok] at content
  rcases Table.get?_insertAll_cases _ content with old | among
  · cases old
  · obtain ⟨m, met, same, bytes, stored⟩ := exists_of_mem_textsOf among
    exact held.isShortFrom_of_met met stored hf same

/-- **What both lead to.**  Neither is loaded if the manifest has too much of something.  Otherwise
both are, with the same listing and manifest, and with the files as they are stored. -/
theorem assemble_alike (held : Holds settings entries files) (name name' : String) :
    let fromDirectory := (assemble settings name (filed files Text.unified) []).outcome
    let fromBundle := (assemble settings name' (filed files id) []).outcome
    (∀ excess, ManifestExceeds settings files excess →
      fromDirectory = .error (.excessive excess) ∧ fromBundle = .error (.excessive excess)) ∧
    ((∀ excess, ¬ManifestExceeds settings files excess) →
      ∃ p q, fromDirectory = .ok p ∧ fromBundle = .ok q ∧ p.listing = q.listing ∧
        p.manifest = q.manifest ∧ p.files = filed files Text.unified ∧
        q.files = filed files id) := by
  intro fromDirectory fromBundle
  have directory : fromDirectory = _ := assemble_outcome name _ _
  have bundle : fromBundle = _ := assemble_outcome name' _ _
  rw [manifestText_filed_unified, manifestOf_unified] at directory
  rw [← manifestText] at bundle
  constructor
  · intro excess exceeds
    have refused : (manifestOf settings.manifestFile (manifestText settings files)).map (·.1) =
        .error excess := manifestOf_error_iff.mpr (held.read_manifestText_iff.mpr exceeds)
    rw [refused] at directory bundle
    exact ⟨directory, bundle⟩
  · intro moderate
    cases found : (manifestOf settings.manifestFile (manifestText settings files)).map (·.1) with
    | error excess =>
        exact absurd (held.read_manifestText_iff.mp (manifestOf_error_iff.mp found))
          (moderate excess)
    | ok manifest =>
        rw [found] at directory bundle
        refine ⟨.ofFiles (filed files Text.unified) manifest name,
          .ofFiles (filed files id) manifest name', directory, bundle, ?_, rfl,
          held.ofFiles_files .., held.ofFiles_files ..⟩
        rw [held.ofFiles_listing, held.ofFiles_listing]

end Loading

/-! ### Places -/

/-- The place is that of a directory with the files, to which a path leads. -/
structure LeadsToDirectory (host : Host) (settings : FixtureSettings) (place : String) (top : Path)
    (files : List TextFile) : Prop where
  noAddress : isAddress place = false
  located : locate host settings place = .ok top
  directory : ∃ entries, host.files.find top = .ok (.directory entries) ∧
    Holds settings entries files

/-- The place is that of a file with the bundle of the files, in any notation of JSON. -/
structure LeadsToBundle (host : Host) (settings : FixtureSettings) (place : String)
    (files : List TextFile) : Prop where
  noAddress : isAddress place = false
  bundle : ∃ path bytes content, locate host settings place = .ok path ∧
    host.files.read path = .ok bytes ∧ Text.ofBytes bytes = .ok content ∧
    Json.read content.toList = .ok (bundleOf files)

section Places

variable {host : Host} {settings : FixtureSettings} {place place' : String} {top : Path}
  {files : List TextFile}

theorem LeadsToDirectory.load_eq (h : LeadsToDirectory host settings place top files)
    (answers : Network.Answers) :
    load host answers settings place = loadDirectory host.files settings top := by
  obtain ⟨entries, found, -⟩ := h.directory
  have isDirectory : host.files.isDirectory top = true := by
    simp only [System.isDirectory, found]
  rw [load, if_neg (by simp [h.noAddress]), h.located]
  simp only [isDirectory, if_true]

theorem LeadsToBundle.load_eq (h : LeadsToBundle host settings place files)
    (answers : Network.Answers) : ∃ name,
      load host answers settings place = assemble settings name (filed files id) [] := by
  obtain ⟨path, bytes, content, located, stored, decoded, parses⟩ := h.bundle
  have isFile : host.files.isDirectory path = false := by
    simp only [System.isDirectory, System.find_of_read stored]
  refine ⟨path.stem, ?_⟩
  rw [load, if_neg (by simp [h.noAddress]), located]
  simp only [isFile, Bool.false_eq_true, if_false, loadBundle, stored, decoded, parses]
  exact unpack_bundleOf files _ _

/-- **When a directory and a bundle agree.**  Loaded from either, the same files lead to projects
that agree exactly if no file has a return in it or too long a path, and the manifest has not too
much of anything.  Suppose that no path is too long.  If the manifest has too much of something,
neither is loaded; if a file has a return, only contents differ, and only in line ends. -/
theorem load_agrees_iff (directory : LeadsToDirectory host settings place top files)
    (bundle : LeadsToBundle host settings place' files) (answers : Network.Answers) :
    let fromDirectory := (load host answers settings place).outcome
    let fromBundle := (load host answers settings place').outcome
    ((∃ p q, fromDirectory = .ok p ∧ fromBundle = .ok q ∧ p.Agrees q) ↔
      (∀ f ∈ files, '\r' ∉ f.text.toList) ∧ (∀ f ∈ files, f.IsShortFrom top) ∧
        ∀ excess, ¬ManifestExceeds settings files excess) ∧
    ((∀ f ∈ files, f.IsShortFrom top) →
      (∀ excess, ManifestExceeds settings files excess →
        fromDirectory = .error (.excessive excess) ∧ fromBundle = .error (.excessive excess)) ∧
      ((∀ excess, ¬ManifestExceeds settings files excess) →
        ∃ p q, fromDirectory = .ok p ∧ fromBundle = .ok q ∧ p.listing = q.listing ∧
          p.manifest = q.manifest ∧
          ∀ path, p.files.get? path = (q.files.get? path).map Text.unified)) := by
  intro fromDirectory fromBundle
  obtain ⟨entries, found, held⟩ := directory.directory
  obtain ⟨name, loaded'⟩ := bundle.load_eq answers
  have loaded := directory.load_eq answers
  have alike (short : ∀ f ∈ files, f.IsShortFrom top) := by
    have both := assemble_alike held top.name name
    rw [← loadDirectory_eq held found short, ← loaded, ← loaded'] at both
    exact both
  refine ⟨⟨?_, ?_⟩, fun short => ⟨(alike short).1, fun moderate => ?_⟩⟩
  · rintro ⟨p, q, ok, ok', agrees⟩
    have short : ∀ f ∈ files, f.IsShortFrom top :=
      short_of_agrees held found ((congrArg Loading.outcome loaded).symm.trans ok)
        ((congrArg Loading.outcome loaded').symm.trans ok') agrees
    have moderate : ∀ excess, ¬ManifestExceeds settings files excess := fun excess exceeds => by
      cases ok.symm.trans ((alike short).1 excess exceeds).1
    -- the content of a file agrees only if its text is the one with line feeds
    refine ⟨fun f hf => ?_, short, moderate⟩
    obtain ⟨_, _, same, same', -, -, unified, plain⟩ := (alike short).2 moderate
    obtain rfl := Except.ok.inj (ok.symm.trans same)
    obtain rfl := Except.ok.inj (ok'.symm.trans same')
    have content := agrees.files f.path
    rw [unified, plain, get?_filed, held.get?_filed hf] at content
    exact Text.unified_eq_self_iff.mp (Option.some.inj content)
  · rintro ⟨noReturn, short, moderate⟩
    obtain ⟨p, q, ok, ok', listing, manifest, unified, plain⟩ := (alike short).2 moderate
    have same : filed files Text.unified = filed files id :=
      List.map_congr_left fun f hf =>
        congrArg (f.path, ·) (Text.unified_eq_self_iff.mpr (noReturn f hf))
    refine ⟨p, q, ok, ok', listing, fun path => ?_, manifest⟩
    rw [unified, plain, same]
  · obtain ⟨p, q, ok, ok', listing, manifest, unified, plain⟩ := (alike short).2 moderate
    refine ⟨p, q, ok, ok', listing, manifest, fun path => ?_⟩
    rw [unified, plain, get?_filed]

end Places

/-! ### Two hosts with one file -/

/-- The bytes of a text in ASCII. -/
def asciiOf (s : String) : List UInt8 := s.toList.map fun c => UInt8.ofNat c.toNat

/-- A host with a directory that holds one file, and with a bundle beside it. -/
def oneFileHost (name : String) (bytes bundle : List UInt8) : Host where
  files := { root := .directory [("app", .directory [(name, .file bytes)]),
                                 ("app.json", .file bundle)] }

section Host

variable {name : String} {bytes bundle : List UInt8}

/-- A place is located if its path, which begins at no home, leads to something. -/
theorem locate_of_find {host : Host} {place : String} {path : Path} {node : Node}
    (own : ownPath host place = .ok path) (askable : System.isAskable path = true)
    (found : host.files.find path = .ok node) (settings : FixtureSettings) :
    locate host settings place = .ok path := by
  simp [locate, own, firstThere?, System.exists?, askable, found, bind, Except.bind,
    pure, Except.pure, Except.mapError]

/-- What stands at the root under a name of usual length, and is no link, is found by its name. -/
theorem find_atRoot {entries : List (String × Node)} {name : String} {node : Node}
    (entry : Table.get? entries name = some node) (noLink : ∀ target, node ≠ .link target)
    (short : name.utf8ByteSize ≤ File.maxNameBytes) (noStep : name ≠ ".." ∧ name ≠ ".") :
    ({ root := .directory entries } : System).find ⟨"", [name]⟩ = .ok node := by
  have shortPath : (⟨"", [name]⟩ : Path).isTooLong = false := by
    have : File.maxNameBytes < File.maxPathBytes := by decide
    simp only [Path.isTooLong, Path.size_text, String.intercalate_singleton, String.empty_append,
      decide_eq_false_iff_not]
    omega
  have shortName : ¬File.maxNameBytes < name.utf8ByteSize := Nat.not_lt.mpr short
  have there : (Node.directory entries).at? [name] = some node := by simp [Node.at?, entry]
  have located : ({ root := .directory entries } : System).locate ⟨"", [name]⟩ = .ok [name] := by
    rw [System.locate, shortPath]
    cases node with
    | link target => exact absurd rfl (noLink target)
    | file | directory =>
        simp [File.trace, Node.at?, entry, shortName, noStep, Path.isAbsolute]
  rw [System.find, located]
  simp only [bind, Except.bind, there]
  rfl

theorem ownPath_app (host : Host) : ownPath host "app" = .ok ⟨"", ["app"]⟩ := by
  have path : Path.ofText "app" = ⟨"", ["app"]⟩ := by decide
  rw [ownPath, path]
  rfl

theorem ownPath_appJson (host : Host) : ownPath host "app.json" = .ok ⟨"", ["app.json"]⟩ := by
  have path : Path.ofText "app.json" = ⟨"", ["app.json"]⟩ := by decide
  rw [ownPath, path]
  rfl

theorem at?_oneFile {ns : List String} {found : Node}
    (there : (Node.directory [(name, .file bytes)]).at? ns = some found) :
    ns = [] ∧ found = .directory [(name, .file bytes)] ∨ ns = [name] ∧ found = .file bytes := by
  cases ns with
  | nil => exact .inl ⟨rfl, (Option.some.inj there).symm⟩
  | cons n rest =>
      obtain ⟨child, entry, there⟩ := Option.bind_eq_some_iff.mp there
      obtain ⟨rfl, rfl⟩ := Prod.mk.inj (List.mem_singleton.mp (Table.mem_of_get? entry))
      cases rest with
      | nil => exact .inr ⟨rfl, (Option.some.inj there).symm⟩
      | cons => cases there

/-- A directory with one file holds it. -/
theorem holds_oneFile (f : TextFile) (names : f.names = [name]) (whole : '/' ∉ name.toList)
    {settings : FixtureSettings} (small : (f.bytes.length : Int) ≤ settings.sizeLimit) :
    Holds settings [(name, .file f.bytes)] [f] where
  tidy := .directory (by simp [Table.keys]) (by simpa using whole)
    (by simp only [List.mem_singleton]; rintro _ _ ⟨⟩; exact .file)
  linkless := by
    intro ns target there
    rcases at?_oneFile there with ⟨-, found⟩ | ⟨-, found⟩ <;> cases found
  holds := by
    intro ns bytes
    constructor
    · intro there
      rcases at?_oneFile there with ⟨-, found⟩ | ⟨rfl, found⟩
      · cases found
      · cases found
        exact ⟨f, List.mem_singleton_self f, names, rfl⟩
    · rintro ⟨g, hg, rfl, rfl⟩
      obtain rfl := List.mem_singleton.mp hg
      rw [names]
      simp [Node.at?, Table.get?]
  ordered := List.pairwise_singleton _ _
  entered := by simp [names]
  small := by simpa using small

/-- The directory leads to its file. -/
theorem leadsToDirectory_oneFile (f : TextFile) (names : f.names = [name])
    (whole : '/' ∉ name.toList)
    (small : (f.bytes.length : Int) ≤ ({} : FixtureSettings).sizeLimit) :
    LeadsToDirectory (oneFileHost name f.bytes bundle) {} "app" ⟨"", ["app"]⟩ [f] := by
  have found : (oneFileHost name f.bytes bundle).files.find ⟨"", ["app"]⟩ =
      .ok (.directory [(name, .file f.bytes)]) :=
    find_atRoot rfl nofun (by decide) (by decide)
  exact ⟨by decide, locate_of_find (ownPath_app _) (by decide) found _, _, found,
    holds_oneFile f names whole small⟩

/-- The file beside it leads to its bundle. -/
theorem leadsToBundle_oneFile (f : TextFile) {content : String}
    (decoded : Text.ofBytes bundle = .ok content)
    (parses : Json.read content.toList = .ok (bundleOf [f])) :
    LeadsToBundle (oneFileHost name bytes bundle) {} "app.json" [f] := by
  have found : (oneFileHost name bytes bundle).files.find ⟨"", ["app.json"]⟩ =
      .ok (.file bundle) :=
    find_atRoot rfl nofun (by decide) (by decide)
  have stored : (oneFileHost name bytes bundle).files.read ⟨"", ["app.json"]⟩ = .ok bundle := by
    rw [System.read, found]
    rfl
  exact ⟨by decide +kernel, _, _, _,
    locate_of_find (ownPath_appJson _) (by decide) found _, stored, decoded, parses⟩

end Host

/-- A manifest with line feeds only. -/
def plainManifest : TextFile where
  names := ["package.json"]
  bytes := asciiOf "\x7b\n\"name\": \"demo\"\x7d\n"
  text := "\x7b\n\"name\": \"demo\"\x7d\n"
  decoded := by decide

/-- Its bundle. -/
def plainBundle : String :=
  "\x7b\"files\": \x7b\"package.json\": \"\x7b\\n\\\"name\\\": \\\"demo\\\"\x7d\\n\"\x7d\x7d"

/-- Without returns, the directory and the bundle lead to projects that agree. -/
theorem load_agrees_plain :
    let host := oneFileHost "package.json" plainManifest.bytes (asciiOf plainBundle)
    ∃ p q, (load host {} {} "app").outcome = .ok p ∧ (load host {} {} "app.json").outcome = .ok q ∧
      p.Agrees q := by
  intro host
  have directory : LeadsToDirectory host {} "app" ⟨"", ["app"]⟩ [plainManifest] :=
    leadsToDirectory_oneFile plainManifest rfl (by decide) (by decide)
  have decoded : Text.ofBytes (asciiOf plainBundle) = .ok plainBundle := by decide
  have parses : Json.read plainBundle.toList = .ok (bundleOf [plainManifest]) := by rfl
  have bundle : LeadsToBundle host {} "app.json" [plainManifest] :=
    leadsToBundle_oneFile plainManifest decoded parses
  refine (load_agrees_iff directory bundle {}).1.mpr ⟨?_, ?_, ?_⟩
  · intro f hf
    obtain rfl := List.mem_singleton.mp hf
    decide
  · intro f hf
    obtain rfl := List.mem_singleton.mp hf
    exact (by decide : (Path.isTooLong ⟨"", ["app", "package.json"]⟩) = false)
  · rintro excess ⟨f, hf, -, read⟩
    obtain rfl := List.mem_singleton.mp hf
    have sound : Json.read plainManifest.text.toList =
        .ok (.mapping [(.text "name", .text "demo")]) := by rfl
    cases sound.symm.trans read

/-- A file with a return before a feed. -/
def returnFile : TextFile where
  names := ["notes.txt"]
  bytes := asciiOf "a\r\nb"
  text := "a\r\nb"
  decoded := by decide

/-- Its bundle. -/
def returnBundle : String :=
  "\x7b\"files\": \x7b\"notes.txt\": \"a\\r\\nb\"\x7d\x7d"

/-- The return is lost in the project of the directory, and kept in that of the bundle. -/
theorem load_disagrees_return :
    let host := oneFileHost "notes.txt" returnFile.bytes (asciiOf returnBundle)
    LeadsToDirectory host {} "app" ⟨"", ["app"]⟩ [returnFile] ∧
      LeadsToBundle host {} "app.json" [returnFile] ∧
      ∃ p q, (load host {} {} "app").outcome = .ok p ∧
        (load host {} {} "app.json").outcome = .ok q ∧
        p.files.get? "notes.txt" = some "a\nb" ∧ q.files.get? "notes.txt" = some "a\r\nb" := by
  intro host
  have directory : LeadsToDirectory host {} "app" ⟨"", ["app"]⟩ [returnFile] :=
    leadsToDirectory_oneFile returnFile rfl (by decide) (by decide)
  have decoded : Text.ofBytes (asciiOf returnBundle) = .ok returnBundle := by decide
  have parses : Json.read returnBundle.toList = .ok (bundleOf [returnFile]) := by rfl
  have bundle : LeadsToBundle host {} "app.json" [returnFile] :=
    leadsToBundle_oneFile returnFile decoded parses
  refine ⟨directory, bundle, ?_⟩
  have loaded := directory.load_eq {}
  obtain ⟨name, loaded'⟩ := bundle.load_eq {}
  obtain ⟨entries, found, held⟩ := directory.directory
  have short : ∀ f ∈ [returnFile], f.IsShortFrom ⟨"", ["app"]⟩ := by
    intro f hf
    obtain rfl := List.mem_singleton.mp hf
    exact (by decide : (Path.isTooLong ⟨"", ["app", "notes.txt"]⟩) = false)
  rw [loadDirectory_eq held found short] at loaded
  have moderate : ∀ excess, ¬ManifestExceeds {} [returnFile] excess := by
    rintro excess ⟨f, hf, path, -⟩
    obtain rfl := List.mem_singleton.mp hf
    exact absurd path (by decide)
  obtain ⟨p, q, ok, ok', -, -, unified, plain⟩ := (assemble_alike held _ name).2 moderate
  refine ⟨p, q, loaded ▸ ok, loaded' ▸ ok', ?_, ?_⟩
  · rw [unified]
    decide
  · rw [plain]
    decide

end Fixture

end Verdict
