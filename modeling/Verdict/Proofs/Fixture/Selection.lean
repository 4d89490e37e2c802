import Verdict.Proofs.Fixture.Failure

/-!
# Fixtures: what is taken from a directory

Of what a walk meets, a loading takes what can be read, is not too large, and is a text (`IsTaken`).

* `mem_taken_iff`, `pairwise_taken`: which texts are taken, and in what order.
* `LeadsTo.outcome_eq`: the project is made of these texts; so it is the same wherever the same
  texts are taken (`LeadsTo.outcome_eq_of_same`).
* `IsTaken.of_within`: in a tree within another, nothing is taken that is not taken there.
* `load_selects`: what is loaded from a directory, however its entries are ordered, and what can be
  taken out without a change.
* `load_changed_by_brokenLink`: taking out what a link leads to is a change.
-/

namespace Verdict

/-- The host with another tree of files. -/
def Host.withRoot (host : Host) (root : File.Node) : Host :=
  { host with files := host.files.withRoot root }

namespace Fixture

open File (Path System Node)

section Taken

variable {fs : System} {settings : FixtureSettings} {top : Path} {directory : Node}
  {names : List String}

/-- There are bytes at the end of names below the top: those of a file there, if its path is not too
long, or those of the file to which a link there leads. -/
inductive Stores (fs : System) (top : Path) (directory : Node) (names : List String)
    (bytes : List UInt8) : Prop
  | file (there : directory.at? names = some (.file bytes))
    (short : (top.join ⟨"", names⟩).isTooLong = false)
  | link {target : String} (there : directory.at? names = some (.link target))
    (stored : fs.read (top.join ⟨"", names⟩) = .ok bytes)

/-- A text is taken: the bytes of a file that is not too large and in no directory that is passed
over are those of the text. -/
structure IsTaken (fs : System) (settings : FixtureSettings) (top : Path) (directory : Node)
    (names : List String) (text : String) : Prop where
  below : names ≠ []
  entered : ∀ name ∈ names.dropLast, name ∉ settings.passedOver
  stored : Stores fs top directory names (Text.encode text.toList)
  small : ((Text.encode text.toList).length : Int) ≤ settings.sizeLimit

/-- A file that is met as a text with the names that lead to it, if it is taken. -/
def Met.taken? (sizeLimit : Int) (m : Met) : Option (List String × String) :=
  match m.bytes with
  | .error _ => none
  | .ok bytes =>
    if sizeLimit < bytes.length then none
    else match Text.decode bytes with
      | .ok chars => some (m.names, String.ofList chars)
      | .error _ => none

/-- The texts that are taken from below a directory, in the order of the walk. -/
def taken (fs : System) (settings : FixtureSettings) (top : Path) (directory : Node) :
    List (List String × String) :=
  (filesBelow fs top settings.passedOver [] directory).filterMap (Met.taken? settings.sizeLimit)

theorem Met.taken?_eq_some_iff {m : Met} {sizeLimit : Int} {text : String} :
    m.taken? sizeLimit = some (names, text) ↔ m.names = names ∧
      m.bytes = .ok (Text.encode text.toList) ∧
      ((Text.encode text.toList).length : Int) ≤ sizeLimit := by
  unfold Met.taken?
  constructor
  · split
    · nofun
    next bytes stored =>
    split
    · nofun
    next small =>
    split
    · next chars decoded =>
        rintro ⟨⟩
        rw [String.toList_ofList, ← Text.decode_eq_ok_iff.mp decoded]
        exact ⟨rfl, stored, Int.not_lt.mp small⟩
    · nofun
  · rintro ⟨rfl, stored, small⟩
    have decoded : Text.decode (Text.encode text.toList) = .ok text.toList :=
      Text.decode_eq_ok_iff.mpr rfl
    simp only [stored, if_neg (Int.not_lt.mpr small), decoded, String.ofList_toList]

theorem bytesAt?_eq_ok_iff {found : Node} {path : Path} {bytes : List UInt8} :
    found.bytesAt? fs path = some (.ok bytes) ↔
      found = .file bytes ∧ path.isTooLong = false ∨
        ∃ target, found = .link target ∧ fs.read path = .ok bytes := by
  cases found with
  | file => simp [Node.bytesAt?, File.openedBy_eq_ok_iff, and_comm]
  | directory => simp [Node.bytesAt?]
  | link target =>
      simp only [Node.bytesAt?, reduceCtorEq, Node.link.injEq, exists_eq_left', false_and, false_or]
      constructor
      · split
        · intro same
          cases same
        · exact Option.some.inj
      · intro stored
        have noDirectory : fs.isDirectory path = false := by
          simp [System.isDirectory, System.find_of_read stored]
        simp [noDirectory, stored]

/-- What is stored somewhere has a path that is not too long. -/
theorem Stores.short {bytes : List UInt8} (stored : Stores fs top directory names bytes) :
    (top.join ⟨"", names⟩).isTooLong = false := by
  rcases stored with ⟨-, short⟩ | ⟨-, read⟩
  · exact short
  · exact System.isTooLong_of_find (System.find_of_read read)

/-- **Which texts are taken.** -/
theorem mem_taken_iff (tidy : directory.IsTidy) {text : String} :
    (names, text) ∈ taken fs settings top directory ↔
      IsTaken fs settings top directory names text := by
  rw [taken, List.mem_filterMap]
  constructor
  · rintro ⟨m, met, isTaken⟩
    obtain ⟨rfl, stored, small⟩ := Met.taken?_eq_some_iff.mp isTaken
    obtain ⟨_, found, below, rfl, entered, -, there, bytes⟩ := (mem_filesBelow tidy).mp met
    rw [stored, bytesAt?_eq_ok_iff] at bytes
    refine ⟨below, by simpa using entered, ?_, small⟩
    obtain ⟨rfl, short⟩ | ⟨target, rfl, read⟩ := bytes
    · exact .file there short
    · exact .link there read
  · rintro ⟨below, entered, stored, small⟩
    refine ⟨⟨names, .ok (Text.encode text.toList)⟩, (mem_filesBelow tidy).mpr ?_,
      Met.taken?_eq_some_iff.mpr ⟨rfl, rfl, small⟩⟩
    have listed := Path.isTooLong_dropLast stored.short
    rcases stored with ⟨there, short⟩ | ⟨there, read⟩
    · exact ⟨names, _, below, rfl, by simpa using entered, listed, there,
        bytesAt?_eq_ok_iff.mpr (.inl ⟨rfl, short⟩)⟩
    · exact ⟨names, _, below, rfl, by simpa using entered, listed, there,
        bytesAt?_eq_ok_iff.mpr (.inr ⟨_, rfl, read⟩)⟩

theorem pairwise_taken (tidy : directory.IsTidy) :
    (taken fs settings top directory).Pairwise fun t t' => Precedes t.1 t'.1 := by
  have walked : (filesBelow fs top settings.passedOver [] directory).Pairwise _ :=
    pairwise_filesBelow tidy
  refine walked.filterMap _ ?_
  rintro m m' before ⟨names, text⟩ isTaken ⟨names', text'⟩ isTaken'
  obtain ⟨rfl, -⟩ := Met.taken?_eq_some_iff.mp isTaken
  obtain ⟨rfl, -⟩ := Met.taken?_eq_some_iff.mp isTaken'
  exact before

/-- The texts of what is selected on a walk are those that are taken, under their paths. -/
theorem textsOf_select (ms : List Met) :
    textsOf (ms.map (Met.select top settings.sizeLimit)) =
      (ms.filterMap (Met.taken? settings.sizeLimit)).map fun t =>
        ("/".intercalate t.1, Text.unified t.2) := by
  rw [textsOf, List.filterMap_map, List.map_filterMap]
  refine List.filterMap_congr fun m _ => ?_
  simp only [Function.comp_apply, Met.select, Met.taken?]
  cases m.bytes with
  | error => rfl
  | ok bytes =>
      by_cases large : settings.sizeLimit < bytes.length
      · simp only [if_pos large]
        rfl
      · simp only [if_neg large, Text.ofBytes]
        cases Text.decode bytes with
        | error => rfl
        | ok chars =>
            simp [Text.unified, Met.path, bind, Except.bind, pure, Except.pure]

theorem IsTaken.whole {text : String} (isTaken : IsTaken fs settings top directory names text)
    (tidy : directory.IsTidy) : ∀ name ∈ names, '/' ∉ name.toList := by
  rcases isTaken.stored with ⟨there, -⟩ | ⟨there, -⟩ <;> exact whole_of_at? tidy there

/-- No two of the texts that are taken have one path. -/
theorem taken_paths_nodup (tidy : directory.IsTidy) :
    ((taken fs settings top directory).map fun t => "/".intercalate t.1).Nodup := by
  refine List.pairwise_map.mpr ((pairwise_taken tidy).imp_of_mem ?_)
  rintro ⟨names, text⟩ ⟨names', text'⟩ among among' before same
  have isTaken := (mem_taken_iff tidy).mp among
  have isTaken' := (mem_taken_iff tidy).mp among'
  obtain rfl : names = names' :=
    intercalate_injective isTaken.below isTaken'.below (isTaken.whole tidy) (isTaken'.whole tidy)
      same
  exact before.asymm before

end Taken

/-! ### Loading -/

/-- A location leads to a directory, by a path to a place in the tree. -/
structure LeadsTo (host : Host) (settings : FixtureSettings) (location : String) (top : Path)
    (start : List String) (entries : List (String × Node)) : Prop where
  noAddress : isAddress location = false
  placed : locate host settings location = .ok top
  located : host.files.locate top = .ok start
  there : host.files.root.at? start = some (.directory entries)

section Loading

variable {host host' : Host} {settings : FixtureSettings} {location : String} {top : Path}
  {start : List String} {entries entries' : List (String × Node)} {answers : Network.Answers}

theorem LeadsTo.at? (leads : LeadsTo host settings location top start entries)
    (names : List String) :
    (Node.directory entries).at? names = host.files.root.at? (start ++ names) := by
  rw [Node.at?_append, leads.there, Option.bind_some]

theorem LeadsTo.tidy (leads : LeadsTo host settings location top start entries)
    (tidy : host.files.root.IsTidy) : (Node.directory entries).IsTidy :=
  tidy.at? leads.there

/-- **The project is made of the texts that are taken.** -/
theorem LeadsTo.outcome_eq (leads : LeadsTo host settings location top start entries) :
    (load host answers settings location).outcome =
      (assemble settings top.name
        ((taken host.files settings top (.directory entries)).map fun t =>
          ("/".intercalate t.1, Text.unified t.2)) []).outcome := by
  have found : host.files.find top = .ok (.directory entries) :=
    System.find_of_locate leads.located leads.there
  have isDirectory : host.files.isDirectory top = true := by
    simp only [System.isDirectory, found]
  rw [load, if_neg (by simp [leads.noAddress]), leads.placed]
  simp only [isDirectory, if_true, loadDirectory, found, textsOf_select]
  rw [assemble_outcome, assemble_outcome, taken]

/-- Where the same texts are taken, the project is the same. -/
theorem LeadsTo.outcome_eq_of_same (leads : LeadsTo host settings location top start entries)
    (leads' : LeadsTo host' settings location top start entries')
    (tidy : host.files.root.IsTidy) (tidy' : host'.files.root.IsTidy)
    (same : ∀ names text, IsTaken host.files settings top (.directory entries) names text ↔
      IsTaken host'.files settings top (.directory entries') names text) :
    (load host' answers settings location).outcome =
      (load host answers settings location).outcome := by
  have alike : taken host'.files settings top (.directory entries') =
      taken host.files settings top (.directory entries) := by
    refine Precedes.eq_of_pairwise Prod.fst (pairwise_taken (leads'.tidy tidy'))
      (pairwise_taken (leads.tidy tidy)) ?_
    rintro ⟨names, text⟩
    rw [mem_taken_iff (leads'.tidy tidy'), mem_taken_iff (leads.tidy tidy), same]
  rw [leads'.outcome_eq, leads.outcome_eq, alike]

/-- In a tree within another, nothing is taken that is not taken there. -/
theorem IsTaken.of_within (within_ : host'.files.root.Within host.files.root)
    (same : host'.files.workingDirectory = host.files.workingDirectory)
    (leads' : LeadsTo host' settings location top start entries')
    (leads : LeadsTo host settings location top start entries) {names : List String}
    {text : String}
    (isTaken : IsTaken host'.files settings top (.directory entries') names text) :
    IsTaken host.files settings top (.directory entries) names text := by
  refine ⟨isTaken.below, isTaken.entered, ?_, isTaken.small⟩
  rcases isTaken.stored with ⟨there, short⟩ | ⟨there, stored⟩
  · rw [leads'.at?] at there
    exact .file (leads.at? names ▸ within_.file there) short
  · rw [leads'.at?] at there
    exact .link (leads.at? names ▸ within_.link there) (System.read_within within_ same stored)

/-! ### Other trees -/

/-- Where paths have something at their end on the one host as on the other, a location is placed
alike. -/
theorem locate_withRoot {root : Node}
    (alike : ∀ path, (host.withRoot root).files.exists? path = host.files.exists? path) :
    locate (host.withRoot root) settings location = locate host settings location := by
  have first (paths : List Path) :
      firstThere? (host.withRoot root) paths = firstThere? host paths := by
    induction paths with
    | nil => rfl
    | cons path paths ih => rw [firstThere?, firstThere?, alike, ih]
  have own : (host.withRoot root).expandHome (Path.ofText location) =
      host.expandHome (Path.ofText location) := rfl
  have directory : settings.directoryOn (host.withRoot root) = settings.directoryOn host := rfl
  rw [locate_eq, locate_eq, own, directory]
  simp only [first]

/-- In a tree with its entries in another order, a location leads to the same place. -/
theorem LeadsTo.of_shuffled (leads : LeadsTo host settings location top start entries) {root : Node}
    (shuffled : host.files.root.Shuffled root) :
    ∃ entries', LeadsTo (host.withRoot root) settings location top start entries' := by
  have within_ : host.files.root.Within (host.withRoot root).files.root := shuffled.within
  have within' : (host.withRoot root).files.root.Within host.files.root := shuffled.symm.within
  obtain ⟨entries', there⟩ := within_.directory leads.there
  refine ⟨entries', leads.noAddress, ?_, ?_, there⟩
  · rw [locate_withRoot (System.exists?_alike within' within_ rfl)]
    exact leads.placed
  · exact System.locate_within within_ rfl leads.located

/-- What stands at the end of names in a directory is not needed: no text is taken from there or
below, and the location and the links from which texts are taken still lead somewhere without it. -/
structure IsUnneeded (host : Host) (settings : FixtureSettings) (location : String) (top : Path)
    (start : List String) (entries : List (String × Node)) (gone : List String) : Prop where
  below : gone ≠ []
  notTaken : ∀ names text, IsTaken host.files settings top (.directory entries) names text →
    ¬gone <+: names
  placed : ∃ entries', LeadsTo (host.withRoot (host.files.root.without (start ++ gone))) settings
    location top start entries'
  linked : ∀ names text target,
    IsTaken host.files settings top (.directory entries) names text →
    (Node.directory entries).at? names = some (.link target) →
    ∃ bytes, (host.withRoot (host.files.root.without (start ++ gone))).files.read
      (top.join ⟨"", names⟩) = .ok bytes

/-- Without what is not needed, everything is still taken. -/
theorem IsTaken.of_isUnneeded {gone names : List String} {text : String}
    (unneeded : IsUnneeded host settings location top start entries gone)
    (leads : LeadsTo host settings location top start entries)
    (leads' : LeadsTo (host.withRoot (host.files.root.without (start ++ gone))) settings location
      top start entries')
    (isTaken : IsTaken host.files settings top (.directory entries) names text) :
    IsTaken (host.withRoot (host.files.root.without (start ++ gone))).files settings top
      (.directory entries') names text := by
  have apart : ¬start ++ gone <+: start ++ names :=
    mt (List.prefix_append_right_inj start).mp (unneeded.notTaken _ _ isTaken)
  -- where nothing was taken out, the same is there but for what is below
  have surface : ((Node.directory entries').at? names).map Node.surface =
      ((Node.directory entries).at? names).map Node.surface := by
    rw [leads'.at?, leads.at?]
    exact Node.at?_without_apart apart
  refine ⟨isTaken.below, isTaken.entered, ?_, isTaken.small⟩
  rcases isTaken.stored with ⟨there, short⟩ | ⟨there, stored⟩
  · rw [there] at surface
    obtain ⟨found, there', same⟩ := Option.map_eq_some_iff.mp surface
    exact .file (Node.eq_file_of_surface same ▸ there') short
  · obtain ⟨bytes, stored'⟩ := unneeded.linked _ _ _ isTaken there
    have within_ : (host.withRoot (host.files.root.without (start ++ gone))).files.root.Within
        host.files.root := Node.without_within _ _
    obtain rfl : _ = bytes :=
      Except.ok.inj (stored.symm.trans (System.read_within within_ rfl stored'))
    rw [there] at surface
    obtain ⟨found, there', same⟩ := Option.map_eq_some_iff.mp surface
    exact .link (Node.eq_link_of_surface same ▸ there') stored'

/-- Files whose manifest has not too much of anything make a project. -/
theorem assemble_ok {files : Table String String} (moderate : ¬HasExcessiveManifest settings files)
    (name : String) (warnings : List String) : ∃ manifest,
      (assemble settings name files warnings).outcome = .ok (.ofFiles files manifest name) := by
  have outcome : (assemble settings name files warnings).outcome = _ :=
    assemble_outcome name files warnings
  split at outcome
  · next manifest _ => exact ⟨manifest, outcome⟩
  · exact absurd ⟨_, outcome, rfl⟩ (mt escapes_assemble_iff.mp moderate)

/-- The manifest, if it is taken, has not too much of anything. -/
def IsModerate (fs : System) (settings : FixtureSettings) (top : Path) (directory : Node) : Prop :=
  ∀ names text, IsTaken fs settings top directory names text →
    "/".intercalate names = settings.manifestFile → ¬IsExcessive text.toList

/-- A project is loaded, with the texts that are taken under their paths. -/
theorem LeadsTo.loaded (leads : LeadsTo host settings location top start entries)
    (tidy : host.files.root.IsTidy)
    (moderate : IsModerate host.files settings top (.directory entries))
    (answers : Network.Answers) :
    let texts := taken host.files settings top (.directory entries)
    ∃ p, (load host answers settings location).outcome = .ok p ∧
      p.files = texts.map (fun t => ("/".intercalate t.1, Text.unified t.2)) ∧
      p.listing = texts.map (fun t => "/".intercalate t.1) := by
  intro texts
  let files := texts.map fun t => ("/".intercalate t.1, Text.unified t.2)
  have paths : Table.keys files = texts.map fun t => "/".intercalate t.1 := List.map_map
  have distinct : (Table.keys files).Nodup := paths ▸ taken_paths_nodup (leads.tidy tidy)
  have moderate' : ¬HasExcessiveManifest settings files := by
    rintro ⟨content, held, exceeds⟩
    obtain ⟨⟨names, text⟩, among, entry⟩ := List.mem_map.mp (Table.mem_of_get? held)
    obtain ⟨path, rfl⟩ := Prod.mk.inj entry
    rw [Text.unified, String.toList_ofList, isExcessive_unifyLineEnds] at exceeds
    exact moderate names text ((mem_taken_iff (leads.tidy tidy)).mp among) path exceeds
  obtain ⟨manifest, assembled⟩ := assemble_ok moderate' top.name []
  have filed : (Project.ofFiles files manifest top.name).files = files :=
    Table.ofPairs_of_nodup distinct
  exact ⟨_, leads.outcome_eq.trans assembled, filed, (congrArg Table.keys filed).trans paths⟩

/-- **What is loaded from a directory.**  If the manifest has not too much of anything, a project is
loaded whose files are the texts that are taken, under their paths, in the order of a walk, each
listed once.  It does not change if the entries of directories come in another order, or if
something is taken out that is not needed. -/
theorem load_selects (leads : LeadsTo host settings location top start entries)
    (tidy : host.files.root.IsTidy)
    (moderate : IsModerate host.files settings top (.directory entries))
    (answers : Network.Answers) :
    ∃ (p : Project) (texts : List (List String × String)),
      (load host answers settings location).outcome = .ok p ∧
      p.files = texts.map (fun t => ("/".intercalate t.1, Text.unified t.2)) ∧
      p.listing = texts.map (fun t => "/".intercalate t.1) ∧ p.listing.Nodup ∧
      texts.Pairwise (fun t t' => Precedes t.1 t'.1) ∧
      (∀ names text, (names, text) ∈ texts ↔
        IsTaken host.files settings top (.directory entries) names text) ∧
      (∀ root, host.files.root.Shuffled root →
        (load (host.withRoot root) answers settings location).outcome = .ok p) ∧
      ∀ gone, IsUnneeded host settings location top start entries gone →
        (load (host.withRoot (host.files.root.without (start ++ gone))) answers settings
          location).outcome = .ok p := by
  have tidyHere := leads.tidy tidy
  obtain ⟨p, loaded, filed, listed⟩ := leads.loaded tidy moderate answers
  refine ⟨p, _, loaded, filed, listed, listed ▸ taken_paths_nodup tidyHere,
    pairwise_taken tidyHere, fun _ _ => mem_taken_iff tidyHere, ?_, ?_⟩
  · intro root shuffled
    obtain ⟨entries', leads'⟩ := leads.of_shuffled shuffled
    have within_ : host.files.root.Within (host.withRoot root).files.root := shuffled.within
    have within' : (host.withRoot root).files.root.Within host.files.root := shuffled.symm.within
    refine (leads.outcome_eq_of_same leads' tidy (shuffled.tidy tidy) fun names text => ?_).trans
      loaded
    exact ⟨.of_within within_ rfl leads leads', .of_within within' rfl leads' leads⟩
  · intro gone unneeded
    obtain ⟨entries', leads'⟩ := unneeded.placed
    have within' : (host.withRoot (host.files.root.without (start ++ gone))).files.root.Within
        host.files.root := Node.without_within _ _
    refine (leads.outcome_eq_of_same leads' tidy tidy.without fun names text => ?_).trans loaded
    exact ⟨.of_isUnneeded unneeded leads leads', .of_within within' rfl leads' leads⟩

end Loading

/-! ### A directory with a link -/

section Linked

/-- A host with a directory. -/
def directoryHost (entries : List (String × Node)) : Host where
  files := { root := .directory [("app", .directory entries)] }

theorem leadsTo_app (entries : List (String × Node)) :
    LeadsTo (directoryHost entries) {} "app" ⟨"", ["app"]⟩ ["app"] entries := by
  have located : (directoryHost entries).files.locate ⟨"", ["app"]⟩ = .ok ["app"] := by
    rw [System.locate, if_neg (by decide)]
    exact (File.trace_step (by decide) rfl rfl (by simp)).trans (by rw [File.trace]; rfl)
  have there : (directoryHost entries).files.root.at? ["app"] = some (.directory entries) := rfl
  exact ⟨by decide, locate_of_find (ownPath_app _) (by decide)
    (System.find_of_locate located there) _, located, there⟩

/-- A text. -/
def greeting : String := "hello"

/-- A directory with a file in a subdirectory, one in a directory that is passed over, and a
link. -/
def linkedEntries (target : String) : List (String × Node) :=
  [("node_modules", .directory [("x.txt", .file (Text.encode greeting.toList))]),
    ("b", .directory [("c.txt", .file (Text.encode greeting.toList))]), ("a.txt", .link target)]

variable {entries inner : List (String × Node)} {target folder file : String}

theorem trace_linked (link : Table.get? entries "a.txt" = some (.link target))
    (steps : Path.stepsOf target = [folder, file])
    (relative : (Path.ofText target).isAbsolute = false) :
    (directoryHost entries).files.locate ⟨"", ["app", "a.txt"]⟩ =
      File.trace (directoryHost entries).files.root true 39 ["app"] [folder, file] := by
  rw [System.locate, if_neg (by decide)]
  calc File.trace (directoryHost entries).files.root true (39 + 1) [] ["app", "a.txt"]
      = File.trace (directoryHost entries).files.root true (39 + 1) ["app"] ["a.txt"] :=
        File.trace_step (by decide) rfl rfl (by simp)
    _ = File.trace (directoryHost entries).files.root true 39 ["app"] [folder, file] := by
        rw [File.trace_link (by decide) rfl link, steps, relative]
        rfl

/-- The link leads to a file in a subdirectory. -/
theorem read_linked (link : Table.get? entries "a.txt" = some (.link target))
    (steps : Path.stepsOf target = [folder, file])
    (relative : (Path.ofText target).isAbsolute = false) (proper : File.IsProper folder)
    (proper' : File.IsProper file) (entry : Table.get? entries folder = some (.directory inner))
    {bytes : List UInt8} (entry' : Table.get? inner file = some (.file bytes)) :
    (directoryHost entries).files.read ⟨"", ["app", "a.txt"]⟩ = .ok bytes := by
  have app : (directoryHost entries).files.root.at? ["app"] = some (.directory entries) := rfl
  have here : (directoryHost entries).files.root.at? ["app", folder] = some (.directory inner) :=
    (Node.at?_child app folder).trans entry
  have located : (directoryHost entries).files.locate ⟨"", ["app", "a.txt"]⟩ =
      .ok ["app", folder, file] := by
    rw [trace_linked link steps relative, File.trace_step proper rfl entry (by simp)]
    refine (File.trace_step proper' here entry' (by simp)).trans ?_
    rw [File.trace]
    rfl
  have there : (directoryHost entries).files.root.at? ["app", folder, file] =
      some (.file bytes) := (Node.at?_child here file).trans entry'
  rw [System.read, System.find_of_locate located there]
  rfl

/-- A directory without a manifest has a moderate one. -/
theorem isModerate_of_none (tidy : (Node.directory entries).IsTidy)
    (none : (Node.directory entries).at? ["package.json"] = none) (fs : System) (top : Path) :
    IsModerate fs {} top (.directory entries) := by
  intro names text isTaken path
  obtain rfl : names = ["package.json"] :=
    intercalate_injective isTaken.below (by simp) (isTaken.whole tidy) (by decide) path
  rcases isTaken.stored with ⟨there, -⟩ | ⟨there, -⟩ <;> cases none.symm.trans there

theorem tidy_linked (target : String) :
    (directoryHost (linkedEntries target)).files.root.IsTidy := by
  have leaf (name : String) (whole : '/' ∉ name.toList) (bytes : List UInt8) :
      (Node.directory [(name, .file bytes)]).IsTidy :=
    .directory (by simp [Table.keys]) (by simpa using whole)
      (by simp only [List.mem_singleton]; rintro _ _ ⟨⟩; exact .file)
  have inner : (Node.directory (linkedEntries target)).IsTidy := by
    refine .directory (by simp [Table.keys, linkedEntries]) ?_ ?_
    · simp only [linkedEntries, List.mem_cons, Prod.mk.injEq, List.not_mem_nil, or_false]
      rintro name node (⟨rfl, -⟩ | ⟨rfl, -⟩ | ⟨rfl, -⟩) <;> decide
    · simp only [linkedEntries, List.mem_cons, Prod.mk.injEq, List.not_mem_nil, or_false]
      rintro name node (⟨-, rfl⟩ | ⟨-, rfl⟩ | ⟨-, rfl⟩)
      · exact leaf _ (by decide) _
      · exact leaf _ (by decide) _
      · exact .link
  exact .directory (by simp [Table.keys]) (by simp)
    (by simp only [List.mem_singleton]; rintro _ _ ⟨⟩; exact inner)

/-- The link is the only one. -/
theorem eq_of_linked {names : List String} {other : String}
    (there : (Node.directory (linkedEntries target)).at? names = some (.link other)) :
    names = ["a.txt"] := by
  cases names with
  | nil => cases there
  | cons name rest =>
      obtain ⟨child, entry, there⟩ := Option.bind_eq_some_iff.mp there
      have among := Table.mem_of_get? entry
      simp only [linkedEntries, List.mem_cons, Prod.mk.injEq, List.not_mem_nil, or_false] at among
      rcases among with ⟨-, rfl⟩ | ⟨-, rfl⟩ | ⟨rfl, rfl⟩
      · rcases at?_oneFile there with ⟨-, found⟩ | ⟨-, found⟩ <;> cases found
      · rcases at?_oneFile there with ⟨-, found⟩ | ⟨-, found⟩ <;> cases found
      · cases rest with
        | nil => rfl
        | cons => cases there

/-- What is read through the link is taken. -/
theorem isTaken_linked {fs : System} {text : String}
    (link : Table.get? entries "a.txt" = some (.link target))
    (stored : fs.read ⟨"", ["app", "a.txt"]⟩ = .ok (Text.encode text.toList))
    (small : ((Text.encode text.toList).length : Int) ≤ ({} : FixtureSettings).sizeLimit) :
    IsTaken fs {} ⟨"", ["app"]⟩ (.directory entries) ["a.txt"] text :=
  ⟨by simp, by simp, .link (Option.bind_eq_some_iff.mpr ⟨_, link, rfl⟩) stored, small⟩

/-- The directory that is passed over is not needed if the link leads elsewhere. -/
theorem load_selects_linked :
    let entries := linkedEntries "b/c.txt"
    let host := directoryHost entries
    LeadsTo host {} "app" ⟨"", ["app"]⟩ ["app"] entries ∧ host.files.root.IsTidy ∧
      IsModerate host.files {} ⟨"", ["app"]⟩ (.directory entries) ∧
      IsUnneeded host {} "app" ⟨"", ["app"]⟩ ["app"] entries ["node_modules"] ∧
      ∃ p, (load host {} {} "app").outcome = .ok p ∧ "a.txt" ∈ p.listing ∧ p.listing.Nodup ∧
        (load (host.withRoot (host.files.root.without ["app", "node_modules"])) {} {}
          "app").outcome = .ok p := by
  intro entries host
  have leads : LeadsTo host {} "app" ⟨"", ["app"]⟩ ["app"] entries := leadsTo_app entries
  have tidy : host.files.root.IsTidy := tidy_linked _
  have moderate : IsModerate host.files {} ⟨"", ["app"]⟩ (.directory entries) :=
    isModerate_of_none (leads.tidy tidy) rfl _ _
  have steps : Path.stepsOf "b/c.txt" = ["b", "c.txt"] := by decide
  have stored (entries : List (String × Node))
      (link : Table.get? entries "a.txt" = some (.link "b/c.txt"))
      (entry : Table.get? entries "b" =
        some (.directory [("c.txt", .file (Text.encode greeting.toList))])) :
      (directoryHost entries).files.read ⟨"", ["app", "a.txt"]⟩ =
        .ok (Text.encode greeting.toList) :=
    read_linked link steps (by decide) (by decide) (by decide) entry rfl
  have unneeded : IsUnneeded host {} "app" ⟨"", ["app"]⟩ ["app"] entries ["node_modules"] := by
    refine ⟨by simp, ?_, ⟨_, leadsTo_app (Table.erase entries "node_modules")⟩, ?_⟩
    · rintro names text isTaken ⟨rest, rfl⟩
      cases rest with
      | nil => rcases isTaken.stored with ⟨there, -⟩ | ⟨there, -⟩ <;> cases there
      | cons => exact isTaken.entered "node_modules" (by simp) (by decide)
    · rintro names text target - there
      obtain rfl := eq_of_linked there
      exact ⟨_, stored (Table.erase entries "node_modules") rfl rfl⟩
  obtain ⟨p, texts, loaded, -, listed, distinct, -, among, -, without⟩ :=
    load_selects leads tidy moderate {}
  refine ⟨leads, tidy, moderate, unneeded, p, loaded, ?_, distinct, without _ unneeded⟩
  rw [listed]
  exact List.mem_map.mpr ⟨(["a.txt"], greeting),
    (among _ _).mpr (isTaken_linked rfl (stored _ rfl rfl) (by decide)), rfl⟩

/-- **A link that is broken.**  The directory that is passed over has what a link leads to, so
without it the project is another. -/
theorem load_changed_by_brokenLink :
    let host := directoryHost (linkedEntries "node_modules/x.txt")
    ∃ p q, (load host {} {} "app").outcome = .ok p ∧
      (load (host.withRoot (host.files.root.without ["app", "node_modules"])) {} {}
        "app").outcome = .ok q ∧
      "a.txt" ∈ p.listing ∧ "a.txt" ∉ q.listing := by
  intro host
  let entries := linkedEntries "node_modules/x.txt"
  let entries' := Table.erase entries "node_modules"
  have leads : LeadsTo host {} "app" ⟨"", ["app"]⟩ ["app"] entries := leadsTo_app entries
  have leads' : LeadsTo (directoryHost entries') {} "app" ⟨"", ["app"]⟩ ["app"] entries' :=
    leadsTo_app entries'
  have tidy : host.files.root.IsTidy := tidy_linked _
  have tidy' : (directoryHost entries').files.root.IsTidy := by
    show (host.files.root.without ["app", "node_modules"]).IsTidy
    exact tidy.without
  obtain ⟨p, loaded, -, listed⟩ :=
    leads.loaded tidy (isModerate_of_none (leads.tidy tidy) rfl _ _) {}
  obtain ⟨q, loaded', -, listed'⟩ :=
    leads'.loaded tidy' (isModerate_of_none (leads'.tidy tidy') rfl _ _) {}
  have steps : Path.stepsOf "node_modules/x.txt" = ["node_modules", "x.txt"] := by decide
  refine ⟨p, q, loaded, loaded', ?_, ?_⟩
  · have stored : host.files.read ⟨"", ["app", "a.txt"]⟩ = .ok (Text.encode greeting.toList) :=
      read_linked rfl steps (by decide) (by decide) (by decide) rfl rfl
    rw [listed]
    exact List.mem_map.mpr ⟨(["a.txt"], greeting),
      (mem_taken_iff (leads.tidy tidy)).mpr (isTaken_linked rfl stored (by decide)), rfl⟩
  · have lost : (directoryHost entries').files.locate ⟨"", ["app", "a.txt"]⟩ = .error .missing := by
      rw [trace_linked rfl steps (by decide)]
      exact File.trace_none (by decide) rfl rfl
    rw [listed']
    intro among
    obtain ⟨⟨names, text⟩, isTaken, path⟩ := List.mem_map.mp among
    have isTaken := (mem_taken_iff (leads'.tidy tidy')).mp isTaken
    obtain rfl : names = ["a.txt"] :=
      intercalate_injective isTaken.below (by simp) (isTaken.whole (leads'.tidy tidy')) (by decide)
        path
    rcases isTaken.stored with ⟨there, -⟩ | ⟨there, stored⟩
    · cases there
    · have found : (directoryHost entries').files.find ⟨"", ["app", "a.txt"]⟩ = .ok _ :=
        System.find_of_read stored
      rw [System.find, lost] at found
      cases found

end Linked

end Fixture

end Verdict
