import Verdict.Proofs.Fixture.Agreement
import Verdict.Proofs.Text.Utf8

/-!
# Fixtures: how a loading fails

A loading ends in a project or in a fault, and a loader that fails keeps its project.  The faults
that concern a fixture are foreseen.  The others escape: they come from what is read on the way and
has no form of its own for them.

* `locate_escapes_iff`: a place is not determined for want of a directory or for a name too long.
* `escapes_assemble_iff`, `escapes_unpack_iff`: a manifest that has too much of something escapes.
* `escapes_loadBundle_iff`, `escapes_loadRemote_iff`: what escapes from a bundle.
* `load_documented_iff`: a loader ends as documented exactly if nothing of this is met.
* `load_undecodable`: a bundle of one byte that is no text.
-/

namespace Verdict.Fixture

open File (Path System Node)

/-- The loading ends in a fault that is not foreseen. -/
def Loading.Escapes (l : Loading) : Prop :=
  ∃ fault, l.outcome = .error fault ∧ fault.isForeseen = false

variable {host : Host} {settings : FixtureSettings} {location : String}

theorem escapes_failed_iff {fault : Fault} :
    (Loading.failed fault).Escapes ↔ fault.isForeseen = false := by
  simp [Loading.Escapes, Loading.failed]

/-! ### Places -/

/-- A path that can be asked about, but is too long or holds a name that is too long. -/
def IsTooLong (fs : System) (path : Path) : Prop :=
  System.isAskable path = true ∧ fs.find path = .error .nameTooLong

theorem trace_ne_isDirectory (root : Node) (follows : Bool) (links : Nat) (place : List String)
    (names : List String) : File.trace root follows links place names ≠ .error .isDirectory := by
  fun_induction File.trace root follows links place names <;> simp_all

theorem find_ne_isDirectory (fs : System) (path : Path) : fs.find path ≠ .error .isDirectory := by
  unfold System.find System.locate
  split
  · simp [bind, Except.bind]
  · cases traced : File.trace fs.root true File.maxLinks
        (if path.isAbsolute then [] else fs.workingDirectory) path.names with
    | error fault =>
        rintro ⟨⟩
        exact trace_ne_isDirectory _ _ _ _ _ traced
    | ok place =>
        simp only [bind, Except.bind]
        split <;> simp [pure, Except.pure]

/-- Whether something is at the end of a path is not told if the path is too long. -/
theorem exists?_eq_error_iff {fs : System} {path : Path} {fault : File.Fault} :
    fs.exists? path = .error fault ↔ fault = .nameTooLong ∧ IsTooLong fs path := by
  unfold System.exists? IsTooLong
  cases askable : System.isAskable path with
  | false => simp
  | true =>
      cases found : fs.find path with
      | ok node => simp
      | error reason =>
          cases reason with
          | isDirectory => exact absurd found (find_ne_isDirectory fs path)
          | nameTooLong => simp [File.Fault.isAbsence, eq_comm]
          | missing | notDirectory | tooManyLinks => simp [File.Fault.isAbsence]

/-- Nothing is at the end of a path. -/
def IsMissing (fs : System) (path : Path) : Prop :=
  fs.exists? path = .ok false

/-- Looking for the first of paths that is there stops at one that is too long. -/
inductive StopsAt (fs : System) (path : Path) : List Path → Prop
  | here {later : List Path} (long : IsTooLong fs path) : StopsAt fs path (path :: later)
  | later {first : Path} {later : List Path} (missing : IsMissing fs first)
    (stops : StopsAt fs path later) : StopsAt fs path (first :: later)

theorem firstThere?_eq_error_iff {paths : List Path} {fault : Fault} :
    firstThere? host paths = .error fault ↔
      ∃ path, StopsAt host.files path paths ∧ fault = .files path .nameTooLong := by
  induction paths with
  | nil =>
      constructor
      · rintro ⟨⟩
      · rintro ⟨path, ⟨⟩, -⟩
  | cons first paths ih =>
      rw [firstThere?]
      cases there : host.files.exists? first with
      | error reason =>
          obtain ⟨rfl, long⟩ := exists?_eq_error_iff.mp there
          constructor
          · rintro ⟨⟩
            exact ⟨first, .here long, rfl⟩
          · rintro ⟨path, ⟨-⟩ | ⟨missing, -⟩, rfl⟩
            · rfl
            · cases missing.symm.trans there
      | ok isThere =>
          cases isThere with
          | true =>
              constructor
              · rintro ⟨⟩
              · rintro ⟨path, ⟨long⟩ | ⟨missing, -⟩, rfl⟩
                · cases there.symm.trans (exists?_eq_error_iff.mpr ⟨rfl, long⟩)
                · cases missing.symm.trans there
          | false =>
              refine ih.trans (exists_congr fun path => and_congr_left fun _ => ⟨.later there, ?_⟩)
              rintro (⟨long⟩ | ⟨-, stops⟩)
              · cases there.symm.trans (exists?_eq_error_iff.mpr ⟨rfl, long⟩)
              · exact stops

theorem firstThere?_eq_none_iff {paths : List Path} :
    firstThere? host paths = .ok none ↔ ∀ p ∈ paths, IsMissing host.files p := by
  induction paths with
  | nil => simp [firstThere?]
  | cons first paths ih =>
      rw [List.forall_mem_cons, ← ih, IsMissing, firstThere?]
      cases host.files.exists? first with
      | error reason => simp [Except.mapError, bind, Except.bind]
      | ok isThere => cases isThere <;> simp [Except.mapError, bind, Except.bind, pure, Except.pure]

/-- The place of a location is not determined.  The location or the directory of fixtures lies below
a home that is not known, or a path is too long. -/
inductive IsUnplaced (host : Host) (settings : FixtureSettings) (location : String) : Prop
  | home {fault : HostFault} (unknown : host.expandHome (Path.ofText location) = .error fault)
  | own {own : Path} (known : host.expandHome (Path.ofText location) = .ok own)
    (long : IsTooLong host.files own)
  | directory {own : Path} {fault : HostFault}
    (known : host.expandHome (Path.ofText location) = .ok own)
    (missing : IsMissing host.files own) (unknown : settings.directoryOn host = .error fault)
  | named {own directory path : Path} (known : host.expandHome (Path.ofText location) = .ok own)
    (missing : IsMissing host.files own) (determined : settings.directoryOn host = .ok directory)
    (stops : StopsAt host.files path (namedPaths directory location))

/-- The place of a location, step by step. -/
theorem locate_eq (host : Host) (settings : FixtureSettings) (location : String) :
    locate host settings location =
      match host.expandHome (Path.ofText location) with
      | .error fault => .error (.host fault)
      | .ok own =>
        match firstThere? host [own] with
        | .error fault => .error fault
        | .ok (some path) => .ok path
        | .ok none =>
          match settings.directoryOn host with
          | .error fault => .error (.host fault)
          | .ok directory =>
            match firstThere? host (namedPaths directory location) with
            | .error fault => .error fault
            | .ok (some path) => .ok path
            | .ok none => .error (.unknown location own directory) := by
  unfold locate ownPath
  cases host.expandHome (Path.ofText location) with
  | error fault => rfl
  | ok own =>
      simp only [Except.mapError, bind, Except.bind]
      cases firstThere? host [own] with
      | error fault => rfl
      | ok found =>
          cases found with
          | some path => rfl
          | none =>
              cases settings.directoryOn host with
              | error fault => rfl
              | ok directory =>
                  cases search : firstThere? host (namedPaths directory location) with
                  | error fault => simp [search]
                  | ok found => cases found <;> simp [search] <;> rfl

/-- What keeps a location from being placed escapes, unless it is only that nothing is there. -/
theorem locate_escapes_iff :
    (∃ fault, locate host settings location = .error fault ∧ fault.isForeseen = false) ↔
      IsUnplaced host settings location := by
  rw [locate_eq]
  constructor
  · rintro ⟨fault, failed, unforeseen⟩
    split at failed
    · next unknown => exact .home unknown
    next own known =>
    split at failed
    · next there =>
        obtain ⟨path, ⟨long⟩ | ⟨-, ⟨⟩⟩, -⟩ := firstThere?_eq_error_iff.mp there
        exact .own known long
    · cases failed
    next there =>
    have missing := firstThere?_eq_none_iff.mp there own List.mem_cons_self
    split at failed
    · next unknown => exact .directory known missing unknown
    next directory determined =>
    split at failed
    · next search =>
        obtain ⟨path, stops, -⟩ := firstThere?_eq_error_iff.mp search
        exact .named known missing determined stops
    · cases failed
    · cases failed
      cases unforeseen
  · have search {own : Path} (missing : IsMissing host.files own) :
        firstThere? host [own] = .ok none :=
      firstThere?_eq_none_iff.mpr (by simpa using missing)
    rintro (⟨unknown⟩ | ⟨known, long⟩ | ⟨known, missing, unknown⟩ |
      ⟨known, missing, determined, stops⟩)
    · simp only [unknown]
      exact ⟨_, rfl, rfl⟩
    · simp only [known, firstThere?_eq_error_iff.mpr ⟨_, .here long, rfl⟩]
      exact ⟨_, rfl, rfl⟩
    · simp only [known, search missing, unknown]
      exact ⟨_, rfl, rfl⟩
    · simp only [known, search missing, determined, firstThere?_eq_error_iff.mpr ⟨_, stops, rfl⟩]
      exact ⟨_, rfl, rfl⟩

/-! ### Texts in JSON -/

/-- A text in JSON that has too much of something: the digits of an integer, or containers one
inside the other. -/
def IsExcessive (text : List Char) : Prop :=
  ∃ excess, Json.read text = .error (.excessive excess)

theorem isExcessive_iff_excess? {text : List Char} : IsExcessive text ↔
    ∃ excess, (Json.read text).mapError Json.Fault.excess? = .error (some excess) := by
  unfold IsExcessive
  cases Json.read text with
  | ok data => simp [Except.mapError]
  | error fault => cases fault <;> simp [Except.mapError, Json.Fault.excess?]

theorem read_unifyLineEnds_eq_ok_iff {text : List Char} {data : Value} :
    Json.read (Text.unifyLineEnds text) = .ok data ↔ Json.read text = .ok data := by
  have same := Json.read_unifyLineEnds text
  cases read : Json.read text <;> cases read' : Json.read (Text.unifyLineEnds text) <;>
    simp_all [Except.mapError]

theorem isExcessive_unifyLineEnds {text : List Char} :
    IsExcessive (Text.unifyLineEnds text) ↔ IsExcessive text := by
  rw [isExcessive_iff_excess?, isExcessive_iff_excess?, Json.read_unifyLineEnds]

/-- The manifest among files has too much of something. -/
def HasExcessiveManifest (settings : FixtureSettings) (files : Table String String) : Prop :=
  ∃ content, files.get? settings.manifestFile = some content ∧ IsExcessive content.toList

theorem escapes_assemble_iff {name : String} {files : Table String String}
    {warnings : List String} :
    (assemble settings name files warnings).Escapes ↔ HasExcessiveManifest settings files := by
  have escapes : (assemble settings name files warnings).Escapes ↔
      IsExcessive ((files.get? settings.manifestFile).getD "").toList := by
    cases read : (manifestOf settings.manifestFile
        ((files.get? settings.manifestFile).getD "")).map (·.1) with
    | ok manifest =>
        constructor
        · rintro ⟨fault, failed, -⟩
          rw [assemble_outcome, read] at failed
          cases failed
        · rintro ⟨excess, exceeds⟩
          cases read.symm.trans (manifestOf_error_iff.mpr exceeds)
    | error excess =>
        exact ⟨fun _ => ⟨excess, manifestOf_error_iff.mp read⟩,
          fun _ => ⟨.excessive excess, by rw [assemble_outcome, read], rfl⟩⟩
  rw [escapes, HasExcessiveManifest]
  cases files.get? settings.manifestFile with
  | some content => simp
  | none =>
      have empty : Json.read [] = .error (.syntactic .expectedValue 0) := rfl
      simp [IsExcessive, empty]

/-- The data of a bundle hold no manifest, and the one among their files has too much of
something. -/
def HoldsExcessiveManifest (settings : FixtureSettings) (data : Value) : Prop :=
  ∃ pairs, data.field? "files" = some (.mapping pairs) ∧ heldManifest? data = none ∧
    HasExcessiveManifest settings (filesOf pairs).1

theorem escapes_unpack_iff {usualName place : String} {data : Value} :
    (unpack settings usualName place data).Escapes ↔ HoldsExcessiveManifest settings data := by
  unfold unpack HoldsExcessiveManifest
  split
  · next pairs files =>
      cases held : heldManifest? data with
      | some manifest => simp [Loading.Escapes]
      | none => simp [files, escapes_assemble_iff]
  · next noFiles =>
      rw [escapes_failed_iff]
      constructor
      · rintro ⟨⟩
      · rintro ⟨pairs, files, -⟩
        exact absurd files (noFiles pairs)

/-- The bytes of a bundle cannot be taken for one: they are no text, or a text in JSON with too much
of something, itself or in the manifest among its files. -/
inductive IsUnreadable (settings : FixtureSettings) : List UInt8 → Prop
  | noText {bytes : List UInt8} (noText : ∀ text, bytes ≠ Text.encode text) :
    IsUnreadable settings bytes
  | excessive {text : List Char} (excessive : IsExcessive text) :
    IsUnreadable settings (Text.encode text)
  | manifest {text : List Char} {data : Value} (parses : Json.read text = .ok data)
    (excessive : HoldsExcessiveManifest settings data) : IsUnreadable settings (Text.encode text)

theorem isUnreadable_encode_iff {text : List Char} : IsUnreadable settings (Text.encode text) ↔
    IsExcessive text ∨
      ∃ data, Json.read text = .ok data ∧ HoldsExcessiveManifest settings data := by
  constructor
  · generalize whole : Text.encode text = bytes
    rintro (noText | excessive | ⟨parses, excessive⟩)
    · exact absurd whole.symm (noText text)
    · rw [Text.encode_injective whole]
      exact .inl excessive
    · rw [Text.encode_injective whole]
      exact .inr ⟨_, parses, excessive⟩
  · rintro (excessive | ⟨data, parses, excessive⟩)
    · exact .excessive excessive
    · exact .manifest parses excessive

theorem escapes_loadBundle_iff {fs : System} {path : Path} :
    (loadBundle fs settings path).Escapes ↔
      ∃ bytes, fs.read path = .ok bytes ∧ IsUnreadable settings bytes := by
  unfold loadBundle
  cases stored : fs.read path with
  | error fault => simp [escapes_failed_iff, Fault.isForeseen]
  | ok bytes =>
      simp only [Except.ok.injEq, exists_eq_left']
      cases decoded : Text.decode bytes with
      | error fault =>
          have noText : ∀ text, bytes ≠ Text.encode text := by
            rintro text whole
            cases decoded.symm.trans (Text.decode_eq_ok_iff.mpr whole)
          have failed : Text.ofBytes bytes = .error fault := by rw [Text.ofBytes, decoded]; rfl
          simp only [failed, escapes_failed_iff]
          exact ⟨fun _ => .noText noText, fun _ => rfl⟩
      | ok text =>
          have unified : Text.ofBytes bytes = .ok (String.ofList (Text.unifyLineEnds text)) := by
            rw [Text.ofBytes, decoded]
            rfl
          obtain rfl := Text.decode_eq_ok_iff.mp decoded
          have parses (data : Value) : Json.read text = .ok data ↔
              Json.read (Text.unifyLineEnds text) = .ok data := read_unifyLineEnds_eq_ok_iff.symm
          -- The bytes count as they are stored, and the text is read with its line ends unified.
          rw [isUnreadable_encode_iff, ← isExcessive_unifyLineEnds]
          simp only [unified, String.toList_ofList, parses, IsExcessive]
          generalize Text.unifyLineEnds text = unified
          cases read : Json.read unified with
          | ok data => simp [escapes_unpack_iff]
          | error fault => cases fault <;> simp [escapes_failed_iff, Fault.isForeseen]

/-- What comes from the network cannot be taken for a bundle: the address is none, the network never
answers, or the answer is a text in JSON with containers nested too deeply, or with too much of
something in the manifest among its files. -/
inductive IsLost (settings : FixtureSettings) : Except Network.Fault (List UInt8) → Prop
  | address (fault : Network.AddressFault) : IsLost settings (.error (.address fault))
  | silent : IsLost settings (.error .silent)
  | nested {body : List UInt8} {text : List Char} {excess : Json.Excess}
    (decoded : Json.charsOf body = .ok text)
    (exceeds : Json.readText text = .error (.excessive excess))
    (deep : excess = .nestedList ∨ excess = .nestedMapping) : IsLost settings (.ok body)
  | manifest {body : List UInt8} {text : List Char} {data : Value}
    (decoded : Json.charsOf body = .ok text) (parses : Json.readText text = .ok data)
    (excessive : HoldsExcessiveManifest settings data) : IsLost settings (.ok body)

theorem isLost_ok_iff {body : List UInt8} {text : List Char}
    (decoded : Json.charsOf body = .ok text) : IsLost settings (.ok body) ↔
      (Json.readText text = .error (.excessive .nestedList) ∨
        Json.readText text = .error (.excessive .nestedMapping)) ∨
      ∃ data, Json.readText text = .ok data ∧ HoldsExcessiveManifest settings data := by
  constructor
  · rintro (⟨⟩ | ⟨⟩ | ⟨decoded', exceeds, rfl | rfl⟩ | ⟨decoded', parses, excessive⟩) <;>
      obtain rfl := Except.ok.inj (decoded.symm.trans decoded')
    · exact .inl (.inl exceeds)
    · exact .inl (.inr exceeds)
    · exact .inr ⟨_, parses, excessive⟩
  · rintro ((exceeds | exceeds) | ⟨data, parses, excessive⟩)
    · exact .nested decoded exceeds (.inl rfl)
    · exact .nested decoded exceeds (.inr rfl)
    · exact .manifest decoded parses excessive

theorem escapes_loadRemote_iff {answers : Network.Answers} {address : String} :
    (loadRemote answers settings address).Escapes ↔
      IsLost settings (Network.fetch answers settings.headers address).2 := by
  unfold loadRemote
  rcases Network.fetch answers settings.headers address with ⟨requests, fetched⟩
  cases fetched with
  | error fault =>
      have lost : IsLost settings (.error fault) ↔
          (∃ address, fault = .address address) ∨ fault = .silent := by
        constructor
        · rintro (address | _)
          · exact .inl ⟨address, rfl⟩
          · exact .inr rfl
        · rintro (⟨address, rfl⟩ | rfl)
          · exact .address address
          · exact .silent
      rw [lost]
      cases fault <;> simp [Loading.Escapes, Loading.failed, Fault.isForeseen]
  | ok body =>
      cases decoded : Json.charsOf body with
      | error fault =>
          have kept : ¬IsLost settings (.ok body) := by
            rintro (_ | _ | ⟨decoded', -⟩ | ⟨decoded', -⟩) <;> cases decoded.symm.trans decoded'
          simp [kept, decoded, Loading.Escapes, Loading.failed, Fault.isForeseen]
      | ok text =>
          rw [isLost_ok_iff decoded]
          cases read : Json.readText text with
          | ok data =>
              simp only [decoded, read, reduceCtorEq, or_self, false_or, Except.ok.injEq,
                exists_eq_left']
              exact escapes_unpack_iff
          | error fault =>
              rcases fault with ⟨kind, offset⟩ | excess
              · simp [decoded, read, Loading.Escapes, Loading.failed, Fault.isForeseen]
              · cases excess <;>
                  simp [decoded, read, Loading.Escapes, Loading.failed, Fault.isForeseen]

/-! ### Loaders -/

/-- What escapes from a loading: the place is not determined, or what is there cannot be taken for a
fixture. -/
inductive Escapes (host : Host) (answers : Network.Answers) (settings : FixtureSettings)
    (location : String) : Prop
  | unplaced (here : isAddress location = false) (unplaced : IsUnplaced host settings location)
  | directory {top : Path} {entries : List (String × Node)} (here : isAddress location = false)
    (placed : locate host settings location = .ok top)
    (found : host.files.find top = .ok (.directory entries))
    (excessive : HasExcessiveManifest settings (textsOf
      ((filesBelow host.files top settings.passedOver [] (.directory entries)).map
        (Met.select top settings.sizeLimit))))
  | bundle {path : Path} {bytes : List UInt8} (here : isAddress location = false)
    (placed : locate host settings location = .ok path)
    (stored : host.files.read path = .ok bytes) (unreadable : IsUnreadable settings bytes)
  | remote (there : isAddress location = true)
    (lost : IsLost settings (Network.fetch answers settings.headers location).2)

theorem escapes_load_of_placed {answers : Network.Answers} {path : Path}
    (here : isAddress location = false) (placed : locate host settings location = .ok path) :
    (load host answers settings location).Escapes ↔ Escapes host answers settings location := by
  have plain : load host answers settings location =
      if host.files.isDirectory path then loadDirectory host.files settings path
      else loadBundle host.files settings path := by
    simp [load, here, placed]
  have placed_eq {other : Path} (placed' : locate host settings location = .ok other) :
      path = other := Except.ok.inj (placed.symm.trans placed')
  rw [plain]
  constructor
  · split
    · next isDirectory =>
        simp only [System.isDirectory] at isDirectory
        split at isDirectory
        · next entries found =>
            simp only [loadDirectory, found, escapes_assemble_iff]
            exact .directory here placed found
        · cases isDirectory
    · rw [escapes_loadBundle_iff]
      rintro ⟨bytes, stored, unreadable⟩
      exact .bundle here placed stored unreadable
  · rintro (⟨-, unplaced⟩ | ⟨-, placed', found, excessive⟩ | ⟨-, placed', stored, unreadable⟩ |
      ⟨there, -⟩)
    · obtain ⟨fault, failed, -⟩ := locate_escapes_iff.mpr unplaced
      cases placed.symm.trans failed
    · obtain rfl := placed_eq placed'
      simpa [System.isDirectory, found, loadDirectory, escapes_assemble_iff] using excessive
    · obtain rfl := placed_eq placed'
      rw [if_neg (by simp [System.isDirectory, System.find_of_read stored]), escapes_loadBundle_iff]
      exact ⟨_, stored, unreadable⟩
    · cases here.symm.trans there

theorem escapes_load_iff {answers : Network.Answers} :
    (load host answers settings location).Escapes ↔ Escapes host answers settings location := by
  cases address : isAddress location with
  | true =>
      rw [load, if_pos address, escapes_loadRemote_iff]
      constructor
      · exact .remote address
      · rintro (⟨here, -⟩ | ⟨here, -⟩ | ⟨here, -⟩ | ⟨-, lost⟩)
        · cases address.symm.trans here
        · cases address.symm.trans here
        · cases address.symm.trans here
        · exact lost
  | false =>
      cases placed : locate host settings location with
      | ok path => exact escapes_load_of_placed address placed
      | error fault =>
          have failed : load host answers settings location = .failed fault := by
            simp [load, address, placed]
          rw [failed, escapes_failed_iff]
          constructor
          · intro unforeseen
            exact .unplaced address (locate_escapes_iff.mp ⟨fault, placed, unforeseen⟩)
          · rintro (⟨-, unplaced⟩ | ⟨-, placed', -⟩ | ⟨-, placed', -⟩ | ⟨there, -⟩)
            · obtain ⟨fault', failed', unforeseen⟩ := locate_escapes_iff.mpr unplaced
              rwa [Except.error.inj (placed.symm.trans failed')]
            · cases placed.symm.trans placed'
            · cases placed.symm.trans placed'
            · cases address.symm.trans there

/-- **A loader ends as documented** exactly if nothing escapes: it gives the project that it then
holds, or a fault that concerns a fixture.  With any fault it keeps the project that it held. -/
theorem Loader.load_documented_iff (l : Loader) (host : Host) (answers : Network.Answers)
    (location : String) :
    let (loading, after) := l.load host answers location
    (((∃ p, loading.outcome = .ok p ∧ after.project = some p) ∨
      ∃ fault, loading.outcome = .error fault ∧ fault.isForeseen = true ∧
        after.project = l.project) ↔ ¬Escapes host answers l.settings location) ∧
    ∀ fault, loading.outcome = .error fault → after.project = l.project := by
  rw [← escapes_load_iff, Loading.Escapes]
  unfold Loader.load
  cases ended : (Fixture.load host answers l.settings location).outcome with
  | ok p => simp [ended, adopt]
  | error fault => simp [ended]

/-- A byte that begins no character escapes from a bundle. -/
theorem Loader.load_undecodable :
    let host := oneFileHost "notes.txt" [] [0xFF]
    let (loading, after) := ({} : Loader).load host {} "app.json"
    ∃ fault, loading.outcome = .error fault ∧ fault.isForeseen = false ∧
      fault.message = "'utf-8' codec can't decode byte 0xff in position 0: invalid start byte" ∧
      after.project = none := by
  intro host
  have found : host.files.find ⟨"", ["app.json"]⟩ = .ok (.file [0xFF]) :=
    find_atRoot rfl (by simp) (by decide) (by decide)
  have stored : host.files.read ⟨"", ["app.json"]⟩ = .ok [0xFF] := by
    simp [System.read, found, bind, Except.bind, pure, Except.pure]
  have undecoded : Text.ofBytes [0xFF] = .error ⟨0, 1, 0xFF, .start⟩ := rfl
  have here : isAddress "app.json" = false := by decide +kernel
  have placed := locate_of_find (ownPath_appJson host) (by decide) found ({} : Loader).settings
  have ended : Fixture.load host {} ({} : Loader).settings "app.json" =
      .failed (.undecodable ⟨0, 1, 0xFF, .start⟩) := by
    simp [Fixture.load, here, placed, System.isDirectory, found, loadBundle, stored, undecoded]
  simp only [Loader.load, ended]
  exact ⟨_, rfl, rfl, by decide, rfl⟩

end Verdict.Fixture
