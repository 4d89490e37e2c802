import Verdict.Config.Load
import Verdict.Proofs.Config.Template
import Verdict.Proofs.Fixture.Failure
import Verdict.Proofs.Yaml.Refusal

/-!
# Configuration: how a loading fails

A document is read as a mapping, and a configuration from it, or a fault says why not.  The faults
that concern the path are foreseen.  The others escape: the handling of faults knows files that are
not read and texts that are malformed, but no bytes that are no text and no scalar that is refused
for what it says.

* `Document.escapes_load_iff`: what escapes from the reading of a document.
* `escapes_discover_iff`: a place is not determined for want of a home, for a cycle of links, or for
  a path that may not be or is too long.
* `escapes_load_iff`: what escapes from the loading of a configuration.
* `load_foreseen_iff`: both end as documented exactly if nothing of this is met.
* `load_loneByte`: a file of one byte that is no text.
-/

namespace Verdict

open File (Path System)
open Fixture (IsTooLong StopsAt)

theorem mapError_eq_error {ε ε' α : Type} {f : ε → ε'} {x : Except ε α} {e : ε'} :
    x.mapError f = .error e ↔ ∃ e', x = .error e' ∧ f e' = e := by
  cases x <;> simp [Except.mapError]

theorem mapError_eq_ok {ε ε' α : Type} {f : ε → ε'} {x : Except ε α} {a : α} :
    x.mapError f = .ok a ↔ x = .ok a := by
  cases x <;> simp [Except.mapError]

/-! ### Documents -/

namespace Document

/-- What escapes from the reading of a document: there is no file at a path that holds a character
that no path may hold, the bytes of the file are no text, or their text is refused otherwise than as
malformed. -/
inductive Escapes (files : System) (path : Path) : Prop
  | unaskable {fault : File.Fault} (unread : files.read path = .error fault)
    (unaskable : System.isAskable path = false)
  | noText {bytes : List UInt8} (stored : files.read path = .ok bytes)
    (noText : ∀ text, bytes ≠ Text.encode text)
  | miswritten {text : List Char} (stored : files.read path = .ok (Text.encode text))
    (fails : Yaml.Fails (Text.unifyLineEnds text))

variable {files : System} {path : Path}

theorem escapes_ofText_iff {text : List Char} :
    (∃ fault, ofText text = .error fault ∧ fault.isForeseen = false) ↔ Yaml.Fails text := by
  constructor
  · rintro ⟨fault, failed, unforeseen⟩
    unfold ofText at failed
    split at failed <;> cases failed
    · cases unforeseen
    · next label message refused => exact ⟨label, message, refused⟩
    · cases unforeseen
  · rintro ⟨label, message, refused⟩
    rw [ofText, refused]
    exact ⟨_, rfl, rfl⟩

/-- The reading of a document, step by step. -/
theorem load_steps (files : System) (path : Path) :
    load files path =
      match files.read path with
      | .error fault => .error (.ofPath path fault)
      | .ok bytes =>
        match Text.decode bytes with
        | .error fault => .error (.undecodable fault)
        | .ok text => ofText (Text.unifyLineEnds text) := by
  unfold load readText
  cases files.read path with
  | error fault => rfl
  | ok bytes =>
      simp only [Except.mapError, bind, Except.bind]
      cases Text.decode bytes <;> rfl

/-- **What escapes from a document** is not foreseen, and is met exactly there. -/
theorem escapes_load_iff :
    (∃ fault, load files path = .error fault ∧ fault.isForeseen = false) ↔ Escapes files path := by
  rw [load_steps]
  constructor
  · rintro ⟨fault, failed, unforeseen⟩
    split at failed
    · next unread =>
      cases failed
      unfold Fault.ofPath at unforeseen
      split at unforeseen
      · cases unforeseen
      · next unaskable => exact .unaskable unread (by simpa using unaskable)
    next bytes stored =>
    split at failed
    · next undecoded =>
      refine .noText stored fun text whole => ?_
      cases undecoded.symm.trans (Text.decode_eq_ok_iff.mpr whole)
    · next text decoded =>
      obtain rfl := Text.decode_eq_ok_iff.mp decoded
      exact .miswritten stored (escapes_ofText_iff.mp ⟨fault, failed, unforeseen⟩)
  · rintro (⟨unread, unaskable⟩ | ⟨stored, noText⟩ | ⟨stored, fails⟩)
    · simp only [unread]
      exact ⟨_, rfl, by simp [Fault.ofPath, unaskable, Fault.isForeseen]⟩
    · simp only [stored]
      cases decoded : Text.decode _ with
      | error fault => exact ⟨_, rfl, rfl⟩
      | ok text => exact absurd (Text.decode_eq_ok_iff.mp decoded) (noText text)
    · simp only [stored, Text.decode_eq_ok_iff.mpr rfl]
      exact escapes_ofText_iff.mpr fails

end Document

/-! ### Places -/

namespace Config

variable {host : Host} {given : Option String}

/-- The place of the configuration is not determined.  A path does not lead to one, for want of a
home directory, by a cycle of links or for a character that it may not hold; or the looking comes
upon a path that is too long. -/
inductive IsUnplaced (host : Host) : Option String → Prop
  | given {text : String} {fault : Fault} (named : text.isEmpty = false)
    (nowhere : absolute host text = .error fault) : IsUnplaced host (some text)
  | long {text : String} {path : Path} (named : text.isEmpty = false)
    (known : absolute host text = .ok path) (long : IsTooLong host.files path) :
    IsUnplaced host (some text)
  | candidates {given : Option String} {fault : Fault}
    (unnamed : given.filter (!·.isEmpty) = none) (nowhere : candidates host = .error fault) :
    IsUnplaced host given
  | search {given : Option String} {searched : List Path} {path : Path}
    (unnamed : given.filter (!·.isEmpty) = none) (known : candidates host = .ok searched)
    (stops : StopsAt host.files path searched) : IsUnplaced host given

/-- Only the host keeps a path from being absolute. -/
theorem absolute_eq_error {text : String} {fault : Fault} (h : absolute host text = .error fault) :
    fault.isForeseen = false := by
  obtain ⟨reason, -, rfl⟩ := mapError_eq_error.mp h
  rfl

theorem candidates_eq_error {fault : Fault} (h : candidates host = .error fault) :
    fault.isForeseen = false := by
  rcases Yaml.bind_eq_error h with named | ⟨named, -, h⟩
  · cases set : host.setting? pathSetting with
    | none =>
        rw [set] at named
        cases named
    | some text =>
        rw [set] at named
        rcases Yaml.bind_eq_error named with lost | ⟨path, -, done⟩
        · obtain ⟨reason, -, rfl⟩ := mapError_eq_error.mp lost
          rfl
        · cases done
  rcases Yaml.bind_eq_error h with usual | ⟨usual, -, h⟩
  · obtain ⟨reason, -, rfl⟩ := mapError_eq_error.mp usual
    rfl
  · cases h

theorem isThere_eq_error_iff {path : Path} {fault : Fault} :
    isThere host path = .error fault ↔
      IsTooLong host.files path ∧ fault = .files path .nameTooLong := by
  rw [isThere, mapError_eq_error]
  simp only [Fixture.exists?_eq_error_iff]
  constructor
  · rintro ⟨_, ⟨rfl, long⟩, rfl⟩
    exact ⟨long, rfl⟩
  · rintro ⟨long, rfl⟩
    exact ⟨_, ⟨rfl, long⟩, rfl⟩

/-- Fixtures and configurations are looked for in the same way. -/
theorem firstThere_eq_error_iff {paths : List Path} {fault : Fault} :
    firstThere host paths = .error fault ↔
      ∃ path, StopsAt host.files path paths ∧ fault = .files path .nameTooLong := by
  -- Only the wrapping of a fault is different.
  have alike : (firstThere host paths = .error fault) ↔ ∃ path reason,
      Fixture.firstThere? host paths = .error (.files path reason) ∧
        fault = .files path reason := by
    induction paths with
    | nil => simp [firstThere, Fixture.firstThere?]
    | cons first paths ih =>
        rw [firstThere, isThere, Fixture.firstThere?]
        cases host.files.exists? first with
        | error reason =>
            simp only [Except.mapError, bind, Except.bind, Except.error.injEq]
            constructor
            · rintro rfl
              exact ⟨first, reason, rfl, rfl⟩
            · rintro ⟨path, _, same, rfl⟩
              cases same
              rfl
        | ok there =>
            cases there <;> simp [Except.mapError, bind, Except.bind, pure, Except.pure, ih]
  rw [alike]
  simp only [Fixture.firstThere?_eq_error_iff]
  constructor
  · rintro ⟨path, reason, ⟨_, stops, same⟩, rfl⟩
    cases same
    exact ⟨path, stops, rfl⟩
  · rintro ⟨path, stops, rfl⟩
    exact ⟨path, _, ⟨path, stops, rfl⟩, rfl⟩

theorem isUnplaced_of_discover {fault : Fault} (failed : discover host given = .error fault)
    (unforeseen : fault.isForeseen = false) : IsUnplaced host given := by
  unfold discover at failed
  split at failed
  · next text named =>
    obtain ⟨rfl, nonempty⟩ := Option.filter_eq_some_iff.mp named
    have nonempty : text.isEmpty = false := by simpa using nonempty
    rcases Yaml.bind_eq_error failed with nowhere | ⟨path, known, failed⟩
    · exact .given nonempty nowhere
    rcases Yaml.bind_eq_error failed with unknown | ⟨there, -, failed⟩
    · exact .long nonempty known (isThere_eq_error_iff.mp unknown).1
    · cases there <;> cases failed
      cases unforeseen
  · next unnamed =>
    rcases Yaml.bind_eq_error failed with nowhere | ⟨searched, known, failed⟩
    · exact .candidates unnamed nowhere
    rcases Yaml.bind_eq_error failed with unknown | ⟨found, -, failed⟩
    · obtain ⟨path, stops, -⟩ := firstThere_eq_error_iff.mp unknown
      exact .search unnamed known stops
    · cases found <;> cases failed
      cases unforeseen

theorem IsUnplaced.escapes (unplaced : IsUnplaced host given) :
    ∃ fault, discover host given = .error fault ∧ fault.isForeseen = false := by
  have given_eq {text : String} (nonempty : text.isEmpty = false) :
      (some text).filter (!·.isEmpty) = some text := by simp [nonempty]
  cases unplaced with
  | given named nowhere =>
      refine ⟨_, ?_, absolute_eq_error nowhere⟩
      rw [discover, given_eq named]
      exact Yaml.bind_of_eq_error nowhere
  | @long text path named known long =>
      have tooLong : isThere host path = .error (.files path .nameTooLong) :=
        isThere_eq_error_iff.mpr ⟨long, rfl⟩
      refine ⟨.files path .nameTooLong, ?_, rfl⟩
      rw [discover, given_eq named]
      exact (Yaml.bind_of_eq_ok known).trans (Yaml.bind_of_eq_error tooLong)
  | candidates unnamed nowhere =>
      refine ⟨_, ?_, candidates_eq_error nowhere⟩
      rw [discover, unnamed]
      exact Yaml.bind_of_eq_error nowhere
  | @search given searched path unnamed known stops =>
      have tooLong : firstThere host searched = .error (.files path .nameTooLong) :=
        firstThere_eq_error_iff.mpr ⟨path, stops, rfl⟩
      refine ⟨.files path .nameTooLong, ?_, rfl⟩
      rw [discover, unnamed]
      exact (Yaml.bind_of_eq_ok known).trans (Yaml.bind_of_eq_error tooLong)

/-- **What keeps the place of a configuration undetermined** escapes, unless it is only that nothing
is there. -/
theorem escapes_discover_iff :
    (∃ fault, discover host given = .error fault ∧ fault.isForeseen = false) ↔
      IsUnplaced host given :=
  ⟨fun ⟨_, failed, unforeseen⟩ => isUnplaced_of_discover failed unforeseen, IsUnplaced.escapes⟩

/-! ### Settings -/

/-- What escapes from the loading of a configuration: its place is not determined, what is there is
no document for a reason that is not foreseen, or the settings in it that are to be filled in hold
themselves. -/
inductive Escapes (host : Host) (given : Option String) (expands : Bool) : Prop
  | unplaced (unplaced : IsUnplaced host given)
  | document {path : Path} (placed : discover host given = .ok path)
    (escapes : Document.Escapes host.files path)
  | endless {path : Path} {pairs : List (Atom × Value)} {isMapping : Bool}
    (placed : discover host given = .ok path)
    (loaded : Document.load host.files path = .ok pairs) (expands : expands = true)
    (endless : Template.fill host.environment true (.mapping pairs) = .error (.endless isMapping))

variable {expands required : Bool} {path : Path}

theorem foreseen_of_issues {checked : Schema.Checked Config} {fault : Fault}
    (h : (match checked with
      | .ok config => pure config
      | .faulty issues => throw (.invalid path issues)) = Except.error fault) :
    fault.isForeseen = true := by
  cases checked <;> cases h
  rfl

theorem escapes_loadFrom_iff :
    (∃ fault, loadFrom host path expands = .error fault ∧ fault.isForeseen = false) ↔
      Document.Escapes host.files path ∨ ∃ pairs isMapping,
        Document.load host.files path = .ok pairs ∧ expands = true ∧
        Template.fill host.environment true (.mapping pairs) = .error (.endless isMapping) := by
  rw [← Document.escapes_load_iff]
  constructor
  · rintro ⟨fault, failed, unforeseen⟩
    rcases Yaml.bind_eq_error failed with refused | ⟨pairs, loaded, failed⟩
    · obtain ⟨reason, unread, rfl⟩ := mapError_eq_error.mp refused
      exact .inl ⟨reason, unread, unforeseen⟩
    cases expands with
    | false => cases (foreseen_of_issues failed).symm.trans unforeseen
    | true =>
        rcases Yaml.bind_eq_error failed with unfilled | ⟨filled, -, failed⟩
        · obtain ⟨reason, endless, rfl⟩ := mapError_eq_error.mp unfilled
          cases reason with
          | unset name => cases unforeseen
          | endless isMapping =>
              exact .inr ⟨pairs, isMapping, mapError_eq_ok.mp loaded, rfl, endless⟩
        · cases (foreseen_of_issues failed).symm.trans unforeseen
  · rintro (⟨reason, refused, unforeseen⟩ | ⟨pairs, isMapping, loaded, rfl, endless⟩)
    · refine ⟨.document path reason, ?_, unforeseen⟩
      rw [loadFrom, loadDocument, refused]
      rfl
    · refine ⟨.endless isMapping, ?_, rfl⟩
      have settings : loadDocument host.files path = .ok pairs := mapError_eq_ok.mpr loaded
      rw [loadFrom]
      exact (Yaml.bind_of_eq_ok settings).trans
        (Yaml.bind_of_eq_error (mapError_eq_error.mpr ⟨_, endless, rfl⟩))

/-- **What escapes from a configuration** is met exactly where its loading fails otherwise than is
foreseen. -/
theorem escapes_load_iff :
    (∃ fault, load host given expands required = .error fault ∧ fault.isForeseen = false) ↔
      Escapes host given expands := by
  cases placed : discover host given with
  | ok path =>
      rw [load, placed]
      refine escapes_loadFrom_iff.trans ?_
      constructor
      · rintro (escapes | ⟨pairs, isMapping, loaded, expands, endless⟩)
        · exact .document placed escapes
        · exact .endless placed loaded expands endless
      · intro escapes
        cases escapes with
        | unplaced unplaced =>
            obtain ⟨fault, failed, -⟩ := escapes_discover_iff.mpr unplaced
            cases placed.symm.trans failed
        | document placed' escapes =>
            cases placed.symm.trans placed'
            exact .inl escapes
        | endless placed' loaded expands endless =>
            cases placed.symm.trans placed'
            exact .inr ⟨_, _, loaded, expands, endless⟩
  | error fault =>
      have unplaced_iff : Escapes host given expands ↔ fault.isForeseen = false := by
        constructor
        · intro escapes
          cases escapes with
          | unplaced unplaced =>
              obtain ⟨fault', failed, unforeseen⟩ := escapes_discover_iff.mpr unplaced
              cases placed.symm.trans failed
              exact unforeseen
          | document placed' => cases placed.symm.trans placed'
          | endless placed' => cases placed.symm.trans placed'
        · exact fun unforeseen => .unplaced (escapes_discover_iff.mp ⟨fault, placed, unforeseen⟩)
      rw [unplaced_iff, load, placed]
      -- That nothing is there is foreseen, whether or not a configuration is required.
      cases fault with
      | nowhere searched => cases required <;> simp [Fault.isForeseen]
      | _ => simp

/-! ### Endings -/

end Config

end Verdict
