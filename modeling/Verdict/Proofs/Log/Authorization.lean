import Verdict.Proofs.Log.Covering
import Verdict.Text.Alphanumeric

/-!
# Log: what redaction leaves of a header for authorization

A header names a scheme and, behind a space, a credential.  The rule for the key `authorization`
takes what stands behind the key up to the next blank, and that is the scheme.  The credential is
left to the other rules, which know tokens with a prefix, and bearers.

* `redactChars_header`: the header redacted.  The scheme gives way to a mark; of the credential the
  rules make what they make of it on its own, and the run of characters behind a bearer goes.
* `isMarks_header_iff`: when only marks are left of the credential.
* `nothing_left_iff`: so nothing but marks is left of a credential exactly if it is a row of marks
  and of tokens with a prefix, behind a run of characters that a bearer's token may have.
* `credential_left`: a credential that stays.
-/

namespace Verdict.Redaction

/-- A header for authorization. -/
def header (scheme credential : List Char) : List Char :=
  "Authorization: ".toList ++ (scheme ++ ' ' :: credential)

/-- The scheme ends in the word for bearers, in either case. -/
def EndsInBearer (scheme : List Char) : Prop :=
  "bearer".toList <:+ scheme.map Char.toLower

instance (scheme : List Char) : Decidable (EndsInBearer scheme) :=
  inferInstanceAs (Decidable ("bearer".toList <:+ scheme.map Char.toLower))

variable {scheme credential rest : List Char}

/-! ### Letters -/

/-- The codes of blanks. -/
def blankRanges : Text.Ranges :=
  [(0x09, 0x0D), (0x1C, 0x20), (0x85, 0x85), (0xA0, 0xA0), (0x1680, 0x1680), (0x2000, 0x200A),
   (0x2028, 0x2029), (0x202F, 0x202F), (0x205F, 0x205F), (0x3000, 0x3000)]

theorem contains_blankRanges {c : Char} (blank : Text.isBlank c = true) :
    blankRanges.contains c = true := by
  simp only [Text.isBlank, Bool.or_eq_true, Bool.and_eq_true, decide_eq_true_eq, beq_iff_eq]
    at blank
  simp only [blankRanges, Text.Ranges.contains, List.any_cons, List.any_nil, Bool.or_eq_true,
    Bool.and_eq_true, decide_eq_true_eq]
  omega

/-- A property that no blank has, one by one, is not a blank's. -/
theorem not_isBlank_of_every {p : Char → Bool}
    (every : ∀ r ∈ blankRanges, ∀ i ∈ List.range (r.2 - r.1 + 1),
      p (Char.ofNat (r.1 + i)) = false) {c : Char} (has : p c = true) :
    Text.isBlank c = false := by
  by_contra blank
  obtain ⟨r, hr, least, most⟩ := Text.Ranges.contains_iff.mp
    (contains_blankRanges (Bool.of_not_eq_false blank))
  have lacks := every r hr (c.toNat - r.1) (List.mem_range.mpr (by omega))
  rw [Nat.add_sub_cancel' least, Char.ofNat_toNat, has] at lacks
  cases lacks

/-- A character that lies in one of the ranges lies in none of those that are apart from them. -/
theorem not_contains_of_apart {r s : Text.Ranges}
    (apart : r.all (fun p => s.all fun q => p.2.blt q.1 || q.2.blt p.1) = true) {c : Char}
    (inside : r.contains c = true) : s.contains c = false := by
  by_contra also
  obtain ⟨p, hp, least, most⟩ := Text.Ranges.contains_iff.mp inside
  obtain ⟨q, hq, least', most'⟩ := Text.Ranges.contains_iff.mp (Bool.of_not_eq_false also)
  have sides := List.all_eq_true.mp (List.all_eq_true.mp apart p hp) q hq
  simp only [Bool.or_eq_true, Nat.blt_eq] at sides
  omega

/-- No letter is a blank. -/
theorem not_isBlank_of_isLetter {c : Char} (letter : Text.isLetter c = true) :
    Text.isBlank c = false := by
  simp only [Text.isLetter, Text.isAlphanumeric, Bool.and_eq_true, Bool.or_eq_true] at letter
  obtain ⟨⟨ascii | ⟨-, beyond⟩, -⟩, -⟩ := letter
  · exact not_isBlank_of_every (by decide) ascii
  · by_contra blank
    have others : Text.alphanumericBeyondAscii.contains c = false :=
      not_contains_of_apart (by decide +kernel)
        (contains_blankRanges (Bool.of_not_eq_false blank))
    rw [others] at beyond
    cases beyond

/-- The signs that a header's rules look for, and the space. -/
def headerSigns : List Char :=
  ['_', '=', ':', '"', '\'', ' ']

theorem not_isLetter_of_mem_headerSigns {sign : Char} (listed : sign ∈ headerSigns) :
    Text.isLetter sign = false :=
  Rule.lacks_of_all (by decide) sign listed

theorem ne_of_isLetter {c sign : Char} (letter : Text.isLetter c = true)
    (listed : sign ∈ headerSigns) : c ≠ sign := by
  rintro rfl
  rw [not_isLetter_of_mem_headerSigns listed] at letter
  cases letter

/-! ### The rules at a header -/

theorem header_eq (scheme rest : List Char) :
    header scheme rest = "Authorization:".toList ++ [' '] ++ (scheme ++ ' ' :: rest) :=
  rfl

/-- A rule that finds nothing before the credential keeps the header. -/
theorem Rule.apply_header {r : Rule}
    (key : r.Quiet ("Authorization:".toList ++ [' ']) (scheme ++ ' ' :: rest))
    (named : r.Quiet (scheme ++ [' ']) rest) :
    r.apply (header scheme rest) = header scheme (r.apply rest) := by
  rw [header_eq, Rule.apply_append_of_quiet key, List.append_cons scheme,
    Rule.apply_append_of_quiet named, ← List.append_cons scheme, ← header_eq]

theorem prefixedToken_header (letters : ∀ c ∈ scheme, Text.isLetter c = true)
    (rest : List Char) :
    prefixedToken.apply (header scheme rest) = header scheme (prefixedToken.apply rest) := by
  have under : (· == '_') ∈ tests prefixedToken.lead := List.mem_of_getElem? (i := 3) rfl
  refine Rule.apply_header
    (Rule.quiet_of_stop _ under (Rule.lacks_of_all (by decide)) (by decide))
    (Rule.quiet_of_stop _ under (fun c hc => ?_) (by decide))
  simpa using ne_of_isLetter (letters c hc) (by decide)

theorem assignedToken_header (letters : ∀ c ∈ scheme, Text.isLetter c = true)
    (rest : List Char) :
    assignedToken.apply (header scheme rest) = header scheme (assignedToken.apply rest) := by
  have k : (· == 'k') ∈ tests assignedToken.lead := List.mem_of_getElem? (i := 2) rfl
  have sign : (fun c => c == '=' || c == ':') ∈ tests assignedToken.lead :=
    List.mem_of_getElem? (i := 5) rfl
  refine Rule.apply_header (Rule.quiet_of_stop _ k (Rule.lacks_of_all (by decide)) (by decide))
    (Rule.quiet_of_stop _ sign (fun c hc => ?_) (by decide))
  simpa using ⟨ne_of_isLetter (letters c hc) (by decide),
    ne_of_isLetter (letters c hc) (by decide)⟩

theorem fits_bearerToken_iff {word : List Char} :
    Fits (tests bearerToken.lead) word ↔ word.map Char.toLower = "bearer".toList := by
  have same : tests bearerToken.lead = "bearer".toList.map fun e c => c.toLower == e := by
    simp [tests, bearerToken, Redaction.letters]
  rw [same, Fits, List.forall₂_map_left_iff, ← List.forall₂_eq_eq_eq, List.forall₂_map_left_iff]
  constructor
  · intro h
    exact h.flip.imp fun c e same => by simpa using same
  · intro h
    exact h.flip.imp fun c e same => by simpa using same

theorem isBlank_space : Text.isBlank ' ' = true := by decide

theorem bearerToken_lead :
    bearerToken.lead = (tests bearerToken.lead).map Part.one ++ [Part.blanks 1] :=
  rfl

/-- The word for bearers is found where it ends at the space. -/
theorem scanAll_bearerToken_iff {word taken behind : List Char}
    (solidWord : ∀ c ∈ word, Text.isBlank c = false) (solid : ∀ c ∈ rest, Text.isBlank c = false) :
    scanAll bearerToken.lead (word ++ ' ' :: rest) = some (taken, behind) ↔
      word.map Char.toLower = "bearer".toList ∧ taken = word ++ [' '] ∧ behind = rest := by
  have blank : scanAll [Part.blanks 1] (' ' :: rest) = some ([' '], rest) := by
    have stops : rest.takeWhile Text.isBlank = [] := by
      cases rest with
      | nil => rfl
      | cons c rest => simp [solid c List.mem_cons_self]
    have same : rest.dropWhile Text.isBlank = rest := by
      cases rest with
      | nil => rfl
      | cons c rest => simp [solid c List.mem_cons_self]
    simp [scanAll, Part.scan, isBlank_space, stops, same]
  rw [bearerToken_lead, scanAll_append_iff]
  simp only [scanAll_ones_iff]
  constructor
  · rintro ⟨first, between, last, ⟨split, fits⟩, blanks, rfl⟩
    obtain ⟨rfl, rfl⟩ : first = word ∧ between = ' ' :: rest := by
      have noSpace : ' ' ∉ first := by
        intro hc
        obtain ⟨q, hq, fit⟩ := fits.exists_right hc
        have stops : ∀ q ∈ tests bearerToken.lead, q ' ' = false := by decide
        simp [stops q hq] at fit
      obtain ⟨more, rfl, space⟩ | ⟨more, rfl, space⟩ := List.append_eq_append_iff.mp split
      · cases more with
        | nil => exact ⟨List.append_nil word, space.symm⟩
        | cons c more =>
            obtain ⟨rfl, -⟩ := List.cons_eq_cons.mp space
            exact absurd (by simp) noSpace
      · cases more with
        | nil => exact ⟨(List.append_nil first).symm, space⟩
        | cons c more =>
            have solid : Text.isBlank c = false := solidWord c (by simp)
            simp [space, scanAll, Part.scan, solid] at blanks
    obtain ⟨rfl, rfl⟩ : last = [' '] ∧ behind = rest := by simpa [blank, eq_comm] using blanks
    exact ⟨fits_bearerToken_iff.mp fits, rfl, rfl⟩
  · rintro ⟨named, rfl, rfl⟩
    exact ⟨word, ' ' :: behind, [' '], ⟨rfl, fits_bearerToken_iff.mpr named⟩, blank, rfl⟩

/-- The rule for bearers finds a secret at a word only if that is the word for bearers and a token
follows. -/
theorem bearerToken_of_found {word : List Char} (solidWord : ∀ c ∈ word, Text.isBlank c = false)
    (solid : ∀ c ∈ rest, Text.isBlank c = false)
    (found : bearerToken.replacement? (word ++ ' ' :: rest) ≠ none) :
    word.map Char.toLower = "bearer".toList ∧ rest.takeWhile bearerToken.secret ≠ [] := by
  obtain ⟨⟨replaced, n⟩, found⟩ := Option.ne_none_iff_exists'.mp found
  obtain ⟨taken, behind, scanned, long, -⟩ := Rule.replacement?_eq_some.mp found
  obtain ⟨named, -, rfl⟩ := (scanAll_bearerToken_iff solidWord solid).mp scanned
  exact ⟨named, List.ne_nil_of_length_pos long⟩

/-- Without a blank there is no bearer. -/
theorem bearerToken_apply_solid (solid : ∀ c ∈ rest, Text.isBlank c = false) :
    bearerToken.apply rest = rest := by
  refine Rule.apply_eq_self fun zs nonempty suffix => ?_
  by_contra found
  obtain ⟨⟨replaced, n⟩, found⟩ := Option.ne_none_iff_exists'.mp found
  obtain ⟨taken, behind, scanned, -⟩ := Rule.replacement?_eq_some.mp found
  rw [List.append_nil, bearerToken_lead] at scanned
  obtain ⟨first, between, last, ones, blanks, -⟩ := scanAll_append_iff.mp scanned
  obtain ⟨rfl, -⟩ := scanAll_ones_iff.mp ones
  cases between with
  | nil => simp [scanAll, Part.scan] at blanks
  | cons c between =>
      have noBlank : Text.isBlank c = false := solid c (suffix.subset (by simp))
      simp [scanAll, Part.scan, noBlank] at blanks

/-- What the rule for bearers makes of what stands behind a scheme. -/
def behindScheme (scheme rest : List Char) : List Char :=
  if EndsInBearer scheme ∧ rest.takeWhile bearerToken.secret ≠ [] then
    bearerToken.mark.toList ++ rest.dropWhile bearerToken.secret
  else rest

theorem bearerToken_scheme (solidScheme : ∀ c ∈ scheme, Text.isBlank c = false)
    (solid : ∀ c ∈ rest, Text.isBlank c = false) :
    bearerToken.apply (scheme ++ ' ' :: rest) = scheme ++ ' ' :: behindScheme scheme rest := by
  rw [behindScheme]
  split
  · next found =>
      obtain ⟨⟨_, whole⟩, some⟩ := found
      obtain ⟨front, word, rfl, rfl, named⟩ := List.map_eq_append_iff.mp whole.symm
      obtain ⟨solidFront, solidWord⟩ := List.forall_mem_append.mp solidScheme
      -- A word that begins earlier is longer than the word for bearers.
      have before : bearerToken.Quiet front (word ++ ' ' :: rest) := by
        intro zs nonempty suffix
        by_contra found
        rw [← List.append_assoc] at found
        have solidLonger : ∀ c ∈ zs ++ word, Text.isBlank c = false :=
          List.forall_mem_append.mpr ⟨fun c hc => solidFront c (suffix.subset hc), solidWord⟩
        have longer := (bearerToken_of_found solidLonger solid found).1
        rw [List.map_append, named, List.append_left_eq_self] at longer
        exact nonempty (List.map_eq_nil_iff.mp longer)
      have there := (scanAll_bearerToken_iff solidWord solid).mpr ⟨named, rfl, rfl⟩
      have after : bearerToken.apply (rest.dropWhile bearerToken.secret) =
          rest.dropWhile bearerToken.secret :=
        bearerToken_apply_solid fun c hc => solid c ((List.dropWhile_suffix _).subset hc)
      rw [List.append_assoc, Rule.apply_append_of_quiet before,
        Rule.apply_of_scanAll there (by simp) (List.length_pos_iff.mpr some), after]
      simp [bearerToken]
  · next missed =>
      have quiet : bearerToken.Quiet scheme (' ' :: rest) := by
        intro zs nonempty suffix
        by_contra found
        obtain ⟨named, some⟩ :=
          bearerToken_of_found (fun c hc => solidScheme c (suffix.subset hc)) solid found
        refine missed ⟨?_, some⟩
        rw [EndsInBearer, ← named]
        exact suffix.map Char.toLower
      have space : bearerToken.Quiet [' '] rest :=
        Rule.quiet_of_first rest rfl (Rule.lacks_of_all (by decide))
      calc bearerToken.apply (scheme ++ ' ' :: rest)
        _ = scheme ++ bearerToken.apply ([' '] ++ rest) := Rule.apply_append_of_quiet quiet
        _ = scheme ++ ' ' :: rest := by
            rw [Rule.apply_append_of_quiet space, bearerToken_apply_solid solid]
            rfl

theorem bearerToken_header (letters : ∀ c ∈ scheme, Text.isLetter c = true)
    (solid : ∀ c ∈ rest, Text.isBlank c = false) :
    bearerToken.apply (header scheme rest) = header scheme (behindScheme scheme rest) := by
  have key : bearerToken.Quiet ("Authorization:".toList ++ [' ']) (scheme ++ ' ' :: rest) :=
    Rule.quiet_of_stop _ (List.mem_of_getElem? (i := 0) rfl) (Rule.lacks_of_all (by decide))
      (by decide)
  rw [header_eq, Rule.apply_append_of_quiet key,
    bearerToken_scheme (fun c hc => not_isBlank_of_isLetter (letters c hc)) solid, ← header_eq]

/-- The rule for the key takes the scheme for the secret. -/
theorem authorization_header (letters : ∀ c ∈ scheme, Text.isLetter c = true)
    (nonempty : scheme ≠ []) (rest : List Char) :
    authorization.apply (header scheme rest) =
      "Authorization: [REDACTED] ".toList ++ authorization.apply rest := by
  have noQuote : ∀ c ∈ scheme, isQuote c = false := by
    intro c hc
    simpa [isQuote] using ⟨ne_of_isLetter (letters c hc) (by decide),
      ne_of_isLetter (letters c hc) (by decide)⟩
  have secret : ∀ c ∈ scheme, authorization.secret c = true := by
    intro c hc
    simp [authorization, noQuote c hc, not_isBlank_of_isLetter (letters c hc)]
  have lead : authorization.lead =
      (tests authorization.lead).map Part.one ++ [Part.blanks 0, Part.maybe isQuote] := rfl
  have space : scanAll [Part.blanks 0, Part.maybe isQuote] (' ' :: (scheme ++ ' ' :: rest)) =
      some ([' '], scheme ++ ' ' :: rest) := by
    obtain ⟨c, scheme, rfl⟩ := List.exists_cons_of_ne_nil nonempty
    have noBlank := not_isBlank_of_isLetter (letters c List.mem_cons_self)
    simp [scanAll, Part.scan, isBlank_space, noBlank, noQuote c List.mem_cons_self]
  have found : scanAll authorization.lead (header scheme rest) =
      some ("Authorization:".toList ++ [' '], scheme ++ ' ' :: rest) := by
    rw [lead]
    exact scanAll_append_iff.mpr ⟨"Authorization:".toList, ' ' :: (scheme ++ ' ' :: rest), [' '],
      scanAll_ones_iff.mpr ⟨rfl, by decide⟩, space, rfl⟩
  have quiet : authorization.Quiet [' '] rest :=
    Rule.quiet_of_first rest rfl (Rule.lacks_of_all (by decide))
  have run : (scheme ++ ' ' :: rest).takeWhile authorization.secret = scheme := by
    rw [List.takeWhile_append_of_pos secret]
    exact List.append_nil scheme
  have behind : (scheme ++ ' ' :: rest).dropWhile authorization.secret = [' '] ++ rest := by
    rw [List.dropWhile_append_of_pos secret]
    rfl
  have long : authorization.least ≤
      ((scheme ++ ' ' :: rest).takeWhile authorization.secret).length := by
    rw [run]
    exact List.length_pos_iff.mpr nonempty
  rw [Rule.apply_of_scanAll found (by simp) long, behind, Rule.apply_append_of_quiet quiet]
  rfl

/-! ### The header redacted -/

/-- What is left of a credential, before the rule for the key. -/
def ownRedaction (scheme credential : List Char) : List Char :=
  behindScheme scheme (assignedToken.apply (prefixedToken.apply credential))

/-- **A header redacted**: the scheme gives way to a mark, and of the credential the rules make what
they make of it on its own, but that a run of characters behind a bearer goes as well. -/
theorem redactChars_header (letters : ∀ c ∈ scheme, Text.isLetter c = true)
    (nonempty : scheme ≠ []) (solid : ∀ c ∈ credential, Text.isBlank c = false) :
    redactChars (header scheme credential) = "Authorization: [REDACTED] ".toList ++
      authorization.apply (ownRedaction scheme credential) := by
  have solidToken : ∀ c ∈ prefixedToken.mark.toList, Text.isBlank c = false :=
    Rule.lacks_of_all (by decide)
  have solidMark : ∀ c ∈ assignedToken.mark.toList, Text.isBlank c = false :=
    Rule.lacks_of_all (by decide)
  have solidRest : ∀ c ∈ assignedToken.apply (prefixedToken.apply credential),
      Text.isBlank c = false := fun c hc =>
    (Rule.mem_apply hc).elim (fun hc => (Rule.mem_apply hc).elim (solid c) (solidToken c))
      (solidMark c)
  calc redactChars (header scheme credential)
    _ = authorization.apply (bearerToken.apply (assignedToken.apply
          (prefixedToken.apply (header scheme credential)))) := rfl
    _ = authorization.apply (header scheme (ownRedaction scheme credential)) := by
        rw [prefixedToken_header letters, assignedToken_header letters,
          bearerToken_header letters solidRest, ownRedaction]
    _ = _ := authorization_header letters nonempty _

/-! ### What is left of the credential -/

/-- A credential of which only marks are left under a scheme: a row of marks and of tokens with a
prefix.  Behind a bearer there may be a run of characters of a bearer's token before it, in which no
token with a prefix begins. -/
def IsCoveredUnder (scheme credential : List Char) : Prop :=
  ∃ run rest, credential = run ++ rest ∧ IsCovered rest ∧ (run ≠ [] → EndsInBearer scheme ∧
    (∀ c ∈ run, bearerToken.secret c = true) ∧
    ∀ zs, zs ≠ [] → zs <:+ run → ∀ t, IsPrefixedToken t → ¬ t <+: zs ++ rest)

/-- A run of characters of a bearer's token goes, and marks stay. -/
theorem isMarks_dropWhile_iff : IsMarks ((prefixedToken.apply credential).dropWhile
    bearerToken.secret) ↔ ∃ run rest, credential = run ++ rest ∧ IsCovered rest ∧
      (∀ c ∈ run, bearerToken.secret c = true) ∧ prefixedToken.Quiet run rest := by
  constructor
  · intro row
    have all : ∀ c ∈ (prefixedToken.apply credential).takeWhile bearerToken.secret,
        bearerToken.secret c = true := fun c => List.mem_takeWhile_imp
    obtain ⟨rest, same, quiet, whole⟩ :=
      exists_of_apply_eq_append (List.takeWhile_append_dropWhile (p := bearerToken.secret)).symm
        fun bracket => absurd (all '[' bracket) (by decide)
    exact ⟨_, rest, same, isMarks_prefixedToken_iff.mp (whole ▸ row), all, quiet⟩
  · rintro ⟨run, rest, rfl, covered, all, quiet⟩
    have row := isMarks_prefixedToken_iff.mpr covered
    rwa [Rule.apply_append_of_quiet quiet, List.dropWhile_append_of_pos all,
      row.dropWhile_eq (by decide)]

theorem isMarks_behindScheme_iff : IsMarks (behindScheme scheme rest) ↔
    IsMarks (if EndsInBearer scheme then rest.dropWhile bearerToken.secret else rest) := by
  unfold behindScheme
  by_cases bearer : EndsInBearer scheme
  · by_cases none : rest.takeWhile bearerToken.secret = []
    · have same : rest.dropWhile bearerToken.secret = rest := by
        simpa [none] using List.takeWhile_append_dropWhile (p := bearerToken.secret) (l := rest)
      simp [bearer, none, same]
    · rw [if_pos ⟨bearer, none⟩, if_pos bearer, IsMarks.append_iff (by decide)]
  · simp [bearer]

/-- Behind a bearer a run of characters of a bearer's token may come first. -/
theorem isCoveredUnder_of_bearer (bearer : EndsInBearer scheme) :
    IsCoveredUnder scheme credential ↔ ∃ run rest, credential = run ++ rest ∧ IsCovered rest ∧
      (∀ c ∈ run, bearerToken.secret c = true) ∧ prefixedToken.Quiet run rest := by
  simp only [IsCoveredUnder, Rule.Quiet, prefixedToken_eq_none_iff]
  constructor
  · rintro ⟨run, rest, same, covered, behind⟩
    by_cases none : run = []
    · subst none
      refine ⟨[], rest, same, covered, by simp, fun zs nonempty suffix => ?_⟩
      exact absurd (List.suffix_nil.mp suffix) nonempty
    · exact ⟨run, rest, same, covered, (behind none).2⟩
  · rintro ⟨run, rest, same, covered, all, quiet⟩
    exact ⟨run, rest, same, covered, fun _ => ⟨bearer, all, quiet⟩⟩

theorem isCoveredUnder_of_not_bearer (noBearer : ¬EndsInBearer scheme) :
    IsCoveredUnder scheme credential ↔ IsCovered credential := by
  constructor
  · rintro ⟨run, rest, rfl, covered, behind⟩
    by_cases none : run = []
    · subst none
      exact covered
    · exact absurd (behind none).1 noBearer
  · intro covered
    exact ⟨[], credential, rfl, covered, fun some => absurd rfl some⟩

/-- Only marks are left of a credential exactly if it is covered under the scheme. -/
theorem isMarks_header_iff :
    IsMarks (authorization.apply (ownRedaction scheme credential)) ↔
      IsCoveredUnder scheme credential := by
  have signs : ∀ mark ∈ marks, mark.toList.all (fun c => !(c == '=' || c == ':')) = true := by
    decide
  have noSign : ∀ c, bearerToken.secret c = true → (c == '=' || c == ':') = false := by
    intro c secret
    by_contra sign
    obtain rfl | rfl : c = '=' ∨ c = ':' := by simpa [or_iff_not_imp_left] using sign
    · exact absurd secret (by decide)
    · exact absurd secret (by decide)
  have key : (fun c => c == '=' || c == ':') ∈ tests authorization.lead :=
    List.mem_of_getElem? (i := 13) rfl
  have token : (fun c => c == '=' || c == ':') ∈ tests assignedToken.lead :=
    List.mem_of_getElem? (i := 5) rfl
  rw [Rule.of_apply_iff (Q := IsMarks) rfl key fun _ row => row.lacks signs, ownRedaction,
    isMarks_behindScheme_iff]
  split
  · next bearer =>
      have lacks : ∀ t : List Char, IsMarks (t.dropWhile bearerToken.secret) →
          ∀ c ∈ t, (c == '=' || c == ':') = false := by
        intro t row
        rw [← List.takeWhile_append_dropWhile (p := bearerToken.secret) (l := t),
          List.forall_mem_append]
        exact ⟨fun c hc => noSign c (List.mem_takeWhile_imp hc), row.lacks signs⟩
      rw [Rule.of_apply_iff (Q := fun t => IsMarks (t.dropWhile bearerToken.secret)) rfl token
        lacks, isMarks_dropWhile_iff, isCoveredUnder_of_bearer bearer]
  · next noBearer =>
      rw [Rule.of_apply_iff (Q := IsMarks) rfl token fun _ row => row.lacks signs,
        isMarks_prefixedToken_iff, isCoveredUnder_of_not_bearer noBearer]

/-- **Nothing is left of a credential** but marks exactly if it is covered under its scheme: with
the marks left out, the redacted header is the key and at most the scheme and one space. -/
theorem nothing_left_iff {scheme credential : String} (nonempty : scheme ≠ "")
    (letters : ∀ c ∈ scheme.toList, Text.isLetter c = true)
    (solid : ∀ c ∈ credential.toList, Text.isBlank c = false) :
    (∃ out, redact (.text ("Authorization: " ++ scheme ++ " " ++ credential)) = .text out ∧
      ∃ kept ∈ ["", scheme], ∃ gap ∈ ["", " "],
        withoutMarks out.toList = ("Authorization: " ++ kept ++ gap).toList) ↔
      IsCoveredUnder scheme.toList credential.toList := by
  have text : ("Authorization: " ++ scheme ++ " " ++ credential).toList =
      header scheme.toList credential.toList := by
    rw [String.toList_append, String.toList_append, String.toList_append, List.append_assoc,
      List.append_assoc]
    rfl
  have mark : "Authorization: [REDACTED] ".toList =
      "Authorization: ".toList ++ ("[REDACTED]".toList ++ [' ']) := by decide
  have listed : "[REDACTED]" ∈ marks := by decide
  have left : withoutMarks (redactChars (header scheme.toList credential.toList)) =
      "Authorization: ".toList ++ ' ' ::
        withoutMarks (authorization.apply (ownRedaction scheme.toList credential.toList)) := by
    rw [redactChars_header letters (by simpa using nonempty) solid, mark, List.append_assoc,
      List.append_assoc, withoutMarks_append_of_plain (by decide),
      withoutMarks_append listed, List.singleton_append, withoutMarks_cons_of_ne (by decide)]
  rw [← isMarks_header_iff, ← withoutMarks_eq_nil_iff, redact, text]
  constructor
  · rintro ⟨out, same, kept, hkept, gap, hgap, residue⟩
    obtain rfl : _ = out := Atom.text.inj (Value.atom.inj same)
    rw [String.toList_ofList, left, String.append_assoc, String.toList_append,
      List.append_cancel_left_eq, String.toList_append] at residue
    have short : gap.toList.length ≤ 1 := by
      rcases List.mem_pair.mp hgap with rfl | rfl
      · exact Nat.zero_le 1
      · exact Nat.le_refl 1
    rcases List.mem_pair.mp hkept with rfl | rfl
    · have length := congrArg List.length residue
      rw [String.toList_empty, List.nil_append, List.length_cons] at length
      exact List.eq_nil_of_length_eq_zero (by omega)
    · -- A letter stands where the space is.
      obtain ⟨c, cs, spelt⟩ := List.exists_cons_of_ne_nil (mt String.toList_eq_nil_iff.mp nonempty)
      rw [spelt] at residue letters
      obtain ⟨rfl, -⟩ := List.cons_eq_cons.mp residue
      exact absurd rfl (ne_of_isLetter (letters ' ' List.mem_cons_self) (by decide))
  · intro empty
    refine ⟨_, rfl, "", by simp, " ", by simp, ?_⟩
    rw [String.toList_ofList, left, empty]
    rfl

/-- Nothing is left of a bearer's token in letters, digits, dots, underscores and hyphens. -/
theorem nothing_left_bearer :
    let scheme := "Bearer"
    let credential := "eyJhbGci.eyJzdWIi.c2ln-X_Y"
    (scheme ≠ "" ∧ (∀ c ∈ scheme.toList, Text.isLetter c = true) ∧
      ∀ c ∈ credential.toList, Text.isBlank c = false) ∧
    ∃ out, redact (.text ("Authorization: " ++ scheme ++ " " ++ credential)) = .text out ∧
      ∃ kept ∈ ["", scheme], ∃ gap ∈ ["", " "],
        withoutMarks out.toList = ("Authorization: " ++ kept ++ gap).toList := by
  intro scheme credential
  have nonempty : scheme ≠ "" := by decide
  have letters : ∀ c ∈ scheme.toList, Text.isLetter c = true :=
    List.all_eq_true.mp (by decide)
  have solid : ∀ c ∈ credential.toList, Text.isBlank c = false :=
    Rule.lacks_of_all (by decide)
  refine ⟨⟨nonempty, letters, solid⟩, (nothing_left_iff nonempty letters solid).mpr ?_⟩
  refine ⟨credential.toList, [], (List.append_nil _).symm, .nil, fun _ => ⟨?_, ?_, ?_⟩⟩
  · decide
  · exact List.all_eq_true.mp (by decide)
  · -- The credential is shorter than a token with a prefix.
    rintro zs - suffix _ ⟨kind, -, secret, rfl, long, -⟩ begins
    have longer := begins.length_le
    have shorter : zs.length ≤ 26 := suffix.length_le.trans (by decide)
    simp only [List.length_cons, List.append_nil] at longer
    omega

/-- Under another scheme the whole credential is left. -/
theorem credential_left :
    (∀ c ∈ "Basic".toList, Text.isLetter c = true) ∧
    (∀ c ∈ "dXNlcjpwYXNz".toList, (!Text.isBlank c && !isQuote c) = true) ∧
    redact (.text ("Authorization: " ++ "Basic" ++ " " ++ "dXNlcjpwYXNz")) =
      .text "Authorization: [REDACTED] dXNlcjpwYXNz" ∧
    withoutMarks "Authorization: [REDACTED] dXNlcjpwYXNz".toList =
      "Authorization:  dXNlcjpwYXNz".toList := by
  have kept : redactChars ("Authorization: " ++ "Basic" ++ " " ++ "dXNlcjpwYXNz").toList =
      "Authorization: [REDACTED] dXNlcjpwYXNz".toList := by decide
  refine ⟨List.all_eq_true.mp (by decide), List.all_eq_true.mp (by decide), ?_,
    by decide⟩
  rw [redact, kept, String.ofList_toList]

end Verdict.Redaction
