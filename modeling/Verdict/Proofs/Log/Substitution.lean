import Mathlib.Data.List.Forall2
import Verdict.Log.Redaction

/-!
# Log: what a rule of redaction does to a text

A rule goes through a text from left to right.  Where a secret begins, the mark takes its place and
the rule goes on behind it; all else is kept.

* `scanAll_ones_iff`: a lead of single characters is found where each of them fits.
* `apply_append_of_quiet`, `apply_of_scanAll`: what comes before a secret is kept, and what the
  rule does at a secret.
* `quiet_of_stop`, `apply_eq_self_of_lacks`: no secret begins in a word that lacks a character of
  the lead, nor in a text that lacks one.
* `of_apply_iff`: what holds of such texts only holds of a text after the rule as it did before.
-/

namespace Verdict.Redaction

/-! ### Leads -/

/-- Characters that fit the parts of a lead one by one. -/
abbrev Fits (ps : List (Char → Bool)) (word : List Char) : Prop :=
  List.Forall₂ (fun p c => p c = true) ps word

theorem Fits.exists_left {ps : List (Char → Bool)} {word : List Char} (h : Fits ps word)
    {p : Char → Bool} (hp : p ∈ ps) : ∃ c ∈ word, p c = true := by
  induction h with
  | nil => cases hp
  | cons fits _ ih =>
      rcases List.mem_cons.mp hp with rfl | hp
      · exact ⟨_, List.mem_cons_self, fits⟩
      · obtain ⟨c, hc, fits⟩ := ih hp
        exact ⟨c, List.mem_cons_of_mem _ hc, fits⟩

theorem Fits.exists_right {ps : List (Char → Bool)} {word : List Char} (h : Fits ps word)
    {c : Char} (hc : c ∈ word) : ∃ p ∈ ps, p c = true := by
  induction h with
  | nil => cases hc
  | cons fits _ ih =>
      rcases List.mem_cons.mp hc with rfl | hc
      · exact ⟨_, List.mem_cons_self, fits⟩
      · obtain ⟨p, hp, fits⟩ := ih hc
        exact ⟨p, List.mem_cons_of_mem _ hp, fits⟩

theorem scanAll_cons_iff {part : Part} {parts : List Part} {s taken rest : List Char} :
    scanAll (part :: parts) s = some (taken, rest) ↔ ∃ first between more,
      part.scan s = some (first, between) ∧ scanAll parts between = some (more, rest) ∧
        taken = first ++ more := by
  cases found : part.scan s with
  | none => simp [scanAll, found]
  | some p =>
      cases further : scanAll parts p.2 with
      | none =>
          simp only [scanAll, found, further, Option.bind_eq_bind, Option.bind_some,
            Option.bind_none, reduceCtorEq, Option.some.injEq, false_iff, not_exists, not_and]
          rintro _ _ _ rfl some
          cases further.symm.trans some
      | some q =>
          simp only [scanAll, found, further, Option.bind_eq_bind, Option.bind_some, pure,
            Option.some.injEq, Prod.mk.injEq]
          constructor
          · rintro ⟨rfl, rfl⟩
            exact ⟨p.1, p.2, q.1, rfl, further, rfl⟩
          · rintro ⟨_, _, _, rfl, last, rfl⟩
            obtain rfl := Option.some.inj (further.symm.trans last)
            exact ⟨rfl, rfl⟩

theorem scanAll_append_iff {parts more : List Part} {s taken rest : List Char} :
    scanAll (parts ++ more) s = some (taken, rest) ↔ ∃ first between last,
      scanAll parts s = some (first, between) ∧ scanAll more between = some (last, rest) ∧
        taken = first ++ last := by
  induction parts generalizing s taken with
  | nil =>
      constructor
      · intro h
        exact ⟨[], s, taken, rfl, h, rfl⟩
      · rintro ⟨_, _, _, ⟨⟩, h, rfl⟩
        exact h
  | cons part parts ih =>
      simp only [List.cons_append, scanAll_cons_iff, ih]
      constructor
      · rintro ⟨a, s₁, _, ha, ⟨b, s₂, c, hb, hc, rfl⟩, rfl⟩
        exact ⟨_, s₂, c, ⟨a, s₁, b, ha, hb, rfl⟩, hc, (List.append_assoc ..).symm⟩
      · rintro ⟨_, s₂, c, ⟨a, s₁, b, ha, hb, rfl⟩, hc, rfl⟩
        exact ⟨a, s₁, _, ha, ⟨b, s₂, c, hb, hc, rfl⟩, List.append_assoc ..⟩

/-- What a part takes is the beginning of the text. -/
theorem Part.eq_append_of_scan {part : Part} {s taken rest : List Char}
    (h : part.scan s = some (taken, rest)) : s = taken ++ rest := by
  cases part with
  | one p =>
      simp only [Part.scan] at h
      split at h
      · split at h
        · cases h
          rfl
        · cases h
      · cases h
  | blanks least =>
      simp only [Part.scan] at h
      split at h
      · cases h
      · cases h
        exact List.takeWhile_append_dropWhile.symm
  | maybe p =>
      simp only [Part.scan] at h
      split at h
      · split at h
        · cases h
          rfl
        · cases h
          rfl
      · cases h
        rfl

theorem eq_append_of_scanAll {parts : List Part} {s taken rest : List Char}
    (h : scanAll parts s = some (taken, rest)) : s = taken ++ rest := by
  induction parts generalizing s taken with
  | nil =>
      cases h
      rfl
  | cons part parts ih =>
      obtain ⟨first, between, more, found, further, rfl⟩ := scanAll_cons_iff.mp h
      rw [Part.eq_append_of_scan found, ih further, List.append_assoc]

/-- A lead of single characters is found where each of them fits. -/
theorem scanAll_ones_iff {ps : List (Char → Bool)} {s taken rest : List Char} :
    scanAll (ps.map .one) s = some (taken, rest) ↔ s = taken ++ rest ∧ Fits ps taken := by
  induction ps generalizing s taken with
  | nil =>
      constructor
      · rintro ⟨⟩
        exact ⟨rfl, .nil⟩
      · rintro ⟨rfl, ⟨⟩⟩
        rfl
  | cons p ps ih =>
      rw [List.map_cons, scanAll_cons_iff]
      constructor
      · rintro ⟨first, between, more, found, further, rfl⟩
        obtain ⟨rfl, fits⟩ := ih.mp further
        refine ⟨by rw [Part.eq_append_of_scan found, List.append_assoc], ?_⟩
        simp only [Part.scan] at found
        split at found
        · split at found
          · next fit =>
              cases found
              exact .cons fit fits
          · cases found
        · cases found
      · rintro ⟨rfl, fits⟩
        cases fits with
        | @cons _ c _ more fit fits =>
            exact ⟨[c], more ++ rest, more, by simp [Part.scan, fit], ih.mpr ⟨rfl, fits⟩, rfl⟩

/-- The tests of the single characters with which a lead begins. -/
def tests : List Part → List (Char → Bool)
  | .one p :: parts => p :: tests parts
  | _ => []

theorem exists_eq_tests_append (parts : List Part) :
    ∃ more, parts = (tests parts).map .one ++ more := by
  fun_induction tests parts with
  | case1 p parts ih =>
      obtain ⟨more, same⟩ := ih
      exact ⟨more, congrArg (Part.one p :: ·) same⟩
  | case2 parts => exact ⟨parts, rfl⟩

/-- Characters that fit the tests of a lead are the beginning of what it takes. -/
theorem exists_fits_of_scanAll {parts : List Part} {s taken rest : List Char}
    (h : scanAll parts s = some (taken, rest)) :
    ∃ first more, taken = first ++ more ∧ Fits (tests parts) first := by
  obtain ⟨others, same⟩ := exists_eq_tests_append parts
  rw [same] at h
  obtain ⟨first, between, more, ones, -, rfl⟩ := scanAll_append_iff.mp h
  exact ⟨first, more, rfl, (scanAll_ones_iff.mp ones).2⟩

/-! ### Secrets -/

/-- A rule replaces the lead and the run of characters of the secret behind it. -/
theorem Rule.replacement?_eq_some {r : Rule} {s replaced : List Char} {n : Nat} :
    r.replacement? s = some (replaced, n) ↔ ∃ taken rest, scanAll r.lead s = some (taken, rest) ∧
      r.least ≤ (rest.takeWhile r.secret).length ∧
      replaced = (if r.keepsLead then taken else []) ++ r.mark.toList ∧
      n = taken.length + (rest.takeWhile r.secret).length := by
  unfold Rule.replacement?
  cases found : scanAll r.lead s with
  | none => simp
  | some p =>
      obtain ⟨taken, rest⟩ := p
      simp only [Option.some.injEq, Prod.mk.injEq]
      split
      · next short =>
          simp only [reduceCtorEq, false_iff]
          rintro ⟨_, _, ⟨rfl, rfl⟩, long, -⟩
          omega
      · next long =>
          simp only [Option.some.injEq, Prod.mk.injEq]
          constructor
          · rintro ⟨rfl, rfl⟩
            exact ⟨taken, rest, ⟨rfl, rfl⟩, Nat.not_lt.mp long, rfl, rfl⟩
          · rintro ⟨_, _, ⟨rfl, rfl⟩, -, rfl, rfl⟩
            exact ⟨rfl, rfl⟩

namespace Rule

variable {r : Rule}

/-- No secret begins in a text that another follows. -/
def Quiet (r : Rule) (xs ys : List Char) : Prop :=
  ∀ zs, zs ≠ [] → zs <:+ xs → r.replacement? (zs ++ ys) = none

theorem quiet_nil (ys : List Char) : r.Quiet [] ys :=
  fun _ nonempty suffix => absurd (List.suffix_nil.mp suffix) nonempty

theorem quiet_cons_iff {c : Char} {xs ys : List Char} :
    r.Quiet (c :: xs) ys ↔ r.replacement? (c :: xs ++ ys) = none ∧ r.Quiet xs ys := by
  constructor
  · intro quiet
    exact ⟨quiet _ (List.cons_ne_nil c xs) List.suffix_rfl,
      fun zs nonempty suffix => quiet zs nonempty (suffix.trans (List.suffix_cons c xs))⟩
  · rintro ⟨here, later⟩ zs nonempty suffix
    rcases List.suffix_cons_iff.mp suffix with rfl | suffix
    · exact here
    · exact later zs nonempty suffix

/-! ### The rule applied -/

theorem applyFrom_eq_apply_drop (n : Nat) (s : List Char) :
    r.applyFrom n s = r.apply (s.drop n) := by
  induction s generalizing n with
  | nil => cases n <;> rfl
  | cons c s ih =>
      cases n with
      | zero => rfl
      | succ n => exact ih n

theorem apply_cons_of_none {c : Char} {s : List Char} (h : r.replacement? (c :: s) = none) :
    r.apply (c :: s) = c :: r.apply s := by
  rw [apply, applyFrom, h]
  rfl

/-- At a secret the rule puts its mark and goes on behind the secret. -/
theorem apply_of_scanAll {s taken rest : List Char} (found : scanAll r.lead s = some (taken, rest))
    (nonempty : taken ≠ []) (long : r.least ≤ (rest.takeWhile r.secret).length) :
    r.apply s = (if r.keepsLead then taken else []) ++ r.mark.toList ++
      r.apply (rest.dropWhile r.secret) := by
  have here := replacement?_eq_some.mpr ⟨taken, rest, found, long, rfl, rfl⟩
  obtain rfl := eq_append_of_scanAll found
  obtain ⟨c, taken, rfl⟩ := List.exists_cons_of_ne_nil nonempty
  rw [List.cons_append] at here ⊢
  rw [apply, applyFrom, here]
  simp only [applyFrom_eq_apply_drop]
  congr 2
  calc (taken ++ rest).drop ((c :: taken).length + (rest.takeWhile r.secret).length - 1)
    _ = (taken ++ rest.takeWhile r.secret ++ rest.dropWhile r.secret).drop
          (taken ++ rest.takeWhile r.secret).length := by
        rw [List.append_assoc, List.takeWhile_append_dropWhile, List.length_append,
          List.length_cons, Nat.add_right_comm, Nat.add_sub_cancel]
    _ = rest.dropWhile r.secret := List.drop_left

/-- What comes before the first secret is kept. -/
theorem apply_append_of_quiet {xs ys : List Char} (h : r.Quiet xs ys) :
    r.apply (xs ++ ys) = xs ++ r.apply ys := by
  induction xs with
  | nil => rfl
  | cons c xs ih =>
      obtain ⟨here, later⟩ := quiet_cons_iff.mp h
      exact (apply_cons_of_none here).trans (congrArg (c :: ·) (ih later))

/-- A text in which no secret begins is kept. -/
theorem apply_eq_self {s : List Char} (h : r.Quiet s []) : r.apply s = s := by
  have kept := apply_append_of_quiet h
  rw [List.append_nil] at kept
  exact kept.trans (List.append_nil s)

/-- The rule adds no characters but those of its mark. -/
theorem mem_apply {c : Char} {s : List Char} (h : c ∈ r.apply s) : c ∈ s ∨ c ∈ r.mark.toList := by
  suffices ∀ skip, c ∈ r.applyFrom skip s → c ∈ s ∨ c ∈ r.mark.toList from this 0 h
  clear h
  induction s with
  | nil =>
      intro skip h
      cases skip <;> cases h
  | cons d s ih =>
      have later : ∀ skip, c ∈ r.applyFrom skip s → c ∈ d :: s ∨ c ∈ r.mark.toList :=
        fun skip h => (ih skip h).imp_left (List.mem_cons_of_mem d)
      rintro (_ | skip) h
      · rw [applyFrom] at h
        split at h
        · next replaced n found =>
            obtain ⟨taken, rest, lead, -, rfl, -⟩ := replacement?_eq_some.mp found
            simp only [List.mem_append] at h
            rcases h with (h | h) | h
            · split at h
              · rw [eq_append_of_scanAll lead]
                exact .inl (List.mem_append_left rest h)
              · cases h
            · exact .inr h
            · exact later _ h
        · rcases List.mem_cons.mp h with rfl | h
          · exact .inl List.mem_cons_self
          · exact later _ h
      · exact later skip h

/-! ### Texts that lack a character of the lead -/

variable {s : List Char} {p : Char → Bool}

/-- At a secret stand characters that fit the lead.  A lead that stays is in what the rule makes of
the text. -/
theorem exists_fits_of_replacement (h : r.replacement? s ≠ none) :
    ∃ first between, s = first ++ between ∧ Fits (tests r.lead) first ∧
      (r.keepsLead = true → first ⊆ r.apply s) := by
  obtain ⟨⟨replaced, n⟩, found⟩ := Option.ne_none_iff_exists'.mp h
  obtain ⟨taken, rest, scanned, -, rfl, -⟩ := replacement?_eq_some.mp found
  obtain ⟨first, more, rfl, fits⟩ := exists_fits_of_scanAll scanned
  obtain rfl := eq_append_of_scanAll scanned
  refine ⟨first, more ++ rest, List.append_assoc .., fits, fun keeps c hc => ?_⟩
  cases all : first ++ more ++ rest with
  | nil => simp [List.append_eq_nil_iff.mp (List.append_eq_nil_iff.mp all).1] at hc
  | cons d s =>
      rw [all] at found
      simp [apply, applyFrom, found, keeps, hc]

theorem lacks_of_all {word : List Char} (h : word.all (!p ·) = true) :
    ∀ c ∈ word, p c = false := by
  simpa using h

/-- No secret begins in a word without the first character of the lead. -/
theorem quiet_of_first {parts : List Part} {word : List Char} (ys : List Char)
    (lead : r.lead = .one p :: parts) (lacks : ∀ c ∈ word, p c = false) : r.Quiet word ys := by
  intro zs nonempty suffix
  obtain ⟨c, zs, rfl⟩ := List.exists_cons_of_ne_nil nonempty
  have unfit : p c = false := lacks c (suffix.subset List.mem_cons_self)
  simp [replacement?, lead, scanAll, Part.scan, unfit]

/-- No secret begins in a word that lacks a character of the lead and ends in one that the lead has
no place for. -/
theorem quiet_of_stop {word : List Char} {stop : Char} (ys : List Char) (hp : p ∈ tests r.lead)
    (lacks : ∀ c ∈ word, p c = false) (stops : ∀ q ∈ tests r.lead, q stop = false) :
    r.Quiet (word ++ [stop]) ys := by
  intro zs nonempty suffix
  by_contra found
  obtain ⟨first, between, split, fits, -⟩ := exists_fits_of_replacement found
  have unmet : stop ∉ first := by
    intro met
    obtain ⟨q, hq, fit⟩ := fits.exists_right met
    simp [stops q hq] at fit
  obtain rfl | ⟨early, rfl, -⟩ := List.suffix_concat_iff.mp suffix
  · exact nonempty rfl
  -- The lead reaches past the stop, which has no place in it, or ends within the word.
  obtain ⟨more, rfl, -⟩ | ⟨more, inside, -⟩ := List.append_eq_append_iff.mp split
  · exact unmet (by simp)
  · obtain ⟨c, hc, fit⟩ := fits.exists_left hp
    have place : c ∈ word ++ [stop] := suffix.subset (inside ▸ List.mem_append_left more hc)
    rcases List.mem_append.mp place with inWord | atStop
    · simp [lacks c inWord] at fit
    · rw [List.mem_singleton.mp atStop, stops p hp] at fit
      cases fit

/-- A text that lacks a character of the lead is kept. -/
theorem apply_eq_self_of_lacks (hp : p ∈ tests r.lead) (lacks : ∀ c ∈ s, p c = false) :
    r.apply s = s := by
  refine apply_eq_self fun zs nonempty suffix => ?_
  by_contra found
  obtain ⟨first, between, split, fits, -⟩ := exists_fits_of_replacement found
  obtain ⟨c, hc, fit⟩ := fits.exists_left hp
  rw [List.append_nil] at split
  have place : c ∈ s := suffix.subset (split ▸ List.mem_append_left between hc)
  simp [lacks c place] at fit

/-- Where the lead stays, a text that comes out without a character of the lead went in so. -/
theorem apply_eq_self_of_apply_lacks (keeps : r.keepsLead = true) (hp : p ∈ tests r.lead)
    (lacks : ∀ c ∈ r.apply s, p c = false) : r.apply s = s := by
  induction s with
  | nil => rfl
  | cons c s ih =>
      cases found : r.replacement? (c :: s) with
      | none =>
          rw [apply_cons_of_none found] at lacks ⊢
          rw [ih fun d hd => lacks d (List.mem_cons_of_mem c hd)]
      | some replaced =>
          obtain ⟨first, between, -, fits, kept⟩ :=
            exists_fits_of_replacement (found ▸ Option.some_ne_none replaced)
          obtain ⟨d, hd, fit⟩ := fits.exists_left hp
          simp [lacks d (kept keeps hd)] at fit

/-- A rule that keeps its lead has no part in a property of texts that lack a character of the
lead. -/
theorem of_apply_iff {Q : List Char → Prop} (keeps : r.keepsLead = true) (hp : p ∈ tests r.lead)
    (lacks : ∀ t, Q t → ∀ c ∈ t, p c = false) : Q (r.apply s) ↔ Q s := by
  constructor
  · intro h
    rwa [apply_eq_self_of_apply_lacks keeps hp (lacks _ h)] at h
  · intro h
    rwa [apply_eq_self_of_lacks hp (lacks _ h)]

end Rule

end Verdict.Redaction
