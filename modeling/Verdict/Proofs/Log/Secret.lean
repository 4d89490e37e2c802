import Mathlib.Data.List.TakeWhile
import Verdict.Proofs.Log.Substitution

/-!
# Log: secrets in what a rule leaves

A rule finds a secret by its own characters: what follows the secret has no say in it
(`replacement?_ne_none_iff`).  So a text keeps a secret if some word of the text is one
(`quiet_iff`).

What a rule makes of a text consists of pieces of the text and of marks (`Applied`).  Marks stand in
brackets, and where no secret has brackets none reaches into a mark.

* `Strict.quiet_apply`: a rule puts no secret of another one into a text, if the other is strict.
* `Strict.quiet_apply_self`: a strict rule leaves no secret of its own, and then neither do the
  rules after it (`Strict.quiet_foldl`).
* `apply_apply`: a rule the mark of which is a secret itself replaces the mark by itself.
-/

namespace Verdict.Redaction

/-! ### A lead and what follows -/

/-- The part may take the character. -/
def Part.takes : Part → Char → Bool
  | .one p, c => p c
  | .blanks _, c => Text.isBlank c
  | .maybe p, c => p c

/-- The part may take the character on top of what it has. -/
def Part.goesOn : Part → Char → Bool
  | .one _, _ => false
  | .blanks _, c => Text.isBlank c
  | .maybe p, c => p c

theorem Part.goesOn_of_takes {part : Part} {c : Char} (h : part.takes c = false) :
    part.goesOn c = false := by
  cases part with
  | one p => rfl
  | blanks least | maybe p => exact h

theorem one_le_length_takeWhile_iff {p : Char → Bool} {s : List Char} :
    1 ≤ (s.takeWhile p).length ↔ ∃ c ∈ s.head?, p c = true := by
  cases s with
  | nil => simp
  | cons c s => by_cases fit : p c = true <;> simp [fit]

theorem takeWhile_eq_nil_iff {p : Char → Bool} {s : List Char} :
    s.takeWhile p = [] ↔ ∀ c ∈ s.head?, p c = false := by
  cases s with
  | nil => simp
  | cons c s => simp [List.takeWhile_cons]

theorem Part.scan_one_iff {p : Char → Bool} {s taken rest : List Char} :
    (Part.one p).scan s = some (taken, rest) ↔ ∃ c, p c = true ∧ taken = [c] ∧ s = c :: rest := by
  cases s with
  | nil => simp [scan]
  | cons c s =>
      by_cases fit : p c = true
      · simp only [scan, fit, if_true, Option.some.injEq, Prod.mk.injEq, List.cons.injEq]
        constructor
        · rintro ⟨rfl, rfl⟩
          exact ⟨c, fit, rfl, rfl, rfl⟩
        · rintro ⟨_, -, rfl, rfl, rfl⟩
          exact ⟨rfl, rfl⟩
      · simp only [scan, fit, Bool.false_eq_true, if_false, reduceCtorEq, false_iff]
        rintro ⟨_, fits, -, same⟩
        obtain ⟨rfl, -⟩ := List.cons_eq_cons.mp same
        exact fit fits

theorem Part.scan_blanks_iff {least : Nat} {s taken rest : List Char} :
    (Part.blanks least).scan s = some (taken, rest) ↔ s = taken ++ rest ∧ least ≤ taken.length ∧
      (∀ c ∈ taken, Text.isBlank c = true) ∧ ∀ c ∈ rest.head?, Text.isBlank c = false := by
  constructor
  · intro found
    obtain rfl := Part.eq_append_of_scan found
    simp only [scan] at found
    split at found
    · cases found
    · next long =>
        obtain ⟨run, -⟩ := Prod.mk.inj (Option.some.inj found)
        have blank : ∀ c ∈ taken, Text.isBlank c = true := fun c hc =>
          List.mem_takeWhile_imp (p := Text.isBlank) (run ▸ hc)
        rw [run] at long
        refine ⟨rfl, Nat.not_lt.mp long, blank, takeWhile_eq_nil_iff.mp ?_⟩
        simpa [List.takeWhile_append_of_pos blank] using run
  · rintro ⟨rfl, long, blank, ended⟩
    have stops := takeWhile_eq_nil_iff.mpr ended
    have whole : rest.dropWhile Text.isBlank = rest := by
      simpa [stops] using List.takeWhile_append_dropWhile (p := Text.isBlank) (l := rest)
    simp only [scan]
    rw [List.takeWhile_append_of_pos blank, List.dropWhile_append_of_pos blank, stops, whole,
      List.append_nil, if_neg (Nat.not_lt.mpr long)]

theorem Part.scan_maybe_iff {p : Char → Bool} {s taken rest : List Char} :
    (Part.maybe p).scan s = some (taken, rest) ↔
      (∃ c, p c = true ∧ taken = [c] ∧ s = c :: rest) ∨
        taken = [] ∧ s = rest ∧ ∀ c ∈ rest.head?, p c = false := by
  constructor
  · intro found
    obtain rfl := Part.eq_append_of_scan found
    simp only [scan] at found
    split at found
    · split at found
      · next c more whole fit =>
          obtain ⟨rfl, rfl⟩ := Prod.mk.inj (Option.some.inj found)
          exact .inl ⟨c, fit, rfl, rfl⟩
      · next c more whole unfit =>
          obtain ⟨rfl, -⟩ := Prod.mk.inj (Option.some.inj found)
          rw [List.nil_append] at whole
          exact .inr ⟨rfl, rfl, by simpa [whole] using unfit⟩
    · next empty =>
        obtain ⟨rfl, rfl⟩ := List.append_eq_nil_iff.mp empty
        exact .inr ⟨rfl, rfl, by simp⟩
  · rintro (⟨c, fit, rfl, rfl⟩ | ⟨rfl, rfl, ended⟩)
    · simp [scan, fit]
    · cases s with
      | nil => rfl
      | cons c s => simp [scan, ended c rfl]

/-- A part takes the same whatever the rest is, but for the first character of it. -/
theorem Part.scan_congr {part : Part} {taken rest other : List Char}
    (found : part.scan (taken ++ rest) = some (taken, rest))
    (next : other.head? = rest.head? ∨ ∀ c ∈ other.head?, part.goesOn c = false) :
    part.scan (taken ++ other) = some (taken, other) := by
  -- A part that is done with at the rest is done with at the other one.
  have stops : (∀ c ∈ rest.head?, part.goesOn c = false) →
      ∀ c ∈ other.head?, part.goesOn c = false := by
    intro ended
    rcases next with same | after
    · rwa [same]
    · exact after
  cases part with
  | one p =>
      obtain ⟨c, fit, rfl, -⟩ := scan_one_iff.mp found
      exact scan_one_iff.mpr ⟨c, fit, rfl, rfl⟩
  | blanks least =>
      obtain ⟨-, long, blank, ended⟩ := scan_blanks_iff.mp found
      exact scan_blanks_iff.mpr ⟨rfl, long, blank, stops ended⟩
  | maybe p =>
      rcases scan_maybe_iff.mp found with ⟨c, fit, rfl, -⟩ | ⟨rfl, -, ended⟩
      · exact scan_maybe_iff.mpr (.inl ⟨c, fit, rfl, rfl⟩)
      · exact scan_maybe_iff.mpr (.inr ⟨rfl, rfl, stops ended⟩)

/-- A lead takes the same whatever the rest is, but for the first character of it. -/
theorem scanAll_congr {parts : List Part} {taken rest other : List Char}
    (found : scanAll parts (taken ++ rest) = some (taken, rest))
    (next : other.head? = rest.head? ∨ ∀ c ∈ other.head?, ∀ part ∈ parts, part.goesOn c = false) :
    scanAll parts (taken ++ other) = some (taken, other) := by
  induction parts generalizing taken with
  | nil =>
      obtain ⟨rfl, -⟩ := Prod.mk.inj (Option.some.inj found)
      rfl
  | cons part parts ih =>
      obtain ⟨first, between, more, one, others, rfl⟩ := scanAll_cons_iff.mp found
      obtain rfl := eq_append_of_scanAll others
      rw [List.append_assoc] at one ⊢
      refine scanAll_cons_iff.mpr ⟨first, more ++ other, more, Part.scan_congr one ?_, ?_, rfl⟩
      · cases more with
        | nil =>
            exact next.imp_right fun after c hc => after c hc part List.mem_cons_self
        | cons c more => exact .inl rfl
      · exact ih others (next.imp_right fun after c hc q hq =>
          after c hc q (List.mem_cons_of_mem part hq))

theorem Part.takes_of_scan {part : Part} {s taken rest : List Char}
    (found : part.scan s = some (taken, rest)) : ∀ c ∈ taken, part.takes c = true := by
  cases part with
  | one p =>
      obtain ⟨c, fit, rfl, -⟩ := scan_one_iff.mp found
      simpa [takes] using fit
  | blanks least => exact (scan_blanks_iff.mp found).2.2.1
  | maybe p =>
      rcases scan_maybe_iff.mp found with ⟨c, fit, rfl, -⟩ | ⟨rfl, -⟩
      · simpa [takes] using fit
      · simp

theorem exists_takes_of_scanAll {parts : List Part} {s taken rest : List Char}
    (found : scanAll parts s = some (taken, rest)) :
    ∀ c ∈ taken, ∃ part ∈ parts, part.takes c = true := by
  induction parts generalizing s taken with
  | nil =>
      cases found
      simp
  | cons part parts ih =>
      obtain ⟨first, between, more, one, others, rfl⟩ := scanAll_cons_iff.mp found
      refine List.forall_mem_append.mpr ⟨fun c hc => ?_, fun c hc => ?_⟩
      · exact ⟨part, List.mem_cons_self, Part.takes_of_scan one c hc⟩
      · obtain ⟨q, hq, fit⟩ := ih others c hc
        exact ⟨q, List.mem_cons_of_mem part hq, fit⟩

/-! ### Secrets -/

namespace Rule

variable {r other : Rule} {s t xs ys word : List Char} {c : Char}

/-- A lead with enough characters of a secret behind it. -/
def IsSecret (r : Rule) (word : List Char) : Prop :=
  ∃ taken secret, word = taken ++ secret ∧ scanAll r.lead word = some (taken, secret) ∧
    r.least ≤ secret.length ∧ ∀ c ∈ secret, r.secret c = true

/-- A rule finds a secret where a word begins that is one. -/
theorem replacement?_ne_none_iff (positive : 0 < r.least) :
    r.replacement? s ≠ none ↔ ∃ word, r.IsSecret word ∧ word <+: s := by
  constructor
  · intro found
    obtain ⟨⟨replaced, n⟩, found⟩ := Option.ne_none_iff_exists'.mp found
    obtain ⟨taken, rest, scanned, long, -⟩ := replacement?_eq_some.mp found
    obtain rfl := eq_append_of_scanAll scanned
    obtain ⟨c, secret, run⟩ := List.exists_cons_of_length_pos (positive.trans_le long)
    have next : (rest.takeWhile r.secret).head? = rest.head? := by
      cases rest with
      | nil => simp at run
      | cons d rest =>
          by_cases fit : r.secret d = true
          · simp [fit]
          · simp [fit] at run
    exact ⟨taken ++ rest.takeWhile r.secret,
      ⟨taken, _, rfl, scanAll_congr scanned (.inl next), long, fun d => List.mem_takeWhile_imp⟩,
      (List.prefix_append_right_inj taken).mpr (List.takeWhile_prefix r.secret)⟩
  · rintro ⟨word, ⟨taken, secret, rfl, scanned, long, all⟩, more, rfl⟩ none
    obtain ⟨c, secret, rfl⟩ := List.exists_cons_of_length_pos (positive.trans_le long)
    have found : scanAll r.lead (taken ++ (c :: secret ++ more)) =
        some (taken, c :: secret ++ more) := scanAll_congr scanned (.inl rfl)
    have longer : r.least ≤ ((c :: secret ++ more).takeWhile r.secret).length := by
      rw [List.takeWhile_append_of_pos all, List.length_append]
      exact long.trans (Nat.le_add_right ..)
    rw [List.append_assoc] at none
    cases none.symm.trans (replacement?_eq_some.mpr ⟨taken, _, found, longer, rfl, rfl⟩)

theorem IsSecret.ne_nil (positive : 0 < r.least) (h : r.IsSecret word) : word ≠ [] := by
  obtain ⟨taken, secret, rfl, -, long, -⟩ := h
  exact List.append_ne_nil_of_right_ne_nil _ (List.ne_nil_of_length_pos (positive.trans_le long))

/-- A text in which no secret begins is one without a word that is a secret. -/
theorem quiet_iff (positive : 0 < r.least) :
    r.Quiet s [] ↔ ∀ word, r.IsSecret word → ¬ word <:+: s := by
  constructor
  · intro quiet word secret inside
    obtain ⟨zs, begins, suffix⟩ := List.infix_iff_prefix_suffix.mp inside
    have nonempty : zs ≠ [] := by
      rintro rfl
      exact secret.ne_nil positive (List.prefix_nil.mp begins)
    have none := quiet zs nonempty suffix
    rw [List.append_nil] at none
    exact (replacement?_ne_none_iff positive).mpr ⟨word, secret, begins⟩ none
  · intro absent zs _ suffix
    by_contra found
    rw [List.append_nil] at found
    obtain ⟨word, secret, begins⟩ := (replacement?_ne_none_iff positive).mp found
    exact absent word secret (List.infix_iff_prefix_suffix.mpr ⟨zs, begins, suffix⟩)

theorem Quiet.concat (quiet : r.Quiet xs (c :: s)) (none : r.replacement? (c :: s) = none) :
    r.Quiet (xs ++ [c]) s := by
  intro zs nonempty suffix
  obtain rfl | ⟨ys, rfl, within⟩ := List.suffix_concat_iff.mp suffix
  · exact absurd rfl nonempty
  · rw [List.append_assoc]
    by_cases empty : ys = []
    · subst empty
      exact none
    · exact quiet ys empty within

theorem Quiet.append (front : r.Quiet xs ys) (back : r.Quiet ys []) : r.Quiet (xs ++ ys) [] := by
  induction xs with
  | nil => exact back
  | cons c xs ih =>
      obtain ⟨here, later⟩ := quiet_cons_iff.mp front
      exact quiet_cons_iff.mpr ⟨by simpa using here, ih later⟩

theorem Quiet.of_append (positive : 0 < r.least) (quiet : r.Quiet xs (ys ++ s)) :
    r.Quiet xs ys := by
  intro zs nonempty suffix
  by_contra found
  obtain ⟨word, secret, begins⟩ := (replacement?_ne_none_iff positive).mp found
  refine (replacement?_ne_none_iff positive).mpr ⟨word, secret, ?_⟩ (quiet zs nonempty suffix)
  rw [← List.append_assoc]
  exact begins.trans (List.prefix_append _ s)

/-! ### Marks in what a rule leaves -/

/-- What all rules have in common: the lead begins with a character, a secret has some, and the mark
stands in brackets. -/
structure WellFormed (r : Rule) : Prop where
  begins : ∃ p parts, r.lead = .one p :: parts
  positive : 0 < r.least
  bracketed : ∃ inner, r.mark.toList = '[' :: inner ++ [']']

theorem wellFormed_of_mem (h : r ∈ rules) : r.WellFormed := by
  simp only [rules, List.mem_cons, List.not_mem_nil, or_false] at h
  rcases h with rfl | rfl | rfl | rfl
  · exact ⟨⟨_, _, rfl⟩, by decide, "REDACTED_GITHUB_TOKEN".toList, by decide⟩
  · exact ⟨⟨_, _, rfl⟩, by decide, "REDACTED".toList, by decide⟩
  · exact ⟨⟨_, _, rfl⟩, by decide, "REDACTED".toList, by decide⟩
  · exact ⟨⟨_, _, rfl⟩, by decide, "REDACTED".toList, by decide⟩

theorem WellFormed.taken_ne_nil (proper : r.WellFormed) {taken rest : List Char}
    (found : scanAll r.lead s = some (taken, rest)) : taken ≠ [] := by
  obtain ⟨p, parts, lead⟩ := proper.begins
  rw [lead] at found
  obtain ⟨first, between, more, one, -, rfl⟩ := scanAll_cons_iff.mp found
  obtain ⟨c, -, rfl, -⟩ := Part.scan_one_iff.mp one
  exact List.cons_ne_nil c more

/-- What the rule makes of a text: a character is kept where no secret begins, and the mark takes
the place of a secret. -/
inductive Applied (r : Rule) : List Char → List Char → Prop
  | nil : Applied r [] []
  | keep {c : Char} {s t : List Char} (none : r.replacement? (c :: s) = none)
      (later : Applied r s t) : Applied r (c :: s) (c :: t)
  | mark {taken rest t : List Char} (found : scanAll r.lead (taken ++ rest) = some (taken, rest))
      (long : r.least ≤ (rest.takeWhile r.secret).length)
      (later : Applied r (rest.dropWhile r.secret) t) :
      Applied r (taken ++ rest) ((if r.keepsLead then taken else []) ++ r.mark.toList ++ t)

theorem WellFormed.applied (proper : r.WellFormed) (s : List Char) : r.Applied s (r.apply s) := by
  -- On the length of the text, since a secret takes several characters at once.
  induction length : s.length using Nat.strongRecOn generalizing s with
  | ind n ih =>
      cases s with
      | nil => exact .nil
      | cons c s =>
          cases found : r.replacement? (c :: s) with
          | none =>
              rw [apply_cons_of_none found]
              exact .keep found (ih s.length (by simp [← length]) s rfl)
          | some p =>
              obtain ⟨taken, rest, scanned, long, -⟩ := replacement?_eq_some.mp found
              have nonempty := proper.taken_ne_nil scanned
              have shorter : (rest.dropWhile r.secret).length < n := by
                have least := List.length_pos_iff.mpr nonempty
                have most := (List.dropWhile_suffix r.secret (l := rest)).length_le
                rw [← length, eq_append_of_scanAll scanned, List.length_append]
                omega
              rw [apply_of_scanAll scanned nonempty long]
              obtain whole := eq_append_of_scanAll scanned
              rw [whole] at scanned ⊢
              exact .mark scanned long (ih _ shorter _ rfl)

theorem infix_of_infix_append_cons (absent : c ∉ word) (inside : word <:+: xs ++ c :: ys) :
    word <:+: xs ∨ word <:+: ys := by
  rcases List.infix_append_iff.mp inside with left | right | ⟨front, back, rfl, suffix, begins⟩
  · exact .inl left
  · rcases List.infix_cons_iff.mp right with begins | right
    · cases word with
      | nil => exact .inl ⟨[], xs, rfl⟩
      | cons d word =>
          obtain ⟨rfl, -⟩ := List.cons_prefix_cons.mp begins
          exact absurd List.mem_cons_self absent
    · exact .inr right
  · cases back with
    | nil => exact .inl (by simpa using suffix.isInfix)
    | cons d back =>
        obtain ⟨rfl, -⟩ := List.cons_prefix_cons.mp begins
        exact absurd (by simp) absent

/-- A word without brackets that is where a secret was replaced is in the mark, or in what comes
before it or after it. -/
theorem WellFormed.infix_replaced (proper : r.WellFormed) (opening : '[' ∉ word)
    (closing : ']' ∉ word) {taken : List Char}
    (inside : word <:+: xs ++ ((if r.keepsLead then taken else []) ++ r.mark.toList ++ ys)) :
    word <:+: xs ++ taken ∨ word <:+: r.mark.toList ∨ word <:+: ys := by
  obtain ⟨inner, bracketed⟩ := proper.bracketed
  have split : xs ++ ((if r.keepsLead then taken else []) ++ r.mark.toList ++ ys) =
      xs ++ (if r.keepsLead then taken else []) ++ '[' :: (inner ++ ']' :: ys) := by
    simp [bracketed]
  have kept : (if r.keepsLead then taken else []) <+: taken := by
    split
    · exact List.prefix_rfl
    · exact ⟨taken, rfl⟩
  rw [split] at inside
  rcases infix_of_infix_append_cons opening inside with before | inside
  · exact .inl (before.trans ((List.prefix_append_right_inj xs).mpr kept).isInfix)
  · refine .inr ((infix_of_infix_append_cons closing inside).imp_left fun within => ?_)
    rw [bracketed]
    exact within.trans (List.infix_append ['['] inner [']'])

/-- The rule takes the character neither into a lead nor into a secret. -/
def Avoids (r : Rule) (c : Char) : Prop :=
  (∀ part ∈ r.lead, part.takes c = false) ∧ r.secret c = false

instance (r : Rule) (c : Char) : Decidable (r.Avoids c) :=
  inferInstanceAs (Decidable (_ ∧ _))

theorem Avoids.notMem (avoids : r.Avoids c) (h : r.IsSecret word) : c ∉ word := by
  obtain ⟨taken, secret, rfl, scanned, -, all⟩ := h
  intro hc
  rcases List.mem_append.mp hc with inLead | inSecret
  · obtain ⟨part, hpart, fit⟩ := exists_takes_of_scanAll scanned c inLead
    simp [avoids.1 part hpart] at fit
  · exact absurd (all c inSecret) (by simp [avoids.2])

/-- A word without brackets in what a rule makes of a text is in the text or in the mark. -/
theorem Applied.inside_append (proper : r.WellFormed) (opening : '[' ∉ word) (closing : ']' ∉ word)
    (applied : r.Applied s t) (xs : List Char) (inside : word <:+: xs ++ t) :
    word <:+: xs ++ s ∨ word <:+: r.mark.toList := by
  induction applied generalizing xs with
  | nil => exact .inl inside
  | @keep c s t none _ ih =>
      rw [List.append_cons] at inside ⊢
      exact ih _ inside
  | @mark taken rest t _ _ _ ih =>
      rcases proper.infix_replaced opening closing inside with before | within | after
      · exact .inl (before.trans ⟨[], rest, by simp⟩)
      · exact .inr within
      · refine (ih [] after).imp_left fun behind => behind.trans ?_
        exact ((List.dropWhile_suffix r.secret).trans
          ((List.suffix_append taken rest).trans (List.suffix_append xs _))).isInfix

/-- The rule does without brackets, and the first character of its lead does not come again in the
lead. -/
structure Strict (r : Rule) (p : Char → Bool) : Prop where
  proper : r.WellFormed
  opening : r.Avoids '['
  closing : r.Avoids ']'
  begins : ∃ parts, r.lead = .one p :: parts ∧
    ∀ c, p c = true → ∀ part ∈ parts, part.takes c = false

theorem Strict.quiet_of_lacks {p : Char → Bool} (strict : r.Strict p)
    (lacks : ∀ c ∈ s, p c = false) : r.Quiet s [] := by
  obtain ⟨parts, lead, -⟩ := strict.begins
  exact quiet_of_first [] lead lacks

/-- **A rule puts no secret of another into a text**, if the other is strict. -/
theorem Strict.quiet_apply {p : Char → Bool} (strict : r.Strict p) (proper : other.WellFormed)
    (lacks : ∀ c ∈ other.mark.toList, p c = false) (quiet : r.Quiet s []) :
    r.Quiet (other.apply s) [] := by
  have positive := strict.proper.positive
  have marked := strict.quiet_of_lacks lacks
  rw [quiet_iff positive] at quiet marked ⊢
  intro word secret inside
  have place := (proper.applied s).inside_append proper (strict.opening.notMem secret)
    (strict.closing.notMem secret) [] inside
  rcases place with inText | inMark
  · exact quiet word secret inText
  · exact marked word secret inMark

/-- The lead of a strict rule holds no secret. -/
theorem Strict.quiet_lead {p : Char → Bool} (strict : r.Strict p) {taken rest : List Char}
    (found : scanAll r.lead (taken ++ rest) = some (taken, rest)) : r.Quiet taken [] := by
  have alone : scanAll r.lead taken = some (taken, []) := by
    have ended : scanAll r.lead (taken ++ []) = some (taken, []) :=
      scanAll_congr found (.inr (by simp))
    rwa [List.append_nil] at ended
  have here : r.replacement? taken = none := by
    by_contra some
    obtain ⟨⟨replaced, n⟩, some⟩ := Option.ne_none_iff_exists'.mp some
    obtain ⟨_, _, scanned, long, -⟩ := replacement?_eq_some.mp some
    obtain ⟨-, rfl⟩ := Prod.mk.inj (Option.some.inj (alone.symm.trans scanned))
    exact absurd (strict.proper.positive.trans_le long) (by simp)
  obtain ⟨parts, lead, once⟩ := strict.begins
  rw [lead] at alone
  obtain ⟨first, between, more, one, others, rfl⟩ := scanAll_cons_iff.mp alone
  have lacks : ∀ c ∈ more, p c = false := by
    intro c hc
    obtain ⟨part, hpart, takes⟩ := exists_takes_of_scanAll others c hc
    by_contra fit
    simp [once c (by simpa using fit) part hpart] at takes
  obtain ⟨c, -, rfl, -⟩ := Part.scan_one_iff.mp one
  exact quiet_cons_iff.mpr ⟨by simpa using here, strict.quiet_of_lacks lacks⟩

/-- **A rule leaves no secret of its own**, if it is strict. -/
theorem Strict.quiet_apply_self {p : Char → Bool} (strict : r.Strict p)
    (lacks : ∀ c ∈ r.mark.toList, p c = false) (s : List Char) : r.Quiet (r.apply s) [] := by
  have proper := strict.proper
  have positive := proper.positive
  have marked := strict.quiet_of_lacks lacks
  suffices ∀ t, r.Applied s t → ∀ xs, r.Quiet xs s → r.Quiet (xs ++ t) [] from
    this _ (proper.applied s) [] (quiet_nil s)
  intro t applied xs quiet
  induction applied generalizing xs with
  | nil => simpa using quiet
  | @keep c s t none _ ih =>
      rw [List.append_cons]
      exact ih _ (quiet.concat none)
  | @mark taken rest t found _ _ ih =>
      have front := (quiet.of_append positive).append (strict.quiet_lead found)
      have back := ih [] (quiet_nil _)
      rw [quiet_iff positive] at front marked back ⊢
      intro word secret inside
      rcases proper.infix_replaced (strict.opening.notMem secret) (strict.closing.notMem secret)
        inside with before | within | after
      · exact front word secret before
      · exact marked word secret within
      · exact back word secret after

/-- What a strict rule and rules after it leave has no secret of the strict one. -/
theorem Strict.quiet_foldl {p : Char → Bool} (strict : r.Strict p) (others : List Rule)
    (listed : others ⊆ rules) (none : ∀ o ∈ r :: others, o.mark.toList.any p = false)
    (s : List Char) : r.Quiet ((r :: others).foldl (fun s o => o.apply s) s) [] := by
  have lacks : ∀ o ∈ r :: others, ∀ c ∈ o.mark.toList, p c = false := by
    intro o ho c hc
    simpa using List.any_eq_false.mp (none o ho) c hc
  obtain ⟨own, later⟩ := List.forall_mem_cons.mp lacks
  suffices ∀ t, r.Quiet t [] → r.Quiet (others.foldl (fun s o => o.apply s) t) [] from
    this _ (strict.quiet_apply_self own s)
  clear none lacks
  induction others with
  | nil => exact fun _ quiet => quiet
  | cons o others ih =>
      obtain ⟨here, later⟩ := List.forall_mem_cons.mp later
      obtain ⟨known, listed⟩ := List.cons_subset.mp listed
      exact fun t quiet =>
        ih listed later _ (strict.quiet_apply (wellFormed_of_mem known) here quiet)

/-! ### A mark that is a secret itself -/

theorem Applied.head?_eq (keeps : r.keepsLead = true) (proper : r.WellFormed)
    (applied : r.Applied s t) : t.head? = s.head? := by
  cases applied with
  | nil => rfl
  | keep none later => rfl
  | mark found long later =>
      obtain ⟨c, taken, rfl⟩ := List.exists_cons_of_ne_nil (proper.taken_ne_nil found)
      simp [keeps]

/-- Where no secret begins before a secret, none begins before its mark. -/
theorem Quiet.marked {taken rest behind : List Char} (least : r.least = 1)
    (opening : ∀ part ∈ r.lead, part.takes '[' = false)
    (apart : ∀ c, r.secret c = true → ∀ part ∈ r.lead, part.goesOn c = false)
    (long : r.least ≤ (rest.takeWhile r.secret).length) (quiet : r.Quiet xs (taken ++ rest)) :
    r.Quiet xs (taken ++ '[' :: behind) := by
  intro zs nonempty suffix
  by_contra found
  obtain ⟨⟨replaced, n⟩, found⟩ := Option.ne_none_iff_exists'.mp found
  obtain ⟨lead, later, scanned, some, -⟩ := replacement?_eq_some.mp found
  have whole := eq_append_of_scanAll scanned
  rw [← List.append_assoc] at whole
  -- The lead ends before the bracket.
  obtain ⟨between, before, rfl⟩ : ∃ between, zs ++ taken = lead ++ between ∧
      later = between ++ '[' :: behind := by
    rcases List.append_eq_append_iff.mp whole with ⟨more, rfl, bracket⟩ | split
    · cases more with
      | nil => exact ⟨[], by simp, bracket.symm⟩
      | cons c more =>
          obtain ⟨rfl, -⟩ := List.cons_eq_cons.mp bracket
          obtain ⟨part, hpart, takes⟩ := exists_takes_of_scanAll scanned '[' (by simp)
          simp [opening part hpart] at takes
    · exact split
  -- So it is found before the secret as well, where a character of the secret follows.
  rw [least, one_le_length_takeWhile_iff] at long some
  rw [← List.append_assoc, whole] at scanned
  have again : scanAll r.lead (lead ++ (between ++ rest)) =
      Option.some (lead, between ++ rest) := by
    refine scanAll_congr scanned ?_
    cases between with
    | nil =>
        obtain ⟨c, first, fit⟩ := long
        refine .inr fun d hd => apart d ?_
        rwa [Option.mem_unique hd first]
    | cons b between => exact .inl rfl
  have longer : r.least ≤ ((between ++ rest).takeWhile r.secret).length := by
    rw [least, one_le_length_takeWhile_iff]
    cases between with
    | nil => exact long
    | cons b between => exact some
  have none := quiet zs nonempty suffix
  rw [← List.append_assoc, before, List.append_assoc] at none
  cases none.symm.trans (replacement?_eq_some.mpr ⟨lead, _, again, longer, rfl, rfl⟩)

/-- **A mark that is a secret itself** is replaced by itself: the rule applied to what it leaves
changes nothing. -/
theorem apply_apply (proper : r.WellFormed) (keeps : r.keepsLead = true) (least : r.least = 1)
    (opening : ∀ part ∈ r.lead, part.takes '[' = false)
    (apart : ∀ c, r.secret c = true → ∀ part ∈ r.lead, part.goesOn c = false)
    (marked : ∀ c ∈ r.mark.toList, r.secret c = true) (s : List Char) :
    r.apply (r.apply s) = r.apply s := by
  suffices ∀ t, r.Applied s t → ∀ xs, r.Quiet xs s → r.apply (xs ++ t) = xs ++ t from
    this _ (proper.applied s) [] (quiet_nil s)
  intro t applied xs quiet
  induction applied generalizing xs with
  | nil => exact apply_eq_self (by simpa using quiet)
  | @keep c s t none _ ih =>
      rw [List.append_cons]
      exact ih _ (quiet.concat none)
  | @mark taken rest t found long later ih =>
      obtain ⟨inner, bracketed⟩ := proper.bracketed
      have opens : r.mark.toList ++ t = '[' :: (inner ++ ']' :: t) := by simp [bracketed]
      have before : r.Quiet xs (taken ++ (r.mark.toList ++ t)) :=
        opens ▸ quiet.marked least opening apart long
      have lead : scanAll r.lead (taken ++ (r.mark.toList ++ t)) =
          some (taken, r.mark.toList ++ t) := by
        refine scanAll_congr found (.inr fun c hc part hpart => ?_)
        obtain rfl : '[' = c := by simpa [opens] using hc
        exact Part.goesOn_of_takes (opening part hpart)
      have stops : t.takeWhile r.secret = [] := by
        rw [takeWhile_eq_nil_iff, later.head?_eq keeps proper]
        intro c hc
        have first := List.head?_dropWhile_not r.secret rest
        rwa [hc] at first
      have run : (r.mark.toList ++ t).takeWhile r.secret = r.mark.toList := by
        rw [List.takeWhile_append_of_pos marked, stops, List.append_nil]
      have behind : (r.mark.toList ++ t).dropWhile r.secret = t := by
        rw [List.dropWhile_append_of_pos marked]
        simpa [stops] using List.takeWhile_append_dropWhile (p := r.secret) (l := t)
      have some : r.least ≤ ((r.mark.toList ++ t).takeWhile r.secret).length := by
        rw [run, least, bracketed]
        simp
      have again : r.apply t = t := ih [] (quiet_nil _)
      rw [if_pos keeps, List.append_assoc, apply_append_of_quiet before,
        apply_of_scanAll lead (proper.taken_ne_nil found) some, behind, again, if_pos keeps,
        List.append_assoc]

end Rule

end Verdict.Redaction
