import Mathlib.Data.List.DropRight
import Verdict.Proofs.Log.Substitution

/-!
# Log: texts of which only marks are left

A text is covered when the marks are all that is left of it.  The first rule leaves a mark for each
token with a prefix and keeps all else, so the texts it covers are rows of marks and of such tokens.

* `withoutMarks_eq_nil_iff`: a text without its marks is empty when it is a row of marks.
* `prefixedToken_eq_none_iff`: where a token with a prefix begins.
* `isMarks_prefixedToken_iff`: the texts that the rule for these tokens covers.
-/

namespace Verdict.Redaction

/-! ### Marks -/

/-- The marks that stand for secrets. -/
def marks : List String := ["[REDACTED]", "[REDACTED_GITHUB_TOKEN]"]

/-- The mark at the beginning of a text. -/
def markAt? (s : List Char) : Option String :=
  marks.find? (·.toList.isPrefixOf s)

/-- A text without its marks. `skip` characters belong to the mark already left out. -/
def withoutMarksFrom : (skip : Nat) → List Char → List Char
  | _, [] => []
  | skip + 1, _ :: s => withoutMarksFrom skip s
  | 0, c :: s =>
    match markAt? (c :: s) with
    | some mark => withoutMarksFrom (mark.length - 1) s
    | none => c :: withoutMarksFrom 0 s

/-- A text without its marks. -/
def withoutMarks (s : List Char) : List Char :=
  withoutMarksFrom 0 s

/-- A row of marks. -/
inductive IsMarks : List Char → Prop
  | nil : IsMarks []
  | cons {mark : String} {s : List Char} (listed : mark ∈ marks) (later : IsMarks s) :
    IsMarks (mark.toList ++ s)

variable {mark : String} {s : List Char}

theorem eq_bracket_cons_of_mem_marks (listed : mark ∈ marks) :
    ∃ inner, mark.toList = '[' :: inner ∧ '[' ∉ inner := by
  simp only [marks, List.mem_cons, List.not_mem_nil, or_false] at listed
  rcases listed with rfl | rfl
  · exact ⟨_, rfl, by decide⟩
  · exact ⟨_, rfl, by decide⟩

theorem prefix_of_markAt? (found : markAt? s = some mark) : mark ∈ marks ∧ mark.toList <+: s := by
  unfold markAt? at found
  exact ⟨List.mem_of_find?_eq_some found, by simpa using List.find?_some found⟩

/-- No mark begins with another one. -/
theorem markAt?_append (listed : mark ∈ marks) : markAt? (mark.toList ++ s) = some mark := by
  obtain ⟨other, found⟩ : ∃ other, markAt? (mark.toList ++ s) = some other :=
    Option.isSome_iff_exists.mp (List.find?_isSome.mpr ⟨mark, listed, by simp⟩)
  have apart : ∀ m ∈ marks, ∀ n ∈ marks, m.toList <+: n.toList → m = n := by decide
  obtain ⟨among, begins⟩ := prefix_of_markAt? found
  rw [found]
  rcases List.prefix_or_prefix_of_prefix begins (List.prefix_append mark.toList s) with h | h
  · rw [apart other among mark listed h]
  · rw [apart mark listed other among h]

theorem withoutMarksFrom_eq_drop (n : Nat) (s : List Char) :
    withoutMarksFrom n s = withoutMarks (s.drop n) := by
  induction s generalizing n with
  | nil => cases n <;> rfl
  | cons c s ih =>
      cases n with
      | zero => rfl
      | succ n => exact ih n

theorem withoutMarks_append (listed : mark ∈ marks) :
    withoutMarks (mark.toList ++ s) = withoutMarks s := by
  obtain ⟨inner, opened, -⟩ := eq_bracket_cons_of_mem_marks listed
  have found := markAt?_append (s := s) listed
  have length : mark.length - 1 = inner.length := by
    rw [← String.length_toList, opened]
    rfl
  rw [opened, List.cons_append] at found ⊢
  rw [withoutMarks, withoutMarksFrom, found]
  simp only [length, withoutMarksFrom_eq_drop, List.drop_left]

theorem withoutMarks_cons_of_ne {c : Char} (h : c ≠ '[') :
    withoutMarks (c :: s) = c :: withoutMarks s := by
  have none : markAt? (c :: s) = none := by
    by_contra found
    obtain ⟨mark, found⟩ := Option.ne_none_iff_exists'.mp found
    obtain ⟨listed, begins⟩ := prefix_of_markAt? found
    obtain ⟨inner, opened, -⟩ := eq_bracket_cons_of_mem_marks listed
    rw [opened, List.cons_prefix_cons] at begins
    exact h begins.1.symm
  rw [withoutMarks, withoutMarksFrom, none]
  rfl

theorem withoutMarks_append_of_plain {word : List Char} (plain : '[' ∉ word) :
    withoutMarks (word ++ s) = word ++ withoutMarks s := by
  induction word with
  | nil => rfl
  | cons c word ih =>
      rw [List.cons_append, withoutMarks_cons_of_ne (List.ne_of_not_mem_cons plain).symm,
        ih (List.not_mem_of_not_mem_cons plain), List.cons_append]

theorem withoutMarks_eq_nil_iff : withoutMarks s = [] ↔ IsMarks s := by
  constructor
  · intro empty
    -- On the length of the text, since a mark takes several characters at once.
    induction length : s.length using Nat.strongRecOn generalizing s with
    | ind n ih =>
        cases s with
        | nil => exact .nil
        | cons c t =>
            cases found : markAt? (c :: t) with
            | none => simp [withoutMarks, withoutMarksFrom, found] at empty
            | some mark =>
                obtain ⟨listed, rest, whole⟩ := prefix_of_markAt? found
                obtain ⟨inner, opened, -⟩ := eq_bracket_cons_of_mem_marks listed
                rw [← whole] at empty length ⊢
                rw [withoutMarks_append listed] at empty
                refine .cons listed (ih rest.length ?_ empty rfl)
                simp only [← length, opened, List.length_append, List.length_cons]
                omega
  · intro row
    induction row with
    | nil => rfl
    | cons listed _ ih => rw [withoutMarks_append listed, ih]

/-- What follows a mark in a row of marks is a row of marks. -/
theorem IsMarks.append_iff (listed : mark ∈ marks) :
    IsMarks (mark.toList ++ s) ↔ IsMarks s := by
  rw [← withoutMarks_eq_nil_iff, withoutMarks_append listed, withoutMarks_eq_nil_iff]

theorem IsMarks.of_cons {c : Char} (row : IsMarks (c :: s)) :
    ∃ mark ∈ marks, ∃ inner later, mark.toList = c :: inner ∧ '[' ∉ inner ∧ s = inner ++ later ∧
      IsMarks later := by
  generalize whole : c :: s = t at row
  cases row with
  | nil => cases whole
  | @cons mark later listed row =>
      obtain ⟨inner, opened, plain⟩ := eq_bracket_cons_of_mem_marks listed
      rw [opened, List.cons_append, List.cons.injEq] at whole
      obtain ⟨rfl, rfl⟩ := whole
      exact ⟨mark, listed, inner, later, opened, plain, rfl, row⟩

theorem IsMarks.lacks {p : Char → Bool} (row : IsMarks s)
    (absent : ∀ mark ∈ marks, mark.toList.all (!p ·) = true) : ∀ c ∈ s, p c = false := by
  induction row with
  | nil => simp
  | cons listed _ ih =>
      exact List.forall_mem_append.mpr ⟨Rule.lacks_of_all (absent _ listed), ih⟩

theorem dropWhile_mark {p : Char → Bool} (listed : mark ∈ marks) (bracket : p '[' = false) :
    (mark.toList ++ s).dropWhile p = mark.toList ++ s := by
  obtain ⟨inner, opened, -⟩ := eq_bracket_cons_of_mem_marks listed
  rw [opened, List.cons_append, List.dropWhile_cons_of_neg (by simp [bracket])]

theorem IsMarks.dropWhile_eq {p : Char → Bool} (row : IsMarks s) (bracket : p '[' = false) :
    s.dropWhile p = s := by
  cases row with
  | nil => rfl
  | cons listed _ => exact dropWhile_mark listed bracket

/-! ### Tokens with a prefix -/

/-- A token with a prefix: the prefix and at least 36 letters, digits and underscores. -/
def IsPrefixedToken (t : List Char) : Prop :=
  ∃ kind ∈ "pousr".toList, ∃ secret : List Char, t = 'g' :: 'h' :: kind :: '_' :: secret ∧
    36 ≤ secret.length ∧ ∀ c ∈ secret, prefixedToken.secret c = true

theorem IsPrefixedToken.ne_nil {t : List Char} (token : IsPrefixedToken t) : t ≠ [] := by
  obtain ⟨kind, -, secret, rfl, -⟩ := token
  exact List.cons_ne_nil _ _

theorem IsPrefixedToken.all {t : List Char} (token : IsPrefixedToken t) :
    ∀ c ∈ t, prefixedToken.secret c = true := by
  obtain ⟨kind, listed, secret, rfl, -, all⟩ := token
  have kinds : ∀ c ∈ "pousr".toList, prefixedToken.secret c = true :=
    List.all_eq_true.mp (by decide)
  simpa [kinds kind listed] using ⟨by decide, by decide, by decide, all⟩

theorem scanAll_prefixedToken_iff {taken rest : List Char} :
    scanAll prefixedToken.lead s = some (taken, rest) ↔
      s = taken ++ rest ∧ ∃ kind ∈ "pousr".toList, taken = ['g', 'h', kind, '_'] := by
  have lead : prefixedToken.lead =
    [(· == 'g'), (· == 'h'), ("pousr".toList.contains ·), (· == '_')].map .one := rfl
  rw [lead, scanAll_ones_iff]
  refine and_congr_right fun _ => ⟨?_, ?_⟩
  · rintro (_ | ⟨g, _ | ⟨h, _ | ⟨listed, _ | ⟨under, ⟨⟩⟩⟩⟩⟩)
    exact ⟨_, by simpa using listed, by simp_all⟩
  · rintro ⟨kind, listed, rfl⟩
    exact .cons rfl (.cons rfl (.cons (by simpa using listed) (.cons rfl .nil)))

theorem prefixedToken_of_some {replaced : List Char} {n : Nat}
    (found : prefixedToken.replacement? s = some (replaced, n)) :
    ∃ t rest, IsPrefixedToken t ∧ s = t ++ rest ∧ rest.dropWhile prefixedToken.secret = rest := by
  obtain ⟨taken, rest, lead, long, rfl, rfl⟩ := Rule.replacement?_eq_some.mp found
  obtain ⟨rfl, kind, listed, rfl⟩ := scanAll_prefixedToken_iff.mp lead
  refine ⟨['g', 'h', kind, '_'] ++ rest.takeWhile prefixedToken.secret,
    rest.dropWhile prefixedToken.secret,
    ⟨kind, listed, _, rfl, long, fun c => List.mem_takeWhile_imp⟩, ?_, ?_⟩
  · rw [List.append_assoc, List.takeWhile_append_dropWhile]
  · exact List.dropWhile_idempotent _ rest

/-- The rule for tokens with a prefix finds such a token and takes it as far as its characters
go. -/
theorem scanAll_of_token {t : List Char} (token : IsPrefixedToken t) (s : List Char) :
    ∃ lead rest, scanAll prefixedToken.lead (t ++ s) = some (lead, rest) ∧ lead ≠ [] ∧
      prefixedToken.least ≤ (rest.takeWhile prefixedToken.secret).length ∧
      rest.dropWhile prefixedToken.secret = s.dropWhile prefixedToken.secret := by
  obtain ⟨kind, listed, secret, rfl, long, all⟩ := token
  refine ⟨['g', 'h', kind, '_'], secret ++ s, ?_, List.cons_ne_nil _ _, ?_,
    List.dropWhile_append_of_pos all⟩
  · exact scanAll_prefixedToken_iff.mpr ⟨rfl, kind, listed, rfl⟩
  · rw [List.takeWhile_append_of_pos all, List.length_append]
    exact long.trans (Nat.le_add_right ..)

/-- The rule for tokens with a prefix finds nothing where no such token begins. -/
theorem prefixedToken_eq_none_iff :
    prefixedToken.replacement? s = none ↔ ∀ t, IsPrefixedToken t → ¬ t <+: s := by
  constructor
  · rintro none t token ⟨rest, rfl⟩
    obtain ⟨lead, behind, found, -, long, -⟩ := scanAll_of_token token rest
    cases none.symm.trans (Rule.replacement?_eq_some.mpr ⟨lead, behind, found, long, rfl, rfl⟩)
  · intro absent
    by_contra found
    obtain ⟨⟨replaced, n⟩, found⟩ := Option.ne_none_iff_exists'.mp found
    obtain ⟨t, rest, token, rfl, -⟩ := prefixedToken_of_some found
    exact absent t token (List.prefix_append t rest)

theorem apply_token_append {t : List Char} (token : IsPrefixedToken t) (s : List Char) :
    prefixedToken.apply (t ++ s) = prefixedToken.mark.toList ++
      prefixedToken.apply (s.dropWhile prefixedToken.secret) := by
  obtain ⟨lead, rest, found, nonempty, long, behind⟩ := scanAll_of_token token s
  rw [Rule.apply_of_scanAll found nonempty long, behind]
  rfl

/-- In what the rule for tokens with a prefix makes of a text, all before the first bracket is
kept. -/
theorem exists_of_apply_eq_append {kept later : List Char}
    (whole : prefixedToken.apply s = kept ++ later) (plain : '[' ∉ kept) :
    ∃ rest, s = kept ++ rest ∧ prefixedToken.Quiet kept rest ∧
      prefixedToken.apply rest = later := by
  induction kept generalizing s with
  | nil => exact ⟨s, rfl, Rule.quiet_nil s, whole⟩
  | cons c kept ih =>
      cases s with
      | nil => cases whole
      | cons d s =>
          cases found : prefixedToken.replacement? (d :: s) with
          | none =>
              rw [Rule.apply_cons_of_none found, List.cons_append, List.cons.injEq] at whole
              obtain ⟨rfl, whole⟩ := whole
              obtain ⟨rest, rfl, quiet, same⟩ := ih whole (List.not_mem_of_not_mem_cons plain)
              exact ⟨rest, rfl, Rule.quiet_cons_iff.mpr ⟨found, quiet⟩, same⟩
          | some p =>
              obtain ⟨t, rest, token, same, -⟩ := prefixedToken_of_some found
              rw [same, apply_token_append token] at whole
              obtain ⟨rfl, -⟩ := List.cons_eq_cons.mp whole
              exact absurd List.mem_cons_self plain

/-- A row of marks and of tokens with a prefix. -/
inductive IsCovered : List Char → Prop
  | nil : IsCovered []
  | mark {mark : String} {s : List Char} (listed : mark ∈ marks) (later : IsCovered s) :
    IsCovered (mark.toList ++ s)
  | token {t s : List Char} (token : IsPrefixedToken t) (later : IsCovered s) : IsCovered (t ++ s)

/-- What the rule for tokens with a prefix makes into a row of marks is a row of marks and tokens. -/
theorem isCovered_of_isMarks (row : IsMarks (prefixedToken.apply s)) : IsCovered s := by
  induction length : s.length using Nat.strongRecOn generalizing s with
  | ind n ih =>
      cases s with
      | nil => exact .nil
      | cons c s =>
          cases found : prefixedToken.replacement? (c :: s) with
          | none =>
              rw [Rule.apply_cons_of_none found] at row
              obtain ⟨mark, listed, inner, later, opened, plain, whole, row⟩ := row.of_cons
              obtain ⟨rest, rfl, -, rfl⟩ := exists_of_apply_eq_append whole plain
              have shorter : rest.length < n := by
                simp only [← length, List.length_cons, List.length_append]
                omega
              rw [← List.cons_append, ← opened]
              exact .mark listed (ih rest.length shorter row rfl)
          | some p =>
              obtain ⟨t, rest, token, whole, stops⟩ := prefixedToken_of_some found
              rw [whole, apply_token_append token, stops, IsMarks.append_iff (by decide)] at row
              have shorter : rest.length < n := by
                have := List.length_pos_iff.mpr token.ne_nil
                simp only [← length, whole, List.length_append]
                omega
              rw [whole]
              exact .token token (ih rest.length shorter row rfl)

/-- The rule for tokens with a prefix makes a row of marks and tokens into a row of marks.  A token
takes the characters of a token that come after it along with it. -/
theorem IsCovered.isMarks (covered : IsCovered s) :
    IsMarks (prefixedToken.apply s) ∧
      IsMarks (prefixedToken.apply (s.dropWhile prefixedToken.secret)) := by
  induction covered with
  | nil => exact ⟨.nil, .nil⟩
  | @mark mark s listed _ ih =>
      have kept : prefixedToken.apply (mark.toList ++ s) =
          mark.toList ++ prefixedToken.apply s := by
        have lacks : ∀ m ∈ marks, m.toList.all (!· == 'g') = true := by decide
        exact Rule.apply_append_of_quiet
          (Rule.quiet_of_first s rfl (Rule.lacks_of_all (lacks mark listed)))
      rw [dropWhile_mark listed (by decide), kept]
      exact ⟨.cons listed ih.1, .cons listed ih.1⟩
  | token token _ ih =>
      rw [apply_token_append token, List.dropWhile_append_of_pos token.all]
      exact ⟨.cons (by decide) ih.2, ih.2⟩

/-- **A row of marks and tokens**: it is what the rule for tokens with a prefix makes into a row of
marks. -/
theorem isMarks_prefixedToken_iff : IsMarks (prefixedToken.apply s) ↔ IsCovered s :=
  ⟨isCovered_of_isMarks, fun covered => covered.isMarks.1⟩

end Verdict.Redaction
