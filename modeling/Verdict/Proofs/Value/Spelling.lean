import Verdict.Proofs.Value.Selector

/-!
# Values: spellings of a path

A path has many spellings.  Its first step stands behind `$.` or `$`, or by itself, and every
further step stands behind a point or between brackets, as one likes (`Spells`, `SpellsOn`).

* `splitTokens_append`, `splitTokens_separator`: a step is split off up to the next separator, and
  separators in a row count as one.
* `splitTokens_of_spellsOn`: so the steps behind the first are split off one after another.
* `tokens_of_spells`: whatever the spelling, the tokens of the selector are the path.

Two selectors joined by a point select what the second one finds in what the first one found
(`select_point`), whether the first has a mark of the root or not, has no steps at all or ends in
separators.  The second may not begin with `$`: behind a point that is no mark but a part of a step.

* `splitTokens_append_separator`: a separator splits what stands before it from what stands behind.
* `splitTokens_dropRoot_point`: the mark is taken off the first part only, even where the point goes
  with it.
* `tokens_point`: so the tokens of the whole are those of the first and then those of the second.
-/

namespace Verdict.Value

/-- How the steps behind the first are written: each behind a point or between brackets. -/
inductive SpellsOn : List String → List Char → Prop
  | done : SpellsOn [] []
  | point {step : String} {path : List String} {chars : List Char} (more : SpellsOn path chars) :
      SpellsOn (step :: path) ('.' :: step.toList ++ chars)
  | bracket {step : String} {path : List String} {chars : List Char} (more : SpellsOn path chars) :
      SpellsOn (step :: path) ('[' :: step.toList ++ ']' :: chars)

/-- How a path is written, apart from the mark of the root. -/
inductive Spells : List String → List Char → Prop
  | empty : Spells [] []
  | steps {first : String} {path : List String} {chars : List Char} (more : SpellsOn path chars) :
      Spells (first :: path) (first.toList ++ chars)

/-- The marks of the root. -/
def rootMarks : List String := ["$.", "$"]

/-! ### Splitting -/

theorem IsStep.toList_ne_nil {s : String} (h : IsStep s) : s.toList ≠ [] := fun empty =>
  h.nonempty (String.toList_eq_nil_iff.mp empty)

theorem splitTokens_separator {c : Char} (h : isSeparator c = true) (chars : List Char) :
    splitTokens (c :: chars) = splitTokens chars := by
  have first : (c :: chars).splitOnP isSeparator = [] :: chars.splitOnP isSeparator :=
    List.splitOnP_append_cons_of_forall_mem (List.forall_mem_nil _) c h chars
  rw [splitTokens, first, List.filter_cons_of_neg (by simp), splitTokens]

/-- A step is split off where nothing or a separator follows it. -/
theorem splitTokens_append {s : String} (h : IsStep s) {chars : List Char}
    (ends : ∀ c ∈ chars.head?, isSeparator c = true) :
    splitTokens (s.toList ++ chars) = s.toList :: splitTokens chars := by
  cases chars with
  | nil =>
      rw [List.append_nil, splitTokens, List.splitOnP_eq_singleton h.whole,
        List.filter_cons_of_pos (by simpa using h.nonempty)]
      rfl
  | cons c chars =>
      have separates : isSeparator c = true := ends c rfl
      rw [splitTokens_separator separates, splitTokens,
        List.splitOnP_append_cons_of_forall_mem h.whole c separates,
        List.filter_cons_of_pos (by simpa using h.nonempty), splitTokens]

theorem SpellsOn.head?_isSeparator {path : List String} {chars : List Char}
    (h : SpellsOn path chars) : ∀ c ∈ chars.head?, isSeparator c = true := by
  cases h with
  | done => exact nofun
  | point | bracket =>
      rintro c ⟨⟩
      rfl

/-- **The steps behind the first** are split off one after another. -/
theorem splitTokens_of_spellsOn {path : List String} {chars : List Char}
    (h : SpellsOn path chars) (steps : ∀ s ∈ path, IsStep s) :
    splitTokens chars = path.map String.toList := by
  induction h with
  | done => rfl
  | @point step path chars more ih =>
      obtain ⟨first, rest⟩ := List.forall_mem_cons.mp steps
      rw [List.cons_append, splitTokens_separator rfl,
        splitTokens_append first more.head?_isSeparator, ih rest, List.map_cons]
  | @bracket step path chars more ih =>
      obtain ⟨first, rest⟩ := List.forall_mem_cons.mp steps
      -- The closing bracket ends the step whatever follows, and is a separator too many.
      have ends : ∀ c ∈ (']' :: chars).head?, isSeparator c = true := by
        rintro c ⟨⟩
        rfl
      rw [List.cons_append, splitTokens_separator rfl, splitTokens_append first ends,
        splitTokens_separator rfl, ih rest, List.map_cons]

/-! ### Paths -/

theorem splitTokens_of_spells {path : List String} {chars : List Char} (h : Spells path chars)
    (steps : ∀ s ∈ path, IsStep s) : splitTokens chars = path.map String.toList := by
  cases h with
  | empty => rfl
  | steps more =>
      obtain ⟨first, rest⟩ := List.forall_mem_cons.mp steps
      rw [splitTokens_append first more.head?_isSeparator, splitTokens_of_spellsOn more rest,
        List.map_cons]

/-- What a path is written as begins with its first step. -/
theorem Spells.head?_eq {path : List String} {chars : List Char} (h : Spells path chars)
    (steps : ∀ s ∈ path, IsStep s) : chars.head? = path.head?.bind (·.toList.head?) := by
  cases h with
  | empty => rfl
  | @steps first path chars more =>
      obtain ⟨c, cs, whole⟩ :=
        List.exists_cons_of_ne_nil (steps first List.mem_cons_self).toList_ne_nil
      simp [whole]

/-- The mark of the root is taken off, and no point of what follows it. -/
theorem dropRoot_of_mark {mark : String} (h : mark ∈ rootMarks) {chars : List Char}
    (noPoint : chars.head? ≠ some '.') : dropRoot (mark.toList ++ chars) = chars := by
  rcases List.mem_pair.mp h with rfl | rfl
  · rfl
  · cases chars with
    | nil => rfl
    | cons c chars =>
        have other : c ≠ '.' := fun point => noPoint (congrArg some point)
        show dropRoot ('$' :: c :: chars) = c :: chars
        unfold dropRoot
        split
        · next same =>
            obtain ⟨rfl, -⟩ := List.cons.inj (List.cons.inj same).2
            exact absurd rfl other
        · next same => exact (List.cons.inj same).2.symm
        · next unmarked => exact absurd rfl (unmarked _)

theorem tokens_ofList (chars : List Char) :
    tokens (String.ofList chars) = (splitTokens (dropRoot chars)).map String.ofList := by
  rw [tokens, String.toList_ofList]

/-- **What is written is read back.**  The tokens of a selector that spells a path are that path,
behind either mark of the root; without a mark too, if the first step does not begin with `$`. -/
theorem tokens_of_spells {path : List String} (steps : ∀ s ∈ path, IsStep s) {chars : List Char}
    (h : Spells path chars) :
    (∀ mark ∈ rootMarks, tokens (mark ++ String.ofList chars) = path) ∧
      ((∀ s, path.head? = some s → s.toList.head? ≠ some '$') →
        tokens (String.ofList chars) = path) := by
  have back : (splitTokens chars).map String.ofList = path := by
    rw [splitTokens_of_spells h steps, List.map_map]
    exact (List.map_congr_left fun s _ => String.ofList_toList).trans (List.map_id path)
  have begins (c : Char) (hc : chars.head? = some c) :
      ∃ s, path.head? = some s ∧ s.toList.head? = some c := by
    rw [h.head?_eq steps] at hc
    exact Option.bind_eq_some_iff.mp hc
  refine ⟨fun mark hmark => ?_, fun unmarked => ?_⟩
  · -- The first step holds no separators, so no point can be taken for a part of the mark.
    have noPoint : chars.head? ≠ some '.' := by
      intro point
      obtain ⟨s, hs, begun⟩ := begins '.' point
      have inside := (steps s (List.mem_of_mem_head? hs)).whole '.' (List.mem_of_mem_head? begun)
      exact absurd inside (by decide)
    have text : mark ++ String.ofList chars = String.ofList (mark.toList ++ chars) := by
      rw [String.ofList_append, String.ofList_toList]
    rw [text, tokens_ofList, dropRoot_of_mark hmark noPoint, back]
  · have noMark : chars.head? ≠ some '$' := by
      intro marked
      obtain ⟨s, hs, begun⟩ := begins '$' marked
      exact unmarked s hs begun
    rw [tokens_ofList, dropRoot_of_unmarked noMark, back]

/-- Points and brackets in turn, with a first step that begins like a mark of the root. -/
theorem tokens_of_spells_mixed :
    (∀ s ∈ ["$x", "0", "a$"], IsStep s) ∧ Spells ["$x", "0", "a$"] "$x[0].a$".toList ∧
      tokens "$$x[0].a$" = ["$x", "0", "a$"] := by
  have steps : ∀ s ∈ ["$x", "0", "a$"], IsStep s := by
    intro s hs
    rcases List.mem_cons.mp hs with rfl | hs
    · exact isStep_of_all (by decide) (by decide)
    · rcases List.mem_pair.mp hs with rfl | rfl
      · exact isStep_of_all (by decide) (by decide)
      · exact isStep_of_all (by decide) (by decide)
  have spelled : Spells ["$x", "0", "a$"] "$x[0].a$".toList :=
    .steps (.bracket (.point .done))
  have back := (tokens_of_spells steps spelled).1 "$" (by decide)
  exact ⟨steps, spelled, back⟩

/-! ### Selectors in two stages -/

/-- A separator splits what stands before it from what stands behind. -/
theorem splitTokens_append_separator {c : Char} (h : isSeparator c = true)
    (before behind : List Char) :
    splitTokens (before ++ c :: behind) = splitTokens before ++ splitTokens behind := by
  rw [splitTokens, List.splitOnP_append_cons before behind h, List.filter_append, splitTokens,
    splitTokens]

/-- The mark of the root is taken off what stands before a point. -/
theorem splitTokens_dropRoot_point (before behind : List Char) :
    splitTokens (dropRoot (before ++ '.' :: behind)) =
      splitTokens (dropRoot before) ++ splitTokens behind := by
  have pointed (chars : List Char) :
      splitTokens (chars ++ '.' :: behind) = splitTokens chars ++ splitTokens behind :=
    splitTokens_append_separator rfl chars behind
  cases before with
  | nil => exact pointed []
  | cons first rest =>
      by_cases marked : first = '$'
      · subst marked
        cases rest with
        | nil =>
            -- The point goes with the mark, and there is nothing that it could split off.
            rfl
        | cons c rest =>
            by_cases point : c = '.'
            · subst point
              exact pointed rest
            · have known : "$" ∈ rootMarks := by decide
              have bare (chars : List Char) : dropRoot ('$' :: c :: chars) = c :: chars :=
                dropRoot_of_mark known (by simpa using point)
              rw [List.cons_append, List.cons_append, bare, bare]
              exact pointed (c :: rest)
      · have unmarked (chars : List Char) : dropRoot (first :: chars) = first :: chars :=
          dropRoot_of_unmarked (by simpa using marked)
        rw [List.cons_append, unmarked, unmarked]
        exact pointed (first :: rest)

/-- The tokens of two selectors joined by a point. -/
theorem tokens_point (p : String) {q : String} (unmarked : q.toList.head? ≠ some '$') :
    tokens (p ++ "." ++ q) = tokens p ++ tokens q := by
  have chars : (p ++ "." ++ q).toList = p.toList ++ '.' :: q.toList := by
    simp
  rw [tokens, chars, splitTokens_dropRoot_point, List.map_append, tokens, tokens,
    dropRoot_of_unmarked unmarked]

example : tokens "a.$.b" = ["a", "$", "b"] ∧ tokens "$.b" = ["b"] := by decide

/-- **Selectors compose.**  What two selectors joined by a point find is what the second finds in
what the first finds, for every value; and the whole is refused exactly if the first is, or the
second is for what the first finds. -/
theorem select_point (v : Value) (p : String) {q : String}
    (unmarked : q.toList.head? ≠ some '$') :
    v.select (p ++ "." ++ q) = v.select p >>= fun w => w.select q := by
  rw [select, tokens_point p unmarked, walk_append]
  rfl

/-- A bare mark of the root, and a part that begins with a separator of its own. -/
theorem select_point_bare :
    let v := Value.ofPairs [("items", .list [.text "first", .text "second"])]
    "[items][1]".toList.head? ≠ some '$' ∧
      (v.select "$.[items][1]" = v.select "$" >>= fun w => w.select "[items][1]") ∧
      v.select "$.[items][1]" = .ok (.text "second") := by
  intro v
  have unmarked : "[items][1]".toList.head? ≠ some '$' := by decide
  have split : tokens "$.[items][1]" = ["items", "1"] := by decide
  refine ⟨unmarked, select_point v "$" unmarked, ?_⟩
  rw [select, split]
  rfl

end Verdict.Value
