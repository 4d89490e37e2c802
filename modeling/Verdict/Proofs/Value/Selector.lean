import Verdict.Proofs.Number.Digits
import Verdict.Value.Selector

/-!
# Values: selectors of paths

A path of steps joined by points is the selector that walks these steps one after another
(`select_intercalate`), if no step is empty or holds a separator.  The number of a position steps
to the item there (`itemAt_toString`), and a path in two parts is walked in two parts
(`walk_append`).
-/

namespace Verdict.Value

/-- A text that is one token of a selector. -/
structure IsStep (s : String) : Prop where
  nonempty : s ≠ ""
  whole : ∀ c ∈ s.toList, isSeparator c = false

theorem isStep_of_all {s : String} (nonempty : s ≠ "")
    (whole : s.toList.all (!isSeparator ·) = true) : IsStep s :=
  ⟨nonempty, fun c hc => by simpa using List.all_eq_true.mp whole c hc⟩

theorem isStep_toString (n : Nat) : IsStep (toString n) := by
  rw [Nat.toString_eq_ofList_toDigits]
  refine ⟨fun h => Nat.toDigits_ne_nil (String.ofList_eq_empty_iff.mp h), fun c hc => ?_⟩
  rw [String.toList_ofList] at hc
  have digit : c.isDigit = true := Nat.isDigit_of_mem_toDigits (by decide) (by decide) hc
  exact Number.of_isDigit (isSeparator · = false) (by decide) digit

/-! ### Joined steps -/

theorem splitTokens_intercalate : ∀ {ls : List (List Char)},
    (∀ l ∈ ls, l ≠ [] ∧ ∀ c ∈ l, isSeparator c = false) →
      splitTokens (['.'].intercalate ls) = ls
  | [], _ => rfl
  | [l], h => by
      obtain ⟨nonempty, whole⟩ := h l List.mem_cons_self
      simp only [List.intercalate_singleton, splitTokens]
      rw [List.splitOnP_eq_singleton whole]
      simpa using nonempty
  | l :: m :: rest, h => by
      obtain ⟨nonempty, whole⟩ := h l List.mem_cons_self
      have tail := splitTokens_intercalate fun k hk => h k (List.mem_cons_of_mem l hk)
      unfold splitTokens at tail ⊢
      rw [List.intercalate_cons_cons, List.append_assoc, List.singleton_append,
        List.splitOnP_append_cons_of_forall_mem whole '.' rfl, List.filter_cons_of_pos, tail]
      simpa using nonempty

theorem dropRoot_of_unmarked {chars : List Char} (h : chars.head? ≠ some '$') :
    dropRoot chars = chars := by
  unfold dropRoot
  split
  · exact absurd rfl h
  · exact absurd rfl h
  · rfl

/-- Steps joined by points are the tokens of a selector, if no root mark comes first. -/
theorem tokens_intercalate {path : List String} (steps : ∀ s ∈ path, IsStep s)
    (unmarked : ∀ s, path.head? = some s → s.toList.head? ≠ some '$') :
    tokens (".".intercalate path) = path := by
  have tokensOfJoined : splitTokens (['.'].intercalate (path.map String.toList)) =
      path.map String.toList := by
    refine splitTokens_intercalate fun l hl => ?_
    obtain ⟨s, hs, rfl⟩ := List.mem_map.mp hl
    exact ⟨fun h => (steps s hs).nonempty (String.toList_eq_nil_iff.mp h), (steps s hs).whole⟩
  have head : (['.'].intercalate (path.map String.toList)).head? ≠ some '$' := by
    match path with
    | [] => simp
    | [s] => simpa using unmarked s rfl
    | s :: t :: rest =>
        obtain ⟨c, cs, hs⟩ : ∃ c cs, s.toList = c :: cs := List.exists_cons_of_ne_nil fun h =>
          (steps s List.mem_cons_self).nonempty (String.toList_eq_nil_iff.mp h)
        simpa [List.intercalate_cons_cons, hs] using unmarked s rfl
  have chars : (".".intercalate path).toList = ['.'].intercalate (path.map String.toList) :=
    String.toList_intercalate
  rw [tokens, chars, dropRoot_of_unmarked head, tokensOfJoined, List.map_map]
  exact (List.map_congr_left fun s _ => String.ofList_toList).trans (List.map_id path)

/-- **The selector of a path** walks its steps one after another. -/
theorem select_intercalate {path : List String} (steps : ∀ s ∈ path, IsStep s)
    (unmarked : ∀ s, path.head? = some s → s.toList.head? ≠ some '$') (v : Value) :
    v.select (".".intercalate path) = v.walk path := by
  rw [select, tokens_intercalate steps unmarked]

/-! ### Walks -/

theorem walk_append : ∀ (p q : List String) (v : Value),
    v.walk (p ++ q) = v.walk p >>= fun w => w.walk q
  | [], _, _ => rfl
  | token :: p, q, v => by
      simp only [List.cons_append, walk, bind_assoc]
      exact congrArg _ (funext fun w => walk_append p q w)

/-- The number of a position steps to the item there, unless it has too many digits. -/
theorem itemAt_toString {items : List Value} {i : Nat}
    (short : (toString i).length ≤ Number.maxIntegerDigits) :
    itemAt items (toString i) = .ok ((items[i]?).getD .null) := by
  have position : isPosition (toString i) = true := by
    simp only [isPosition, Bool.and_eq_true, Bool.not_eq_true', List.all_eq_true]
    refine ⟨by simp, fun c hc => ?_⟩
    rw [Nat.toString_eq_ofList_toDigits, String.toList_ofList] at hc
    exact Number.of_isDigit (Text.isDigit · = true) (by decide)
      (Nat.isDigit_of_mem_toDigits (by decide) (by decide) hc)
  rw [itemAt, if_pos position, Number.readInteger_toString short]
  rfl

end Verdict.Value
