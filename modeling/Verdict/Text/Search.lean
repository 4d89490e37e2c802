/-!
# Text: parts of texts

Occurrences of one text in another, the parts between occurrences of a character, and the order of
texts by code points.
-/

namespace Verdict.Text

/-- The first list occurs in the second without gaps. -/
def occursIn {α : Type} [BEq α] (part : List α) : List α → Bool
  | [] => part.isEmpty
  | c :: rest => part.isPrefixOf (c :: rest) || occursIn part rest

/-- A text occurs in another. -/
def contains (s part : String) : Bool :=
  occursIn part.toList s.toList

theorem occursIn_iff {α : Type} [BEq α] [LawfulBEq α] {part : List α} :
    ∀ {l : List α}, occursIn part l = true ↔ part <:+: l
  | [] => by simp [occursIn]
  | c :: rest => by
      simp [occursIn, occursIn_iff, List.infix_cons_iff, ← List.isPrefixOf_iff_prefix]

theorem contains_iff {s part : String} :
    contains s part = true ↔ part.toList <:+: s.toList :=
  occursIn_iff

/-- A text does not contain another that has a character which it lacks. -/
theorem contains_eq_false_of_notMem {s part : String} {c : Char} (hc : c ∈ part.toList)
    (h : c ∉ s.toList) : contains s part = false :=
  Bool.eq_false_iff.mpr fun hs => h ((contains_iff.mp hs).subset hc)

/-- The parts between the occurrences of a character, one more than there are occurrences. -/
def splitAt (mark : Char) : List Char → List (List Char)
  | [] => [[]]
  | c :: rest =>
    if c == mark then [] :: splitAt mark rest
    else match splitAt mark rest with
      | part :: parts => (c :: part) :: parts
      | [] => [[c]]

/-- The parts are those of a list that is split at its occurrences of an element. -/
theorem splitAt_eq_splitOn (mark : Char) : ∀ s : List Char, splitAt mark s = s.splitOn mark
  | [] => rfl
  | c :: rest => by
      rw [splitAt, splitAt_eq_splitOn mark rest, List.splitOn_cons_eq_if_modifyHead]
      split
      · rfl
      · obtain ⟨part, parts, h⟩ := List.exists_cons_of_ne_nil (List.splitOn_ne_nil mark rest)
        rw [h]
        rfl

/-- The lines of a text: the parts between line feeds. -/
def lines (s : String) : List String :=
  (splitAt '\n' s.toList).map String.ofList

/-- The order of texts by code points. -/
def atMost (a b : String) : Bool :=
  decide (a ≤ b)

/-- Texts in order. -/
def sorted (ss : List String) : List String :=
  ss.mergeSort atMost

end Verdict.Text
