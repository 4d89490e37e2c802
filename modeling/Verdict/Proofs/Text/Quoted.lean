import Mathlib.Tactic.SplitIfs
import Verdict.Text.Quoted

/-!
# Text: what a quotation is made of

A text in quotation marks is made of its own characters and of a few that belong to the quotation:
the marks, the backslash, and the letters and digits of escapes (`mem_quoted`).  So a quotation
holds no other character that the text lacks.
-/

namespace Verdict.Text

/-- The characters of a quotation besides those of the text. -/
def quotationCharacters : List Char :=
  ['\'', '"', '\\', 'n', 'r', 't', 'x', 'u', 'U'] ++ "0123456789abcdef".toList

theorem digitChar_mem_quotationCharacters {d : Nat} (h : d < 16) :
    d.digitChar ∈ quotationCharacters := by
  have every : ∀ d : Fin 16, d.val.digitChar ∈ quotationCharacters := by decide
  exact every ⟨d, h⟩

theorem mem_toDigits_sixteen {c : Char} {n : Nat} (h : c ∈ Nat.toDigits 16 n) :
    c ∈ quotationCharacters := by
  induction n using Nat.strongRecOn with
  | ind n ih =>
      by_cases hn : n < 16
      · rw [Nat.toDigits_of_lt_base hn, List.mem_singleton] at h
        exact h ▸ digitChar_mem_quotationCharacters hn
      · rw [Nat.toDigits_of_base_le (by decide) (Nat.le_of_not_lt hn), List.mem_append,
          List.mem_singleton] at h
        rcases h with h | rfl
        · exact ih (n / 16) (by omega) h
        · exact digitChar_mem_quotationCharacters (Nat.mod_lt n (by decide))

theorem mem_hexPadded {c : Char} {width n : Nat} (h : c ∈ hexPadded width n) :
    c ∈ quotationCharacters := by
  rcases List.mem_append.mp h with h | h
  · obtain rfl := List.eq_of_mem_replicate h
    decide
  · exact mem_toDigits_sixteen h

theorem mem_escape {c letter : Char} {rest : List Char} (hl : letter ∈ quotationCharacters)
    (hr : ∀ d ∈ rest, d ∈ quotationCharacters) (h : c ∈ '\\' :: letter :: rest) :
    c ∈ quotationCharacters := by
  simp only [List.mem_cons] at h
  rcases h with rfl | rfl | h
  · decide
  · exact hl
  · exact hr c h

theorem mem_quoteChar {mark c d : Char} (h : d ∈ quoteChar mark c) :
    d = c ∨ d ∈ quotationCharacters := by
  have short : ∀ d ∈ ([] : List Char), d ∈ quotationCharacters := by simp
  unfold quoteChar at h
  split_ifs at h
  · -- a mark or a backslash, escaped by a backslash
    rcases List.mem_cons.mp h with rfl | h
    · exact .inr (by decide)
    · exact .inl (List.mem_singleton.mp h)
  · exact .inr (mem_escape (by decide) short h)
  · exact .inr (mem_escape (by decide) short h)
  · exact .inr (mem_escape (by decide) short h)
  · exact .inl (List.mem_singleton.mp h)
  · exact .inr (mem_escape (by decide) (fun _ => mem_hexPadded) h)
  · exact .inr (mem_escape (by decide) (fun _ => mem_hexPadded) h)
  · exact .inr (mem_escape (by decide) (fun _ => mem_hexPadded) h)

theorem quoteMark_mem (s : List Char) : quoteMark s ∈ quotationCharacters := by
  unfold quoteMark
  split <;> decide

/-- **The characters of a quotation** are those of the text and a few of its own. -/
theorem mem_quoted {s : String} {c : Char} (h : c ∈ (quoted s).toList) :
    c ∈ s.toList ∨ c ∈ quotationCharacters := by
  simp only [quoted, String.toList_ofList, List.cons_append, List.mem_cons, List.mem_append,
    List.mem_flatMap, List.not_mem_nil, or_false] at h
  rcases h with rfl | ⟨d, hd, hc⟩ | rfl
  · exact .inr (quoteMark_mem _)
  · rcases mem_quoteChar hc with rfl | hc
    · exact .inl hd
    · exact .inr hc
  · exact .inr (quoteMark_mem _)

end Verdict.Text
