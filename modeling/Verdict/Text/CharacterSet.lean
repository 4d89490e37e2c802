/-!
# Text: sets of characters

A set of characters as a list of inclusive ranges of code points: the tables of Unicode properties
are given in this form. Also the blank characters of all scripts, and the trimming of blanks from a
text.
-/

namespace Verdict.Text

/-! ### Ranges -/

/-- Inclusive ranges of code points. -/
abbrev Ranges := List (Nat × Nat)

/-- The code point of `c` lies in one of the ranges. -/
def Ranges.contains (r : Ranges) (c : Char) : Bool :=
  r.any fun (lo, hi) => lo ≤ c.toNat && c.toNat ≤ hi

theorem Ranges.contains_iff {r : Ranges} {c : Char} :
    r.contains c = true ↔ ∃ p ∈ r, p.1 ≤ c.toNat ∧ c.toNat ≤ p.2 := by
  simp [Ranges.contains]

/-! ### Blanks -/

/-- A blank of any script: separators, line ends and tabs, and the four separators of ASCII's
control range. -/
def isBlank (c : Char) : Bool :=
  let n := c.toNat
  (0x09 ≤ n && n ≤ 0x0D) || (0x1C ≤ n && n ≤ 0x20) || n == 0x85 || n == 0xA0 || n == 0x1680 ||
    (0x2000 ≤ n && n ≤ 0x200A) || n == 0x2028 || n == 0x2029 || n == 0x202F || n == 0x205F ||
    n == 0x3000

/-- A blank of ASCII other than its separators. -/
def isAsciiBlank (c : Char) : Bool :=
  c == ' ' || (0x09 ≤ c.toNat && c.toNat ≤ 0x0D)

/-- Drops characters of a class from both ends. -/
def trimBy (p : Char → Bool) (s : List Char) : List Char :=
  ((s.dropWhile p).reverse.dropWhile p).reverse

/-- A text of blanks only. -/
def isAllBlank (s : String) : Bool :=
  s.toList.all isBlank

end Verdict.Text
