import Verdict.Proofs.Value.Parts
import Verdict.Proofs.Value.Selector

/-!
# Values: what a selector finds

Looking into a value gives a part of it or the absent value, whatever the token (`partAt`).  A
selector is refused in one case only: a token of digits that write no position, since one of them is
not decimal or they are too many, meets a list or a tuple (`Stumbles`).

* `step_eq_partAt`, `step_misread`: one token.
* `walk_eq_partAt`, `walk_stumbles`: tokens one after another.
* `select_iff_not_stumbles`: so a selector finds a value, the part that its tokens lead to, exactly
  if none of them stumbles.
-/

namespace Verdict.Value

/-- The position that a token writes in decimal digits. -/
def position? (token : String) : Option Nat :=
  if token ≠ "" ∧ token.toList.all Text.isDecimal = true then
    some (Number.decimalValue token.toList)
  else none

/-- The part of a value that a token leads to.  It is the absent value where the value has no such
key, field or position, or no parts at all. -/
def partAt (v : Value) (token : String) : Value :=
  match v with
  | .mapping pairs => (Table.get? pairs (.text token)).getD null
  | .list items | .tuple items => ((position? token).bind (items[·]?)).getD null
  | .record kind fields => (recordField? kind fields token).getD null
  | .atom _ | .set _ | .cycle _ _ => null

/-- The token is made of digits and writes no position: one of them is not decimal, or they are too
many. -/
def IsMisread (token : String) : Prop :=
  token ≠ "" ∧ (∀ c ∈ token.toList, Text.isDigit c = true) ∧
    ((∃ c ∈ token.toList, Text.isDecimal c = false) ∨ Number.maxIntegerDigits < token.length)

/-- On the way that tokens lead from a value, such a token meets a list or a tuple. -/
def Stumbles (v : Value) (tokens : List String) : Prop :=
  ∃ before token after, tokens = before ++ token :: after ∧
    (before.foldl partAt v).items?.isSome = true ∧ IsMisread token

/-! ### One token -/

theorem isPosition_iff {token : String} :
    isPosition token = true ↔ token ≠ "" ∧ ∀ c ∈ token.toList, Text.isDigit c = true := by
  simp [isPosition]

theorem itemAt_of_isMisread {token : String} (h : IsMisread token) (items : List Value) :
    ∃ fault, itemAt items token = .error fault := by
  obtain ⟨nonempty, digits, unread⟩ := h
  have refused : ∃ fault, Number.readInteger token = .error fault := by
    by_cases other : ∃ c ∈ token.toList, Text.isDecimal c = false
    · exact Number.readInteger_digits_error digits other
    · have long := unread.resolve_left other
      have decimal : ∀ c ∈ token.toList, Text.isDecimal c = true := by simpa using other
      rw [Number.readInteger_decimals decimal nonempty, if_pos long]
      exact ⟨_, rfl⟩
  obtain ⟨fault, refused⟩ := refused
  refine ⟨fault, ?_⟩
  rw [itemAt, if_pos (isPosition_iff.mpr ⟨nonempty, digits⟩), refused]
  rfl

theorem itemAt_of_not_isMisread {token : String} (h : ¬IsMisread token) (items : List Value) :
    itemAt items token = .ok (((position? token).bind (items[·]?)).getD null) := by
  by_cases position : isPosition token = true
  · obtain ⟨nonempty, digits⟩ := isPosition_iff.mp position
    have read : ¬((∃ c ∈ token.toList, Text.isDecimal c = false) ∨
        Number.maxIntegerDigits < token.length) := fun unread => h ⟨nonempty, digits, unread⟩
    obtain ⟨decimal, short⟩ := not_or.mp read
    have decimal : ∀ c ∈ token.toList, Text.isDecimal c = true := by simpa using decimal
    rw [itemAt, if_pos position, Number.readInteger_decimals decimal nonempty, if_neg short,
      position?, if_pos ⟨nonempty, List.all_eq_true.mpr decimal⟩]
    rfl
  · have noPosition : position? token = none := by
      refine if_neg fun written => position (isPosition_iff.mpr ⟨written.1, fun c hc => ?_⟩)
      rw [Text.isDigit, List.all_eq_true.mp written.2 c hc, Bool.true_or]
    rw [itemAt, if_neg position, noPosition]
    rfl

theorem step_eq_partAt {v : Value} {token : String}
    (h : v.items?.isSome = true → ¬IsMisread token) : v.step token = .ok (v.partAt token) := by
  cases v with
  | list items | tuple items => exact itemAt_of_not_isMisread (h rfl) items
  | _ => rfl

theorem step_misread {v : Value} {token : String} (held : v.items?.isSome = true)
    (h : IsMisread token) : ∃ fault, v.step token = .error fault := by
  cases v with
  | list items | tuple items => exact itemAt_of_isMisread h items
  | atom | set | mapping | record | cycle => cases held

/-! ### Tokens one after another -/

theorem Stumbles.cons_iff {v : Value} {token : String} {rest : List String} :
    v.Stumbles (token :: rest) ↔
      v.items?.isSome = true ∧ IsMisread token ∨ (v.partAt token).Stumbles rest := by
  constructor
  · rintro ⟨before, other, after, split, held, misread⟩
    cases before with
    | nil =>
        obtain ⟨rfl, rfl⟩ := List.cons.inj split
        exact .inl ⟨held, misread⟩
    | cons first before =>
        obtain ⟨rfl, rfl⟩ := List.cons.inj split
        exact .inr ⟨before, other, after, rfl, held, misread⟩
  · rintro (⟨held, misread⟩ | ⟨before, other, after, rfl, held, misread⟩)
    · exact ⟨[], token, rest, rfl, held, misread⟩
    · exact ⟨token :: before, other, after, rfl, held, misread⟩

theorem not_stumbles_nil (v : Value) : ¬v.Stumbles [] := by
  rintro ⟨before, _, _, split, -⟩
  simp at split

theorem walk_eq_partAt : ∀ {tokens : List String} {v : Value}, ¬v.Stumbles tokens →
    v.walk tokens = .ok (tokens.foldl partAt v)
  | [], _, _ => rfl
  | token :: rest, v, h => by
      obtain ⟨here, later⟩ := not_or.mp (mt Stumbles.cons_iff.mpr h)
      rw [walk, step_eq_partAt (not_and.mp here)]
      exact walk_eq_partAt later

theorem walk_stumbles : ∀ {tokens : List String} {v : Value}, v.Stumbles tokens →
    ∃ fault, v.walk tokens = .error fault
  | [], v, h => absurd h (not_stumbles_nil v)
  | token :: rest, v, h => by
      by_cases here : v.items?.isSome = true ∧ IsMisread token
      · obtain ⟨fault, refused⟩ := step_misread here.1 here.2
        exact ⟨fault, by rw [walk, refused]; rfl⟩
      · obtain ⟨fault, refused⟩ := walk_stumbles ((Stumbles.cons_iff.mp h).resolve_left here)
        refine ⟨fault, ?_⟩
        rw [walk, step_eq_partAt (not_and.mp here)]
        exact refused

/-- Nothing is found in a value without parts. -/
theorem foldl_partAt_atom (a : Atom) : ∀ {tokens : List String}, tokens ≠ [] →
    tokens.foldl partAt (.atom a) = null
  | [_], _ => rfl
  | _ :: next :: rest, _ => foldl_partAt_atom .null (List.cons_ne_nil next rest)

/-- **What a selector finds.**  It finds the part that its tokens lead to, unless one of them
stumbles; then it is refused.  A way that comes to a value without parts before its end leads to the
absent value. -/
theorem select_iff_not_stumbles (v : Value) (selector : String) :
    (v.select selector = .ok ((tokens selector).foldl partAt v) ↔ ¬v.Stumbles (tokens selector)) ∧
      ((∃ fault, v.select selector = .error fault) ↔ v.Stumbles (tokens selector)) ∧
      ∀ before after a, tokens selector = before ++ after → after ≠ [] →
        before.foldl partAt v = .atom a → (tokens selector).foldl partAt v = null := by
  refine ⟨⟨fun found stumbles => ?_, walk_eq_partAt⟩, ⟨?_, walk_stumbles⟩, ?_⟩
  · obtain ⟨fault, refused⟩ := walk_stumbles stumbles
    cases found.symm.trans refused
  · rintro ⟨fault, refused⟩
    by_contra smooth
    cases refused.symm.trans (walk_eq_partAt smooth)
  · intro before after a split more atom
    rw [split, List.foldl_append, atom, foldl_partAt_atom a more]

/-- A position may be written in digits of another script. -/
theorem select_otherScript :
    let v := Value.ofPairs [("items", .list [.text "first", .text "second"])]
    ¬v.Stumbles (tokens "$.items[\u0661]") ∧ v.select "$.items[\u0661]" = .ok (.text "second") := by
  intro v
  have split : tokens "$.items[\u0661]" = ["items", "\u0661"] := by decide
  have smooth : ¬v.Stumbles (tokens "$.items[\u0661]") := by
    have read : ¬IsMisread "\u0661" := by
      rintro ⟨-, -, ⟨c, hc, other⟩ | long⟩
      · obtain rfl : c = '\u0661' := List.mem_singleton.mp hc
        exact absurd other (by decide)
      · exact absurd long (by decide)
    rw [split, Stumbles.cons_iff, Stumbles.cons_iff]
    rintro (⟨held, -⟩ | ⟨-, misread⟩ | stumbles)
    · cases held
    · exact read misread
    · exact not_stumbles_nil _ stumbles
  have found := (select_iff_not_stumbles v _).1.mpr smooth
  have position : position? "\u0661" = some 1 := by decide
  have second : ["items", "\u0661"].foldl partAt v = .text "second" := by
    have items : v.partAt "items" = .list [.text "first", .text "second"] := rfl
    simp only [List.foldl_cons, List.foldl_nil, partAt, position]
    rfl
  rw [split, second] at found
  exact ⟨smooth, found⟩

/-- A superscript counts as a digit and writes no position. -/
theorem select_superscript :
    let v := Value.ofPairs [("items", .list [.text "first"])]
    v.IsData ∧ v.select "$.items[\u00B2]" = .error (.malformed 10 "\u00B2") := by
  intro v
  have split : tokens "$.items[\u00B2]" = ["items", "\u00B2"] := by decide
  refine ⟨?_, ?_⟩
  · show IsData (.ofTable [("items", .list [.text "first"])])
    exact .mapping (by decide) (by simp [Atom.isJson])
  · rw [select, split]
    rfl

end Verdict.Value
