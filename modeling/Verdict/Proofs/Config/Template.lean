import Mathlib.Data.List.Basic
import Mathlib.Data.List.TakeWhile
import Verdict.Config.Template

/-!
# Configuration: what a template becomes

A text is literal text with references in it, and a reference stands wherever one can be read from
the left.  So a text has exactly one decomposition into pieces (`Decomposes`), and what it becomes
is put together from these: a literal piece stays, and a reference gives way to the text of its
variable, which is not looked at again.

* `pieces_eq_iff`: the pieces of a text are its decomposition.
* `Stands`: what a value becomes, with the pieces of its texts in the order in which they are met.
  Lists and mappings keep their form, keys and all other values stay.
* `fill_outcome`: both ways of filling in, by the pieces.
* `fill_stands`: so a value becomes what stands for it; where this has to be strict, the first
  reference to a variable that is not set keeps it from becoming anything.
-/

namespace Verdict.Template

/-- The name of a variable: a capital or an underscore, and then digits too. -/
def IsName (name : List Char) : Prop :=
  ∃ first rest, name = first :: rest ∧ isNameStart first = true ∧ ∀ c ∈ rest, isNamePart c = true

/-- The text begins with a reference. -/
def BeginsReference (s : List Char) : Prop :=
  ∃ name rest, IsName name ∧ s = (Piece.reference name).written ++ rest

/-- **The decomposition of a text** into pieces.  A character is literal only where no reference
begins. -/
inductive Decomposes : List Piece → List Char → Prop
  | nil : Decomposes [] []
  | reference {name : List Char} {ps : List Piece} {s : List Char} (isName : IsName name)
      (more : Decomposes ps s) :
      Decomposes (.reference name :: ps) ((Piece.reference name).written ++ s)
  | literal {c : Char} {ps : List Piece} {s : List Char} (noReference : ¬BeginsReference (c :: s))
      (more : Decomposes ps s) : Decomposes (.literal c :: ps) (c :: s)

variable {name rest s : List Char} {ps qs : List Piece}

/-! ### References -/

theorem isNamePart_of_isName (h : IsName name) : ∀ c ∈ name, isNamePart c = true := by
  obtain ⟨first, later, rfl, begins, continues⟩ := h
  rw [List.forall_mem_cons]
  exact ⟨by rw [isNamePart, begins, Bool.true_or], continues⟩

theorem written_reference (name : List Char) :
    (Piece.reference name).written = '$' :: '\x7b' :: name ++ ['\x7d'] := rfl

theorem takeWhile_name (h : IsName name) (rest : List Char) :
    (name ++ '\x7d' :: rest).takeWhile isNamePart = name := by
  rw [List.takeWhile_append_of_pos (isNamePart_of_isName h), List.takeWhile_cons_of_neg (by decide),
    List.append_nil]

theorem dropWhile_name (h : IsName name) (rest : List Char) :
    (name ++ '\x7d' :: rest).dropWhile isNamePart = '\x7d' :: rest := by
  rw [List.dropWhile_append_of_pos (isNamePart_of_isName h), List.dropWhile_cons_of_neg (by decide)]

theorem referenceName?_eq_some_iff :
    referenceName? s = some (name, rest) ↔ IsName name ∧ s = name ++ '\x7d' :: rest := by
  constructor
  · intro found
    unfold referenceName? at found
    split at found
    · next first later =>
        split at found
        · next begins =>
            split at found
            · next closed =>
                obtain ⟨rfl, rfl⟩ := Prod.mk.inj (Option.some.inj found)
                have part : isNamePart first = true := by rw [isNamePart, begins, Bool.true_or]
                refine ⟨⟨first, later.takeWhile isNamePart, ?_, begins, ?_⟩, ?_⟩
                · rw [List.takeWhile_cons_of_pos part]
                · exact fun c hc => List.mem_takeWhile_imp hc
                · rw [← closed, List.takeWhile_append_dropWhile]
            · cases found
        · cases found
    · cases found
  · rintro ⟨isName, rfl⟩
    have taken := takeWhile_name isName rest
    have left := dropWhile_name isName rest
    obtain ⟨first, later, rfl, begins, -⟩ := isName
    rw [List.cons_append] at taken left
    simp only [referenceName?, List.cons_append, begins, if_true, left, taken]

/-- A reference is read exactly where one begins. -/
theorem reference?_eq_some_iff :
    reference? s = some (name, rest) ↔
      IsName name ∧ s = (Piece.reference name).written ++ rest := by
  rw [written_reference]
  constructor
  · intro found
    unfold reference? at found
    split at found
    · next later =>
        obtain ⟨isName, rfl⟩ := referenceName?_eq_some_iff.mp found
        exact ⟨isName, by simp⟩
    · cases found
  · rintro ⟨isName, rfl⟩
    have found : referenceName? (name ++ '\x7d' :: rest) = some (name, rest) :=
      referenceName?_eq_some_iff.mpr ⟨isName, rfl⟩
    simpa [reference?] using found

theorem reference?_eq_none_iff : reference? s = none ↔ ¬BeginsReference s := by
  constructor
  · rintro none ⟨name, rest, begun⟩
    rw [reference?_eq_some_iff.mpr begun] at none
    cases none
  · intro noReference
    cases found : reference? s with
    | none => rfl
    | some reference => exact absurd ⟨_, _, reference?_eq_some_iff.mp found⟩ noReference

/-! ### Decompositions -/

theorem piecesFrom_eq_drop : ∀ (skip : Nat) (s : List Char),
    piecesFrom skip s = piecesFrom 0 (s.drop skip)
  | 0, _ => rfl
  | _ + 1, [] => rfl
  | skip + 1, _ :: s => by rw [piecesFrom, piecesFrom_eq_drop skip s, List.drop_succ_cons]

theorem pieces_reference (isName : IsName name) (s : List Char) :
    pieces ((Piece.reference name).written ++ s) = .reference name :: pieces s := by
  have found : reference? ((Piece.reference name).written ++ s) = some (name, s) :=
    reference?_eq_some_iff.mpr ⟨isName, rfl⟩
  rw [written_reference, List.cons_append, List.cons_append] at found ⊢
  rw [pieces, piecesFrom, found]
  dsimp only
  rw [piecesFrom_eq_drop, pieces]
  congr 2
  simp

theorem pieces_literal {c : Char} (noReference : ¬BeginsReference (c :: s)) :
    pieces (c :: s) = .literal c :: pieces s := by
  rw [pieces, piecesFrom, reference?_eq_none_iff.mpr noReference, pieces]

theorem pieces_of_decomposes (h : Decomposes ps s) : pieces s = ps := by
  induction h with
  | nil => rfl
  | reference isName more ih => rw [pieces_reference isName, ih]
  | literal noReference more ih => rw [pieces_literal noReference, ih]

theorem decomposes_pieces (s : List Char) : Decomposes (pieces s) s := by
  -- A reference takes several characters at once, so the induction is on the length.
  induction length : s.length using Nat.strong_induction_on generalizing s with
  | _ n ih =>
      subst length
      cases s with
      | nil => exact .nil
      | cons c later =>
          by_cases begun : BeginsReference (c :: later)
          · obtain ⟨name, rest, isName, whole⟩ := begun
            have shorter : rest.length < (c :: later).length := by
              rw [whole, written_reference]
              simp only [List.cons_append, List.length_cons, List.length_append]
              omega
            rw [whole, pieces_reference isName]
            exact .reference isName (ih rest.length shorter rest rfl)
          · rw [pieces_literal begun]
            exact .literal begun (ih later.length (Nat.lt_succ_self _) later rfl)

/-- **A text has exactly one decomposition**, which is found by reading it from the left. -/
theorem pieces_eq_iff : pieces s = ps ↔ Decomposes ps s := by
  refine ⟨?_, pieces_of_decomposes⟩
  rintro rfl
  exact decomposes_pieces s

/-! ### Outcomes by pieces -/

variable {vars : Variables}

/-- The name in a reference to a variable that is not set. -/
def Piece.unset? (vars : Variables) : Piece → Option String
  | .literal _ => none
  | .reference name =>
    if vars.get? (String.ofList name) = none then some (String.ofList name) else none

/-- What stands for a piece, where a reference to no variable is allowed and stands for itself. -/
def Piece.replacement (vars : Variables) : Piece → List Char
  | .literal c => [c]
  | .reference name =>
    match vars.get? (String.ofList name) with
    | some v => v.toList
    | none => (Piece.reference name).written

/-- What comes of pieces: the result or, where that is strict and a piece refers to a variable that
is not set, the fault of the first such piece. -/
def result {α : Type} (vars : Variables) (strict : Bool) (ps : List Piece) (a : α) :
    Except Fault α :=
  match strict, ps.findSome? (Piece.unset? vars) with
  | true, some name => .error (.unset name)
  | _, _ => .ok a

theorem result_nil {α : Type} (strict : Bool) (a : α) : result vars strict [] a = .ok a := by
  cases strict <;> rfl

theorem result_map {α β : Type} (strict : Bool) (f : α → β) (a : α) :
    (do return f (← result vars strict ps a)) = result vars strict ps (f a) := by
  cases strict with
  | false => rfl
  | true =>
      unfold result
      cases ps.findSome? (Piece.unset? vars) <;> rfl

/-- The pieces of two parts are met one after the other. -/
theorem result_bind {α β γ : Type} (strict : Bool) (f : α → β → γ) (a : α) (b : β) :
    (do
      let x ← result vars strict ps a
      return f x (← result vars strict qs b)) = result vars strict (ps ++ qs) (f a b) := by
  cases strict with
  | false => rfl
  | true =>
      unfold result
      rw [List.findSome?_append]
      cases ps.findSome? (Piece.unset? vars) with
      | some name => rfl
      | none => cases qs.findSome? (Piece.unset? vars) <;> rfl

theorem filled_eq (strict : Bool) (p : Piece) :
    p.filled vars strict = result vars strict [p] (p.replacement vars) := by
  cases p with
  | literal c => exact (@result_nil vars _ strict [c]).symm
  | reference name =>
      unfold Piece.filled Piece.replacement result
      cases known : vars.get? (String.ofList name) <;> cases strict <;>
        simp [Piece.unset?, known]

theorem fillAll_eq (strict : Bool) (ps : List Piece) :
    fillAll vars strict ps = result vars strict ps (ps.flatMap (·.replacement vars)) := by
  induction ps with
  | nil => exact (result_nil strict []).symm
  | cons p ps ih =>
      rw [fillAll, filled_eq, ih]
      exact result_bind strict (· ++ ·) _ _

/-- **A text, filled in**: what stands for its pieces, one after another. -/
theorem fillText_eq {s : String} (h : Decomposes ps s.toList) (strict : Bool) :
    fillText vars strict s =
      result vars strict ps (String.ofList (ps.flatMap (·.replacement vars))) := by
  rw [fillText, pieces_eq_iff.mpr h, fillAll_eq]
  exact result_map strict String.ofList _

/-! ### Values -/

/-- The value is neither a text nor a list nor a mapping. -/
def isOther : Value → Bool
  | .text _ | .list _ | .mapping _ | .cycle .. => false
  | _ => true

mutual

/-- **What stands for a value**, with the pieces of its texts in the order in which they are met:
for a text what stands for its pieces; lists and mappings keep their form and their keys. -/
inductive Stands (vars : Variables) : Value → List Piece → Value → Prop
  | text {s : String} {ps : List Piece} (pieces : Decomposes ps s.toList) :
      Stands vars (.text s) ps (.text (String.ofList (ps.flatMap (·.replacement vars))))
  | list {items filled : List Value} {ps : List Piece} (each : StandAll vars items ps filled) :
      Stands vars (.list items) ps (.list filled)
  | mapping {pairs filled : List (Atom × Value)} {ps : List Piece}
      (each : StandUnder vars pairs ps filled) : Stands vars (.mapping pairs) ps (.mapping filled)
  | other {v : Value} (other : isOther v = true) : Stands vars v [] v

/-- What stands for items. -/
inductive StandAll (vars : Variables) : List Value → List Piece → List Value → Prop
  | nil : StandAll vars [] [] []
  | cons {v w : Value} {items filled : List Value} {ps qs : List Piece}
      (first : Stands vars v ps w) (more : StandAll vars items qs filled) :
      StandAll vars (v :: items) (ps ++ qs) (w :: filled)

/-- What stands for entries, under the same keys. -/
inductive StandUnder (vars : Variables) :
    List (Atom × Value) → List Piece → List (Atom × Value) → Prop
  | nil : StandUnder vars [] [] []
  | cons {k : Atom} {v w : Value} {pairs filled : List (Atom × Value)} {ps qs : List Piece}
      (first : Stands vars v ps w) (more : StandUnder vars pairs qs filled) :
      StandUnder vars ((k, v) :: pairs) (ps ++ qs) ((k, w) :: filled)

end

/-- A value of texts and other values without end, nested in lists and mappings.  It does not hold
itself. -/
inductive IsNested : Value → Prop
  | text (s : String) : IsNested (.text s)
  | list {items : List Value} (each : ∀ v ∈ items, IsNested v) : IsNested (.list items)
  | mapping {pairs : List (Atom × Value)} (each : ∀ p ∈ pairs, IsNested p.2) :
      IsNested (.mapping pairs)
  | other {v : Value} (other : isOther v = true) : IsNested v

mutual

theorem exists_stands : ∀ {v : Value}, IsNested v → ∃ ps w, Stands vars v ps w
  | .text s, _ => ⟨_, _, .text (decomposes_pieces s.toList)⟩
  | .list items, h => by
      have each : ∀ v ∈ items, IsNested v := by
        cases h with
        | list each => exact each
        | other other => cases other
      obtain ⟨ps, filled, stand⟩ := exists_standAll each
      exact ⟨ps, .list filled, .list stand⟩
  | .mapping pairs, h => by
      have each : ∀ p ∈ pairs, IsNested p.2 := by
        cases h with
        | mapping each => exact each
        | other other => cases other
      obtain ⟨ps, filled, stand⟩ := exists_standUnder each
      exact ⟨ps, .mapping filled, .mapping stand⟩
  | .cycle .., h => nomatch h
  | .null, _ | .bool _, _ | .int _, _ | .float _, _ | .atom (.date _), _ | .atom (.moment _), _
  | .atom (.bytes _), _ | .tuple _, _ | .set _, _ | .record _ _, _ => ⟨[], _, .other rfl⟩

theorem exists_standAll : ∀ {items : List Value}, (∀ v ∈ items, IsNested v) →
    ∃ ps filled, StandAll vars items ps filled
  | [], _ => ⟨[], [], .nil⟩
  | v :: items, each => by
      obtain ⟨ps, w, first⟩ := exists_stands (each v List.mem_cons_self)
      obtain ⟨qs, filled, more⟩ := exists_standAll fun u hu => each u (List.mem_cons_of_mem v hu)
      exact ⟨ps ++ qs, w :: filled, .cons first more⟩

theorem exists_standUnder : ∀ {pairs : List (Atom × Value)}, (∀ p ∈ pairs, IsNested p.2) →
    ∃ ps filled, StandUnder vars pairs ps filled
  | [], _ => ⟨[], [], .nil⟩
  | (k, v) :: pairs, each => by
      obtain ⟨ps, w, first⟩ := exists_stands (each (k, v) List.mem_cons_self)
      obtain ⟨qs, filled, more⟩ := exists_standUnder fun p hp => each p (List.mem_cons_of_mem _ hp)
      exact ⟨ps ++ qs, (k, w) :: filled, .cons first more⟩

end

mutual

theorem Stands.unique : ∀ {v w u : Value} {ps qs : List Piece}, Stands vars v ps w →
    Stands vars v qs u → qs = ps ∧ u = w
  | _, _, _, _, _, .text pieces, .text others => by
      obtain rfl := pieces_eq_iff.mpr pieces
      obtain rfl := pieces_eq_iff.mpr others
      exact ⟨rfl, rfl⟩
  | _, _, _, _, _, .list each, .list others => by
      obtain ⟨rfl, rfl⟩ := each.unique others
      exact ⟨rfl, rfl⟩
  | _, _, _, _, _, .mapping each, .mapping others => by
      obtain ⟨rfl, rfl⟩ := each.unique others
      exact ⟨rfl, rfl⟩
  | _, _, _, _, _, .other _, .other _ => ⟨rfl, rfl⟩

theorem StandAll.unique : ∀ {items filled others : List Value} {ps qs : List Piece},
    StandAll vars items ps filled → StandAll vars items qs others → qs = ps ∧ others = filled
  | _, _, _, _, _, .nil, .nil => ⟨rfl, rfl⟩
  | _, _, _, _, _, .cons first more, .cons other others => by
      obtain ⟨rfl, rfl⟩ := first.unique other
      obtain ⟨rfl, rfl⟩ := more.unique others
      exact ⟨rfl, rfl⟩

theorem StandUnder.unique : ∀ {pairs filled others : List (Atom × Value)} {ps qs : List Piece},
    StandUnder vars pairs ps filled → StandUnder vars pairs qs others → qs = ps ∧ others = filled
  | _, _, _, _, _, .nil, .nil => ⟨rfl, rfl⟩
  | _, _, _, _, _, .cons first more, .cons other others => by
      obtain ⟨rfl, rfl⟩ := first.unique other
      obtain ⟨rfl, rfl⟩ := more.unique others
      exact ⟨rfl, rfl⟩

end

theorem fill_of_isOther {v : Value} {strict : Bool} (h : isOther v = true) :
    fill vars strict v = .ok v := by
  cases v with
  | atom a =>
      cases a with
      | text => cases h
      | null | bool | int | float | date | moment | bytes => rfl
  | tuple | set | record => rfl
  | list | mapping | cycle => cases h

mutual

/-- **A value, filled in**: what stands for it, unless a reference is refused. -/
theorem Stands.fill_eq (strict : Bool) : ∀ {v w : Value} {ps : List Piece}, Stands vars v ps w →
    fill vars strict v = result vars strict ps w
  | _, _, _, .text pieces => by
      rw [fill, fillText_eq pieces]
      exact result_map strict Value.text _
  | _, _, _, .list each => by
      rw [fill, each.fillItems_eq strict]
      exact result_map strict Value.list _
  | _, _, _, .mapping each => by
      rw [fill, each.fillPairs_eq strict]
      exact result_map strict Value.mapping _
  | _, _, _, .other other => (fill_of_isOther other).trans (result_nil strict _).symm

theorem StandAll.fillItems_eq (strict : Bool) : ∀ {items filled : List Value} {ps : List Piece},
    StandAll vars items ps filled → fillItems vars strict items = result vars strict ps filled
  | _, _, _, .nil => (result_nil strict []).symm
  | _, _, _, .cons first more => by
      rw [fillItems, first.fill_eq strict, more.fillItems_eq strict]
      exact result_bind strict List.cons _ _

theorem StandUnder.fillPairs_eq (strict : Bool) : ∀ {pairs filled : List (Atom × Value)}
    {ps : List Piece}, StandUnder vars pairs ps filled →
      fillPairs vars strict pairs = result vars strict ps filled
  | _, _, _, .nil => (result_nil strict []).symm
  | _, _, _, .cons (k := k) first more => by
      rw [fillPairs, first.fill_eq strict, more.fillPairs_eq strict]
      exact result_bind strict (fun w filled => (k, w) :: filled) _ _

end

/-- The name is that of the first reference among the pieces to a variable that is not set. -/
def IsFirstUnset (vars : Variables) (ps : List Piece) (name : List Char) : Prop :=
  ∃ before after, ps = before ++ .reference name :: after ∧
    vars.get? (String.ofList name) = none ∧
      ∀ other, .reference other ∈ before → vars.get? (String.ofList other) ≠ none

theorem unset?_eq_none_iff {p : Piece} : p.unset? vars = none ↔
    ∀ name, p = .reference name → vars.get? (String.ofList name) ≠ none := by
  cases p with
  | literal c => simp [Piece.unset?]
  | reference name => simp [Piece.unset?]

theorem unset?_eq_some_iff {p : Piece} {text : String} : p.unset? vars = some text ↔
    ∃ name, p = .reference name ∧ vars.get? (String.ofList name) = none ∧
      text = String.ofList name := by
  cases p with
  | literal c => simp [Piece.unset?]
  | reference name => simp [Piece.unset?, eq_comm]

theorem findSome?_unset?_iff {text : String} : ps.findSome? (Piece.unset? vars) = some text ↔
    ∃ name, text = String.ofList name ∧ IsFirstUnset vars ps name := by
  rw [List.findSome?_eq_some_iff]
  constructor
  · rintro ⟨before, p, after, whole, found, earlier⟩
    obtain ⟨name, rfl, unset, rfl⟩ := unset?_eq_some_iff.mp found
    exact ⟨name, rfl, before, after, whole, unset,
      fun other among => unset?_eq_none_iff.mp (earlier _ among) other rfl⟩
  · rintro ⟨name, rfl, before, after, whole, unset, earlier⟩
    refine ⟨before, .reference name, after, whole, unset?_eq_some_iff.mpr ⟨name, rfl, unset, rfl⟩,
      fun p among => unset?_eq_none_iff.mpr ?_⟩
    rintro other rfl
    exact earlier other among

/-- **What a template becomes.**  A value that does not hold itself has one list of pieces, and one
value stands for it.  It becomes that value where references to no variable are allowed; where they
are not, it does so exactly if every variable is set, and else the first that is not is named. -/
theorem fill_stands (vars : Variables) {v : Value} (h : IsNested v) :
    ∃ ps w, Stands vars v ps w ∧ (∀ qs u, Stands vars v qs u → qs = ps ∧ u = w) ∧
      fill vars false v = .ok w ∧
      (fill vars true v = .ok w ↔
        ∀ name, .reference name ∈ ps → vars.get? (String.ofList name) ≠ none) ∧
      ∀ fault, fill vars true v = .error fault ↔
        ∃ name, fault = .unset (String.ofList name) ∧ IsFirstUnset vars ps name := by
  obtain ⟨ps, w, stands⟩ : ∃ ps w, Stands vars v ps w := exists_stands h
  refine ⟨ps, w, stands, fun _ _ => stands.unique, stands.fill_eq false, ?_, fun fault => ?_⟩
  · have allSet : ps.findSome? (Piece.unset? vars) = none ↔
        ∀ name, .reference name ∈ ps → vars.get? (String.ofList name) ≠ none := by
      rw [List.findSome?_eq_none_iff]
      constructor
      · intro none name among
        exact unset?_eq_none_iff.mp (none _ among) name rfl
      · intro set p among
        refine unset?_eq_none_iff.mpr ?_
        rintro name rfl
        exact set name among
    rw [stands.fill_eq true, ← allSet]
    unfold result
    cases ps.findSome? (Piece.unset? vars) <;> simp
  · rw [stands.fill_eq true]
    unfold result
    constructor
    · intro failed
      cases found : ps.findSome? (Piece.unset? vars) with
      | none => simp [found] at failed
      | some text =>
          rw [found] at failed
          obtain rfl := Except.error.inj failed
          obtain ⟨name, rfl, first⟩ := findSome?_unset?_iff.mp found
          exact ⟨name, rfl, first⟩
    · rintro ⟨name, rfl, first⟩
      rw [findSome?_unset?_iff.mpr ⟨name, rfl, first⟩]

/-- A reference in a key stays, one in a variable's text too, and the second of two fails. -/
theorem fill_stands_nested :
    let vars : Variables := [("A", "$\x7bB\x7d")]
    let v : Value := .mapping [(.text "$\x7bB\x7d", .list [.text "$$\x7bA\x7d$\x7bC\x7d", .int 1])]
    let w : Value := .mapping [(.text "$\x7bB\x7d", .list [.text "$$\x7bB\x7d$\x7bC\x7d", .int 1])]
    IsNested v ∧ (∃ ps, Stands vars v ps w) ∧ fill vars false v = .ok w ∧
      fill vars true v = .error (.unset "C") := by
  intro vars v w
  have nested : IsNested v := by
    refine .mapping (List.forall_mem_singleton.mpr (.list fun u hu => ?_))
    rcases List.mem_pair.mp hu with rfl | rfl
    · exact .text _
    · exact .other rfl
  have lenient : fill vars false v = .ok w := by rfl
  have strict : fill vars true v = .error (.unset "C") := by rfl
  obtain ⟨ps, u, stands, -, becomes, -⟩ := fill_stands vars nested
  obtain rfl : u = w := Except.ok.inj (becomes.symm.trans lenient)
  exact ⟨nested, ⟨ps, stands⟩, lenient, strict⟩

end Verdict.Template
