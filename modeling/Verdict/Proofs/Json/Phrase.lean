import Verdict.Proofs.Json.Lexeme

/-!
# JSON: phrases

A phrase is the tree that a text spells: its strings, its other scalars as they are written, its
lists and its mappings.  `signs` is the phrase as tokens one after another and `value` what it
stands for.

* `Machine.Runs`: the tokens that the machine takes, and the value that it ends with.
* `exists_phrase_of_runs`: tokens with which the machine ends are the signs of a phrase, and the
  machine ends with its value.  What the open containers still demand of the tokens after a value is
  written down as `Closes`.
-/

namespace Verdict.Json

/-! ### Runs of the machine -/

/-- The machine takes the tokens one after another and ends with the value. -/
inductive Machine.Runs : Machine → List Token → Value → Prop where
  | done {m : Machine} {v : Value} (h : m.ready = .finished v) : Runs m [] v
  | step {m m' : Machine} {t : Token} {ts : List Token} {v : Value}
      (advances : m.advance t = some m') (rest : Runs m' ts v) : Runs m (t :: ts) v

theorem Machine.runs_of_run {size : Nat} {v : Value} : ∀ {ps : List Placed} {m : Machine},
    m.run size ps = .ok v → m.Runs (ps.map (·.token)) v
  | [], m, h => by
      unfold run at h
      split at h
      · next finished =>
          cases h
          exact .done finished
      · cases h
  | p :: rest, m, h => by
      unfold run at h
      split at h
      · next m' advances =>
          split at h
          · cases h
          · exact .step advances (runs_of_run h)
      · cases h

/-- Every token that the machine takes could be read. -/
theorem Machine.Runs.isProper {m : Machine} {ts : List Token} {v : Value} (h : m.Runs ts v) :
    ∀ t ∈ ts, t.IsProper := by
  induction h with
  | done => simp
  | @step m m' t ts v advances _ ih =>
      refine List.forall_mem_cons.mpr ⟨?_, ih⟩
      cases t with
      | broken | junk =>
          obtain ⟨frames, ready⟩ := m
          cases ready <;> simp [advance, beginValue] at advances
      | _ => trivial

/-! ### Phrases -/

/-- The tree that a text spells. -/
inductive Phrase where
  | text (s : String)
  | scalar (a : Atom) (written : String)
  | list (items : List Phrase)
  | mapping (members : List (String × Phrase))

/-- A token, with the characters of a scalar that is no string. -/
abbrev Sign := Token × String

/-- The sign of a lexeme. -/
def Lexeme.sign (l : Lexeme) : Sign :=
  match l.token with
  | .scalar a => (.scalar a, String.ofList l.written)
  | t => (t, "")

theorem Lexeme.sign_fst (l : Lexeme) : l.sign.1 = l.token := by
  unfold sign
  split
  · next a scalar => exact scalar.symm
  · rfl

namespace Phrase

mutual

/-- The value of a phrase. -/
def value : Phrase → Value
  | .text s => .text s
  | .scalar a _ => .atom a
  | .list items => .list (values items)
  | .mapping members => .mapping (Table.ofPairs (entries members))

/-- The values of items. -/
def values : List Phrase → List Value
  | [] => []
  | p :: rest => value p :: values rest

/-- The names of members with their values. -/
def entries : List (String × Phrase) → List (Atom × Value)
  | [] => []
  | (name, p) :: rest => (.text name, value p) :: entries rest

end

mutual

/-- The signs of a phrase one after another. -/
def signs : Phrase → List Sign
  | .text s => [(.text s, "")]
  | .scalar a written => [(.scalar a, written)]
  | .list items => (.openList, "") :: itemSigns true items
  | .mapping members => (.openMapping, "") :: memberSigns true members

/-- The signs of items up to the end of their list. -/
def itemSigns (first : Bool) : List Phrase → List Sign
  | [] => [(.closeList, "")]
  | p :: rest => (if first then [] else [(.comma, "")]) ++ signs p ++ itemSigns false rest

/-- The signs of members up to the end of their mapping. -/
def memberSigns (first : Bool) : List (String × Phrase) → List Sign
  | [] => [(.closeMapping, "")]
  | (name, p) :: rest =>
    (if first then [] else [(.comma, "")]) ++ (.text name, "") :: (.colon, "") :: signs p ++
      memberSigns false rest

end

end Phrase

/-! ### What the machine demands -/

namespace Machine

open Phrase

/-- What the open containers demand of the signs after a value in the innermost of them. -/
def Closes : List Frame → Value → List Sign → Value → Prop
  | [], w, signs, v => signs = [] ∧ w = v
  | .items reversed :: outer, w, signs, v => ∃ more rest, signs = itemSigns false more ++ rest ∧
      Closes outer (.list (reversed.reverse ++ w :: values more)) rest v
  | .members pairs name :: outer, w, signs, v =>
      ∃ more rest, signs = memberSigns false more ++ rest ∧ Closes outer
        (.mapping (Table.insertAll (Table.insert pairs (.text name) w) (entries more))) rest v

/-- What the machine demands of the signs that are left. -/
def Demands (m : Machine) (signs : List Sign) (v : Value) : Prop :=
  match m.ready with
  | .value => ∃ p rest, signs = Phrase.signs p ++ rest ∧ Closes m.frames p.value rest v
  | .firstItem => ∃ items rest, signs = itemSigns true items ++ rest ∧
      Closes m.frames (.list (values items)) rest v
  | .name pairs => ∃ name p more rest,
      signs = (.text name, "") :: (.colon, "") :: Phrase.signs p ++ memberSigns false more ++ rest ∧
        Closes m.frames (.mapping (Table.insertAll pairs (entries ((name, p) :: more)))) rest v
  | .firstName => ∃ members rest, signs = memberSigns true members ++ rest ∧
      Closes m.frames (.mapping (Table.insertAll [] (entries members))) rest v
  | .colon pairs name => ∃ p more rest,
      signs = (.colon, "") :: Phrase.signs p ++ memberSigns false more ++ rest ∧
        Closes m.frames (.mapping (Table.insertAll pairs (entries ((name, p) :: more)))) rest v
  | .afterItem reversed => ∃ more rest, signs = itemSigns false more ++ rest ∧
      Closes m.frames (.list (reversed.reverse ++ values more)) rest v
  | .afterMember pairs => ∃ more rest, signs = memberSigns false more ++ rest ∧
      Closes m.frames (.mapping (Table.insertAll pairs (entries more))) rest v
  | .finished w => signs = [] ∧ w = v

theorem closes_of_demands_complete {frames : List Frame} {w v : Value} {signs : List Sign}
    (h : Demands (complete frames w) signs v) : Closes frames w signs v := by
  match frames, h with
  | [], h => exact h
  | .items reversed :: outer, ⟨more, rest, hsigns, closes⟩ =>
      refine ⟨more, rest, hsigns, ?_⟩
      rw [List.reverse_cons, List.append_assoc] at closes
      exact closes
  | .members pairs name :: outer, ⟨more, rest, hsigns, closes⟩ => exact ⟨more, rest, hsigns, closes⟩

/-- The sign of a token that is no scalar has no characters. -/
def IsSign (sign : Sign) : Prop :=
  (∀ a, sign.1 ≠ .scalar a) → sign.2 = ""

theorem demands_beginValue {frames : List Frame} {sign : Sign} {m' : Machine} {signs : List Sign}
    {v : Value} (isSign : IsSign sign) (begins : beginValue frames sign.1 = some m')
    (h : Demands m' signs v) :
    ∃ p rest, sign :: signs = Phrase.signs p ++ rest ∧ Closes frames p.value rest v := by
  obtain ⟨t, written⟩ := sign
  cases t with
  | openList =>
      cases begins
      obtain rfl : written = "" := isSign (by simp)
      obtain ⟨items, rest, rfl, closes⟩ := h
      exact ⟨.list items, rest, rfl, closes⟩
  | openMapping =>
      cases begins
      obtain rfl : written = "" := isSign (by simp)
      obtain ⟨members, rest, rfl, closes⟩ := h
      exact ⟨.mapping members, rest, rfl, closes⟩
  | text s =>
      cases begins
      obtain rfl : written = "" := isSign (by simp)
      exact ⟨.text s, signs, rfl, closes_of_demands_complete h⟩
  | scalar a =>
      cases begins
      exact ⟨.scalar a written, signs, rfl, closes_of_demands_complete h⟩
  | _ => cases begins

/-- A step of the machine: what is demanded after a sign is demanded of what follows it. -/
theorem demands_of_advance {m m' : Machine} {sign : Sign} {signs : List Sign} {v : Value}
    (isSign : IsSign sign) (advances : m.advance sign.1 = some m') (h : Demands m' signs v) :
    Demands m (sign :: signs) v := by
  obtain ⟨frames, ready⟩ := m
  obtain ⟨t, written⟩ := sign
  cases ready with
  | value => exact demands_beginValue isSign advances h
  | firstItem =>
      -- a token that does not end the list begins its first item
      have more (begins : beginValue (.items [] :: frames) t = some m') :
          Demands ⟨frames, .firstItem⟩ ((t, written) :: signs) v := by
        obtain ⟨p, _, hsigns, more, rest, rfl, closes⟩ := demands_beginValue isSign begins h
        exact ⟨p :: more, rest, by rw [hsigns]; simp [itemSigns], closes⟩
      cases t with
      | closeList =>
          cases advances
          obtain rfl : written = "" := isSign (by simp)
          exact ⟨[], signs, rfl, closes_of_demands_complete h⟩
      | _ => exact more advances
  | name pairs =>
      cases t with
      | text s =>
          cases advances
          obtain rfl : written = "" := isSign (by simp)
          obtain ⟨p, more, rest, rfl, closes⟩ := h
          exact ⟨s, p, more, rest, rfl, closes⟩
      | _ => cases advances
  | firstName =>
      cases t with
      | text s =>
          cases advances
          obtain rfl : written = "" := isSign (by simp)
          obtain ⟨p, more, rest, rfl, closes⟩ := h
          exact ⟨(s, p) :: more, rest, by simp [memberSigns], closes⟩
      | closeMapping =>
          cases advances
          obtain rfl : written = "" := isSign (by simp)
          exact ⟨[], signs, rfl, closes_of_demands_complete h⟩
      | _ => cases advances
  | colon pairs name =>
      cases t with
      | colon =>
          cases advances
          obtain rfl : written = "" := isSign (by simp)
          obtain ⟨p, _, rfl, more, rest, rfl, closes⟩ := h
          exact ⟨p, more, rest, by simp, closes⟩
      | _ => cases advances
  | afterItem reversed =>
      cases t with
      | comma =>
          cases advances
          obtain rfl : written = "" := isSign (by simp)
          obtain ⟨p, _, rfl, more, rest, rfl, closes⟩ := h
          exact ⟨p :: more, rest, by simp [itemSigns], closes⟩
      | closeList =>
          cases advances
          obtain rfl : written = "" := isSign (by simp)
          refine ⟨[], signs, rfl, ?_⟩
          rw [values, List.append_nil]
          exact closes_of_demands_complete h
      | _ => cases advances
  | afterMember pairs =>
      cases t with
      | comma =>
          cases advances
          obtain rfl : written = "" := isSign (by simp)
          obtain ⟨name, p, more, rest, rfl, closes⟩ := h
          exact ⟨(name, p) :: more, rest, by simp [memberSigns], closes⟩
      | closeMapping =>
          cases advances
          obtain rfl : written = "" := isSign (by simp)
          exact ⟨[], signs, rfl, closes_of_demands_complete h⟩
      | _ => cases advances
  | finished w => cases advances

theorem demands_of_runs {m : Machine} {ts : List Token} {v : Value} (runs : m.Runs ts v) :
    ∀ {signs : List Sign}, (∀ sign ∈ signs, IsSign sign) → signs.map (·.1) = ts →
      Demands m signs v := by
  -- a run is taken from its end, where nothing is demanded
  induction runs with
  | @done m v finished =>
      intro signs _ empty
      obtain rfl := List.map_eq_nil_iff.mp empty
      rw [Demands, finished]
      exact ⟨rfl, rfl⟩
  | step advances _ ih =>
      intro signs areSigns tokens
      obtain ⟨sign, rest, rfl, rfl, rfl⟩ := List.map_eq_cons_iff.mp tokens
      obtain ⟨isSign, areSigns⟩ := List.forall_mem_cons.mp areSigns
      exact demands_of_advance isSign advances (ih areSigns rfl)

/-- **What the machine takes is a phrase**, and it ends with the value of the phrase. -/
theorem exists_phrase_of_runs {ls : List Lexeme} {v : Value}
    (runs : start.Runs (ls.map (·.token)) v) :
    ∃ p : Phrase, p.signs = ls.map Lexeme.sign ∧ p.value = v := by
  have areSigns : ∀ sign ∈ ls.map Lexeme.sign, IsSign sign := by
    intro sign hsign noScalar
    obtain ⟨l, -, rfl⟩ := List.mem_map.mp hsign
    unfold Lexeme.sign at noScalar ⊢
    split at noScalar
    · exact absurd rfl (noScalar _)
    · rfl
  have tokens : (ls.map Lexeme.sign).map (·.1) = ls.map (·.token) := by
    rw [List.map_map]
    exact List.map_congr_left fun l _ => l.sign_fst
  obtain ⟨p, rest, hsigns, rfl, hvalue⟩ := demands_of_runs runs areSigns tokens
  rw [List.append_nil] at hsigns
  exact ⟨p, hsigns.symm, hvalue⟩

end Machine

end Verdict.Json
