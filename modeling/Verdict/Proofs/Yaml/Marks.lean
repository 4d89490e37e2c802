import Verdict.Proofs.Json.Phrase
import Verdict.Yaml.Token.State

/-!
# YAML: the tokens of a phrase

A phrase that is spelled in JSON, as tokens of YAML.  A name only becomes a key with the colon after
it: then a mark is put before it (`addMark`), as scanning does.  `foldl_addMark_signs` says what
becomes of the signs of a phrase, one after another.
-/

namespace Verdict.Yaml

open Json (Phrase Sign)

/-! ### Steps that succeed -/

/-- After a step that succeeds the rest goes on from its result. -/
theorem bind_of_ok {σ ε α β : Type} {x : StateT σ (Except ε) α} {f : α → StateT σ (Except ε) β}
    {s s' : σ} {a : α} (h : x s = .ok (a, s')) : (x >>= f) s = f a s' := by
  show (x s >>= fun p => f p.1 p.2) = _
  rw [h]
  rfl

/-! ### Tokens of signs -/

/-- The tokens after a sign.  A colon makes a key of the token before it. -/
def addMark (tokens : List Token) : Sign → List Token
  | (.openList, _) => tokens ++ [.flowSequenceStart]
  | (.closeList, _) => tokens ++ [.flowSequenceEnd]
  | (.openMapping, _) => tokens ++ [.flowMappingStart]
  | (.closeMapping, _) => tokens ++ [.flowMappingEnd]
  | (.comma, _) => tokens ++ [.flowEntry]
  | (.colon, _) => tokens.dropLast ++ .key :: (tokens.getLast?.toList ++ [.value])
  | (.text s, _) => tokens ++ [.scalar s false]
  | (.scalar _, written) => tokens ++ [.scalar written true]
  | (.broken .., _) | (.junk, _) => tokens

end Verdict.Yaml

namespace Verdict.Json.Phrase

open Yaml (addMark)

mutual

/-- The tokens of a phrase in YAML. -/
def marks : Phrase → List Yaml.Token
  | .text s => [.scalar s false]
  | .scalar _ written => [.scalar written true]
  | .list items => .flowSequenceStart :: itemMarks true items
  | .mapping members => .flowMappingStart :: memberMarks true members

/-- The tokens of items up to the end of their list. -/
def itemMarks (first : Bool) : List Phrase → List Yaml.Token
  | [] => [.flowSequenceEnd]
  | p :: rest => (if first then [] else [.flowEntry]) ++ marks p ++ itemMarks false rest

/-- The tokens of members up to the end of their mapping. -/
def memberMarks (first : Bool) : List (String × Phrase) → List Yaml.Token
  | [] => [.flowMappingEnd]
  | (name, p) :: rest =>
    (if first then [] else [.flowEntry]) ++ .key :: .scalar name false :: .value :: marks p ++
      memberMarks false rest

end

mutual

/-- **The signs of a phrase** become its tokens. -/
theorem foldl_addMark_signs : ∀ (p : Phrase) (tokens : List Yaml.Token),
    p.signs.foldl addMark tokens = tokens ++ p.marks
  | .text _, _ | .scalar .., _ => rfl
  | .list items, tokens => by
      rw [signs, List.foldl_cons, foldl_addMark_itemSigns, addMark, marks, List.append_assoc]
      rfl
  | .mapping members, tokens => by
      rw [signs, List.foldl_cons, foldl_addMark_memberSigns, addMark, marks, List.append_assoc]
      rfl

theorem foldl_addMark_itemSigns : ∀ (first : Bool) (items : List Phrase)
    (tokens : List Yaml.Token),
    (itemSigns first items).foldl addMark tokens = tokens ++ itemMarks first items
  | _, [], _ => rfl
  | first, p :: rest, tokens => by
      have separated : (if first then [] else [((.comma, "") : Sign)]).foldl addMark tokens =
          tokens ++ if first then [] else [.flowEntry] := by
        cases first <;> simp [addMark]
      simp only [itemSigns, itemMarks, List.foldl_append, separated, foldl_addMark_signs p,
        foldl_addMark_itemSigns false rest, List.append_assoc]

theorem foldl_addMark_memberSigns : ∀ (first : Bool) (members : List (String × Phrase))
    (tokens : List Yaml.Token),
    (memberSigns first members).foldl addMark tokens = tokens ++ memberMarks first members
  | _, [], _ => rfl
  | first, (name, p) :: rest, tokens => by
      have separated : (if first then [] else [((.comma, "") : Sign)]).foldl addMark tokens =
          tokens ++ if first then [] else [.flowEntry] := by
        cases first <;> simp [addMark]
      have named : addMark (addMark (tokens ++ if first then [] else [.flowEntry]) (.text name, ""))
          (.colon, "") = tokens ++ (if first then [] else [.flowEntry]) ++
            [.key, .scalar name false, .value] := by
        simp [addMark]
      simp only [memberSigns, memberMarks, List.foldl_append, List.foldl_cons, separated, named,
        foldl_addMark_signs p, foldl_addMark_memberSigns false rest, List.append_assoc,
        List.cons_append, List.nil_append]

end

end Verdict.Json.Phrase
