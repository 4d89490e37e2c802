import Verdict.Pattern.Basic

/-!
# Pattern: alternatives

The form in which a choice is kept. What all alternatives begin with stands before the choice; and a
choice between single characters and sets is one set. Both take the same characters in the same
order of preference, but a set has a rule of its own for characters beyond the basic plane where
case does not count.
-/

namespace Verdict.Pattern

namespace Node

/-- Parts one after another, without groups that do nothing. -/
def ungrouped (parts : List Node) : Node :=
  .ofList (parts.flatMap fun
    | .group none added removed body =>
      if added = {} ∧ removed = {} then body.toList else [.group none added removed body]
    | part => [part])

/-- Two parts that are written alike and hold no others. -/
def alike : Node → Node → Bool
  | .single a, .single b => a == b
  | .anchor a, .anchor b => a == b
  | .backReference a _, .backReference b _ => a == b
  | _, _ => false

/-- The members of a set that takes what the part takes, if it is a character or a set of some. -/
def members? : Node → Option (List Member)
  | .single (.code n) => some [.code n]
  | .single (.set false members) => some members
  | _ => none

/-- The parts with which all of some sequences begin, at most `fuel`, and what follows them. -/
def sharedBeginning (sequences : List (List Node)) : (fuel : Nat) → List Node × List (List Node)
  | 0 => ([], sequences)
  | fuel + 1 =>
    match sequences with
    | (part :: _) :: _ =>
      if sequences.all (fun s => s.head?.any part.alike) then
        let (shared, rests) := sharedBeginning (sequences.map List.tail) fuel
        (part :: shared, rests)
      else ([], sequences)
    | _ => ([], sequences)

/-- The choice between sequences that begin with nothing in common. -/
def choiceOf (sequences : List (List Node)) : Node :=
  let members := sequences.mapM fun
    | [part] => part.members?
    | _ => none
  match members with
  | some members => .single (.set false members.flatten.eraseDups)
  | none => .ofAlternatives (sequences.map .ofList)

/-- The choice between alternatives, the first one preferred. -/
def joined : List Node → Node
  | [] => .empty
  | [one] => one
  | alternatives =>
    let sequences := alternatives.map toList
    let (shared, rests) := sharedBeginning sequences ((sequences.map List.length).foldl max 0)
    .ofList (shared ++ [choiceOf rests])

end Node

end Verdict.Pattern
