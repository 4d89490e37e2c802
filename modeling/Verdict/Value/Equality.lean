import Verdict.Value

/-!
# Values: equality

`Value.same` compares values by structure: atoms by `Atom.same`, lists with lists and tuples with
tuples item by item, sets and mappings by their members and keys whatever their order, records by
kind and fields. What holds itself equals nothing, and NaN equals nothing: values have no identity
by which one NaN could be told from another.
`Value.equals` is the equality of the operators: it asks `same` of two booleans or of two values
neither of which is a boolean. The question is put to the operands only, not to their parts.
-/

namespace Verdict.Value

mutual

/-- Equality by structure, for which NaN equals nothing wherever it stands. Where two values hold one
and the same NaN, an equality that takes what is identical for equal may say otherwise. -/
def same : Value → Value → Bool
  | .atom a, .atom b => a.same b
  | .list xs, .list ys => sameItems xs ys
  | .tuple xs, .tuple ys => sameItems xs ys
  | .set xs, .set ys => xs.length == ys.length && xs.all fun x => ys.any x.same
  | .mapping ps, .mapping qs => ps.length == qs.length && sameEntries ps qs
  | .record k fs, .record l gs => k == l && fs.length == gs.length && sameEntries fs gs
  | _, _ => false

/-- Equality of lists item by item. -/
def sameItems : List Value → List Value → Bool
  | [], [] => true
  | x :: xs, y :: ys => same x y && sameItems xs ys
  | _, _ => false

/-- Every pair of the first table has an equal entry in the second. -/
def sameEntries : List (Atom × Value) → List (Atom × Value) → Bool
  | [], _ => true
  | (k, v) :: rest, qs =>
    (match Table.get? qs k with
      | some w => same v w
      | none => false) && sameEntries rest qs

end

/-- Equality of operands: a boolean equals booleans only. -/
def equals (a b : Value) : Bool :=
  a.isBool == b.isBool && same a b

/-- The item equals one of the candidates. -/
def isMember (item : Value) (candidates : List Value) : Bool :=
  candidates.any (equals item)

end Verdict.Value
