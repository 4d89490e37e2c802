import Verdict.Value

/-!
# Configuration: templates

Texts with references to variables, such as `Bearer $` followed by a name in braces. A text is read
into pieces from the left: wherever a reference stands it is one, and everything else is literal.
What a variable holds is not read again.
-/

namespace Verdict.Template

/-- A piece of a text. -/
inductive Piece where
  | literal (c : Char)
  | reference (name : List Char)
deriving DecidableEq, Repr

/-- A character that may begin the name of a variable. -/
def isNameStart (c : Char) : Bool :=
  ('A' ≤ c && c ≤ 'Z') || c == '_'

/-- A character that may continue the name of a variable. -/
def isNamePart (c : Char) : Bool :=
  isNameStart c || c.isDigit

/-- The name after a dollar sign and an opening brace, up to the closing brace, with what follows. -/
def referenceName? (s : List Char) : Option (List Char × List Char) :=
  match s with
  | first :: _ =>
    if isNameStart first then
      match s.dropWhile isNamePart with
      | '\x7d' :: rest => some (s.takeWhile isNamePart, rest)
      | _ => none
    else none
  | [] => none

/-- A reference at the beginning of a text, with what follows. -/
def reference? : List Char → Option (List Char × List Char)
  | '$' :: '\x7b' :: s => referenceName? s
  | _ => none

/-- The pieces of a text. `skip` characters belong to the piece already read. -/
def piecesFrom : (skip : Nat) → List Char → List Piece
  | _, [] => []
  | skip + 1, _ :: s => piecesFrom skip s
  | 0, c :: s =>
    match reference? (c :: s) with
    | some (name, _) => .reference name :: piecesFrom (name.length + 2) s
    | none => .literal c :: piecesFrom 0 s

/-- The pieces of a text. -/
def pieces (s : List Char) : List Piece :=
  piecesFrom 0 s

/-- A piece as it is written. -/
def Piece.written : Piece → List Char
  | .literal c => [c]
  | .reference name => '$' :: '\x7b' :: name ++ ['\x7d']

/-- The variables of an environment. -/
abbrev Variables := Table String String

/-- Why a value is not filled in: a variable is not set, or the value holds itself, by a list or by a
mapping, and has no end. -/
inductive Fault where
  | unset (name : String)
  | endless (isMapping : Bool)

/-- What stands for a piece: a literal itself, a reference its variable's text. A reference to no
variable stays as it is or, if that is not allowed, is a fault. -/
def Piece.filled (vars : Variables) (strict : Bool) : Piece → Except Fault (List Char)
  | .literal c => .ok [c]
  | .reference name =>
    match vars.get? (String.ofList name) with
    | some v => .ok v.toList
    | none =>
      if strict then .error (.unset (String.ofList name)) else .ok (Piece.reference name).written

/-- What stands for pieces one after another. -/
def fillAll (vars : Variables) (strict : Bool) : List Piece → Except Fault (List Char)
  | [] => .ok []
  | p :: rest => do
    let s ← p.filled vars strict
    return s ++ (← fillAll vars strict rest)

/-- A text with its references replaced. -/
def fillText (vars : Variables) (strict : Bool) (s : String) : Except Fault String := do
  return String.ofList (← fillAll vars strict (pieces s.toList))

mutual

/-- A value with the references in its texts replaced, in lists and in the entries of mappings. -/
def fill (vars : Variables) (strict : Bool) : Value → Except Fault Value
  | .text s => do return .text (← fillText vars strict s)
  | .list items => do return .list (← fillItems vars strict items)
  | .mapping pairs => do return .mapping (← fillPairs vars strict pairs)
  | .cycle _ isMapping => .error (.endless isMapping)
  | v => .ok v

/-- Items with references replaced. -/
def fillItems (vars : Variables) (strict : Bool) : List Value → Except Fault (List Value)
  | [] => .ok []
  | v :: rest => do
    let w ← fill vars strict v
    return w :: (← fillItems vars strict rest)

/-- Pairs with references in their entries replaced. -/
def fillPairs (vars : Variables) (strict : Bool) :
    List (Atom × Value) → Except Fault (List (Atom × Value))
  | [] => .ok []
  | (k, v) :: rest => do
    let w ← fill vars strict v
    return (k, w) :: (← fillPairs vars strict rest)

end

end Verdict.Template
