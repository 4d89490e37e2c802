import Verdict.Value

/-!
# Rules: conditions

The tree of conditions of a rule. A leaf compares a part of a fact with a value; groups ask that
all or any of their children hold, and a negation that its child does not. A node with none of the
four shapes, such as a condition still being written, is kept as it is and never holds.
-/

namespace Verdict

/-- A leaf: the operator applied to the selected part of the fact and to the value. -/
structure Leaf where
  fact : String
  operator : String
  value : Value
  selector : Option String := none
  params : Option (Table String Value) := none
  priority : Option Int := none

/-- A tree of conditions. -/
inductive Condition where
  | leaf (l : Leaf)
  | all (children : List Condition)
  | any (children : List Condition)
  | not (child : Condition)
  | invalid (keys : Table String Value)

/-- The kinds of nodes. -/
inductive NodeKind where
  | leaf
  | all
  | any
  | not
  | invalid
deriving DecidableEq, Repr

namespace NodeKind

/-- The key that marks a node of a kind in its written form. -/
def key : NodeKind → String
  | .leaf => "fact"
  | .all => "all"
  | .any => "any"
  | .not => "not"
  | .invalid => "invalid"

/-- The kinds that a key marks. -/
def marked : List NodeKind := [.leaf, .all, .any, .not]

end NodeKind

namespace Condition

instance : Inhabited Condition := ⟨.invalid []⟩

/-- The kind of a node. -/
def kind : Condition → NodeKind
  | .leaf _ => .leaf
  | .all _ => .all
  | .any _ => .any
  | .not _ => .not
  | .invalid _ => .invalid

/-- The node is a group or a negation, as the root of a rule is. -/
def isGroup (c : Condition) : Bool :=
  match c.kind with
  | .all | .any | .not => true
  | .leaf | .invalid => false

mutual

/-- The leaves of a tree from left to right. -/
def leaves : Condition → List Leaf
  | .leaf l => [l]
  | .all children => leavesOf children
  | .any children => leavesOf children
  | .not child => leaves child
  | .invalid _ => []

/-- The leaves of trees one after another. -/
def leavesOf : List Condition → List Leaf
  | [] => []
  | c :: rest => leaves c ++ leavesOf rest

end

/-- The names of the facts that the leaves read. -/
def factsUsed (c : Condition) : List String :=
  (c.leaves.map (·.fact)).eraseDups

/-- The names of the operators that the leaves apply. -/
def operatorsUsed (c : Condition) : List String :=
  (c.leaves.map (·.operator)).eraseDups

end Condition

end Verdict
