import Verdict.Rule.Basic
import Verdict.Schema.Record
import Verdict.Value

/-!
# Rules: reading

Rules and conditions from values. The shape of a condition is decided by which of the four keys
`fact`, `all`, `any` and `not` it has: with one of them it is of that kind, with none it is
invalid but kept, with several it is refused. A rule's root is a group or a negation. Conditions may
be nested to a limit, and none may hold itself.
-/

namespace Verdict

open Schema

namespace Condition

/-- The kind of a mapping by its keys: none if several of the four keys are present. -/
def kindOfPairs (pairs : Pairs) : Option NodeKind :=
  match NodeKind.marked.filter fun kind => Table.has pairs (.text kind.key) with
  | [] => some .invalid
  | [kind] => some kind
  | _ => none

/-- The kind of a value; a value that is no mapping has none. -/
def kindOf : Value → Option NodeKind
  | .mapping pairs => kindOfPairs pairs
  | _ => none

/-- The fields of a leaf. -/
def leafFields : List String := ["fact", "operator", "value", "path", "params", "priority"]

/-- Pairs of which an entry may be the mapping of all of them. -/
def unrolledPairs (pairs : Pairs) : Pairs :=
  match (Value.mapping pairs).unrolled 2 with
  | .mapping unrolled => unrolled
  | _ => pairs

/-- A leaf from its pairs. -/
def readLeaf (pairs : Pairs) : Checked Leaf :=
  let pairs := unrolledPairs pairs
  (Leaf.mk <$> required pairs "fact" (readTextOf 1)
    <*> required pairs "operator" (readTextOf 1)
    <*> required pairs "value" readAny
    <*> optional pairs "path" none (nullable readText)
    <*> optional pairs "params" none (nullable readObject)
    <*> optional pairs "priority" none (nullable readInteger)).andAlso
      (noOthers leafFields pairs)

/-- A leaf. -/
def readLeafRecord : Value → Checked Leaf :=
  readRecord "FactCondition" readLeaf

/-- The pairs of an invalid node, whose keys have to be texts. -/
def readKept (pairs : Pairs) : Checked (Table String Value) :=
  ((fun _ => pairs.filterMap fun (k, v) => match k with
      | .text s => some (s, v)
      | _ => none) <$> noOthers (pairs.filterMap fun (k, _) => match k with
      | .text s => some s
      | _ => none) pairs)

/-- What holds a condition: a condition of a kind, or a list with the index of the item in it. -/
inductive Holder where
  | node (kind : NodeKind)
  | list (index : Nat)

/-- What holds a condition, from the inside out. -/
abbrev Holders := List Holder

/-- The number of conditions that hold another. -/
def Holders.depth (hs : Holders) : Nat :=
  hs.countP fun h => match h with
    | .node _ => true
    | .list _ => false

/-- The most conditions that may hold another. -/
def maxDepth : Nat := 253

/-- The condition that holds itself through a reference to a holder. A mapping that holds all
conditions is none of the four kinds. -/
def readAgain (hs : Holders) (up : Nat) (isMapping : Bool) : Checked Condition :=
  match hs[up]? with
  | some (.node kind) => (Checked.fail .cyclic).under kind.key
  | some (.list _) => .fail .mixedCondition
  | none => if isMapping then .ok (.invalid []) else .fail .mixedCondition

/-- The conditions of a list that holds itself. -/
def readListAgain (hs : Holders) (up : Nat) : Checked (List Condition) :=
  match hs[up]?, hs[up - 1]? with
  | some (.list index), some (.node kind) =>
    ((Checked.fail .cyclic).under kind.key).under (toString index)
  | _, _ => .fail .notList

mutual

/-- A condition within its holders, its issues under the key of its kind. -/
def readWithin (hs : Holders) : Value → Checked Condition
  | .mapping pairs =>
    match kindOfPairs pairs with
    | none => .fail .mixedCondition
    | some kind =>
      let inner : Holders := .node kind :: hs
      let found : Checked Condition :=
        if maxDepth < hs.depth then .fail .tooDeep
        else match kind with
          | .leaf => (readLeaf pairs).map .leaf
          | .all =>
            ((readChildrenOf inner "all" pairs).map .all).andAlso (noOthers ["all"] pairs)
          | .any =>
            ((readChildrenOf inner "any" pairs).map .any).andAlso (noOthers ["any"] pairs)
          | .not => ((readChildOf inner pairs).map .not).andAlso (noOthers ["not"] pairs)
          | .invalid => (readKept pairs).map .invalid
      found.under kind.key
  | .cycle up isMapping => readAgain hs up isMapping
  | _ => .fail .mixedCondition

/-- The conditions listed under a key. -/
def readChildrenOf (hs : Holders) (key : String) : Pairs → Checked (List Condition)
  | [] => (Checked.fail .missing).under key
  | (k, v) :: rest =>
    if k == .text key then (readChildren hs v).under key else readChildrenOf hs key rest

/-- The condition under the key of a negation. -/
def readChildOf (hs : Holders) : Pairs → Checked Condition
  | [] => (Checked.fail .missing).under "not"
  | (k, v) :: rest =>
    if k == .text "not" then (readWithin hs v).under "not" else readChildOf hs rest

/-- A list of conditions. No member of a set is one. -/
def readChildren (hs : Holders) : Value → Checked (List Condition)
  | .list items => readFrom hs 0 items
  | .tuple items => readFrom hs 0 items
  | .set members => readItems (fun _ => .fail .mixedCondition) 0 (members.map .atom)
  | .cycle up false => readListAgain hs up
  | _ => .fail .notList

/-- Conditions one after another, each under its index. -/
def readFrom (hs : Holders) (index : Nat) : List Value → Checked (List Condition)
  | [] => .ok []
  | v :: rest =>
    .cons <$> (readWithin (.list index :: hs) v).under (toString index) <*>
      readFrom hs (index + 1) rest

end

/-- A condition by itself. -/
def read (v : Value) : Checked Condition := readWithin [] v

/-- The root of a rule: a group or a negation. -/
def readGroup (v : Value) : Checked Condition :=
  match kindOf v with
  | some .all | some .any | some .not => read v
  | _ => .fail .notGroup

end Condition

/-- A severity. -/
def Severity.read : Value → Checked Severity :=
  readChoice (Severity.every.map fun s => (s.word, s))

/-- Pairs with the message of the params, if it is a text, standing in for a missing message. -/
def Event.liftMessage (pairs : Pairs) : Pairs :=
  if Table.has pairs (.text "message") then pairs
  else match (Value.mapping pairs).field? "params" with
    | some params => match params.field? "message" with
      | some (.text s) => pairs ++ [(.text "message", .text s)]
      | _ => pairs
    | none => pairs

/-- An event. -/
def Event.read : Value → Checked Event :=
  readRecord "RuleEvent" fun pairs =>
    let pairs := liftMessage pairs
    (Event.mk <$> required pairs "type" Severity.read
      <*> optional pairs "message" "" readText
      <*> optional pairs "params" [] readObject).andAlso
        (noOthers ["type", "message", "params"] pairs)

/-- A name, which is not blank. -/
def Rule.readName (v : Value) : Checked String :=
  (readTextOf 1 v).check fun s =>
    if Text.isAllBlank s then some (.refused "rule name must not be blank") else none

/-- A rule. Keys that it does not know are passed over. -/
def Rule.read : Value → Checked Rule :=
  readRecord "RuleDefinition" fun pairs =>
    (Rule.mk <$> required pairs "name" Rule.readName
      <*> optional pairs "conditions" none (nullable Condition.readGroup)
      <*> required pairs "event" fun v => Event.read (v.unrolledWithin [.mapping pairs] 2))
      <*> optional pairs "priority" none (nullable readInteger)

/-- The message for a value that is no rule. -/
def Rule.refusal (issues : List Issue) : String :=
  "Invalid rule: " ++ "; ".intercalate (issues.map Issue.line)

end Verdict
