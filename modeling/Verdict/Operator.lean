import Verdict.Text.Search
import Verdict.Value.Equality

/-!
# Operators

The operators that need no plugin. They are total: an operand of the wrong type makes an operator
false. Numbers are compared by exact value, and a boolean is not a number.
-/

namespace Verdict

/-- The operators that are always there. -/
inductive Builtin where
  | equal
  | notEqual
  | lessThan
  | lessThanInclusive
  | greaterThan
  | greaterThanInclusive
  | isIn
  | notIn
  | contains
  | doesNotContain
deriving DecidableEq, Repr

namespace Builtin

/-- The name of an operator in a rule. -/
def name : Builtin → String
  | .equal => "equal"
  | .notEqual => "notEqual"
  | .lessThan => "lessThan"
  | .lessThanInclusive => "lessThanInclusive"
  | .greaterThan => "greaterThan"
  | .greaterThanInclusive => "greaterThanInclusive"
  | .isIn => "in"
  | .notIn => "notIn"
  | .contains => "contains"
  | .doesNotContain => "doesNotContain"

/-- All operators. -/
def every : List Builtin :=
  [.equal, .notEqual, .lessThan, .lessThanInclusive, .greaterThan, .greaterThanInclusive, .isIn,
    .notIn, .contains, .doesNotContain]

/-- The operator of a name. -/
def named? (name : String) : Option Builtin :=
  every.find? (·.name == name)

/-- A comparison of two numbers; anything else does not compare. -/
def compare (test : Num → Num → Bool) (a b : Value) : Bool :=
  match a.num?, b.num? with
  | some m, some n => test m n
  | _, _ => false

/-- The items of the second operand are asked about the first. -/
def among (test : Bool → Bool) (a b : Value) : Bool :=
  match b.items? with
  | some items => test (Value.isMember a items)
  | none => false

/-- The first operand, a text or a list, is asked about the second. -/
def holding (test : Bool → Bool) (a b : Value) : Bool :=
  match a with
  | .text s =>
    match b with
    | .text part => test (Text.contains s part)
    | _ => false
  | a => among test b a

/-- The answer of an operator. -/
def holds : Builtin → Value → Value → Bool
  | .equal, a, b => a.equals b
  | .notEqual, a, b => !a.equals b
  | .lessThan, a, b => compare Num.less a b
  | .lessThanInclusive, a, b => compare Num.lessOrSame a b
  | .greaterThan, a, b => compare Num.less b a
  | .greaterThanInclusive, a, b => compare Num.lessOrSame b a
  | .isIn, a, b => among id a b
  | .notIn, a, b => among not a b
  | .contains, a, b => holding id a b
  | .doesNotContain, a, b => holding not a b

end Builtin

/-- An operator of this name is always there. -/
def isBuiltinOperator (name : String) : Bool :=
  (Builtin.named? name).isSome

end Verdict
