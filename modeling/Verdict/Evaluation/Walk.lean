import Verdict.Evaluation.Leaf
import Verdict.Rule.Condition

/-!
# Evaluation: walk

The walk over a tree of conditions, which evaluates every leaf in document order and reports each
under its path. Below a negation the outcomes are inverted, once for every negation above the leaf.

Whether the conditions of a rule hold is decided afterwards from the outcomes of the leaves, which are
found by their paths; and the errors of leaves may put the decision in doubt.
-/

namespace Verdict

/-! ### The leaves -/

/-- The path of the root of a rule's conditions. -/
def rootPath : List String := ["conditions"]

/-- The warning about an invalid node. -/
def invalidNodeWarning (path : List String) : String :=
  "Invalid condition structure at path: " ++ ".".intercalate path

namespace Condition

mutual

/-- The results of the leaves of a tree at a path, and the state of the run after them. -/
def evaluate (ctx : Context) (r : Registry) (path : List String) : Condition → Run →
    List LeafResult × Run
  | .leaf l, run =>
    let (result, after) := l.evaluate path ctx r run
    ([result], after)
  | .all children, run => evaluateFrom ctx r (path ++ [NodeKind.all.key]) 0 children run
  | .any children, run => evaluateFrom ctx r (path ++ [NodeKind.any.key]) 0 children run
  | .not child, run =>
    let (results, after) := evaluate ctx r (path ++ [NodeKind.not.key]) child run
    (results.map LeafResult.inverted, after)
  | .invalid _, run => ([], run.warn [invalidNodeWarning path])

/-- The results of the leaves of siblings, the first of which has the given index. -/
def evaluateFrom (ctx : Context) (r : Registry) (path : List String) (index : Nat) :
    List Condition → Run → List LeafResult × Run
  | [], run => ([], run)
  | child :: rest, run =>
    let (first, between) := evaluate ctx r (path ++ [toString index]) child run
    let (others, after) := evaluateFrom ctx r path (index + 1) rest between
    (first ++ others, after)

end

end Condition

/-! ### The decision -/

/-- The outcomes of leaves by path. Of two results at one path the later one counts. -/
def outcomesByPath (results : List LeafResult) : Table (List String) Bool :=
  Table.ofPairs (results.map fun r => (r.path, r.outcome))

namespace Condition

mutual

/-- The tree at a path holds by the given outcomes. A leaf without an outcome does not hold, and
neither does an invalid node. -/
def holds (outcomes : Table (List String) Bool) (path : List String) : Condition → Bool
  | .leaf _ => (outcomes.get? path).getD false
  | .all children => allHold outcomes (path ++ [NodeKind.all.key]) 0 children
  | .any children => anyHolds outcomes (path ++ [NodeKind.any.key]) 0 children
  | .not child => !holds outcomes (path ++ [NodeKind.not.key]) child
  | .invalid _ => false

/-- All siblings hold. -/
def allHold (outcomes : Table (List String) Bool) (path : List String) (index : Nat) :
    List Condition → Bool
  | [] => true
  | child :: rest =>
    holds outcomes (path ++ [toString index]) child && allHold outcomes path (index + 1) rest

/-- Some sibling holds. -/
def anyHolds (outcomes : Table (List String) Bool) (path : List String) (index : Nat) :
    List Condition → Bool
  | [] => false
  | child :: rest =>
    holds outcomes (path ++ [toString index]) child || anyHolds outcomes path (index + 1) rest

end

end Condition

/-- The conditions of a rule hold by the results of its leaves. -/
def Condition.isMet (c : Condition) (results : List LeafResult) : Bool :=
  c.holds (outcomesByPath results) rootPath

/-- The error says that something is not provided. -/
def isGap (error : String) : Bool :=
  Text.contains error LeafFault.unknownFactMark || Text.contains error LeafFault.unknownOperatorMark

/-- The errors of the leaves put a decision in doubt: some leaf with an error has the outcome false,
and not all errors say that something is not provided. -/
def hasFaults (results : List LeafResult) : Bool :=
  let errored := results.filter LeafResult.isErrored
  errored.any (!·.outcome) && !errored.all fun r => r.error.any isGap

end Verdict
