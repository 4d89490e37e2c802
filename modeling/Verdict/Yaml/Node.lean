import Verdict.Table
import Verdict.Yaml.Tag
import Verdict.Yaml.Token

/-!
# YAML: nodes

The tree of a document, composed from its tokens. A text holds at most one document. A name given to
a node stands for that node from then on. Nodes are numbered, so that a collection that holds itself
can refer to itself by its number.
-/

namespace Verdict.Yaml

/-- A node of a document, or a reference to the collection of a number that holds it. -/
inductive Node where
  | scalar (tag : Tag) (text : String)
  | sequence (number : Nat) (tag : Tag) (items : List Node)
  | mapping (number : Nat) (tag : Tag) (pairs : List (Node × Node))
  | again (number : Nat)

/-- The state in which a document is composed: the tokens left, what the handles of tags stand for,
what the names stand for, and the named nodes that are complete by their numbers. `count` is the
number of the next node. -/
structure Composition where
  tokens : List Token
  handles : Table String String := []
  names : Table String Node := []
  named : Table Nat Node := []
  count : Nat := 0

/-- A step of composing. -/
abbrev Composing (α : Type) := StateT Composition (Except Fault) α

namespace Composing

/-- The tokens make no node. -/
def fail {α : Type} : Composing α := throw .malformed

/-- The next token. -/
def peek : Composing (Option Token) := do
  return (← get).tokens.head?

/-- Passes over the next token. -/
def advance : Composing Unit :=
  modify fun c => { c with tokens := c.tokens.tail }

/-- Takes a token if it comes next. -/
def accept (t : Token) : Composing Bool := do
  if (← peek) == some t then
    advance
    return true
  else return false

/-- Takes a token, which has to come next. -/
def expect (t : Token) : Composing Unit := do
  if !(← accept t) then fail

/-- One of the tokens comes next, or none at all. -/
def atAny (ts : List Token) : Composing Bool := do
  match ← peek with
  | some t => return ts.contains t
  | none => return false

/-- The node of what is left out. -/
def empty : Node := .scalar .null ""

/-! ### Directives -/

/-- What the handles stand for unless a directive says otherwise. -/
def defaultHandles : Table String String := [("!", "!"), ("!!", tagStart)]

/-- Takes the directives before a document. -/
def directives (versioned : Bool) (handles : Table String String) :
    Nat → Composing (Table String String)
  | 0 => fail
  | fuel + 1 => do
    match ← peek with
    | some (.directive d) =>
      advance
      match d with
      | .version major =>
        if versioned || major ≠ 1 then fail
        directives true handles fuel
      | .tag handle start =>
        if handles.has handle then fail
        directives versioned (handles.insert handle start) fuel
      | .other => directives versioned handles fuel
    | _ =>
      let missing := defaultHandles.filter fun (handle, _) => !handles.has handle
      return handles ++ missing

/-! ### Properties of nodes -/

/-- The name and the tag before a node. The tag that only asks for the usual reading is told apart
from none, and any other is written out. -/
structure Properties where
  name : Option String := none
  tag : Option String := none

/-- Takes an anchor, if it comes next. -/
def takeName : Composing (Option String) := do
  match ← peek with
  | some (.anchor name) =>
    advance
    return some name
  | _ => return none

/-- Takes a tag, if it comes next. -/
def takeTag : Composing (Option String) := do
  match ← peek with
  | some (.tag handle suffix) =>
    advance
    match handle with
    | none => return some suffix
    | some handle =>
      match (← get).handles.get? handle with
      | some start => return some (start ++ suffix)
      | none => fail
  | _ => return none

/-- Takes a name and a tag, in either order. -/
def properties : Composing Properties := do
  match ← takeName with
  | some name => return ⟨some name, ← takeTag⟩
  | none =>
    match ← takeTag with
    | some tag => return ⟨← takeName, some tag⟩
    | none => return {}

namespace Properties

/-- The kind of a collection. -/
def collectionTag (p : Properties) (usual : Tag) : Tag :=
  match p.tag with
  | none => usual
  | some "!" => usual
  | some name => .ofName name

/-- The kind of a scalar. -/
def scalarTag (p : Properties) (text : String) (plain : Bool) : Tag :=
  match p.tag with
  | none => if plain then tagOfPlain text else .text
  | some "!" => tagOfPlain text
  | some name => .ofName name

end Properties

/-- A number for a node. -/
def takeNumber : Composing Nat := do
  let c ← get
  set { c with count := c.count + 1 }
  return c.count

/-- Names a node that is still open, by its number. -/
def openName (p : Properties) (number : Nat) : Composing Unit := do
  match p.name with
  | some name =>
    if (← get).names.has name then fail
    modify fun c => { c with names := c.names.insert name (.again number) }
  | none => return

/-- Names a node that is complete. -/
def closeName (p : Properties) (number : Nat) (node : Node) : Composing Node := do
  match p.name with
  | some name =>
    modify fun c =>
      { c with names := c.names.insert name node, named := c.named.insert number node }
  | none => return node
  return node

/-- The node that a name stands for. -/
def named (name : String) : Composing Node := do
  match (← get).names.get? name with
  | some node => return node
  | none => fail

/-! ### Nodes -/

/-- Where a node stands: whether block collections may begin there, and whether the entries of a
sequence may follow without being indented. -/
structure Place where
  block : Bool
  indentless : Bool

/-- A node by itself in a block. -/
def Place.ofBlock : Place := ⟨true, false⟩

/-- A node in a block whose list may stand without indentation. -/
def Place.ofBlockPart : Place := ⟨true, true⟩

/-- A node in a flow collection. -/
def Place.ofFlow : Place := ⟨false, false⟩

mutual

/-- A node with its name and tag, or the node that a name stands for. -/
def node (place : Place) : Nat → Composing Node
  | 0 => fail
  | fuel + 1 => do
    if let some (.alias name) ← peek then
      advance
      named name
    else
      let p ← properties
      let number ← takeNumber
      openName p number
      closeName p number (← content place p number fuel)

/-- What follows the name and the tag of a node. -/
def content (place : Place) (p : Properties) (number : Nat) : Nat → Composing Node
  | 0 => fail
  | fuel + 1 => do
    let sequence items := Node.sequence number (p.collectionTag .sequence) items
    let mapping pairs := Node.mapping number (p.collectionTag .mapping) pairs
    match ← peek with
    | some (.scalar text plain) =>
      advance
      return .scalar (p.scalarTag text plain) text
    | some .flowSequenceStart =>
      advance
      return sequence (← flowItems true fuel)
    | some .flowMappingStart =>
      advance
      return mapping (← flowPairs true fuel)
    | t =>
      if t == some .blockEntry && place.indentless then
        return sequence (← entries [.blockEntry, .key, .value, .blockEnd] fuel)
      else if t == some .blockSequenceStart && place.block then
        advance
        let items ← entries [.blockEntry, .blockEnd] fuel
        expect .blockEnd
        return sequence items
      else if t == some .blockMappingStart && place.block then
        advance
        let pairs ← blockPairs fuel
        expect .blockEnd
        return mapping pairs
      else if p.name.isSome || p.tag.isSome then return .scalar (p.scalarTag "" true) ""
      else fail

/-- A node, or the empty one before a token that ends it. -/
def nodeBefore (ends : List Token) (place : Place) : Nat → Composing Node
  | 0 => fail
  | fuel + 1 => do
    if ← atAny ends then return empty else node place fuel

/-- A node after a token, or the empty one if that does not come next. -/
def nodeAfter (mark : Token) (ends : List Token) (place : Place) : Nat → Composing Node
  | 0 => fail
  | fuel + 1 => do
    if ← accept mark then nodeBefore ends place fuel else return empty

/-- The entries of a block sequence. -/
def entries (ends : List Token) : Nat → Composing (List Node)
  | 0 => fail
  | fuel + 1 => do
    if ← accept .blockEntry then
      let item ← nodeBefore ends .ofBlock fuel
      return item :: (← entries ends fuel)
    else return []

/-- The pairs of a block mapping. -/
def blockPairs : Nat → Composing (List (Node × Node))
  | 0 => fail
  | fuel + 1 => do
    let ends := [Token.key, .value, .blockEnd]
    if ← accept .key then
      let key ← nodeBefore ends .ofBlockPart fuel
      let value ← nodeAfter .value ends .ofBlockPart fuel
      return (key, value) :: (← blockPairs fuel)
    else return []

/-- The items of a flow sequence up to its end. A single pair may stand for a mapping. -/
def flowItems (first : Bool) : Nat → Composing (List Node)
  | 0 => fail
  | fuel + 1 => do
    if ← accept .flowSequenceEnd then return []
    if !first then
      expect .flowEntry
    if ← accept .key then
      let key ← nodeBefore [.value, .flowEntry, .flowSequenceEnd] .ofFlow fuel
      let value ← nodeAfter .value [.flowEntry, .flowSequenceEnd] .ofFlow fuel
      let number ← takeNumber
      return .mapping number .mapping [(key, value)] :: (← flowItems false fuel)
    else if ← accept .flowSequenceEnd then return []
    else
      let item ← node .ofFlow fuel
      return item :: (← flowItems false fuel)

/-- The pairs of a flow mapping up to its end. -/
def flowPairs (first : Bool) : Nat → Composing (List (Node × Node))
  | 0 => fail
  | fuel + 1 => do
    if ← accept .flowMappingEnd then return []
    if !first then
      expect .flowEntry
    if ← accept .key then
      let key ← nodeBefore [.value, .flowEntry, .flowMappingEnd] .ofFlow fuel
      let value ← nodeAfter .value [.flowEntry, .flowMappingEnd] .ofFlow fuel
      return (key, value) :: (← flowPairs false fuel)
    else if ← accept .flowMappingEnd then return []
    else
      let key ← node .ofFlow fuel
      return (key, empty) :: (← flowPairs false fuel)

end

/-! ### Documents -/

/-- The node of a document after its start. -/
def documentContent (fuel : Nat) : Composing Node := do
  match ← peek with
  | none => return empty
  | some (.directive _) => return empty
  | some .documentStart => return empty
  | some .documentEnd => return empty
  | some _ => node .ofBlock fuel

/-- The document has a line of its own at its start. -/
def isMarked : Option Token → Bool
  | some (.directive _) => true
  | some .documentStart => true
  | _ => false

/-- The node of the first document. -/
def firstDocument (fuel : Nat) : Composing Node := do
  if isMarked (← peek) then
    let handles ← directives false [] fuel
    modify fun c => { c with handles := handles }
    expect .documentStart
    documentContent fuel
  else
    modify fun c => { c with handles := defaultHandles }
    node .ofBlock fuel

/-- The node of the only document, if there is one. -/
def document (fuel : Nat) : Composing (Option Node) := do
  if (← peek).isNone then return none
  let root ← firstDocument fuel
  let rest := (← get).tokens.dropWhile (· == .documentEnd)
  if rest.isEmpty then return some root else fail

end Composing

/-- A document: its root, its named nodes by their numbers, and the number of all its nodes. -/
structure Tree where
  root : Node
  named : Table Nat Node
  size : Nat

/-- The document that the tokens make. Every call takes a token or opens a node that does, so the
number of tokens bounds the depth of the calls. -/
def Tree.ofTokens? (tokens : List Token) : Except Fault (Option Tree) := do
  let (root, c) ← (Composing.document (5 * tokens.length + 10)).run { tokens }
  return root.map fun root => ⟨root, c.named, c.count⟩

end Verdict.Yaml
