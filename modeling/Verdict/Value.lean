import Verdict.Calendar
import Verdict.Number.Order
import Verdict.Table

/-!
# Values

The dynamic values of the program: what rule files hold, what facts answer and what operators
compare. Leaves are atoms; the compound values are lists, tuples, sets, mappings in insertion order
and records. Mappings read from JSON have text keys; hand-written files may use any atom as a key,
and they may put a list or a mapping into itself: it does so by a reference to the holder, and
unrolling puts the holder in the place of the reference, down to a depth.
-/

namespace Verdict

/-- A value without parts. -/
inductive Atom where
  | null
  | bool (b : Bool)
  | int (n : Int)
  | float (x : Number.Binary64)
  | text (s : String)
  | date (d : Date)
  | moment (m : Moment)
  | bytes (bs : List UInt8)
deriving DecidableEq

namespace Atom

/-- The number an atom counts as in an equation: a boolean counts as one or zero. -/
def number? : Atom → Option Num
  | .bool b => some (.int (if b then 1 else 0))
  | .int n => some (.int n)
  | .float x => some (.float x)
  | _ => none

/-- Equality of atoms: numbers by value, moments by the instant, everything else by form. -/
def same (a b : Atom) : Bool :=
  match a, b with
  | .moment m, .moment n => m.same n
  | a, b =>
    match a.number?, b.number? with
    | some m, some n => m.same n
    | none, none => decide (a = b)
    | _, _ => false

/-- Keys are found by equality of atoms, so a number is found however it was written. -/
instance : BEq Atom := ⟨same⟩

end Atom

/-- The kinds of records. -/
inductive RecordKind where
  /-- The outcome of one leaf condition. -/
  | leafResult
  /-- The data of a project. -/
  | project
deriving DecidableEq, Repr

/-- A dynamic value. -/
inductive Value where
  | atom (a : Atom)
  | list (items : List Value)
  | tuple (items : List Value)
  | set (members : List Atom)
  | mapping (pairs : List (Atom × Value))
  | record (kind : RecordKind) (fields : List (Atom × Value))
  /-- The list or mapping so many levels above the one that holds this. -/
  | cycle (up : Nat) (isMapping : Bool)

namespace Value

/-- The absent value. -/
@[match_pattern] abbrev null : Value := .atom .null

/-- A boolean. -/
@[match_pattern] abbrev bool (b : Bool) : Value := .atom (.bool b)

/-- An integer. -/
@[match_pattern] abbrev int (n : Int) : Value := .atom (.int n)

/-- A floating-point number. -/
@[match_pattern] abbrev float (x : Number.Binary64) : Value := .atom (.float x)

/-- A text. -/
@[match_pattern] abbrev text (s : String) : Value := .atom (.text s)

instance : Inhabited Value := ⟨null⟩

/-- A mapping with text keys. -/
def ofPairs (pairs : List (String × Value)) : Value :=
  .mapping (pairs.map fun (k, v) => (.text k, v))

/-- A list of texts. -/
def texts (ss : List String) : Value :=
  .list (ss.map text)

/-- A table as a mapping. -/
def ofTable (t : Table String Value) : Value := ofPairs t

/-- An optional value; the absent value stands for none. -/
def ofOption {α : Type} (f : α → Value) : Option α → Value
  | some a => f a
  | none => null

/-- A text, or the absent value. -/
def optionalText : Option String → Value
  | some s => text s
  | none => null

/-- The entry of a text key in a mapping. -/
def field? : Value → String → Option Value
  | .mapping pairs, key => Table.get? pairs (.text key)
  | _, _ => none

/-- The text in a value. -/
def text? : Value → Option String
  | .text s => some s
  | _ => none

/-- The number in a value; a boolean is none. -/
def num? : Value → Option Num
  | .int n => some (.int n)
  | .float x => some (.float x)
  | _ => none

/-- The value is a boolean. -/
def isBool : Value → Bool
  | .bool _ => true
  | _ => false

/-- The items of a list or a tuple. -/
def items? : Value → Option (List Value)
  | .list items => some items
  | .tuple items => some items
  | _ => none

/-- Whether a value counts as true: neither absent, false, zero nor empty. -/
def truthy : Value → Bool
  | .atom a =>
    match a with
    | .null => false
    | .bool b => b
    | .int n => n != 0
    | .float x => !x.isZero
    | .text s => !s.isEmpty
    | .bytes bs => !bs.isEmpty
    | .date _ => true
    | .moment _ => true
  | .list items => !items.isEmpty
  | .tuple items => !items.isEmpty
  | .set members => !members.isEmpty
  | .mapping pairs => !pairs.isEmpty
  | .record _ _ => true
  | .cycle _ _ => true

/-! ### Unrolling -/

/-- A value within its holders, which come from the inside out, unrolled down to a depth. -/
def unrolledWithin (holders : List Value) : (depth : Nat) → Value → Value
  | 0, v => v
  | depth + 1, v =>
    let part := unrolledWithin (v :: holders) depth
    match v with
    | .list items => .list (items.map part)
    | .tuple items => .tuple (items.map part)
    | .mapping pairs => .mapping (pairs.map fun (k, w) => (k, part w))
    | .cycle up _ =>
      match holders.drop up with
      | holder :: outer => unrolledWithin outer depth holder
      | [] => v
    | v => v

/-- A value unrolled down to a depth. -/
def unrolled (v : Value) (depth : Nat) : Value := v.unrolledWithin [] depth

/-- What is no collection is unrolled to itself. -/
@[simp] theorem unrolled_atom (a : Atom) (depth : Nat) : (Value.atom a).unrolled depth = .atom a := by
  cases depth <;> rfl

end Value

end Verdict
