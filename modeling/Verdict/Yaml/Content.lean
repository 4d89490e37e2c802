import Verdict.Calendar
import Verdict.Number.Binary64
import Verdict.Number.Reading
import Verdict.Text.Base64
import Verdict.Text.LetterCase
import Verdict.Value.Display
import Verdict.Yaml.Node
import Verdict.Yaml.Token.Lexer

/-!
# YAML: content

The value that a node stands for, and the value of a text. The pairs that a mapping borrows by the
merge key come before its own, so that its own win. Of several faults the one nearest to the root is
met first, and of two at one depth the one written first.
-/

namespace Verdict.Yaml

/-! ### Scalars -/

/-- The fault of a text that is none of the values its tag promises. -/
def badValue (message : String) : Fault := .failed "ValueError" message

/-- The fault of an empty text where a number is promised. -/
def noCharacter : Fault := .failed "IndexError" "string index out of range"

/-- The fault of a mapping where a moment is promised, which has to be written as a text itself. -/
def notText : Fault := .failed "TypeError" "expected string or bytes-like object, got 'list'"

/-- The boolean of a word. -/
def boolOf (text : String) : Except Fault Bool :=
  let word := Text.lower text
  match boolWords.find? (·.1 == word) with
  | some (_, b) => .ok b
  | none => .error (.failed "KeyError" (Text.quoted word))

/-- The integer of digits in a base. -/
def integerIn (base : Nat) (s : List Char) : Except Fault Int :=
  let text := String.ofList s
  (if base = 10 then Number.readInteger text else Number.readIntegerIn base text).mapError
    fun fault => badValue fault.message

/-- The sum of digits in base sixty, the last of which counts once. -/
def sixtieths (digits : List Int) : Int :=
  digits.foldl (fun n d => 60 * n + d) 0

/-- The magnitude of an integer by its notation: the digits before it tell the base. -/
def magnitude (s : List Char) : Except Fault Int :=
  match s with
  | [] => .error noCharacter
  | ['0'] => .ok 0
  | '0' :: 'b' :: digits => integerIn 2 digits
  | '0' :: 'x' :: digits => integerIn 16 digits
  | '0' :: _ => integerIn 8 s
  | s =>
    if s.contains ':' then sixtieths <$> (Text.splitAt ':' s).mapM (integerIn 10)
    else integerIn 10 s

/-- A text without underscores. -/
def withoutPadding (text : String) : List Char :=
  text.toList.filter (· != '_')

/-- The integer of a text. -/
def integerOf (text : String) : Except Fault Int := do
  let s := withoutPadding text
  if s.isEmpty then throw noCharacter
  let n ← magnitude (unsigned s)
  return if s.head? == some '-' then -n else n

/-- The floating-point number of a text. -/
def floatIn (s : List Char) : Except Fault Number.Binary64 :=
  match Number.readFreeFloat? s with
  | some x => .ok x
  | none => .error (badValue ("could not convert string to float: " ++ Text.quoted (String.ofList s)))

/-- The sum of numbers in base sixty, the first of which counts once and the next `unit` times; every
step is rounded. -/
def sexagesimalSum (sum : Number.Binary64) (unit : Int) :
    List Number.Binary64 → Except Fault Number.Binary64
  | [] => .ok sum
  | x :: rest =>
    let factor := Number.Binary64.ofInt unit
    if factor.isFinite then sexagesimalSum (sum.add (x.mul factor)) (unit * 60) rest
    else .error (.failed "OverflowError" "int too large to convert to float")

/-- The floating-point number of a text. -/
def floatOf (text : String) : Except Fault Number.Binary64 := do
  let s := (Text.lower (String.ofList (withoutPadding text))).toList
  if s.isEmpty then throw noCharacter
  let body := unsigned s
  let x ←
    if body == ".inf".toList then pure (.infinity false)
    else if body == ".nan".toList then pure .nan
    else if body.contains ':' then do
      let digits ← (Text.splitAt ':' body).mapM floatIn
      sexagesimalSum (.zero false) 1 digits.reverse
    else floatIn body
  return if s.head? == some '-' then x.negated else x

/-- The number written in digits. -/
def numberOf (digits : List Char) : Nat := Number.natOfDigits digits

/-- The offset of a moment from universal time, which is less than a day. -/
def offsetOf (sign : Char) (hour minute : List Char) : Except Fault Int :=
  let seconds : Int := (numberOf hour * 60 + numberOf minute) * 60
  let seconds := if sign == '-' then -seconds else seconds
  if seconds.natAbs < 86400 then .ok seconds
  else .error (badValue ("offset must be a timedelta strictly between -timedelta(hours=24) and " ++
    "timedelta(hours=24), not " ++ displaySpan seconds ++ "."))

/-- The date of a year, a month and a day. -/
def dateOf (year month day : Nat) : Except Fault Date :=
  if year = 0 then .error (badValue "year 0 is out of range")
  else if month < 1 || 12 < month then .error (badValue "month must be in 1..12")
  else if !Calendar.isDate year month day then .error (badValue "day is out of range for month")
  else .ok ⟨year, month, day⟩

/-- The date or moment of a text. -/
def timestampOf (text : String) : Except Fault Atom := do
  let some w := written? text.toList
    | throw (.failed "AttributeError" "'NoneType' object has no attribute 'groupdict'")
  let date := dateOf (numberOf w.year) (numberOf w.month) (numberOf w.day)
  match w.time with
  | none => return .date (← date)
  | some (hour, minute, second, fraction) =>
    let offset ←
      match w.offset with
      | none => pure none
      | some ('Z', _, _) => pure (some 0)
      | some (sign, hours, minutes) => some <$> offsetOf sign hours minutes
    let date ← date
    let hour := numberOf hour
    let minute := numberOf minute
    let second := numberOf second
    if 23 < hour then throw (badValue "hour must be in 0..23")
    if 59 < minute then throw (badValue "minute must be in 0..59")
    if 59 < second then throw (badValue "second must be in 0..59")
    let microsecond := numberOf ((fraction ++ List.replicate 6 '0').take 6)
    return .moment ⟨date, hour, minute, second, microsecond, offset⟩

/-- The bytes of a text in base 64. -/
def bytesOf (text : String) : Except Fault Atom :=
  match if text.toList.all (·.toNat < 0x80) then Text.ofBase64? text.toList else none with
  | some bytes => .ok (.bytes bytes)
  | none => .error .malformed

/-- The value of a scalar by its kind. -/
def Tag.atom (tag : Tag) (text : String) : Except Fault Atom :=
  match tag with
  | .null => .ok .null
  | .bool => .bool <$> boolOf text
  | .int => .int <$> integerOf text
  | .float => .float <$> floatOf text
  | .binary => bytesOf text
  | .timestamp => timestampOf text
  | .text => .ok (.text text)
  | _ => .error .malformed

/-- The kind is one of collections, whose parts are read after it. -/
def Tag.isCollection (tag : Tag) : Bool :=
  tag = .sequence || tag = .mapping || tag = .set || tag = .pairs

/-! ### Borrowed pairs -/

namespace Node

/-- The kind of a node. -/
def tag : Node → Tag
  | .scalar t _ => t
  | .sequence _ t _ => t
  | .mapping _ t _ => t
  | .again _ => .unknown

/-- The number of a collection. -/
def number? : Node → Option Nat
  | .sequence n _ _ => some n
  | .mapping n _ _ => some n
  | .again n => some n
  | .scalar _ _ => none

/-- A key that stands for a text in a mapping. -/
def asKey : Node → Node
  | .scalar .default text => .scalar .text text
  | key => key

/-- The pairs of a mapping other than those of the merge key. -/
def ownPairs (pairs : List (Node × Node)) : List (Node × Node) :=
  (pairs.filter (·.1.tag ≠ .merge)).map fun (key, value) => (key.asKey, value)

mutual

/-- The text of a node where a scalar is expected. A mapping has that of its default entry. -/
def text? : Node → Option String
  | .scalar _ text => some text
  | .sequence .. => none
  | .mapping _ _ pairs => defaultText? pairs
  | .again _ => none

/-- The text of the default entry among pairs. -/
def defaultText? : List (Node × Node) → Option String
  | [] => none
  | (key, value) :: rest => if key.tag = .default then text? value else defaultText? rest

end

end Node

/-- Where a node is read: the named nodes of its document, and the collections that hold it with
those of their numbers that values are made of, from the inside out. -/
structure Surroundings where
  named : Table Nat Node
  holders : List (Option Node) := []

namespace Surroundings

/-- The level of the collection of a number among those that hold a node, and its node. -/
def holder? (s : Surroundings) (number : Nat) : Option (Nat × Node) := do
  let level ← s.holders.findIdx? fun h => (h.bind Node.number?) == some number
  return (level, ← (s.holders[level]?).join)

/-- The surroundings within a node. -/
def within (s : Surroundings) (node : Option Node) : Surroundings :=
  { s with holders := node :: s.holders }

/-- The node that a reference stands for. -/
def resolve? (s : Surroundings) : Node → Option Node
  | .again number => ((s.holder? number).map (·.2)).or (s.named.get? number)
  | node => some node

mutual

/-- The pairs of a mapping after those that it borrows. Where an entry of the merge key lends none,
the merge key stays, at the beginning. A mapping that borrows from itself gains nothing. -/
def withLent (s : Surroundings) (lending : List Nat) (pairs : List (Node × Node)) :
    (fuel : Nat) → List (Node × Node)
  | 0 => Node.ownPairs pairs
  | fuel + 1 =>
    let borrowing := pairs.filter (·.1.tag = .merge)
    match borrowing.mapM fun (_, lender) => s.lentPairs? lending lender fuel with
    | some lent => lent.flatten ++ Node.ownPairs pairs
    | none => borrowing ++ Node.ownPairs pairs

/-- The pairs that an entry of the merge key lends: those of a mapping, or of a list of mappings,
of which the first has to win and comes last. -/
def lentPairs? (s : Surroundings) (lending : List Nat) (lender : Node) :
    (fuel : Nat) → Option (List (Node × Node))
  | 0 => none
  | fuel + 1 =>
    let ofMapping (node : Node) : Option (List (Node × Node)) :=
      match s.resolve? node with
      | some (.mapping number _ pairs) =>
        if lending.contains number then some (Node.ownPairs pairs)
        else some (s.withLent (number :: lending) pairs fuel)
      | _ => none
    match s.resolve? lender with
    | some (.sequence _ _ items) => do return (← items.mapM ofMapping).reverse.flatten
    | some node => ofMapping node
    | none => none

end

end Surroundings

/-! ### Values -/

/-- A result, or the fault that is met first with its depth. -/
abbrev Read (α : Type) := Except (Nat × Fault) α

/-- Two results, or of their faults the one nearer to the root. -/
def both {α β : Type} (x : Read α) (y : Read β) : Read (α × β) :=
  match x, y with
  | .ok a, .ok b => .ok (a, b)
  | .error e, .ok _ => .error e
  | .ok _, .error e => .error e
  | .error (m, e), .error (n, f) => .error (if n < m then (n, f) else (m, e))

/-- The results of all, or of their faults the one nearest to the root. -/
def each {α β : Type} (f : α → Read β) : List α → Read (List β)
  | [] => .ok []
  | x :: rest => (both (f x) (each f rest)).map fun (a, as) => a :: as

/-- The value of a node where a scalar is expected. -/
def scalarValue (depth : Nat) (tag : Tag) (text? : Option String) : Read Value :=
  if tag.isCollection then .error (depth + 1, .malformed)
  else match text? with
    | some text =>
      match tag.atom text with
      | .ok a => .ok (.atom a)
      | .error fault => .error (depth, fault)
    | none => .error (depth, .malformed)

/-- The atom in a value; only an atom can be a key. -/
def keyOf (depth : Nat) : Value → Read Atom
  | .atom a => .ok a
  | _ => .error (depth, .malformed)

/-- The value that stands for a collection inside itself. -/
def cycleOf (depth level : Nat) (holder : Node) : Read Value :=
  match holder.tag with
  | .mapping | .set => .ok (.cycle level true)
  | .sequence | .pairs => .ok (.cycle level false)
  | _ => .error (depth, .malformed)

/-- The value of a node at a depth, which has its parts at the depth below. -/
def valueOf (s : Surroundings) (depth : Nat) : (fuel : Nat) → Node → Read Value
  | 0, _ => .error (depth, .malformed)
  | fuel + 1, node =>
    let inside := s.within (some node)
    let part (inner : Surroundings) := valueOf inner (depth + 1) fuel
    let keyPart (key : Node) : Read Atom :=
      if (inside.resolve? key).any (·.tag.isCollection) then .error (depth + 1, .malformed)
      else part inside key >>= keyOf (depth + 1)
    let entries (pairs : List (Node × Node)) : Read (List (Atom × Value)) :=
      let lending := node.number?.toList
      each (fun (key, entry) => both (keyPart key) (part inside entry))
        (inside.withLent lending pairs (fuel + 1))
    match node with
    | .scalar tag text => scalarValue depth tag (some text)
    | .sequence _ .sequence items => .list <$> each (part inside) items
    | .sequence _ .pairs items =>
      .list <$> each (fun item =>
        match inside.resolve? item with
        | some (.mapping _ _ [(key, entry)]) =>
          let inner := inside.within none
          (fun (k, v) => .tuple [k, v]) <$> both (part inner key) (part inner entry)
        | _ => .error (depth + 1, .malformed)) items
    | .sequence _ tag _ => scalarValue depth tag none
    | .mapping _ .mapping pairs => (fun table => .mapping (Table.ofPairs table)) <$> entries pairs
    | .mapping _ .set pairs => (fun table => .set (Table.ofPairs table).keys) <$> entries pairs
    | .mapping _ tag pairs =>
      match tag, Node.defaultText? pairs with
      | .timestamp, some _ => .error (depth, notText)
      | tag, text? => scalarValue depth tag text?
    | .again number =>
      match s.holder? number with
      | some (level, holder) => cycleOf depth level holder
      | none =>
        match s.named.get? number with
        | some node => valueOf s depth fuel node
        | none => .error (depth, .malformed)

/-- The value that a document stands for. No node holds a part that is not one of the nodes again,
so their number bounds the depth. -/
def Tree.toValue (t : Tree) : Except Fault Value :=
  (valueOf ⟨t.named, []⟩ 0 (2 * t.size + 2) t.root).mapError (·.2)

/-! ### The value of a text -/

/-- The value of a text; an empty text has none. -/
def read (text : List Char) : Except Fault (Option Value) := do
  match ← Tree.ofTokens? (← scan text) with
  | some tree => return some (← tree.toValue)
  | none => return none

end Verdict.Yaml
