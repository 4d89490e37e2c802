import Verdict.Schema.Scalar
import Verdict.Value.Display

/-!
# Schemas: containers

The readings of lists, mappings and records. The issues of a record come in the order of its
fields, those of keys that it does not know after them in the order of the keys.
-/

namespace Verdict.Schema

/-- The pairs of a mapping under reading. -/
abbrev Pairs := List (Atom × Value)

/-- Items one after another, each under its index. -/
def readItems {α : Type} (read : Value → Checked α) : (index : Nat) → List Value → Checked (List α)
  | _, [] => .ok []
  | index, v :: rest =>
    .cons <$> (read v).under (toString index) <*> readItems read (index + 1) rest

/-- A list of items, also from a tuple or a set. -/
def readList {α : Type} (read : Value → Checked α) : Value → Checked (List α)
  | .list items => readItems read 0 items
  | .tuple items => readItems read 0 items
  | .set members => readItems read 0 (members.map .atom)
  | _ => .fail .notList

/-- A key of a mapping with text keys. -/
def readKey (k : Atom) : Checked String :=
  ((readText (.atom k)).under "[key]").under k.locator

/-- Pairs one after another, each under its key. -/
def readPairs {α : Type} (read : Value → Checked α) : Pairs → Checked (List (String × α))
  | [] => .ok []
  | (k, v) :: rest =>
    (fun key a pairs => (key, a) :: pairs) <$> readKey k <*>
      (read v).under k.locator <*> readPairs read rest

/-- A mapping with text keys. Of two keys that are one text the entry of the last counts. -/
def readMapping {α : Type} (read : Value → Checked α) : Value → Checked (Table String α)
  | .mapping pairs => (readPairs read pairs).map Table.ofPairs
  | _ => .fail .notMapping

/-- A mapping from texts to any values. -/
def readObject (v : Value) : Checked (Table String Value) :=
  readMapping readAny v

/-- A field that has to be present. -/
def required {α : Type} (pairs : Pairs) (name : String) (read : Value → Checked α) : Checked α :=
  (match Table.get? pairs (.text name) with
    | some v => read v
    | none => .fail .missing).under name

/-- A field with a value for its absence. -/
def optional {α : Type} (pairs : Pairs) (name : String) (absent : α) (read : Value → Checked α) :
    Checked α :=
  match Table.get? pairs (.text name) with
  | some v => (read v).under name
  | none => .ok absent

/-- The one of two names of a field that the pairs have, the first one if they have none. -/
def presentName (pairs : Pairs) (name other : String) : String :=
  if Table.has pairs (.text name) then name
  else if Table.has pairs (.text other) then other
  else name

/-- A field that has to be present under one of two names. -/
def requiredAs {α : Type} (pairs : Pairs) (name other : String) (read : Value → Checked α) :
    Checked α :=
  required pairs (presentName pairs name other) read

/-- A field under one of two names, with a value for its absence. -/
def optionalAs {α : Type} (pairs : Pairs) (name other : String) (absent : α)
    (read : Value → Checked α) : Checked α :=
  optional pairs (presentName pairs name other) absent read

/-- An issue for every key that is not among the given names. -/
def noOthers (names : List String) (pairs : Pairs) : Checked Unit :=
  match pairs.filterMap fun (k, _) => match k with
    | .text s => if names.contains s then none else some (Issue.mk [s] .unexpected)
    | k => some (Issue.mk [k.locator] .keyNotText) with
  | [] => .ok ()
  | issues => .faulty issues

/-- The pairs of a mapping that is read as the record of the given name. -/
def readRecord {α : Type} (name : String) (read : Pairs → Checked α) : Value → Checked α
  | .mapping pairs => read pairs
  | _ => .fail (.notRecord name)

end Verdict.Schema
