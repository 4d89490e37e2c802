import Verdict.Text.Utf8
import Verdict.Value.Display

/-!
# Values: wire form

The form in which a value is sent: tuples and sets are lists, records are mappings, dates and bytes
are texts, and so are all keys. Bytes that are no text, values that are nested too deeply and values
that hold themselves have no wire form; the first of them in reading order is the fault.
-/

namespace Verdict

/-- A date in wire form. -/
def Date.wire (d : Date) : String := d.hyphened

/-- An offset from universal time in wire form. -/
def wireOffset (seconds : Int) : String :=
  if seconds = 0 then "Z"
  else
    let minutes := seconds.natAbs / 60
    (if seconds < 0 then "-" else "+") ++ padded 2 (minutes / 60) ++ ":" ++ padded 2 (minutes % 60)

/-- A moment in wire form. -/
def Moment.wire (m : Moment) : String :=
  m.date.wire ++ "T" ++ m.clock ++ ((m.offset.map wireOffset).getD "")

/-- The name of a field of a record in wire form. -/
def RecordKind.wireName (kind : RecordKind) (name : String) : String :=
  match kind, name with
  | .leafResult, "fact_name" => "factName"
  | .leafResult, "fact_value" => "factValue"
  | .leafResult, "compare_value" => "compareValue"
  | .leafResult, "json_path" => "jsonPath"
  | _, name => name

/-- Why a value has no wire form. -/
inductive WireFault where
  | notText (fault : Text.ByteFault) (isKey : Bool)
  | tooDeep
  | cyclic
deriving DecidableEq, Repr

namespace WireFault

/-- The wording of a fault. -/
def message : WireFault → String
  | .notText fault _ =>
    "'utf-8' codec can't decode byte 0x" ++ String.ofList (Text.hexPadded 2 fault.first.toNat) ++
      " in position " ++ toString fault.position ++ ": invalid utf-8"
  | .tooDeep => "Maximum serialization depth exceeded"
  | .cyclic => "Circular reference detected (id repeated)"

/-- The kind of error that a fault is. -/
def label : WireFault → String
  | .notText .. => "UnicodeDecodeError"
  | .tooDeep | .cyclic => "ValueError"

/-- The wording of a fault that is met while a document is being written. Bytes in the place of a
value are described in words of their own. -/
def writingMessage (fault : WireFault) : String :=
  "Error serializing to JSON: " ++ match fault with
    | .notText f false =>
      let place := " from index " ++ toString f.position
      if f.reason = .ended then "incomplete utf-8 byte sequence" ++ place
      else "invalid utf-8 sequence of " ++ toString f.count ++ " bytes" ++ place
    | fault => fault.label ++ ": " ++ fault.message

end WireFault

/-- The text of bytes. -/
def wireText (isKey : Bool) (bytes : List UInt8) : Except WireFault String :=
  match Text.decode bytes with
  | .ok chars => .ok (String.ofList chars)
  | .error fault => .error (.notText fault isKey)

/-- An atom in wire form. -/
def Atom.wire : Atom → Except WireFault Atom
  | .date d => .ok (.text d.wire)
  | .moment m => .ok (.text m.wire)
  | .bytes bs => .text <$> wireText false bs
  | a => .ok a

/-- A key in wire form. -/
def Atom.wireKey : Atom → Except WireFault String
  | .text s => .ok s
  | .bool b => .ok (if b then "true" else "false")
  | .float x => .ok (if x.isFinite then x.text else "None")
  | .date d => .ok d.wire
  | .moment m => .ok m.wire
  | .bytes bs => wireText true bs
  | a => .ok a.display

namespace Value

/-- The depth at which no value may stand. -/
def wireDepthLimit : Nat := 255

/-- How keys that become one text are treated: joined, the last entry in the place of the first, or
kept apart. -/
inductive KeyJoining where
  | joined
  | apart
deriving DecidableEq, Repr

/-- The pairs under their keys. -/
def KeyJoining.apply (joining : KeyJoining) (pairs : List (Atom × Value)) : List (Atom × Value) :=
  match joining with
  | .joined => Table.ofPairs pairs
  | .apart => pairs

mutual

/-- A value at a depth in wire form. -/
def wireAt (joining : KeyJoining) (depth : Nat) (v : Value) : Except WireFault Value :=
  match v with
  | .cycle _ _ => .error .cyclic
  | v =>
    if wireDepthLimit ≤ depth then .error .tooDeep
    else match v with
      | .atom a => .atom <$> a.wire
      | .list items => .list <$> wireItems joining (depth + 1) items
      | .tuple items => .list <$> wireItems joining (depth + 1) items
      | .set members => do
        if wireDepthLimit ≤ depth + 1 && !members.isEmpty then throw .tooDeep
        return .list (← members.mapM fun a => .atom <$> a.wire)
      | .mapping pairs => do
        return .mapping (joining.apply (← wirePairs joining id (depth + 1) pairs))
      | .record kind fields => .mapping <$> wirePairs joining kind.wireName (depth + 1) fields
      | .cycle _ _ => .error .cyclic

/-- Items in wire form. -/
def wireItems (joining : KeyJoining) (depth : Nat) : List Value → Except WireFault (List Value)
  | [] => .ok []
  | item :: rest => do
    return (← wireAt joining depth item) :: (← wireItems joining depth rest)

/-- Pairs in wire form, their keys under other names. -/
def wirePairs (joining : KeyJoining) (rename : String → String) (depth : Nat) :
    List (Atom × Value) → Except WireFault (List (Atom × Value))
  | [] => .ok []
  | (k, v) :: rest => do
    let key ← k.wireKey
    let entry ← wireAt joining depth v
    return (.text (rename key), entry) :: (← wirePairs joining rename depth rest)

end

/-- A value in wire form. -/
def wire (joining : KeyJoining) (v : Value) : Except WireFault Value :=
  wireAt joining 1 v

end Value

/-- A table in wire form, as a mapping. -/
def Table.wire (joining : Value.KeyJoining) (t : Table String Value) : Except WireFault Value := do
  return .ofPairs (← t.mapM fun (key, v) => do return (key, ← v.wire joining))

end Verdict
