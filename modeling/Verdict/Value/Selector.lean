import Verdict.Number.Reading
import Verdict.Value

/-!
# Values: selectors

A selector addresses a part of a value: `$.items[0].name`, or the same without the leading `$`.
Its tokens are the texts between points and brackets. A token looks up a key of a mapping, a field
of a record, or a position of a list or tuple; looking into anything else gives the absent value.
-/

namespace Verdict.Value

/-- The characters between the tokens of a selector. -/
def isSeparator (c : Char) : Bool :=
  c == '.' || c == '[' || c == ']'

/-- A selector without its root mark. -/
def dropRoot : List Char → List Char
  | '$' :: '.' :: rest => rest
  | '$' :: rest => rest
  | chars => chars

/-- The texts between separators, in order and without the empty ones. -/
def splitTokens (chars : List Char) : List (List Char) :=
  (chars.splitOnP isSeparator).filter (!·.isEmpty)

/-- The tokens of a selector. -/
def tokens (selector : String) : List String :=
  (splitTokens (dropRoot selector.toList)).map String.ofList

end Verdict.Value

namespace Verdict

/-- The names under which the fields of a record are known beside their own. -/
def RecordKind.alias? : RecordKind → String → Option String
  | .leafResult, "factName" => some "fact_name"
  | .leafResult, "factValue" => some "fact_value"
  | .leafResult, "compareValue" => some "compare_value"
  | .leafResult, "jsonPath" => some "json_path"
  | _, _ => none

namespace Value

/-- A field of a record by its name or its other name. -/
def recordField? (kind : RecordKind) (fields : List (Atom × Value)) (token : String) :
    Option Value :=
  match Table.get? fields (.text token) with
  | some v => some v
  | none => (kind.alias? token).bind fun name => Table.get? fields (.text name)

/-- A token of digits only, which addresses a position. -/
def isPosition (token : String) : Bool :=
  !token.isEmpty && token.toList.all Text.isDigit

/-- The item at the position that a token names. -/
def itemAt (items : List Value) (token : String) : Except Number.IntegerFault Value :=
  if isPosition token then do
    let position ← Number.readInteger token
    return (items[position.toNat]?).getD null
  else return null

/-- One token of a selector applied to a value. -/
def step (v : Value) (token : String) : Except Number.IntegerFault Value :=
  match v with
  | .mapping pairs => return (Table.get? pairs (.text token)).getD null
  | .list items => itemAt items token
  | .tuple items => itemAt items token
  | .record kind fields => return (recordField? kind fields token).getD null
  | .atom _ | .set _ | .cycle _ _ => return null

/-- The tokens of a selector applied one after another. -/
def walk (v : Value) : List String → Except Number.IntegerFault Value
  | [] => return v
  | token :: rest => do walk (← step v token) rest

/-- The part of a value that a selector addresses. A selector without tokens addresses the whole. -/
def select (v : Value) (selector : String) : Except Number.IntegerFault Value :=
  walk v (tokens selector)

/-- The part addressed by an optional selector. -/
def select? (v : Value) : Option String → Except Number.IntegerFault Value
  | some selector => select v selector
  | none => return v

end Value

end Verdict
