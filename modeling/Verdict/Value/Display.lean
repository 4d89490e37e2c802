import Verdict.Number.Format
import Verdict.Text.Quoted
import Verdict.Value

/-!
# Values: display

The text of a value as it is shown to people, the shortened text for a line of a log, and the names
of the kinds of values, as messages about a value of the wrong kind give them.
-/

namespace Verdict

/-- The name of a kind of record. -/
def RecordKind.label : RecordKind → String
  | .leafResult => "ConditionResult"
  | .project => "ProjectData"

/-- A date in display form. -/
def Date.display (d : Date) : String :=
  "datetime.date(" ++ toString d.year ++ ", " ++ toString d.month ++ ", " ++ toString d.day ++ ")"

/-- The parts of a moment that its display names: seconds are left out where they and the
microseconds are zero. -/
def Moment.displayParts (m : Moment) : List Nat :=
  [m.date.year, m.date.month, m.date.day, m.hour, m.minute] ++
    (if m.microsecond != 0 then [m.second, m.microsecond]
      else if m.second != 0 then [m.second] else [])

/-- A span of time in display form, in days and the seconds of a day. -/
def displaySpan (seconds : Int) : String :=
  let days := seconds.fdiv 86400
  let rest := seconds.fmod 86400
  let parts := (if days = 0 then [] else ["days=" ++ toString days]) ++
    (if rest = 0 then [] else ["seconds=" ++ toString rest])
  "datetime.timedelta(" ++ ", ".intercalate parts ++ ")"

/-- An offset from universal time in display form. -/
def displayOffset (seconds : Int) : String :=
  if seconds = 0 then "datetime.timezone.utc"
  else "datetime.timezone(" ++ displaySpan seconds ++ ")"

/-- A moment in display form. -/
def Moment.display (m : Moment) : String :=
  let offset := match m.offset with
    | some seconds => [ "tzinfo=" ++ displayOffset seconds ]
    | none => []
  "datetime.datetime(" ++ ", ".intercalate (m.displayParts.map toString ++ offset) ++ ")"

/-- Bytes in display form: printable ASCII as it is, the rest by codes. -/
def displayBytes (bs : List UInt8) : String :=
  let chars := bs.map fun b => Char.ofNat b.toNat
  let mark := Text.quoteMark chars
  let shown (c : Char) : List Char :=
    if c.toNat < 0x80 then Text.quoteChar mark c else '\\' :: 'x' :: Text.hexPadded 2 c.toNat
  String.ofList ('b' :: mark :: chars.flatMap shown ++ [mark])

/-- An atom in display form. -/
def Atom.display : Atom → String
  | .null => "None"
  | .bool true => "True"
  | .bool false => "False"
  | .int n => toString n
  | .float x => x.text
  | .text s => Text.quoted s
  | .date d => d.display
  | .moment m => m.display
  | .bytes bs => displayBytes bs

/-- A number padded with zeros to a width. -/
def padded (width n : Nat) : String :=
  let digits := Nat.toDigits 10 n
  String.ofList (List.replicate (width - digits.length) '0' ++ digits)

/-- A date with hyphens between its parts. -/
def Date.hyphened (d : Date) : String :=
  padded 4 d.year ++ "-" ++ padded 2 d.month ++ "-" ++ padded 2 d.day

/-- A time of day, with microseconds unless they are zero. -/
def Moment.clock (m : Moment) : String :=
  padded 2 m.hour ++ ":" ++ padded 2 m.minute ++ ":" ++ padded 2 m.second ++
    (if m.microsecond = 0 then "" else "." ++ padded 6 m.microsecond)

/-- An offset in hours and minutes, and seconds if there are any. -/
def clockOffset (seconds : Int) : String :=
  let n := seconds.natAbs
  (if seconds < 0 then "-" else "+") ++ padded 2 (n / 3600) ++ ":" ++ padded 2 (n / 60 % 60) ++
    (if n % 60 = 0 then "" else ":" ++ padded 2 (n % 60))

/-- The plain text of an atom: a text is itself, a date and a moment are written with digits and
signs, anything else is in display form. -/
def Atom.plain : Atom → String
  | .text s => s
  | .date d => d.hyphened
  | .moment m =>
    m.date.hyphened ++ " " ++ m.clock ++ ((m.offset.map clockOffset).getD "")
  | a => a.display

/-- An atom in the location of a part: a boolean counts as a number. -/
def Atom.locator : Atom → String
  | .text s => s
  | .bool b => if b then "1" else "0"
  | a => a.display

/-- The name of a field of a record, which is always a text. -/
def Atom.fieldName : Atom → String
  | .text s => s
  | a => a.display

namespace Value

mutual

/-- A value in display form. -/
def display : Value → String
  | .atom a => a.display
  | .list items => "[" ++ ", ".intercalate (displayItems items) ++ "]"
  | .tuple items =>
    match items with
    | [item] => "(" ++ display item ++ ",)"
    | items => "(" ++ ", ".intercalate (displayItems items) ++ ")"
  | .set [] => "set()"
  | .set members => "\x7b" ++ ", ".intercalate (members.map Atom.display) ++ "\x7d"
  | .mapping pairs => "\x7b" ++ ", ".intercalate (displayPairs pairs) ++ "\x7d"
  | .record kind fields => kind.label ++ "(" ++ ", ".intercalate (displayFields fields) ++ ")"
  | .cycle _ isMapping => if isMapping then "\x7b...\x7d" else "[...]"

/-- The display forms of items. -/
def displayItems : List Value → List String
  | [] => []
  | item :: rest => display item :: displayItems rest

/-- The display forms of the pairs of a mapping. -/
def displayPairs : List (Atom × Value) → List String
  | [] => []
  | (k, v) :: rest => (k.display ++ ": " ++ display v) :: displayPairs rest

/-- The display forms of the fields of a record. -/
def displayFields : List (Atom × Value) → List String
  | [] => []
  | (k, v) :: rest => (k.fieldName ++ "=" ++ display v) :: displayFields rest

end

/-- The plain text of a value: that of an atom, and the display form of anything else. -/
def plain : Value → String
  | .atom a => a.plain
  | v => v.display

/-- The most characters of a value that a preview shows. -/
def maxPreview : Nat := 200

/-- The display form, cut to `maxPreview` characters and marked where it was cut. -/
def preview (v : Value) : String :=
  let shown := v.display
  if maxPreview < shown.length then String.ofList (shown.toList.take maxPreview) ++ "..." else shown

end Value

/-! ### Kinds -/

/-- The name of the kind of an atom. -/
def Atom.kindName : Atom → String
  | .null => "NoneType"
  | .bool _ => "bool"
  | .int _ => "int"
  | .float _ => "float"
  | .text _ => "str"
  | .date _ => "datetime.date"
  | .moment _ => "datetime.datetime"
  | .bytes _ => "bytes"

/-- The name of the kind of a value. -/
def Value.kindName : Value → String
  | .atom a => a.kindName
  | .list _ => "list"
  | .tuple _ => "tuple"
  | .set _ => "set"
  | .mapping _ => "dict"
  | .record kind _ => kind.label
  | .cycle _ isMapping => if isMapping then "dict" else "list"

end Verdict
