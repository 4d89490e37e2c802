import Verdict.Calendar
import Verdict.Schema.Scalar

/-!
# Schemas: moments

Dates and moments in their international notation. A date alone stands for its first moment, and a
number, also one that is written in a text, for the seconds, or if it is large the milliseconds,
since the beginning of 1970.
-/

namespace Verdict.Schema

/-- Why a text is no date. -/
inductive DateFault where
  | short
  | year
  | separator
  | month
  | day
  | monthRange
  | dayRange
  | long

/-- The wording of a fault in a date. -/
def DateFault.message : DateFault → String
  | .short => "input is too short"
  | .year => "invalid character in year"
  | .separator => "invalid date separator, expected \x60-\x60"
  | .month => "invalid character in month"
  | .day => "invalid character in day"
  | .monthRange => "month value is outside expected range of 1-12"
  | .dayRange => "day value is outside expected range"
  | .long => "unexpected extra characters at the end of the input"

/-- A number of exactly so many digits. -/
def fixedDigits {ε : Type} (short wrong : ε) : Nat → List Char → Nat → Except ε (Nat × List Char)
  | 0, rest, n => .ok (n, rest)
  | _ + 1, [], _ => .error short
  | count + 1, c :: rest, n =>
    if c.isDigit then fixedDigits short wrong count rest (n * 10 + (c.toNat - '0'.toNat))
    else .error wrong

/-- One expected character. -/
def expectChar {ε : Type} (short wrong : ε) (c : Char) : List Char → Except ε (List Char)
  | [] => .error short
  | d :: rest => if c == d then .ok rest else .error wrong

/-- The number of bytes of a date. -/
def dateSize : Nat := 10

/-- A date at the beginning of a text. -/
def scanDate (s : List Char) : Except DateFault (Date × List Char) := do
  if (String.ofList s).utf8ByteSize < dateSize then throw .short
  let (year, s) ← fixedDigits .short .year 4 s 0
  let s ← expectChar .short .separator '-' s
  let (month, s) ← fixedDigits .short .month 2 s 0
  let s ← expectChar .short .separator '-' s
  let (day, s) ← fixedDigits .short .day 2 s 0
  if month < 1 || 12 < month then .error .monthRange
  else if day < 1 || Calendar.daysInMonth year month < day then .error .dayRange
  else .ok (⟨year, month, day⟩, s)

/-- The fraction of a second in microseconds, if one is written. -/
def scanFraction : List Char → Option (Nat × List Char)
  | [] => some (0, [])
  | mark :: s =>
    if mark == '.' || mark == ',' then
      let digits := s.takeWhile Char.isDigit
      if digits.isEmpty then none
      else some (Number.natOfDigits ((digits ++ List.replicate 6 '0').take 6),
        s.dropWhile Char.isDigit)
    else some (0, mark :: s)

/-- Seconds with their fraction, if they are written. -/
def scanSeconds : List Char → Option (Nat × Nat × List Char)
  | ':' :: s => do
    let (second, s) ← (fixedDigits () () 2 s 0).toOption
    let (microsecond, s) ← scanFraction s
    return (second, microsecond, s)
  | s => some (0, 0, s)

/-- The offset from universal time at the end of a text, if one is written. -/
def offset? : List Char → Option (Option Int)
  | [] => some none
  | ['Z'] => some (some 0)
  | ['z'] => some (some 0)
  | sign :: s => do
    let minus := sign == '-' || sign.toNat == 0x2212
    if sign != '+' && !minus then none
    let (hour, s) ← (fixedDigits () () 2 s 0).toOption
    let s := match s with
      | ':' :: s => s
      | s => s
    let (minute, s) ← (fixedDigits () () 2 s 0).toOption
    if !s.isEmpty || 24 ≤ hour || 60 ≤ minute then none
    let seconds : Int := hour * 3600 + minute * 60
    return some (if minus then -seconds else seconds)

/-- A date with a time of day. -/
def momentOfText? (s : List Char) : Option Moment := do
  let (date, s) ← (scanDate s).toOption
  match s with
  | [] => none
  | separator :: s =>
    if !(['T', 't', ' ', '_'].contains separator) then none
    let (hour, s) ← (fixedDigits () () 2 s 0).toOption
    let s ← (expectChar () () ':' s).toOption
    let (minute, s) ← (fixedDigits () () 2 s 0).toOption
    let (second, microsecond, s) ← scanSeconds s
    if 24 ≤ hour || 60 ≤ minute || 60 ≤ second then none
    return ⟨date, hour, minute, second, microsecond, ← offset? s⟩

/-- The first moment of a date. -/
def momentOfDate (d : Date) : Moment := ⟨d, 0, 0, 0, 0, none⟩

/-! ### Counts of seconds -/

/-- Why a count stands for no moment. -/
inductive CountFault where
  | early
  | late
  | yearZero
  | notNumber

/-- The wording of a fault in a count. -/
def CountFault.message : CountFault → String
  | .early => "dates before 0000 are not supported as unix timestamps"
  | .late => "dates after 9999 are not supported as unix timestamps"
  | .yearZero => "year 0 is out of range"
  | .notNumber => "NaN values not permitted"

/-- Counts above this are in milliseconds. -/
def secondsLimit : Nat := 20000000000

/-- The beginning of the year zero and the end of the year 9999, in seconds. -/
def countBounds : Int × Int := (-62167219200, 253402300799)

/-- The seconds and microseconds in a count of seconds or milliseconds. -/
def splitCount (n : Int) : Int × Nat :=
  if n.natAbs ≤ secondsLimit then (n, 0) else (n.fdiv 1000, (n.fmod 1000).toNat * 1000)

/-- The moment of a count of seconds or milliseconds, and of microseconds besides. -/
def momentOfCount (n : Int) (microseconds : Nat) : Except CountFault Moment :=
  let (seconds, more) := splitCount n
  let all := microseconds + more
  let seconds := seconds + (all / 1000000 : Nat)
  if seconds < countBounds.1 then .error .early
  else if countBounds.2 < seconds then .error .late
  else .ok (Calendar.momentOfSeconds seconds (all % 1000000))

/-- The greatest integer of 64 bits. -/
def greatestWord : Int := wordBound - 1

/-- The greatest integer that is not above a number, kept within 64 bits, and the microseconds that
are left, rounded. -/
def splitNumber (r : Rat) : Int × Nat :=
  let whole := r.floor
  let kept := max (-wordBound) (min greatestWord whole)
  (kept, ((r - whole) * 1000000 + 1 / 2).floor.toNat)

/-- The moment of a number of seconds or milliseconds. -/
def momentOfNumber (x : Number.Binary64) : Except CountFault Moment :=
  match x with
  | .nan => .error .notNumber
  | .infinity negative => .error (if negative then .early else .late)
  | x =>
    let (whole, microseconds) := splitNumber (x.value?.getD 0)
    momentOfCount whole microseconds

/-- The integer of 64 bits that a text of digits with a sign stands for. -/
def wordOfText? (s : List Char) : Option Int :=
  let (negative, digits) := Number.scanSign s
  if digits.isEmpty || !digits.all Char.isDigit then none
  else
    let n := Number.natOfDigits digits
    if wordBound ≤ n then none else some (if negative then -n else n)

/-- The moment of a count that is written in digits. -/
def momentOfDigits? (s : List Char) : Option (Except CountFault Moment) :=
  match wordOfText? s with
  | some n => some (momentOfCount n 0)
  | none =>
    match unbrokenNumber? s with
    | none => none
    | some .nan => some (momentOfCount 0 0)
    | some x =>
      let r := x.value?.getD 0
      some (if (secondsLimit : Rat) < r || r < -(secondsLimit : Rat) then
          match x with
          | .infinity _ => .error .late
          | _ =>
            let (whole, microseconds) := splitNumber (r / 1000)
            momentOfCount whole microseconds
        else momentOfNumber x)

/-- The first moment of a date that is written in digits or as a count of days. -/
def momentOfDateText (s : List Char) : Checked Moment :=
  let ofFault (fault : DateFault) : Checked Moment :=
    match wordOfText? s with
    | none => .fail (.badMoment fault.message)
    | some n =>
      match momentOfCount n 0 with
      | .error fault => .fail (.badMoment fault.message)
      | .ok m => .ok m
  match scanDate s with
  | .ok (d, []) => .ok (momentOfDate d)
  | .ok _ => ofFault .long
  | .error fault => ofFault fault

/-- The moment that a text stands for. -/
def momentOfText (s : List Char) : Checked Moment :=
  match momentOfText? s with
  | some m => .ok m
  | none =>
    match momentOfDigits? s with
    | some (.ok m) => .ok m
    | _ => momentOfDateText s

/-- A moment whose year exists. -/
def inCalendar (m : Moment) : Option Defect :=
  if m.date.year = 0 then some (.impossibleMoment CountFault.yearZero.message) else none

/-- A count as a moment. -/
def ofCount : Except CountFault Moment → Checked Moment
  | .ok m => .ok m
  | .error fault => .fail (.impossibleMoment fault.message)

/-- A moment. -/
def readMoment (v : Value) : Checked Moment :=
  let found : Checked Moment :=
    match v with
    | .atom (.moment m) => .ok m
    | .atom (.date d) => .ok (momentOfDate d)
    | .int n =>
      if -wordBound ≤ n && n < wordBound then ofCount (momentOfCount n 0)
      else
        let x := Number.Binary64.ofInt n
        if x.isFinite then ofCount (momentOfNumber x) else .fail .notMoment
    | .float x => ofCount (momentOfNumber x)
    | .text s => momentOfText s.toList
    | .atom (.bytes bs) => (textOfBytes .notUnicode bs).andThen fun s => momentOfText s.toList
    | _ => .fail .notMoment
  found.check inCalendar

end Verdict.Schema
