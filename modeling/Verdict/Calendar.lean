/-!
# Calendar

Dates and moments, the days of the Gregorian calendar and their count from the beginning of the
year 1970, and the moment that a count of seconds stands for.
-/

namespace Verdict

/-- A calendar date. -/
structure Date where
  year : Nat
  month : Nat
  day : Nat
deriving DecidableEq, Repr

/-- A date with a time of day, and the offset from universal time in seconds where one is known. -/
structure Moment where
  date : Date
  hour : Nat
  minute : Nat
  second : Nat
  microsecond : Nat
  offset : Option Int
deriving DecidableEq, Repr

namespace Calendar

/-- Years divisible by four are leap years, but of the full centuries only those divisible by four
hundred. -/
def isLeap (year : Nat) : Bool :=
  (year % 4 == 0 && year % 100 != 0) || year % 400 == 0

/-- The number of days of a month. -/
def daysInMonth (year month : Nat) : Nat :=
  match month with
  | 2 => if isLeap year then 29 else 28
  | 4 | 6 | 9 | 11 => 30
  | _ => 31

/-- The year, month and day exist. -/
def isDate (year month day : Nat) : Bool :=
  1 ≤ year && year ≤ 9999 && 1 ≤ month && month ≤ 12 && 1 ≤ day && day ≤ daysInMonth year month

/-- The day that lies so many days after the first of January 1970. The count is taken from the
first of March of the year zero, in eras of four hundred years. -/
def dateOfDays (days : Int) : Date :=
  let shifted := days + 719468
  let era := shifted.fdiv 146097
  let dayOfEra := (shifted.fmod 146097).toNat
  let yearOfEra := (dayOfEra - dayOfEra / 1460 + dayOfEra / 36524 - dayOfEra / 146096) / 365
  let dayOfYear := dayOfEra - (365 * yearOfEra + yearOfEra / 4 - yearOfEra / 100)
  let shiftedMonth := (5 * dayOfYear + 2) / 153
  let day := dayOfYear - (153 * shiftedMonth + 2) / 5 + 1
  let month := if shiftedMonth < 10 then shiftedMonth + 3 else shiftedMonth - 9
  let year := (era * 400).toNat + yearOfEra + (if month ≤ 2 then 1 else 0)
  ⟨year, month, day⟩

/-- The number of days from the first of January 1970 to a date. -/
def daysOfDate (d : Date) : Int :=
  let year : Int := if d.month ≤ 2 then (d.year : Int) - 1 else d.year
  let shiftedMonth := if d.month ≤ 2 then d.month + 9 else d.month - 3
  let dayOfYear : Int := (153 * shiftedMonth + 2) / 5 + d.day - 1
  365 * year + year.fdiv 4 - year.fdiv 100 + year.fdiv 400 + dayOfYear - 719468

/-- The moment so many seconds and microseconds after the beginning of 1970, in universal time. -/
def momentOfSeconds (seconds : Int) (microsecond : Nat) : Moment :=
  let ofDay := (seconds.fmod 86400).toNat
  ⟨dateOfDays (seconds.fdiv 86400), ofDay / 3600, ofDay % 3600 / 60, ofDay % 60, microsecond, some 0⟩

end Calendar

/-- The microseconds from the beginning of 1970 to a moment, if its offset is known. -/
def Moment.instant? (m : Moment) : Option Int :=
  m.offset.map fun offset =>
    let seconds : Int := Calendar.daysOfDate m.date * 86400 + m.hour * 3600 + m.minute * 60 + m.second
    (seconds - offset) * 1000000 + m.microsecond

/-- Two moments are one: at the same instant, or, without offsets, on the same clock. -/
def Moment.same (m n : Moment) : Bool :=
  match m.instant?, n.instant? with
  | some a, some b => a == b
  | none, none => decide (m = n)
  | _, _ => false

end Verdict
