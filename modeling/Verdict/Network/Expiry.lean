import Verdict.Calendar
import Verdict.Number.Reading

/-!
# Network: moments of expiry

The moments that cookies name for their end. The strict form has fixed widths. The loose form may lack
the day of the week, the time of day and the zone, and may write the year with two digits.
-/

namespace Verdict.Network.Expiry

/-- A moment as it is written. -/
structure Written where
  day : List Char
  month : List Char
  year : List Char
  hour : List Char := []
  minute : List Char := []
  second : List Char := []
  zone : Option (List Char) := none

/-- The short names of months. -/
def months : List String :=
  ["jan", "feb", "mar", "apr", "may", "jun", "jul", "aug", "sep", "oct", "nov", "dec"]

/-- The short names of days. -/
def weekdays : List String :=
  ["sun", "mon", "tue", "wed", "thu", "fri", "sat"]

/-- The month of a short name. -/
def monthOf? (name : List Char) : Option Nat :=
  (months.idxOf? (String.ofList (name.map Char.toLower))).map (· + 1)

/-- The seconds from the beginning of 1970, where the parts are in their bounds. A day may lie after
the end of its month. -/
def seconds? (year month day hour minute second : Nat) : Option Int :=
  if 1970 ≤ year && 1 ≤ month && month ≤ 12 && 1 ≤ day && day ≤ 31 && hour ≤ 24 && minute ≤ 59 &&
      second ≤ 61 then
    let days : Int := Calendar.daysOfDate ⟨year, month, 1⟩ + day - 1
    some (((days * 24 + hour) * 60 + minute) * 60 + second)
  else none

/-! ### The strict form -/

/-- The parts of the strict form, which is recognised by its shape. -/
def strict? (s : List Char) : Option Written :=
  match s with
  | [w, w', w'', ',', ' ', d, d', ' ', m, m', m'', ' ', y, y', y'', y''', ' ', h, h', ':', n, n', ':',
     t, t', ' ', 'G', 'M', 'T'] =>
    if "SMTWF".toList.contains w && "JFMASOND".toList.contains m &&
        [w', w'', m', m''].all Char.isLower &&
        [d, d', y, y', y'', y''', h, h', n, n', t, t'].all Char.isDigit then
      some { day := [d, d'], month := [m, m', m''], year := [y, y', y'', y'''], hour := [h, h']
             minute := [n, n'], second := [t, t'] }
    else none
  | _ => none

/-! ### The loose form -/

/-- A reader gives all ways in which a text may go on, the preferred one first. -/
abbrev Reader (α : Type) := List Char → List (α × List Char)

namespace Reader

variable {α β : Type}

/-- One reader, and after it what follows from its result. -/
def bind (r : Reader α) (f : α → Reader β) : Reader β :=
  fun s => (r s).flatMap fun (a, rest) => f a rest

/-- A result without reading. -/
def result (a : α) : Reader α := fun s => [(a, s)]

/-- What one reader gives, and after it what another does. -/
def orElse (r q : Reader α) : Reader α := fun s => r s ++ q s

/-- Characters of a kind, as many as possible but within bounds. -/
def run (p : Char → Bool) (least most : Nat) : Reader (List Char) := fun s =>
  let longest := ((s.take most).takeWhile p).length
  (List.range (longest + 1 - least)).map fun n => (s.take (longest - n), s.drop (longest - n))

/-- One of some characters. -/
def sign (p : Char → Bool) : Reader (List Char) := run p 1 1

/-- Blanks, as many as possible. -/
def blanks (least : Nat) : Reader Unit := fun s =>
  (run Text.isAsciiBlank least s.length s).map fun (_, rest) => ((), rest)

/-- The end of the text. -/
def ending : Reader Unit := fun s => if s.isEmpty then [((), [])] else []

end Reader

open Reader

/-- A character of a word in ASCII. -/
def isWordChar (c : Char) : Bool := c.isAlphanum || c == '_'

/-- What stands between the parts of a date. -/
def dateGap : Reader Unit :=
  orElse (blanks 1) (bind (sign fun c => c == '-' || c == '/') fun _ => result ())

/-- A time of day after a date, if there is one. -/
def clock (w : Written) : Reader Written :=
  orElse
    (bind (orElse (blanks 1) (bind (sign (· == ':')) fun _ => result ())) fun _ =>
      bind (run Char.isDigit 1 2) fun hour =>
        bind (sign (· == ':')) fun _ =>
          bind (run Char.isDigit 2 2) fun minute =>
            orElse
              (bind (sign (· == ':')) fun _ =>
                bind (run Char.isDigit 2 2) fun second => result { w with hour, minute, second })
              (result { w with hour, minute }))
    (result w)

/-- Half a day is no zone. -/
def isHalfDay (s : List Char) : Bool :=
  match s with
  | a :: m :: rest =>
    (a.toLower == 'a' || a.toLower == 'p') && m.toLower == 'm' && !rest.head?.any isWordChar
  | _ => false

/-- The name of a zone, or its distance from universal time. -/
def zoneText : Reader (List Char) :=
  orElse
    (bind (orElse (sign fun c => c == '+' || c == '-') (result [])) fun sign =>
      bind (run Char.isDigit 2 4) fun digits => result (sign ++ digits))
    (fun s => if isHalfDay s then [] else run Char.isAlpha 1 s.length s)

/-- A zone after a time, if there is one. -/
def zone (w : Written) : Reader Written :=
  orElse
    (bind zoneText fun zone => bind (blanks 0) fun _ => result { w with zone := some zone })
    (result w)

/-- A word in parentheses, if there is one. -/
def remark : Reader Unit :=
  orElse
    (bind (sign (· == '(')) fun _ =>
      bind (fun s => run isWordChar 1 s.length s) fun _ =>
        bind (sign (· == ')')) fun _ => blanks 0)
    (result ())

/-- The parts of the loose form. -/
def loose : Reader Written :=
  bind (run Char.isDigit 1 2) fun day =>
    bind dateGap fun _ =>
      bind (fun s => run isWordChar 1 s.length s) fun month =>
        bind dateGap fun _ =>
          bind (fun s => run Char.isDigit 1 s.length s) fun year =>
            bind (clock { day, month, year }) fun w =>
              bind (blanks 0) fun _ =>
                bind (zone w) fun w =>
                  bind remark fun _ => bind ending fun _ => result w

/-- A text without a day of the week before it. -/
def withoutWeekday (s : List Char) : List Char :=
  let short := String.ofList ((s.take 3).map Char.toLower)
  if weekdays.contains short then
    let rest := (s.drop 3).dropWhile Char.isAlpha
    (if rest.head? == some ',' then rest.drop 1 else rest).dropWhile Text.isAsciiBlank
  else s

/-- The distance of a zone from universal time in seconds. -/
def zoneOffset? (zone : List Char) : Option Int :=
  let name := String.ofList (zone.map Char.toUpper)
  if ["GMT", "UTC", "UT", "Z"].contains name then some 0
  else
    let digits := if zone.head?.any Char.isDigit then zone else zone.drop 1
    if !digits.all Char.isDigit || digits.isEmpty then none
    else
      let hours := if digits.length ≤ 2 then digits else digits.take (digits.length - 2)
      let minutes := if digits.length ≤ 2 then [] else digits.drop (digits.length - 2)
      let offset : Int := Number.natOfDigits hours * 3600 + Number.natOfDigits minutes * 60
      some (if zone.head? == some '-' then -offset else offset)

/-- The year that a short year stands for in some other year: the nearest one. -/
def fullYear (current year : Nat) : Nat :=
  if 1000 ≤ year then year
  else
    let m : Int := (current % 100 : Nat) - year
    let full := year + current - current % 100
    if 50 < m then full + 100 else if m < -50 then full - 100 else full

/-- The seconds of what is written, in the current year. -/
def Written.seconds? (current : Nat) (w : Written) : Option Int := do
  let year := Number.natOfDigits w.year
  if 9999 < year then none
  let month ←
    match monthOf? w.month with
    | some month => some month
    | none => (Number.readInteger (String.ofList w.month)).toOption.bind fun n =>
      if 1 ≤ n && n ≤ 12 then some n.toNat else none
  let part (s : List Char) := Number.natOfDigits s
  let seconds ← Expiry.seconds? (fullYear current year) month (part w.day) (part w.hour)
    (part w.minute) (part w.second)
  let offset ← zoneOffset? (w.zone.getD "UTC".toList)
  return seconds - offset

/-- What a text says of a moment: a moment of seconds, none, or an unknown month in the strict form. -/
inductive Reading where
  | seconds (n : Int)
  | nothing
  | unknownMonth

/-- The moment that a text names, at some other moment. -/
def read (now : Int) (s : List Char) : Reading :=
  match strict? s with
  | some w =>
    match monthOf? w.month with
    | none => .unknownMonth
    | some month =>
      let part (s : List Char) := Number.natOfDigits s
      match seconds? (part w.year) month (part w.day) (part w.hour) (part w.minute) (part w.second) with
      | some n => .seconds n
      | none => .nothing
  | none =>
    let current := (Calendar.dateOfDays (now.fdiv 86400)).year
    match loose (withoutWeekday (s.dropWhile Text.isBlank)) with
    | (w, _) :: _ =>
      match w.seconds? current with
      | some n => .seconds n
      | none => .nothing
    | [] => .nothing

end Verdict.Network.Expiry
