/-!
# Text: characters by insertions

Texts of any characters written with a few: first the characters of ASCII, then, after a hyphen if
there are any, numbers that tell where to insert which other characters. A number is written in digits
of base 36, the least one first; how long it goes on depends on thresholds that follow the size of the
numbers before.
-/

namespace Verdict.Text.Punycode

/-- The base of the digits. -/
def base : Nat := 36

/-- The least threshold. -/
def minThreshold : Nat := 1

/-- The greatest threshold. -/
def maxThreshold : Nat := 26

/-- The bias at the beginning. -/
def firstBias : Nat := 72

/-- The first character that is inserted. -/
def firstInserted : Nat := 0x80

/-- The greatest code of a character. -/
def maxCode : Nat := 0x10FFFF

/-- The threshold for the digit at a place, counted from zero. -/
def threshold (place bias : Nat) : Nat :=
  min maxThreshold (max minThreshold (base * (place + 1) - bias))

/-- The steps by which a number is reduced to a bias. The fuel is at least their number. -/
def biasFrom (steps : Nat) : Nat → Nat → Nat
  | 0, _ => steps
  | fuel + 1, delta =>
    if (base - minThreshold) * maxThreshold / 2 < delta then
      biasFrom (steps + base) fuel (delta / (base - minThreshold))
    else steps + (base - minThreshold + 1) * delta / (delta + 38)

/-- The bias after a number, where the text has some characters with the inserted one. -/
def adapt (delta : Nat) (isFirst : Bool) (count : Nat) : Nat :=
  let delta := if isFirst then delta / 700 else delta / 2
  let delta := delta + delta / count
  biasFrom 0 (delta + 1) delta

/-- The letter or digit that writes a digit. -/
def digitChar (digit : Nat) : Char :=
  Char.ofNat (if digit < 26 then 'a'.toNat + digit else '0'.toNat + (digit - 26))

/-- The digit that a letter or digit writes. -/
def digit? (c : Char) : Option Nat :=
  if c.isLower then some (c.toNat - 'a'.toNat)
  else if c.isUpper then some (c.toNat - 'A'.toNat)
  else if c.isDigit then some (c.toNat - '0'.toNat + 26)
  else none

/-- The digits of a number from a place on. The fuel is at least their number. -/
def numberFrom (bias place : Nat) : Nat → Nat → List Char
  | 0, _ => []
  | fuel + 1, n =>
    let t := threshold place bias
    if n < t then [digitChar n]
    else
      digitChar (t + (n - t) % (base - t)) ::
        numberFrom bias (place + 1) fuel ((n - t) / (base - t))

/-- What is still to write: how far insertion has come, and how many characters are there. -/
structure Progress where
  delta : Nat := 0
  bias : Nat := firstBias
  count : Nat
  written : List Char := []

/-- The insertions of one character into a text that holds all smaller ones. -/
def insertAll (code basics : Nat) (s : List Nat) (p : Progress) : Progress :=
  s.foldl (fun p n =>
    if n < code then { p with delta := p.delta + 1 }
    else if n == code then
      { delta := 0
        bias := adapt p.delta (p.count == basics) (p.count + 1)
        count := p.count + 1
        written := p.written ++ numberFrom p.bias 0 (p.delta + 1) p.delta }
    else p) p

/-- The insertions of characters, the smaller ones first, from a code on. -/
def insertions (basics : Nat) (s : List Nat) : Nat → List Nat → Progress → List Char
  | _, [], p => p.written
  | next, code :: codes, p =>
    let p := { p with delta := p.delta + (code - next) * (p.count + 1) }
    let p := insertAll code basics s p
    insertions basics s (code + 1) codes { p with delta := p.delta + 1 }

/-- The written form of a text. -/
def encode (s : List Char) : List Char :=
  let basics := s.filter (·.toNat < firstInserted)
  let codes := s.map Char.toNat
  let inserted := ((codes.filter (firstInserted ≤ ·)).mergeSort (· ≤ ·)).eraseDups
  (if basics.isEmpty then [] else basics ++ ['-']) ++
    insertions basics.length codes firstInserted inserted { count := basics.length }

/-- A number read from digits, from a place on, with what follows it. -/
def readNumber (bias place weight : Nat) : List Char → Option (Nat × List Char)
  | [] => none
  | c :: rest => do
    let digit ← digit? c
    let t := threshold place bias
    if digit < t then return (digit * weight, rest)
    let (more, rest) ← readNumber bias (place + 1) (weight * (base - t)) rest
    return (digit * weight + more, rest)

/-- A text with the insertions made that are written from here on. The fuel is at least the number of
digits. -/
def insertFrom (code position bias : Nat) (isFirst : Bool) (s : List Char) :
    Nat → List Char → Option (List Char)
  | _, [] => some s
  | 0, _ => none
  | fuel + 1, digits => do
    let (delta, rest) ← readNumber bias 0 1 digits
    let count := s.length + 1
    let code := code + (position + delta) / count
    let position := (position + delta) % count
    if maxCode < code || (0xD800 ≤ code && code ≤ 0xDFFF) then none
    else
      insertFrom code (position + 1) (adapt delta isFirst count) false
        (s.take position ++ Char.ofNat code :: s.drop position) fuel rest

/-- The text that a written form stands for. -/
def decode (s : List Char) : Option (List Char) :=
  let digits := (s.reverse.takeWhile (· != '-')).reverse
  let basics := s.take (s.length - digits.length - 1)
  insertFrom firstInserted 0 firstBias true basics digits.length digits

end Verdict.Text.Punycode
