/-!
# Text: base 64

Bytes written in groups of four letters with six bits each. Characters outside the alphabet are
skipped; padding ends a group of two or three letters.
-/

namespace Verdict.Text

/-- The six bits of a letter. -/
def sextet? (c : Char) : Option Nat :=
  if 'A' ≤ c && c ≤ 'Z' then some (c.toNat - 'A'.toNat)
  else if 'a' ≤ c && c ≤ 'z' then some (c.toNat - 'a'.toNat + 26)
  else if '0' ≤ c && c ≤ '9' then some (c.toNat - '0'.toNat + 52)
  else if c == '+' then some 62
  else if c == '/' then some 63
  else none

/-- Reads letters after those of an unfinished group, which has `count` of them with the bits
`group`, and `pads` signs of padding. -/
def base64From (count group pads : Nat) : List Char → Option (List UInt8)
  | [] => if count = 0 then some [] else none
  | c :: rest =>
    if c == '=' then
      if count < 2 then base64From count group pads rest
      else if 4 ≤ count + pads + 1 then some []
      else base64From count group (pads + 1) rest
    else match sextet? c with
      | none => base64From count group pads rest
      | some bits =>
        let group := group * 64 + bits
        match count with
        | 0 => base64From 1 bits 0 rest
        | 1 => (UInt8.ofNat (group / 16) :: ·) <$> base64From 2 (group % 16) 0 rest
        | 2 => (UInt8.ofNat (group / 4) :: ·) <$> base64From 3 (group % 4) 0 rest
        | _ => (UInt8.ofNat group :: ·) <$> base64From 0 0 0 rest

/-- The bytes that a text in base 64 stands for, if its last group is complete. -/
def ofBase64? (s : List Char) : Option (List UInt8) := base64From 0 0 0 s

/-- The letter for six bits. -/
def sextetChar (n : Nat) : Char :=
  Char.ofNat (if n < 26 then 'A'.toNat + n else if n < 52 then 'a'.toNat + (n - 26)
    else if n < 62 then '0'.toNat + (n - 52) else if n == 62 then '+'.toNat else '/'.toNat)

/-- Bytes in base 64, the last group padded. -/
def toBase64 : List UInt8 → List Char
  | a :: b :: c :: rest =>
    let n := (a.toNat * 256 + b.toNat) * 256 + c.toNat
    sextetChar (n / 262144) :: sextetChar (n / 4096 % 64) :: sextetChar (n / 64 % 64) ::
      sextetChar (n % 64) :: toBase64 rest
  | [a, b] =>
    let n := (a.toNat * 256 + b.toNat) * 4
    [sextetChar (n / 4096), sextetChar (n / 64 % 64), sextetChar (n % 64), '=']
  | [a] => [sextetChar (a.toNat / 4), sextetChar (a.toNat * 16 % 64), '=', '=']
  | [] => []

end Verdict.Text
