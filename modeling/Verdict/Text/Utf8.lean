import Verdict.Text.Quoted

/-!
# Text: bytes

Texts from bytes. UTF-8 is read strictly: the first sequence of bytes that stands for no character is
a fault, with its place and reason. Line ends of every kind become line feeds.
-/

namespace Verdict.Text

/-- Why bytes are no text. -/
inductive ByteReason where
  | start
  | continuation
  | ended
deriving DecidableEq, Repr

/-- The wording of a reason. -/
def ByteReason.message : ByteReason → String
  | .start => "invalid start byte"
  | .continuation => "invalid continuation byte"
  | .ended => "unexpected end of data"

/-- A sequence of bytes, the first of them given, that stands for no character. -/
structure ByteFault where
  position : Nat
  count : Nat
  first : UInt8
  reason : ByteReason
deriving DecidableEq, Repr

/-- The wording of a fault. -/
def ByteFault.message (f : ByteFault) : String :=
  "'utf-8' codec can't decode " ++
    (if f.count = 1 then
      "byte 0x" ++ String.ofList (hexPadded 2 f.first.toNat) ++ " in position " ++ toString f.position
    else
      "bytes in position " ++ toString f.position ++ "-" ++ toString (f.position + f.count - 1)) ++
    ": " ++ f.reason.message

/-- A byte that continues a character. -/
def isContinuation (b : UInt8) : Bool :=
  0x80 ≤ b && b ≤ 0xBF

/-- The number of bytes of a character by its first byte; none if no character begins so. -/
def sequenceLength? (b : UInt8) : Option Nat :=
  if b < 0x80 then some 1
  else if b < 0xC2 then none
  else if b < 0xE0 then some 2
  else if b < 0xF0 then some 3
  else if b < 0xF5 then some 4
  else none

/-- The second byte may follow the first: it continues, and the two begin neither an overlong
sequence, nor a surrogate, nor a code beyond the last. -/
def mayFollow (first second : UInt8) : Bool :=
  isContinuation second &&
    (if first == 0xE0 then 0xA0 ≤ second
    else if first == 0xED then second < 0xA0
    else if first == 0xF0 then 0x90 ≤ second
    else if first == 0xF4 then second < 0x90
    else true)

/-- The number of bytes, after the first, that belong to one character with it. -/
def goodContinuation (first : UInt8) : List UInt8 → Nat
  | [] => 0
  | second :: rest =>
    if mayFollow first second then 1 + (rest.takeWhile isContinuation).length else 0

/-- The code of a character from the payload of its first byte and its further bytes. -/
def codeOf (lead : Nat) (further : List UInt8) : Nat :=
  further.foldl (fun n b => n * 64 + (b.toNat - 0x80)) lead

/-- The payload of a first byte. -/
def leadBits (length : Nat) (b : UInt8) : Nat :=
  match length with
  | 1 => b.toNat
  | 2 => b.toNat - 0xC0
  | 3 => b.toNat - 0xE0
  | _ => b.toNat - 0xF0

/-- The first character of bytes at a position, and its number of bytes. -/
def decodeFirst (position : Nat) (first : UInt8) (rest : List UInt8) :
    Except ByteFault (Char × Nat) :=
  match sequenceLength? first with
  | none => .error ⟨position, 1, first, .start⟩
  | some length =>
    let needed := length - 1
    let good := goodContinuation first (rest.take needed)
    if good = needed then .ok (Char.ofNat (codeOf (leadBits length first) (rest.take needed)), length)
    else if rest.length = good then .error ⟨position, good + 1, first, .ended⟩
    else .error ⟨position, good + 1, first, .continuation⟩

/-- The characters of bytes, with the number of bytes before them. `skip` bytes belong to the
character already read. -/
def decodeFrom : (position skip : Nat) → List UInt8 → Except ByteFault (List Char)
  | _, _, [] => .ok []
  | position, skip + 1, _ :: rest => decodeFrom (position + 1) skip rest
  | position, 0, b :: rest => do
    let (c, length) ← decodeFirst position b rest
    return c :: (← decodeFrom (position + 1) (length - 1) rest)

/-- The text of bytes in UTF-8. -/
def decode (bytes : List UInt8) : Except ByteFault (List Char) :=
  decodeFrom 0 0 bytes

/-- The sign for bytes that stand for no character. -/
def replacement : Char := Char.ofNat 0xFFFD

/-- The characters of bytes, with the sign for each sequence that stands for none. `skip` bytes belong
to what was already read. -/
def decodeAllFrom : (skip : Nat) → List UInt8 → List Char
  | _, [] => []
  | skip + 1, _ :: rest => decodeAllFrom skip rest
  | 0, b :: rest =>
    match decodeFirst 0 b rest with
    | .ok (c, length) => c :: decodeAllFrom (length - 1) rest
    | .error fault => replacement :: decodeAllFrom (fault.count - 1) rest

/-- The text of bytes of which some may stand for no character. -/
def decodeAll (bytes : List UInt8) : List Char :=
  decodeAllFrom 0 bytes

/-- The bytes are the form that a half of a pair would have. -/
def isHalf : List UInt8 → Bool
  | 0xED :: b :: c :: _ => 0xA0 ≤ b && isContinuation b && isContinuation c
  | _ => false

/-- The characters of bytes where halves of pairs are let pass, with the sign in place of each. -/
def decodePassingFrom : (position skip : Nat) → List UInt8 → Except ByteFault (List Char)
  | _, _, [] => .ok []
  | position, skip + 1, _ :: rest => decodePassingFrom (position + 1) skip rest
  | position, 0, b :: rest =>
    if isHalf (b :: rest) then
      (replacement :: ·) <$> decodePassingFrom (position + 1) 2 rest
    else do
      let (c, length) ← decodeFirst position b rest
      return c :: (← decodePassingFrom (position + 1) (length - 1) rest)

/-- The text of bytes that may hold halves of pairs. -/
def decodePassing (bytes : List UInt8) : Except ByteFault (List Char) :=
  decodePassingFrom 0 0 bytes

/-- Line ends of every kind as line feeds. -/
def unifyLineEnds : List Char → List Char
  | [] => []
  | '\r' :: '\n' :: rest => '\n' :: unifyLineEnds rest
  | '\r' :: rest => '\n' :: unifyLineEnds rest
  | c :: rest => c :: unifyLineEnds rest

/-- The text of a file with the given bytes. -/
def ofBytes (bytes : List UInt8) : Except ByteFault String := do
  return String.ofList (unifyLineEnds (← decode bytes))

/-- The bytes of a text in UTF-8. -/
def toBytes (s : String) : List UInt8 :=
  s.toUTF8.toList

end Verdict.Text
