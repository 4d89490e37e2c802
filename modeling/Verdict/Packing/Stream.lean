import Verdict.Packing.Block

/-!
# Packing: streams

Packed bytes come as plain blocks, or with a header before them and a checksum after them, in a short
or a long form. What follows a stream is passed over, and a stream that breaks off gives the bytes up
to there. The checksums are the remainder of a polynomial over bits, and two running sums of bytes.
-/

namespace Verdict.Packing

/-! ### Checksums -/

/-- The polynomial of the remainder, its bits in reverse order. -/
def polynomial : UInt32 := 0xEDB88320

/-- One bit is shifted out of a remainder, and the polynomial taken off if it was set. -/
def shiftRemainder (r : UInt32) : UInt32 :=
  if r &&& 1 == 1 then (r >>> 1) ^^^ polynomial else r >>> 1

/-- A remainder after one more byte. -/
def stepRemainder (r : UInt32) (b : UInt8) : UInt32 :=
  (List.range 8).foldl (fun r _ => shiftRemainder r) (r ^^^ b.toUInt32)

/-- The remainder of bytes by the polynomial. -/
def remainder (bytes : List UInt8) : UInt32 :=
  bytes.foldl stepRemainder 0xFFFFFFFF ^^^ 0xFFFFFFFF

/-- The modulus of the running sums. -/
def sumModulus : UInt32 := 65521

/-- The sum of bytes, and the sum of the sums, in one number. -/
def runningSum (bytes : List UInt8) : UInt32 :=
  let (low, high) := bytes.foldl (fun (low, high) b =>
    let low := (low + b.toUInt32) % sumModulus
    (low, (high + low) % sumModulus)) (1, 0)
  high * 65536 + low

/-! ### Forms -/

/-- The forms of streams. -/
inductive Form where
  | plain
  | short
  | long
deriving DecidableEq, Repr

/-- The number of the only known method of packing. -/
def knownMethod : Nat := 8

/-- The header of the short form: method and size of the window, made divisible by 31. -/
def shortHeader : Reading Unit := do
  let method ← Reading.number 4
  let window ← Reading.number 4
  let flags ← Reading.number 8
  if ((window * 16 + method) * 256 + flags) % 31 != 0 then Reading.damaged .header
  if method != knownMethod then Reading.damaged .method
  if 7 < window then Reading.damaged .windowSize
  if flags.testBit 5 then
    let _ ← Reading.number 32
    Reading.damaged .dictionary

/-- Bytes up to and with a zero. The fuel is the number of bytes that are left. -/
def zeroEnded : Nat → Reading Unit
  | 0 => throw .short
  | fuel + 1 => do
    if (← Reading.byte) == 0 then return () else zeroEnded fuel

/-- The parts of the long header after the flags: moment, system, and what the flags announce. -/
def longHeaderParts (flags : Nat) : Reading Unit := do
  let _ ← Reading.bytes 6
  if flags.testBit 2 then
    let length ← Reading.number 16
    let _ ← Reading.bytes length
  let fuel := (← get).bytes.length
  if flags.testBit 3 then zeroEnded fuel
  if flags.testBit 4 then zeroEnded fuel

/-- The header of the long form. -/
def longHeader : Reading Unit := do
  let start := (← get).bytes
  if (← Reading.number 16) != 0x8B1F then Reading.damaged .header
  let method ← Reading.number 8
  let flags ← Reading.number 8
  if method != knownMethod then Reading.damaged .method
  if 31 < flags then Reading.damaged .headerFlags
  longHeaderParts flags
  if flags.testBit 1 then
    let header := start.take (start.length - (← get).bytes.length)
    if (← Reading.number 16) != (remainder header).toNat % 65536 then Reading.damaged .headerSum

/-- The number in four bytes, the highest one first. -/
def highFirst : Reading Nat := do
  return (← Reading.bytes 4).foldl (fun n b => n * 256 + b.toNat) 0

/-- What stands before the blocks of a form. -/
def Form.header : Form → Reading Unit
  | .plain => return ()
  | .short => shortHeader
  | .long => longHeader

/-- What stands after the blocks of a form. -/
def Form.trailer (bytes : List UInt8) : Form → Reading Unit
  | .plain => return ()
  | .short => do
    if (← highFirst) != (runningSum bytes).toNat then Reading.damaged .sum
  | .long => do
    if (← Reading.number 32) != (remainder bytes).toNat then Reading.damaged .sum
    if (← Reading.number 32) != bytes.length % 0x100000000 then Reading.damaged .length

/-- The bytes that a stream of some form holds. -/
def unpackStream (form : Form) (packed : List UInt8) : Except Fault (List UInt8) :=
  match form.header.run ⟨[], packed⟩ with
  | .error .short => .ok []
  | .error (.damaged fault) => .error fault
  | .ok ((), s) =>
    match unpack s with
    | .short bytes => .ok bytes.toList
    | .damaged fault => .error fault
    | .whole bytes s =>
      let bytes := bytes.toList
      match (form.trailer bytes).run s with
      | .error (.damaged fault) => .error fault
      | _ => .ok bytes

end Verdict.Packing
