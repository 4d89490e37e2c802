/-!
# Packing: sources

Packed bytes as they are read bit by bit, from the lowest bit of each byte. Reading stops where the
bytes end, which is no fault of what was read before, or where they are damaged.
-/

namespace Verdict.Packing

/-- Why bytes cannot be unpacked. -/
inductive Fault where
  | header
  | method
  | windowSize
  | headerFlags
  | headerSum
  /-- The bytes were packed with a dictionary that is not at hand. -/
  | dictionary
  | blockKind
  | storedLength
  | tooManySymbols
  | lengthsCode
  | lengthRepeat
  | noBlockEnd
  | literalsCode
  | distancesCode
  | literalSymbol
  | distanceSymbol
  | tooFarBack
  | sum
  | length
deriving DecidableEq, Repr

/-- The words for a fault, if there are any. -/
def Fault.words? : Fault → Option String
  | .header => some "incorrect header check"
  | .method => some "unknown compression method"
  | .windowSize => some "invalid window size"
  | .headerFlags => some "unknown header flags set"
  | .headerSum => some "header crc mismatch"
  | .dictionary => none
  | .blockKind => some "invalid block type"
  | .storedLength => some "invalid stored block lengths"
  | .tooManySymbols => some "too many length or distance symbols"
  | .lengthsCode => some "invalid code lengths set"
  | .lengthRepeat => some "invalid bit length repeat"
  | .noBlockEnd => some "invalid code -- missing end-of-block"
  | .literalsCode => some "invalid literal/lengths set"
  | .distancesCode => some "invalid distances set"
  | .literalSymbol => some "invalid literal/length code"
  | .distanceSymbol => some "invalid distance code"
  | .tooFarBack => some "invalid distance too far back"
  | .sum => some "incorrect data check"
  | .length => some "incorrect length check"

/-- The wording of a fault. Damage has one number, the want of a dictionary another. -/
def Fault.message (f : Fault) : String :=
  match f.words? with
  | some words => "Error -3 while decompressing data: " ++ words
  | none => "Error 2 while decompressing data"

/-- Why reading stops. -/
inductive Stop where
  | short
  | damaged (fault : Fault)

/-- What is left to read: the bits left of the byte that is being read, and the bytes after it. -/
structure Source where
  bits : List Bool := []
  bytes : List UInt8

/-- Reading from a source. -/
abbrev Reading := StateT Source (Except Stop)

/-- The bits of a byte from the lowest one. -/
def bitsOf (b : UInt8) : List Bool :=
  (List.range 8).map b.toNat.testBit

/-- The number of bits that are left. -/
def Source.size (s : Source) : Nat :=
  s.bits.length + 8 * s.bytes.length

namespace Reading

/-- Reading fails. -/
def damaged {α : Type} (fault : Fault) : Reading α :=
  throw (.damaged fault)

/-- The next bit. -/
def bit : Reading Bool := do
  let s ← get
  match s.bits, s.bytes with
  | b :: bits, bytes => set { s with bits, bytes }; return b
  | [], byte :: bytes =>
    match bitsOf byte with
    | b :: bits => set { s with bits, bytes }; return b
    | [] => throw .short
  | [], [] => throw .short

/-- The number in the next bits, the lowest one first. -/
def number : Nat → Reading Nat
  | 0 => return 0
  | n + 1 => do
    let b ← bit
    return b.toNat + 2 * (← number n)

/-- Passes over the bits that are left of a byte. -/
def align : Reading Unit :=
  modify fun s => { s with bits := [] }

/-- The next byte, where the bits of the last one have been read. -/
def byte : Reading UInt8 := do
  return UInt8.ofNat (← number 8)

/-- The next bytes. -/
def bytes : Nat → Reading (List UInt8)
  | 0 => return []
  | n + 1 => do
    let b ← byte
    return b :: (← bytes n)

end Reading

end Verdict.Packing
