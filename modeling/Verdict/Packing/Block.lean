import Verdict.Packing.Source

/-!
# Packing: blocks

Packed bytes come in blocks. A block holds bytes as they are, or words of codes for bytes and for
repetitions of what came before: a length and a distance.
-/

namespace Verdict.Packing

/-! ## Codes

Codes in which no code word begins with another one. A code follows from the lengths of its words:
shorter words come before longer ones, and among words of one length those of smaller symbols first.
-/

/-- A code: the number of words of each length, from one bit on, and the symbols in the order of their
words. -/
structure Code where
  counts : List Nat
  symbols : Array Nat

namespace Code

/-- The most bits of a word. -/
def maxBits : Nat := 15

/-- The number of words of each length. -/
def countsOf (lengths : List Nat) : List Nat :=
  (List.range maxBits).map fun n => lengths.count (n + 1)

/-- The room that words of given lengths leave for more words of the greatest length; none if there is
no room for all of them. -/
def room? (counts : List Nat) : Option Nat :=
  counts.foldlM (fun left count => if count ≤ 2 * left then some (2 * left - count) else none) 1

/-- The symbols in the order of their words. -/
def symbolsOf (lengths : List Nat) : Array Nat :=
  let numbered := lengths.zipIdx.filter fun (length, _) => length != 0
  ((numbered.mergeSort fun a b => a.1 ≤ b.1).map (·.2)).toArray

/-- The code whose words have given lengths, where zero stands for no word. It has to use up its room,
unless it has no word at all, or has one word of one bit and such a gap is allowed. -/
def ofLengths? (allowsGap : Bool) (lengths : List Nat) : Option Code := do
  let counts := countsOf lengths
  let longest := lengths.foldl max 0
  let left ← room? counts
  if longest == 0 || left == 0 || (allowsGap && longest == 1) then
    return ⟨counts.take (max longest 1), symbolsOf lengths⟩
  else none

/-- Reads a word bit by bit. At each length, `word` has been read, the words of that length begin with
`first`, and `index` symbols have shorter words. -/
def readFrom (c : Code) (word first index : Nat) : List Nat → Reading (Option Nat)
  | [] => return none
  | count :: longer => do
    let word := word + (← Reading.bit).toNat
    if word < first + count then return c.symbols[index + (word - first)]?
    else c.readFrom (2 * word) (2 * (first + count)) (index + count) longer

/-- The symbol of the next word; none if no word begins like this. -/
def read (c : Code) : Reading (Option Nat) :=
  c.readFrom 0 0 0 c.counts

/-- The code for literals and lengths that a block need not describe. -/
def usualLiterals : Option Code :=
  ofLengths? true (List.replicate 144 8 ++ List.replicate 112 9 ++ List.replicate 24 7 ++
    List.replicate 8 8)

/-- The code for distances that a block need not describe. -/
def usualDistances : Option Code :=
  ofLengths? true (List.replicate 32 5)

end Code

/-! ## Blocks -/

/-- What is in a block. -/
inductive Block where
  | stored (length : Nat)
  | coded (literals distances : Code)

/-- The bytes that are had where unpacking ends: at the end of the packed bytes, with what follows
them, or where the source does. -/
inductive Unpacked where
  | whole (bytes : Array UInt8) (rest : Source)
  | short (bytes : Array UInt8)
  | damaged (fault : Fault)

/-- What unpacking leads to where reading stops. -/
def Unpacked.stopped (bytes : Array UInt8) : Stop → Unpacked
  | .short => .short bytes
  | .damaged fault => .damaged fault

/-- The order in which the lengths of words of the code for lengths are given. -/
def lengthsOrder : List Nat :=
  [16, 17, 18, 0, 8, 7, 9, 6, 10, 5, 11, 4, 12, 3, 13, 2, 14, 1, 15]

/-- The lengths that are given in that order, by symbol. -/
def inSymbolOrder (given : List Nat) : List Nat :=
  (List.range lengthsOrder.length).map fun symbol =>
    (lengthsOrder.idxOf? symbol).elim 0 fun place => given.getD place 0

/-- How a symbol of the code for lengths goes on after the lengths that are known: with a length,
repeated. -/
def repetition (known : Array Nat) (symbol : Nat) : Reading (Nat × Nat) := do
  match symbol with
  | 16 =>
    let more ← Reading.number 2
    match known.back? with
    | some last => return (last, 3 + more)
    | none => Reading.damaged .lengthRepeat
  | 17 => return (0, 3 + (← Reading.number 3))
  | 18 => return (0, 11 + (← Reading.number 7))
  | length => return (length, 1)

/-- The lengths of words, after those that are known, until there are enough. Each symbol gives at
least one, so the steps are as many as the lengths. -/
def readLengths (code : Code) (enough : Nat) : Nat → Array Nat → Reading (Array Nat)
  | 0, known => return known
  | steps + 1, known => do
    if enough ≤ known.size then return known
    let symbol := (← code.read).getD 0
    let (length, times) ← repetition known symbol
    if enough < known.size + times then Reading.damaged .lengthRepeat
    readLengths code enough steps (known ++ Array.replicate times length)

/-- The codes that a block describes. -/
def describedCodes : Reading Block := do
  let literals := 257 + (← Reading.number 5)
  let distances := 1 + (← Reading.number 5)
  let given := 4 + (← Reading.number 4)
  if 286 < literals || 30 < distances then Reading.damaged .tooManySymbols
  let lengths ← (List.range given).mapM fun _ => Reading.number 3
  let some code := Code.ofLengths? false (inSymbolOrder lengths) | Reading.damaged .lengthsCode
  let all := (← readLengths code (literals + distances) (literals + distances) #[]).toList
  if all.getD 256 0 == 0 then Reading.damaged .noBlockEnd
  let some literalsCode := Code.ofLengths? true (all.take literals) | Reading.damaged .literalsCode
  let some distancesCode := Code.ofLengths? true (all.drop literals) | Reading.damaged .distancesCode
  return .coded literalsCode distancesCode

/-- The beginning of a block: whether it is the last one, and what is in it. -/
def blockStart : Reading (Bool × Block) := do
  let last ← Reading.bit
  match ← Reading.number 2 with
  | 0 =>
    Reading.align
    let length ← Reading.number 16
    let complement ← Reading.number 16
    if length + complement != 0xFFFF then Reading.damaged .storedLength
    return (last, .stored length)
  | 1 =>
    match Code.usualLiterals, Code.usualDistances with
    | some literals, some distances => return (last, .coded literals distances)
    | _, _ => Reading.damaged .literalsCode
  | 2 => return (last, ← describedCodes)
  | _ => Reading.damaged .blockKind

/-- The least lengths of the symbols for lengths, with the bits that are added to them. -/
def lengthSteps : List (Nat × Nat) :=
  [(3, 0), (4, 0), (5, 0), (6, 0), (7, 0), (8, 0), (9, 0), (10, 0), (11, 1), (13, 1), (15, 1), (17, 1),
   (19, 2), (23, 2), (27, 2), (31, 2), (35, 3), (43, 3), (51, 3), (59, 3), (67, 4), (83, 4), (99, 4),
   (115, 4), (131, 5), (163, 5), (195, 5), (227, 5), (258, 0)]

/-- The least distances of the symbols for distances, with the bits that are added to them. -/
def distanceSteps : List (Nat × Nat) :=
  [(1, 0), (2, 0), (3, 0), (4, 0), (5, 1), (7, 1), (9, 2), (13, 2), (17, 3), (25, 3), (33, 4), (49, 4),
   (65, 5), (97, 5), (129, 6), (193, 6), (257, 7), (385, 7), (513, 8), (769, 8), (1025, 9), (1537, 9),
   (2049, 10), (3073, 10), (4097, 11), (6145, 11), (8193, 12), (12289, 12), (16385, 13), (24577, 13)]

/-- The number that a symbol of some steps stands for, with the bits that follow. -/
def stepped (steps : List (Nat × Nat)) (symbol : Nat) (fault : Fault) : Reading Nat := do
  match steps[symbol]? with
  | some (least, bits) => return least + (← Reading.number bits)
  | none => Reading.damaged fault

/-- What a word of the code for literals leads to. -/
inductive Item where
  | byte (b : UInt8)
  | copy (length distance : Nat)
  | ending

/-- The next item of a block with codes. -/
def nextItem (literals distances : Code) : Reading Item := do
  let some symbol ← literals.read | Reading.damaged .literalSymbol
  if symbol < 256 then return .byte (UInt8.ofNat symbol)
  else if symbol == 256 then return .ending
  else
    let length ← stepped lengthSteps (symbol - 257) .literalSymbol
    let some symbol ← distances.read | Reading.damaged .distanceSymbol
    return .copy length (← stepped distanceSteps symbol .distanceSymbol)

/-- Bytes with some of them repeated, one after the other, from a distance before the end. -/
def copyBack (distance : Nat) : Nat → Array UInt8 → Array UInt8
  | 0, bytes => bytes
  | n + 1, bytes => copyBack distance n (bytes.push (bytes.getD (bytes.size - distance) 0))

/-- The bytes of stored ones, one after the other, as far as the source goes. -/
def takeStored : Nat → Array UInt8 → Source → Array UInt8 × Option Source
  | 0, bytes, s => (bytes, some s)
  | n + 1, bytes, s =>
    match s.bytes with
    | b :: rest => takeStored n (bytes.push b) { s with bytes := rest }
    | [] => (bytes, none)

/-- The items of a block with codes, after the bytes that are had; every item takes a bit at least. -/
def unpackItems (literals distances : Code) : Nat → Array UInt8 → Source → Unpacked
  | 0, bytes, _ => .short bytes
  | fuel + 1, bytes, s =>
    match (nextItem literals distances).run s with
    | .error stop => .stopped bytes stop
    | .ok (.byte b, s) => unpackItems literals distances fuel (bytes.push b) s
    | .ok (.ending, s) => .whole bytes s
    | .ok (.copy length distance, s) =>
      if bytes.size < distance then .damaged .tooFarBack
      else unpackItems literals distances fuel (copyBack distance length bytes) s

/-- The content of a block, after the bytes that are had. -/
def unpackBlock (block : Block) (bytes : Array UInt8) (s : Source) : Unpacked :=
  match block with
  | .stored length =>
    match takeStored length bytes s with
    | (bytes, some s) => .whole bytes s
    | (bytes, none) => .short bytes
  | .coded literals distances => unpackItems literals distances (s.size + 1) bytes s

/-- The blocks up to the last one, after the bytes that are had; every block takes a bit at least. -/
def unpackBlocks : Nat → Array UInt8 → Source → Unpacked
  | 0, bytes, _ => .short bytes
  | fuel + 1, bytes, s =>
    match blockStart.run s with
    | .error stop => .stopped bytes stop
    | .ok ((last, block), s) =>
      match unpackBlock block bytes s with
      | .whole bytes s => if last then .whole bytes { s with bits := [] } else unpackBlocks fuel bytes s
      | other => other

/-- The bytes that blocks hold. -/
def unpack (s : Source) : Unpacked :=
  unpackBlocks (s.size + 1) #[] s

end Verdict.Packing
