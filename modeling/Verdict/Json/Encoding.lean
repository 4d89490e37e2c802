import Verdict.Text.Utf8

/-!
# JSON: encodings

The characters of JSON that comes as bytes. The encoding shows in the first bytes: by a mark of byte
order, or by where the zeros of the first characters stand, which are of ASCII.
-/

namespace Verdict.Json

/-- An encoding of texts. -/
inductive Encoding where
  | utf8 (marked : Bool)
  | utf16 (bigEndian marked : Bool)
  | utf32 (bigEndian marked : Bool)
deriving DecidableEq, Repr

/-- The encoding of a text by the zeros among its first bytes. -/
def encodingByZeros : List UInt8 → Encoding
  | a :: b :: c :: d :: _ =>
    if a == 0 then if b != 0 then .utf16 true false else .utf32 true false
    else if b == 0 then if c != 0 || d != 0 then .utf16 false false else .utf32 false false
    else .utf8 false
  | [a, b] => if a == 0 then .utf16 true false else if b == 0 then .utf16 false false else .utf8 false
  | _ => .utf8 false

/-- The encoding of a text. -/
def encodingOf : List UInt8 → Encoding
  | 0 :: 0 :: 0xFE :: 0xFF :: _ => .utf32 true true
  | 0xFF :: 0xFE :: 0 :: 0 :: _ => .utf32 false true
  | 0xFE :: 0xFF :: _ => .utf16 true true
  | 0xFF :: 0xFE :: _ => .utf16 false true
  | 0xEF :: 0xBB :: 0xBF :: _ => .utf8 true
  | bytes => encodingByZeros bytes

/-- Why bytes are no text of their encoding. -/
inductive ByteFault where
  | utf8 (fault : Text.ByteFault)
  | truncated (encoding : String) (bytes : List UInt8) (position : Nat)
  | outOfRange (encoding : String) (position : Nat)

/-- The wording of a fault. -/
def ByteFault.message : ByteFault → String
  | .utf8 fault => fault.message
  | .truncated encoding bytes position =>
    "'" ++ encoding ++ "' codec can't decode " ++
      (match bytes with
        | [b] => "byte 0x" ++ String.ofList (Text.hexPadded 2 b.toNat) ++ " in position " ++
          toString position
        | bytes => "bytes in position " ++ toString position ++ "-" ++
          toString (position + bytes.length - 1)) ++ ": truncated data"
  | .outOfRange encoding position =>
    "'" ++ encoding ++ "' codec can't decode bytes in position " ++ toString position ++ "-" ++
      toString (position + 3) ++ ": code point not in range(0x110000)"

/-- The number that bytes write. -/
def unitOf (bigEndian : Bool) (bytes : List UInt8) : Nat :=
  (if bigEndian then bytes else bytes.reverse).foldl (fun n b => n * 256 + b.toNat) 0

/-- The character of a code; a half of a pair alone has none. -/
def charOfCode (n : Nat) : Char :=
  if 0xD800 ≤ n && n ≤ 0xDFFF then Text.replacement else Char.ofNat n

/-- The characters of codes in units of sixteen bits. -/
def charsOfPairs : List Nat → List Char
  | [] => []
  | [n] => [charOfCode n]
  | high :: low :: rest =>
    if 0xD800 ≤ high && high ≤ 0xDBFF && 0xDC00 ≤ low && low ≤ 0xDFFF then
      Char.ofNat (0x10000 + (high - 0xD800) * 0x400 + (low - 0xDC00)) :: charsOfPairs rest
    else charOfCode high :: charsOfPairs (low :: rest)

/-- The units of sixteen bits. -/
def pairsOf (name : String) (bigEndian : Bool) (position : Nat) :
    List UInt8 → Except ByteFault (List Nat)
  | [] => .ok []
  | [a] => .error (.truncated name [a] position)
  | a :: b :: rest => do
    return unitOf bigEndian [a, b] :: (← pairsOf name bigEndian (position + 2) rest)

/-- The characters of units of thirty-two bits. -/
def quadsOf (name : String) (bigEndian : Bool) (position : Nat) :
    List UInt8 → Except ByteFault (List Char)
  | [] => .ok []
  | a :: b :: c :: d :: rest => do
    let n := unitOf bigEndian [a, b, c, d]
    if 0x10FFFF < n then throw (.outOfRange name position)
    return charOfCode n :: (← quadsOf name bigEndian (position + 4) rest)
  | bytes => .error (.truncated name bytes position)

/-- The name of an encoding in units of several bytes. -/
def wideName (bits : String) (bigEndian : Bool) : String :=
  "utf-" ++ bits ++ if bigEndian then "-be" else "-le"

/-- The characters of JSON in bytes. -/
def charsOf (bytes : List UInt8) : Except ByteFault (List Char) :=
  match encodingOf bytes with
  | .utf8 marked => (Text.decodePassing (if marked then bytes.drop 3 else bytes)).mapError .utf8
  | .utf16 bigEndian marked =>
    let (skip, position) := if marked then (2, 2) else (0, 0)
    charsOfPairs <$> pairsOf (wideName "16" bigEndian) bigEndian position (bytes.drop skip)
  | .utf32 bigEndian marked =>
    let (skip, position) := if marked then (4, 4) else (0, 0)
    quadsOf (wideName "32" bigEndian) bigEndian position (bytes.drop skip)

end Verdict.Json
