import Verdict.Table
import Verdict.Text.Utf8

/-!
# Network: headers

Names with texts that go with requests and answers. Names are compared without regard to case; a name
may occur several times. Names and texts are of ASCII.
-/

namespace Verdict.Network

/-- Names with their texts. -/
abbrev Headers := List (String × String)

namespace Headers

/-- Two names are one. -/
def sameName (a b : String) : Bool :=
  a.toLower == b.toLower

/-- The texts under a name. -/
def texts (headers : Headers) (name : String) : List String :=
  (headers.filter fun (other, _) => sameName other name).map (·.2)

/-- The texts under a name, joined. -/
def text? (headers : Headers) (name : String) : Option String :=
  match headers.texts name with
  | [] => none
  | found => some (", ".intercalate found)

/-- The headers without those of a name. -/
def without (headers : Headers) (name : String) : Headers :=
  headers.filter fun (other, _) => !sameName other name

/-- The headers with one text under a name, at the place of the first one there was. -/
def set (headers : Headers) (name text : String) : Headers :=
  match headers with
  | [] => [(name, text)]
  | (other, old) :: rest =>
    if sameName other name then (name, text) :: without rest name
    else (other, old) :: set rest name text

end Headers

/-! ### Characters beyond ASCII -/

/-- The place of the characters beyond ASCII that come first in a text, and these characters. -/
def beyondAscii? (s : List Char) : Option (Nat × List Char) :=
  let isBeyond (c : Char) := 0x7F < c.toNat
  (s.findIdx? isBeyond).map fun start => (start, (s.drop start).takeWhile isBeyond)

/-- The wording for a text that may only hold ASCII. -/
def beyondAsciiMessage (start : Nat) (chars : List Char) : String :=
  let code (c : Char) : String :=
    let (letter, width) :=
      if c.toNat < 0x100 then ("x", 2) else if c.toNat < 0x10000 then ("u", 4) else ("U", 8)
    "'\\" ++ letter ++ String.ofList (Text.hexPadded width c.toNat) ++ "'"
  "'ascii' codec can't encode " ++
    (match chars with
      | [c] => "character " ++ code c ++ " in position " ++ toString start
      | chars => "characters in position " ++ toString start ++ "-" ++
        toString (start + chars.length - 1)) ++ ": ordinal not in range(128)"

/-- What is wrong with a text that holds more than ASCII. -/
def asciiFault? (s : String) : Option String :=
  (beyondAscii? s.toList).map fun (start, chars) => beyondAsciiMessage start chars

/-- What is wrong with headers that hold more than ASCII. -/
def Headers.fault? (headers : Headers) : Option String :=
  (headers.flatMap fun (name, text) => [name, text]).findSome? asciiFault?

end Verdict.Network
