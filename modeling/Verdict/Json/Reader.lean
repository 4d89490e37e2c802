import Verdict.Json.Token

/-!
# JSON: reading

A value from the tokens of its text, by a machine that holds the containers still open. Each token
is one step; the machine stops at the first token that fits nothing.
-/

namespace Verdict.Json

/-- A container still open: the items so far in reverse, or the pairs so far with the name of the
member under way. -/
inductive Frame where
  | items (reversed : List Value)
  | members (pairs : List (Atom × Value)) (name : String)

/-- What the machine is ready for. -/
inductive Ready where
  /-- A value; in a list just opened also its end. -/
  | value
  | firstItem
  /-- The name of a member; in a mapping just opened also its end. -/
  | name (pairs : List (Atom × Value))
  | firstName
  | colon (pairs : List (Atom × Value)) (name : String)
  | afterItem (reversed : List Value)
  | afterMember (pairs : List (Atom × Value))
  | finished (v : Value)

/-- The state of the machine. -/
structure Machine where
  frames : List Frame
  ready : Ready

namespace Machine

/-- The machine before a text. -/
def start : Machine := ⟨[], .value⟩

/-- A value has been read inside the given containers. -/
def complete (frames : List Frame) (v : Value) : Machine :=
  match frames with
  | [] => ⟨[], .finished v⟩
  | .items reversed :: outer => ⟨outer, .afterItem (v :: reversed)⟩
  | .members pairs name :: outer => ⟨outer, .afterMember (Table.insert pairs (.text name) v)⟩

/-- A value is due and this token comes. -/
def beginValue (frames : List Frame) : Token → Option Machine
  | .openList => some ⟨frames, .firstItem⟩
  | .openMapping => some ⟨frames, .firstName⟩
  | .text s => some (complete frames (.text s))
  | .scalar a => some (complete frames (.atom a))
  | _ => none

/-- What the machine lacks when it cannot go on. -/
def lack : Ready → FaultKind
  | .value | .firstItem => .expectedValue
  | .name _ | .firstName => .expectedName
  | .colon _ _ => .expectedColon
  | .afterItem _ | .afterMember _ => .expectedComma
  | .finished _ => .extraData

/-- One token that fits. -/
def advance (m : Machine) (t : Token) : Option Machine :=
  match m.ready, t with
  | .firstItem, .closeList => some (complete m.frames (.list []))
  | .firstItem, t => beginValue (.items [] :: m.frames) t
  | .value, t => beginValue m.frames t
  | .firstName, .closeMapping => some (complete m.frames (.mapping []))
  | .firstName, .text s => some ⟨m.frames, .colon [] s⟩
  | .name pairs, .text s => some ⟨m.frames, .colon pairs s⟩
  | .colon pairs name, .colon => some ⟨.members pairs name :: m.frames, .value⟩
  | .afterItem reversed, .comma => some ⟨.items reversed :: m.frames, .value⟩
  | .afterItem reversed, .closeList => some (complete m.frames (.list reversed.reverse))
  | .afterMember pairs, .comma => some ⟨m.frames, .name pairs⟩
  | .afterMember pairs, .closeMapping => some (complete m.frames (.mapping pairs))
  | _, _ => none

/-- The fault of a token that does not fit: its own, if a token of its kind was due. -/
def faultAt (ready : Ready) (p : Placed) : Fault :=
  match p.token, ready with
  | .broken _ fault, .value | .broken _ fault, .firstItem => fault
  | .broken true fault, .name _ | .broken true fault, .firstName => fault
  | _, ready => .syntactic (lack ready) p.offset

/-- How many containers may be open at once. -/
def nestingLimit : Nat := 988

/-- The container just opened, if it is one too many. -/
def excess? (m : Machine) : Option Excess :=
  match m.ready with
  | .firstItem => if nestingLimit ≤ m.frames.length then some .nestedList else none
  | .firstName => if nestingLimit ≤ m.frames.length then some .nestedMapping else none
  | _ => none

/-- The tokens one after another, and the end of the text at the given offset. -/
def run (size : Nat) : Machine → List Placed → Except Fault Value
  | m, [] =>
    match m.ready with
    | .finished v => .ok v
    | ready => .error (.syntactic (lack ready) size)
  | m, p :: rest =>
    match m.advance p.token with
    | some m' =>
      match m'.excess? with
      | some excess => .error (.excessive excess)
      | none => run size m' rest
    | none => .error (faultAt m.ready p)

end Machine

/-- The value of a text. -/
def readText (source : List Char) : Except Fault Value :=
  Machine.start.run source.length (tokens source)

/-- The value of a text that no mark of byte order begins. -/
def read (source : List Char) : Except Fault Value :=
  match source with
  | '\uFEFF' :: _ => .error (.syntactic .byteOrderMark 0)
  | _ => readText source

end Verdict.Json
