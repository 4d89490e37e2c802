/-!
# YAML: tokens

The tokens of a document: the signs and scalars that are written, and the marks that indentation
stands for.
-/

namespace Verdict.Yaml

/-- Why a text is not read. A text that breaks the rules of the notation is malformed; a scalar that
cannot be given the type it claims fails in its own way. -/
inductive Fault where
  | malformed
  | failed (label message : String)
deriving DecidableEq, Repr

/-- A line before a document that says how to read it. -/
inductive Directive where
  | version (major : Nat)
  | tag (handle start : String)
  | other
deriving DecidableEq, Repr

/-- A token. -/
inductive Token where
  | directive (d : Directive)
  | documentStart
  | documentEnd
  | blockSequenceStart
  | blockMappingStart
  | blockEnd
  | flowSequenceStart
  | flowSequenceEnd
  | flowMappingStart
  | flowMappingEnd
  | blockEntry
  | flowEntry
  | key
  | value
  | alias (name : String)
  | anchor (name : String)
  | tag (handle : Option String) (suffix : String)
  | scalar (text : String) (plain : Bool)
deriving DecidableEq, Repr

/-- A character that ends a line. -/
def isBreak (c : Char) : Bool :=
  c == '\n' || c == '\r' || c.toNat == 0x85 || c.toNat == 0x2028 || c.toNat == 0x2029

/-- A line break, or the end of the text. -/
def endsLine : Option Char → Bool
  | none => true
  | some c => isBreak c

/-- A space, a line break, or the end of the text. -/
def endsWord : Option Char → Bool
  | none => true
  | some c => c == ' ' || isBreak c

/-- A space, a tab, a line break, or the end of the text. -/
def endsToken : Option Char → Bool
  | none => true
  | some c => c == ' ' || c == '\t' || isBreak c

/-- A character that a text may hold. -/
def isAllowed (c : Char) : Bool :=
  let n := c.toNat
  n == 0x09 || n == 0x0A || n == 0x0D || (0x20 ≤ n && n ≤ 0x7E) || n == 0x85 ||
    (0xA0 ≤ n && n ≤ 0xD7FF) || (0xE000 ≤ n && n ≤ 0xFFFD) || 0x10000 ≤ n

/-- A character of a name: of an anchor, of a directive, or of the handle of a tag. -/
def isNameChar (c : Char) : Bool :=
  c.isAlphanum || c == '-' || c == '_'

/-- A character of a tag. -/
def isTagChar (c : Char) : Bool :=
  c.isAlphanum || "-;/?:@&=+$,_.!~*'()[]%".toList.contains c

/-- The text begins with the mark of a document's start or end, alone on its line or before a
blank. -/
def atDocumentMark (mark : Char) : List Char → Bool
  | a :: b :: c :: rest => a == mark && b == mark && c == mark && endsToken rest.head?
  | _ => false

/-- The text begins with a mark that separates documents. -/
def atSeparator (s : List Char) : Bool :=
  atDocumentMark '-' s || atDocumentMark '.' s

end Verdict.Yaml
