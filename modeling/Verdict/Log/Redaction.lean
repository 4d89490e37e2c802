import Verdict.Text.CharacterSet
import Verdict.Value

/-!
# Log: redaction

Secrets are cut out of what is logged. A rule describes a secret by a lead, such as a key and an
equals sign, and by a run of characters after it; the run, and for some rules the lead too, gives
way to a mark. The rules apply one after another, each to the whole text.
-/

namespace Verdict.Redaction

/-- A part of a lead: one character, a run of blanks, or an optional character. -/
inductive Part where
  | one (p : Char → Bool)
  | blanks (least : Nat)
  | maybe (p : Char → Bool)

/-- A part at the beginning of a text, with what follows. -/
def Part.scan : Part → List Char → Option (List Char × List Char)
  | .one p, s =>
    match s with
    | c :: rest => if p c then some ([c], rest) else none
    | [] => none
  | .blanks least, s =>
    let run := s.takeWhile Text.isBlank
    if run.length < least then none else some (run, s.dropWhile Text.isBlank)
  | .maybe p, s =>
    match s with
    | c :: rest => if p c then some ([c], rest) else some ([], s)
    | [] => some ([], s)

/-- Parts one after another at the beginning of a text, with what follows. -/
def scanAll : List Part → List Char → Option (List Char × List Char)
  | [], s => some ([], s)
  | part :: parts, s => do
    let (taken, s) ← part.scan s
    let (more, s) ← scanAll parts s
    return (taken ++ more, s)

/-- A kind of secret. -/
structure Rule where
  lead : List Part
  /-- The characters of the secret. -/
  secret : Char → Bool
  /-- The least number of characters of the secret. -/
  least : Nat
  /-- The lead stays. -/
  keepsLead : Bool
  mark : String

/-- What stands for a secret at the beginning of a text, and the length of what it stands for. -/
def Rule.replacement? (r : Rule) (s : List Char) : Option (List Char × Nat) :=
  match scanAll r.lead s with
  | none => none
  | some (taken, rest) =>
    let secret := rest.takeWhile r.secret
    if secret.length < r.least then none
    else some ((if r.keepsLead then taken else []) ++ r.mark.toList, taken.length + secret.length)

/-- A text with the secrets of a rule replaced. `skip` characters belong to the secret already
replaced. -/
def Rule.applyFrom (r : Rule) : (skip : Nat) → List Char → List Char
  | _, [] => []
  | skip + 1, _ :: s => r.applyFrom skip s
  | 0, c :: s =>
    match r.replacement? (c :: s) with
    | some (replaced, length) => replaced ++ r.applyFrom (length - 1) s
    | none => c :: r.applyFrom 0 s

/-- A text with the secrets of a rule replaced. -/
def Rule.apply (r : Rule) (s : List Char) : List Char :=
  r.applyFrom 0 s

/-- The characters of a word, in either case if `anyCase`. Without regard to case, four letters
beyond ASCII also stand for a letter of ASCII. -/
def letters (anyCase : Bool) (word : String) : List Part :=
  word.toList.map fun expected => .one fun c =>
    if anyCase then
      c.toLower == expected || (expected == 'i' && (c.toNat == 0x130 || c.toNat == 0x131)) ||
        (expected == 's' && c.toNat == 0x17F) || (expected == 'k' && c.toNat == 0x212A)
    else c == expected

/-- A letter or digit of ASCII, an underscore or a hyphen. -/
def isTokenChar (c : Char) : Bool :=
  c.isAlphanum || c == '_' || c == '-'

/-- A quotation mark. -/
def isQuote (c : Char) : Bool :=
  c == '\'' || c == '"'

/-- The sign between a key and its value, blanks, and an opening quotation mark. -/
def assignment : List Part :=
  [.one fun c => c == '=' || c == ':', .blanks 0, .maybe isQuote]

/-- Tokens with a prefix that tells what they are for. -/
def prefixedToken : Rule where
  lead := letters false "gh" ++ [.one fun c => "pousr".toList.contains c] ++ letters false "_"
  secret c := c.isAlphanum || c == '_'
  least := 36
  keepsLead := false
  mark := "[REDACTED_GITHUB_TOKEN]"

/-- Tokens under the key `token`. -/
def assignedToken : Rule where
  lead := letters false "token" ++ assignment
  secret := isTokenChar
  least := 20
  keepsLead := true
  mark := "[REDACTED]"

/-- Bearer tokens. The four letters beyond ASCII that fold to a letter of ASCII belong to them. -/
def bearerToken : Rule where
  lead := letters true "bearer" ++ [.blanks 1]
  secret c := isTokenChar c || c == '.' || [0x130, 0x131, 0x17F, 0x212A].contains c.toNat
  least := 1
  keepsLead := true
  mark := "[REDACTED]"

/-- What follows the key `authorization`. -/
def authorization : Rule where
  lead := letters true "authorization" ++ assignment
  secret c := !Text.isBlank c && !isQuote c
  least := 1
  keepsLead := true
  mark := "[REDACTED]"

/-- The rules in the order in which they apply. -/
def rules : List Rule := [prefixedToken, assignedToken, bearerToken, authorization]

/-- A text without its secrets. -/
def redactChars (s : List Char) : List Char :=
  rules.foldl (fun s r => r.apply s) s

mutual

/-- A value without the secrets in its texts, in lists and in the entries of mappings. -/
def redact : Value → Value
  | .text s => .text (String.ofList (redactChars s.toList))
  | .list items => .list (redactItems items)
  | .mapping pairs => .mapping (redactPairs pairs)
  | v => v

/-- Items without secrets. -/
def redactItems : List Value → List Value
  | [] => []
  | v :: rest => redact v :: redactItems rest

/-- Pairs without secrets in their entries. -/
def redactPairs : List (Atom × Value) → List (Atom × Value)
  | [] => []
  | (k, v) :: rest => (k, redact v) :: redactPairs rest

end

end Verdict.Redaction
