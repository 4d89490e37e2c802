import Verdict.Pattern.Alternatives
import Verdict.Pattern.Escape
import Verdict.Text.Alphanumeric

/-!
# Pattern: reading

The grammar of patterns. A pattern is a choice of sequences; a sequence is read item by item, and a
quantifier takes the item before it. Reading is by recursion on a measure of fuel, which the length
of the text bounds: every step but the entry into a choice or a sequence takes a character.
-/

namespace Verdict.Pattern

namespace Reading

/-! ### Sets of characters -/

/-- The last character of a range, after the hyphen. -/
def rangeEnd (first : Token) (member : Member) (last : Token) : Reading Member := do
  let lastMember ←
    match last with
    | .escaped c => setEscape c
    | .plain c => pure (.code c.toNat)
  let bad := failBack (.badRange first.text last.text) (first.chars.length + 1 + last.chars.length)
  match member, lastMember with
  | .code m, .code n => if n < m then bad else return .range m n
  | _, _ => bad

/-- The members of a set up to the closing bracket, which counts as a member if it comes first. -/
def setMembers (start : Nat) : Nat → List Member → Reading (List Member)
  | 0, _ => failAt .unterminatedSet start
  | fuel + 1, members => do
    match ← take with
    | none => failAt .unterminatedSet start
    | some first =>
      if first = .plain ']' && !members.isEmpty then return members
      else
        let member ←
          match first with
          | .escaped c => setEscape c
          | .plain c => pure (.code c.toNat)
        if ← accept '-' then
          match ← take with
          | none => failAt .unterminatedSet start
          | some last =>
            if last = .plain ']' then return members ++ [member, .code '-'.toNat]
            else
              let range ← rangeEnd first member last
              setMembers start fuel (members ++ [range])
        else setMembers start fuel (members ++ [member])

/-- A set, after its opening bracket at `start`. A set of one character is that character. -/
def set (start : Nat) : Reading Single := do
  let negated ← accept '^'
  let members ← setMembers start ((← get).rest.length + 1) []
  match members.eraseDups, negated with
  | [.code n], false => return .code n
  | [.code n], true => return .otherThan n
  | members, negated => return .set negated members

/-! ### Quantifiers -/

/-- No repetition may have so many rounds. -/
def tooManyRounds : Nat := 4294967295

/-- A bound of a repetition as written. -/
def bound (digits : List Char) : Reading (Option Nat) :=
  if digits.isEmpty then return none
  else if Number.maxIntegerDigits < digits.length then
    throw ⟨.tooManyDigits digits.length, none⟩
  else
    let n := Number.natOfDigits digits
    if tooManyRounds ≤ n then throw ⟨.repetitionTooLarge, none⟩ else return some n

/-- The bounds in braces, after the opening one; nothing is taken if they are not well formed. -/
def bracedBounds? (start : Nat) : Reading (Option (Nat × Option Nat)) := do
  let before ← get
  if before.next? = some (.plain '\x7d') then return none
  let low ← takeWhile Char.isDigit
  let high ← if ← accept ',' then takeWhile Char.isDigit else pure low
  if ← accept '\x7d' then
    let least ← bound low
    let most ← bound high
    if most.any (· < least.getD 0) then failAt .boundsCrossed start
    else return some (least.getD 0, most)
  else
    StateT.set before
    settle
    return none

/-- The bounds of a quantifier that begins with the given character, which ends at `after`; none if
the character stands for itself. -/
def quantifier? (c : Char) (after : Nat) : Reading (Option (Nat × Option Nat)) :=
  match c with
  | '?' => return some (0, some 1)
  | '*' => return some (0, none)
  | '+' => return some (1, none)
  | _ => bracedBounds? after

/-- How the rounds of a quantifier are chosen, by the sign after it. -/
def greed : Reading Greed := do
  if ← accept '?' then return .lazy
  else if ← accept '+' then return .possessive
  else return .greedy

/-- The item before a quantifier that begins at `start`, as the body of a repetition. -/
def repeatable (start : Nat) (item : Option Node) : Reading Node :=
  match item with
  | none | some (.anchor _) => failAt .nothingToRepeat start
  | some (.repetition ..) => failAt .multipleRepeat start
  | some (.group none added removed body) =>
    if added = {} ∧ removed = {} then return body else return .group none added removed body
  | some item => return item

/-! ### Flags -/

/-- What follows the flags of a group is neither a flag nor the sign that should come. -/
def flagDefect (missing : Defect) : Token → Defect
  | .plain c => if Text.isLetter c then .unknownFlag else missing
  | .escaped _ => missing

/-- The flags that a group turns on, beginning with the given letter, and the sign after them. -/
def flagsOn : Nat → Char → Flags → Reading (Flags × Char)
  | 0, _, _ => failBack .missingFlagEnd
  | fuel + 1, c, flags => do
    if c == 'L' then failBack .localeFlag
    let flag := (Flags.ofLetter? c).getD {}
    let flags := flags.union flag
    if flag.choosesAlphabet && flags.ascii && flags.unicode then failBack .alphabetConflict
    match ← take with
    | none => failBack .missingFlagEnd
    | some (.plain ')') => return (flags, ')')
    | some (.plain '-') => return (flags, '-')
    | some (.plain ':') => return (flags, ':')
    | some t =>
      match t with
      | .plain d =>
        if (Flags.ofLetter? d).isSome || d == 'L' then flagsOn fuel d flags
        else failBack (flagDefect .missingFlagEnd t) 1
      | .escaped _ => failBack .missingFlagEnd 2

/-- The flags that a group turns off, beginning with the given letter, up to the colon. -/
def flagsOff : Nat → Char → Flags → Reading Flags
  | 0, _, _ => failBack .missingColon
  | fuel + 1, c, flags => do
    let flag := (Flags.ofLetter? c).getD {}
    if flag.choosesAlphabet || c == 'L' then failBack .alphabetOff
    let flags := flags.union flag
    match ← take with
    | none => failBack .missingColon
    | some (.plain ':') => return flags
    | some t =>
      match t with
      | .plain d =>
        if (Flags.ofLetter? d).isSome || d == 'L' then flagsOff fuel d flags
        else failBack (flagDefect .missingColon t) 1
      | .escaped _ => failBack .missingColon 2

/-- What the flags in a group are for: the whole pattern, or the group. -/
inductive FlagScope where
  | whole
  | group (added removed : Flags)

/-- The flags of a group, beginning with the given sign. Flags for the whole pattern are set. -/
def flagScope (c : Char) : Reading FlagScope := do
  let fuel := (← get).rest.length + 1
  let (added, sign) ← if c == '-' then pure ({}, '-') else flagsOn fuel c {}
  if sign == ')' then
    modify fun s => { s with flags := s.flags.union added }
    return .whole
  if added.template then failBack .globalFlagOn 1
  let removed ←
    if sign == '-' then
      match ← take with
      | none => failBack .missingFlag
      | some (.plain d) =>
        if (Flags.ofLetter? d).isSome || d == 'L' then flagsOff fuel d {}
        else failBack (flagDefect .missingFlag (.plain d)) 1
      | some (.escaped _) => failBack .missingFlag 2
    else pure {}
  if removed.template then failBack .globalFlagOff 1
  if added.meets removed then failBack .flagOnAndOff 1
  return .group added removed

/-! ### Groups -/

/-- What the signs after an opening parenthesis announce. -/
inductive Opening where
  | capture (name : Option String)
  | scope (added removed : Flags)
  | atomic
  | look (behind negated : Bool)
  | condition (group : Nat)
  | item (node : Node)
  | comment
  | wholeFlags

/-- The first group number that is too large. -/
def groupLimit : Nat := 1073741823

/-- Skips a comment up to its closing parenthesis. -/
def comment (start : Nat) : Nat → Reading Unit
  | 0 => failAt .unterminatedComment start
  | fuel + 1 => do
    match ← take with
    | none => failAt .unterminatedComment start
    | some t => if t = .plain ')' then return else comment start fuel

/-- A reference to a group by name, after its opening signs. -/
def namedReference : Reading Node := do
  let name ← takeGroupName ')'
  let s ← get
  match s.names.get? name with
  | none => failBack (.unknownGroupName name) (name.length + 1)
  | some number =>
    match s.closedWidth? number with
    | none => failBack .openGroup (name.length + 1)
    | some width =>
      requireVisible number
      return .backReference number width

/-- The group that a condition asks for, by name or by number. -/
def conditionGroup : Reading Nat := do
  let name ← takeUntil ')' "group name"
  let s ← get
  let back := name.length + 1
  let number ←
    if Text.isIdentifier name.toList then
      match s.names.get? name with
      | none => failBack (.unknownGroupName name) back
      | some number => pure number
    else
      match Number.readInteger name with
      | .ok (.ofNat 0) => failBack .zeroGroup back
      | .ok (.ofNat n) =>
        if groupLimit ≤ n then failBack (.invalidGroup n) back
        else
          if !s.tests.any (·.1 == n) then
            modify fun s => { s with tests := s.tests ++ [(n, s.position - back)] }
          pure n
      | _ => failBack (.badGroupName name) back
  requireVisible number
  return number

/-- What an opening parenthesis at `start` announces. -/
def opening (start : Nat) : Reading Opening := do
  if !(← accept '?') then return .capture none
  match ← take with
  | none => failBack .unexpectedEnd
  | some (.plain 'P') =>
    if ← accept '<' then return .capture (some (← takeGroupName '>'))
    else if ← accept '=' then return .item (← namedReference)
    else
      match ← take with
      | none => failBack .unexpectedEnd
      | some t => failBack (.unknownExtension ("P" ++ t.text)) (t.chars.length + 2)
  | some (.plain ':') => return .scope {} {}
  | some (.plain '#') =>
    comment start ((← get).rest.length + 1)
    return .comment
  | some (.plain '=') => return .look false false
  | some (.plain '!') => return .look false true
  | some (.plain '<') =>
    match ← take with
    | none => failBack .unexpectedEnd
    | some (.plain '=') => return .look true false
    | some (.plain '!') => return .look true true
    | some t => failBack (.unknownExtension ("<" ++ t.text)) (t.chars.length + 2)
  | some (.plain '(') => return .condition (← conditionGroup)
  | some (.plain '>') => return .atomic
  | some (.plain c) =>
    if (Flags.ofLetter? c).isSome || c == 'L' || c == '-' then
      match ← flagScope c with
      | .whole => return .wholeFlags
      | .group added removed => return .scope added removed
    else failBack (.unknownExtension c.toString) 2
  | some (.escaped c) => failBack (.unknownExtension (Token.escaped c).text) 3

/-- Takes the parenthesis that closes a group opened at `start`. -/
def close (start : Nat) : Reading Unit := do
  if !(← accept ')') then failAt .unterminatedGroup start

/-! ### Sequences and choices -/

/-- Blanks that a verbose pattern may hold. -/
def isPadding (c : Char) : Bool :=
  c == ' ' || c == '\t' || c == '\n' || c == '\r' || c.toNat == 0x0B || c.toNat == 0x0C

/-- Skips the rest of a line. -/
def lineComment : Nat → Reading Unit
  | 0 => return
  | fuel + 1 => do
    match ← take with
    | none => return
    | some t => if t = .plain '\n' then return else lineComment fuel

/-- Notes where an assertion about the text before begins, and gives what was noted before. -/
def enterLookbehind : Reading (Option Nat) := do
  let s ← get
  StateT.set { s with behind := some (s.behind.getD s.nextGroup) }
  return s.behind

mutual

/-- A choice of sequences. At the top of a pattern each sequence follows the verbose flag as set by
then, and the first may set flags. -/
def choice : (fuel : Nat) → (verbose top : Bool) → Reading Node
  | 0, _, _ => failBack .unexpectedEnd
  | fuel + 1, verbose, top => do
    let first ← sequence fuel verbose top []
    return .joined (first :: (← alternatives fuel verbose top))

/-- The further sequences of a choice. -/
def alternatives : (fuel : Nat) → (verbose top : Bool) → Reading (List Node)
  | 0, _, _ => return []
  | fuel + 1, verbose, top => do
    if ← accept '|' then
      let s ← get
      let verbose := if top then s.flags.verbose else verbose
      let next ← sequence fuel verbose false []
      return next :: (← alternatives fuel verbose top)
    else return []

/-- The items of a sequence, with those already read, the last one first. -/
def sequence : (fuel : Nat) → (verbose first : Bool) → List Node → Reading Node
  | 0, _, _, items => return .ungrouped items.reverse
  | fuel + 1, verbose, first, items => do
    match ← peek with
    | none => return .ungrouped items.reverse
    | some (.escaped c) =>
      discard take
      sequence fuel verbose first ((← nodeEscape c) :: items)
    | some (.plain c) =>
      if c == '|' || c == ')' then return .ungrouped items.reverse
      let start := (← get).position
      discard take
      if verbose && isPadding c then sequence fuel verbose first items
      else if verbose && c == '#' then
        lineComment ((← get).rest.length + 1)
        sequence fuel verbose first items
      else if c == '[' then
        sequence fuel verbose first (.single (← set start) :: items)
      else if c == '*' || c == '+' || c == '?' || c == '\x7b' then
        match ← quantifier? c (start + 1) with
        | none => sequence fuel verbose first (.single (.code c.toNat) :: items)
        | some (low, high) =>
          let body ← repeatable start items.head?
          let greed ← greed
          sequence fuel verbose first (.repetition greed low high body :: items.tail)
      else if c == '.' then sequence fuel verbose first (.single .any :: items)
      else if c == '^' then sequence fuel verbose first (.anchor .start :: items)
      else if c == '$' then sequence fuel verbose first (.anchor .stop :: items)
      else if c == '(' then
        match ← opening start with
        | .comment => sequence fuel verbose first items
        | .wholeFlags =>
          if !first || !items.isEmpty then failAt .lateGlobalFlags start
          else
            let verbose := (← get).flags.verbose
            sequence fuel verbose first items
        | .item node => sequence fuel verbose first (node :: items)
        | .look behind negated =>
          let outer ← if behind then enterLookbehind else pure none
          let body ← choice fuel verbose false
          if behind then modify fun s => { s with behind := outer }
          close start
          sequence fuel verbose first (.look behind negated body :: items)
        | .condition group =>
          let yes ← sequence fuel verbose false []
          let no ←
            if ← accept '|' then
              let no ← sequence fuel verbose false []
              if (← peek) = some (.plain '|') then failBack .thirdBranch
              pure no
            else pure .empty
          close start
          sequence fuel verbose first (.conditional group yes no :: items)
        | .atomic =>
          let body ← choice fuel verbose false
          close start
          sequence fuel verbose first (.atomic body :: items)
        | .scope added removed =>
          let body ← choice fuel ((verbose || added.verbose) && !removed.verbose) false
          close start
          sequence fuel verbose first (.group none added removed body :: items)
        | .capture name =>
          let number ← openGroup name
          let body ← choice fuel verbose false
          close start
          closeGroup number body.width
          sequence fuel verbose first (.group (some number) {} {} body :: items)
      else sequence fuel verbose first (.single (.code c.toNat) :: items)

end

/-- A whole pattern: nothing may be left, and conditions ask only for groups that exist. -/
def pattern (fuel : Nat) : Reading Node := do
  settle
  let body ← choice fuel (← get).flags.verbose true
  let s ← get
  if s.flags.ascii && s.flags.unicode then throw ⟨.alphabetClash, none⟩
  if !s.rest.isEmpty then failBack .unbalanced
  match s.tests.find? fun (group, _) => s.nextGroup ≤ group with
  | some (group, position) => failAt (.invalidGroup group) position
  | none => return body

end Reading

/-! ### Whole patterns -/

/-- The first distance that is too far to look back. -/
def tooFarBehind : Nat := 2147483648

/-- Some part looks back too far. A pattern with one is sound but cannot be used. -/
def Node.looksTooFar : Node → Bool
  | .empty | .single _ | .anchor _ | .backReference .. => false
  | .group _ _ _ body | .atomic body | .repetition _ _ _ body => body.looksTooFar
  | .sequence first rest | .choice first rest | .conditional _ first rest =>
    first.looksTooFar || rest.looksTooFar
  | .look behind _ body => (behind && tooFarBehind ≤ body.width.low) || body.looksTooFar

/-- What the matcher cannot do: look back by a varying distance, or repeat in a template. -/
def Node.defect? (template : Bool) : Node → Option Defect
  | .empty | .single _ | .anchor _ | .backReference .. => none
  | .group _ _ _ body | .atomic body => body.defect? template
  | .sequence first rest | .choice first rest | .conditional _ first rest =>
    first.defect? template <|> rest.defect? template
  | .repetition greed _ _ body =>
    if template then
      some (.templateRepeat (match greed with
        | .greedy => "MAX_REPEAT"
        | .lazy => "MIN_REPEAT"
        | .possessive => "POSSESSIVE_REPEAT"))
    else body.defect? template
  | .look behind _ body =>
    if behind && body.width.fixed?.isNone then some .variableLookbehind
    else body.defect? template

/-- The pattern of a text, with flags given beside it. -/
def compile (source : String) (flags : Flags) : Except Fault Pattern := do
  let chars := source.toList
  let (body, s) ← (Reading.pattern (2 * chars.length + 4)).run ⟨chars.length, chars, flags, [], [], none, []⟩
  let flags := if s.flags.ascii then s.flags else { s.flags with unicode := true }
  match body.defect? flags.template with
  | some defect => throw ⟨defect, none⟩
  | none =>
    if body.looksTooFar then throw ⟨.distantLookbehind, none⟩
    else return ⟨source, flags, s.widths.length, body⟩

end Verdict.Pattern
