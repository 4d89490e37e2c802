/-!
# Pattern: flags

The switches that change how a pattern is read and what it matches, and their letters.
-/

namespace Verdict.Pattern

/-- The switches of a pattern. `ascii` and `unicode` choose what letters, digits and blanks are; at
most one of them may be written. -/
structure Flags where
  ignoreCase : Bool := false
  multiline : Bool := false
  dotAll : Bool := false
  verbose : Bool := false
  ascii : Bool := false
  unicode : Bool := false
  template : Bool := false
deriving DecidableEq, Repr, Inhabited

namespace Flags

/-- The flags set in either. -/
def union (f g : Flags) : Flags where
  ignoreCase := f.ignoreCase || g.ignoreCase
  multiline := f.multiline || g.multiline
  dotAll := f.dotAll || g.dotAll
  verbose := f.verbose || g.verbose
  ascii := f.ascii || g.ascii
  unicode := f.unicode || g.unicode
  template := f.template || g.template

/-- The flags of the first that the second lacks. -/
def without (f g : Flags) : Flags where
  ignoreCase := f.ignoreCase && !g.ignoreCase
  multiline := f.multiline && !g.multiline
  dotAll := f.dotAll && !g.dotAll
  verbose := f.verbose && !g.verbose
  ascii := f.ascii && !g.ascii
  unicode := f.unicode && !g.unicode
  template := f.template && !g.template

/-- Some flag is set in both. -/
def meets (f g : Flags) : Bool :=
  (f.ignoreCase && g.ignoreCase) || (f.multiline && g.multiline) || (f.dotAll && g.dotAll) ||
    (f.verbose && g.verbose) || (f.ascii && g.ascii) || (f.unicode && g.unicode) ||
    (f.template && g.template)

/-- A choice of alphabet is among the flags. -/
def choosesAlphabet (f : Flags) : Bool :=
  f.ascii || f.unicode

/-- The flags inside a group that sets some and clears others. A new choice of alphabet replaces
the one around it. -/
def inside (around added removed : Flags) : Flags :=
  let kept := if added.choosesAlphabet then { around with ascii := false, unicode := false } else around
  (kept.union added).without removed

/-- The flag of a letter that may stand in a pattern. -/
def ofLetter? : Char → Option Flags
  | 'i' => some { ignoreCase := true }
  | 'm' => some { multiline := true }
  | 's' => some { dotAll := true }
  | 'x' => some { verbose := true }
  | 'a' => some { ascii := true }
  | 'u' => some { unicode := true }
  | 't' => some { template := true }
  | _ => none

/-- The flags of letters given beside a pattern: four of them count, others are ignored. -/
def ofLetters (letters : String) : Flags where
  ignoreCase := letters.toList.contains 'i'
  multiline := letters.toList.contains 'm'
  dotAll := letters.toList.contains 's'
  verbose := letters.toList.contains 'x'

end Flags

end Verdict.Pattern
