import Verdict.Number.Reading
import Verdict.Text.Quoted

/-!
# Pattern: faults

What can be wrong with the text of a pattern, and how it is worded. Most defects are reported with
their position, and with line and column if the text has several lines.
-/

namespace Verdict.Pattern

/-- What is wrong with a pattern. -/
inductive Defect where
  | trailingBackslash
  | badEscape (text : String)
  | incompleteEscape (text : String)
  | octalOutOfRange (text : String)
  | missingBrace
  | missingName (noun : String)
  | unterminatedName (terminator : Char)
  | undefinedCharacter (name : String)
  | openGroup
  | groupInLookbehind
  | invalidGroup (number : Nat)
  | zeroGroup
  | badGroupName (name : String)
  | unknownGroupName (name : String)
  | groupRedefined (name : String) (number earlier : Nat)
  | unterminatedSet
  | badRange (first last : String)
  | nothingToRepeat
  | multipleRepeat
  | boundsCrossed
  | unexpectedEnd
  | unknownExtension (text : String)
  | unterminatedComment
  | unterminatedGroup
  | thirdBranch
  | lateGlobalFlags
  | localeFlag
  | alphabetConflict
  | unknownFlag
  | missingFlag
  | missingFlagEnd
  | missingColon
  | globalFlagOn
  | globalFlagOff
  | alphabetOff
  | flagOnAndOff
  | unbalanced
  | variableLookbehind
  | distantLookbehind
  | templateRepeat (operation : String)
  | repetitionTooLarge
  | tooManyDigits (count : Nat)
  | codeTooLarge
  | alphabetClash
deriving DecidableEq, Repr

/-- The wording of a defect. -/
def Defect.message : Defect → String
  | .trailingBackslash => "bad escape (end of pattern)"
  | .badEscape text => "bad escape " ++ text
  | .incompleteEscape text => "incomplete escape " ++ text
  | .octalOutOfRange text => "octal escape value " ++ text ++ " outside of range 0-0o377"
  | .missingBrace => "missing \x7b"
  | .missingName noun => "missing " ++ noun
  | .unterminatedName terminator => "missing " ++ terminator.toString ++ ", unterminated name"
  | .undefinedCharacter name => "undefined character name " ++ Text.quoted name
  | .openGroup => "cannot refer to an open group"
  | .groupInLookbehind => "cannot refer to group defined in the same lookbehind subpattern"
  | .invalidGroup number => "invalid group reference " ++ toString number
  | .zeroGroup => "bad group number"
  | .badGroupName name => "bad character in group name " ++ Text.quoted name
  | .unknownGroupName name => "unknown group name " ++ Text.quoted name
  | .groupRedefined name number earlier =>
    "redefinition of group name " ++ Text.quoted name ++ " as group " ++ toString number ++
      "; was group " ++ toString earlier
  | .unterminatedSet => "unterminated character set"
  | .badRange first last => "bad character range " ++ first ++ "-" ++ last
  | .nothingToRepeat => "nothing to repeat"
  | .multipleRepeat => "multiple repeat"
  | .boundsCrossed => "min repeat greater than max repeat"
  | .unexpectedEnd => "unexpected end of pattern"
  | .unknownExtension text => "unknown extension ?" ++ text
  | .unterminatedComment => "missing ), unterminated comment"
  | .unterminatedGroup => "missing ), unterminated subpattern"
  | .thirdBranch => "conditional backref with more than two branches"
  | .lateGlobalFlags => "global flags not at the start of the expression"
  | .localeFlag => "bad inline flags: cannot use 'L' flag with a str pattern"
  | .alphabetConflict => "bad inline flags: flags 'a', 'u' and 'L' are incompatible"
  | .unknownFlag => "unknown flag"
  | .missingFlag => "missing flag"
  | .missingFlagEnd => "missing -, : or )"
  | .missingColon => "missing :"
  | .globalFlagOn => "bad inline flags: cannot turn on global flag"
  | .globalFlagOff => "bad inline flags: cannot turn off global flag"
  | .alphabetOff => "bad inline flags: cannot turn off flags 'a', 'u' and 'L'"
  | .flagOnAndOff => "bad inline flags: flag turned on and off"
  | .unbalanced => "unbalanced parenthesis"
  | .variableLookbehind => "look-behind requires fixed-width pattern"
  | .distantLookbehind => "invalid SRE code"
  | .templateRepeat operation => "internal: unsupported template operator " ++ operation
  | .repetitionTooLarge => "the repetition number is too large"
  | .tooManyDigits count => (Number.IntegerFault.tooManyDigits count).message
  | .codeTooLarge => "Python int too large to convert to C int"
  | .alphabetClash => "ASCII and UNICODE flags are incompatible"

/-- The kinds of fault that are told apart by those who meet one. -/
inductive FaultKind where
  | malformed
  | tooLarge
  | invalid
  | unusable
deriving DecidableEq, Repr

/-- A limit that is passed, a value that cannot be, and a pattern that is sound but cannot be used
are kinds of their own. -/
def Defect.kind : Defect → FaultKind
  | .repetitionTooLarge | .codeTooLarge => .tooLarge
  | .tooManyDigits _ | .alphabetClash => .invalid
  | .distantLookbehind => .unusable
  | _ => .malformed

/-- A defect of a pattern and the place where it was noticed, if it has one. -/
structure Fault where
  defect : Defect
  position : Option Nat := none
deriving DecidableEq, Repr

/-- Line and column of a position, both from one. -/
def lineAndColumn (source : List Char) (position : Nat) : Nat × Nat :=
  let before := source.take position
  (before.count '\n' + 1, (before.reverse.takeWhile (· != '\n')).length + 1)

/-- The wording of a fault in a pattern with the given text. -/
def Fault.message (fault : Fault) (source : String) : String :=
  match fault.position with
  | none => fault.defect.message
  | some position =>
    let text := fault.defect.message ++ " at position " ++ toString position
    if source.toList.contains '\n' then
      let (line, column) := lineAndColumn source.toList position
      text ++ " (line " ++ toString line ++ ", column " ++ toString column ++ ")"
    else text

end Verdict.Pattern
