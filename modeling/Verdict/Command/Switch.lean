import Verdict.Table
import Verdict.Text.Search

/-!
# Commands: switches

The arguments of a command are switches and words. A switch is written by its name after two
hyphens or by its letter after one; several letters may share a hyphen. A switch that takes a value
takes the rest of its argument or the whole next argument, whatever that is. After an argument of
two hyphens all arguments are words.
-/

namespace Verdict.Command

/-- A switch. -/
structure Switch where
  name : String
  letter : Option Char := none
  takesValue : Bool := false
deriving DecidableEq, Repr

/-- A switch as it was given, with its value if it takes one. -/
structure Setting where
  switch : Switch
  value : String := ""
deriving DecidableEq, Repr

/-- What is wrong with the arguments. -/
inductive Misuse where
  | unknownSwitch (text : String)
  | noValue (text : String)
  | unwantedValue (text : String)
  | noCommand
  | unknownCommand (word : String)
  | noWord (name : String)
  | unwantedWord (words : List String)
  | noNumber (name text : String)
  | belowBound (name text bound : String)
deriving DecidableEq, Repr

/-- The wording of a misuse. -/
def Misuse.message : Misuse → String
  | .unknownSwitch text => "No such option: " ++ text
  | .noValue text => "Option '" ++ text ++ "' requires an argument."
  | .unwantedValue text => "Option '" ++ text ++ "' does not take a value."
  | .noCommand => "Missing command."
  | .unknownCommand word => "No such command '" ++ word ++ "'."
  | .noWord name => "Missing argument '" ++ name ++ "'."
  | .unwantedWord words =>
    "Got unexpected extra argument" ++ (if words.length = 1 then "" else "s") ++ " (" ++
      " ".intercalate words ++ ")"
  | .noNumber name text =>
    "Invalid value for '" ++ name ++ "': '" ++ text ++ "' is not a valid float."
  | .belowBound name text bound =>
    "Invalid value for '" ++ name ++ "': " ++ text ++ " is not in the range x>=" ++ bound ++ "."

/-- What arguments hold. -/
structure Arguments where
  settings : List Setting := []
  words : List String := []
deriving DecidableEq, Repr

namespace Arguments

/-- The value of a switch: of several, the last one. -/
def value? (a : Arguments) (s : Switch) : Option String :=
  (a.settings.reverse.find? (·.switch == s)).map (·.value)

/-- A switch is given. -/
def has (a : Arguments) (s : Switch) : Bool :=
  a.settings.any (·.switch == s)

/-- Settings before what further arguments hold. -/
def after (a : Arguments) (settings : List Setting) : Arguments :=
  { a with settings := settings ++ a.settings }

/-- A word before what further arguments hold. -/
def afterWord (a : Arguments) (word : String) : Arguments :=
  { a with words := word :: a.words }

end Arguments

/-- What a single argument holds: settings, and a switch whose value is the next argument. -/
abbrev Begun := List Setting × Option Switch

/-- The switches of the letters after a hyphen. -/
def readLetters (known : List Switch) : List Char → Except Misuse Begun
  | [] => .ok ([], none)
  | c :: rest =>
    match known.find? (·.letter == some c) with
    | none => .error (.unknownSwitch (String.ofList ['-', c]))
    | some s =>
      if !s.takesValue then
        (readLetters known rest).map fun (settings, open_) => (⟨s, ""⟩ :: settings, open_)
      else if rest.isEmpty then .ok ([], some s)
      else .ok ([⟨s, String.ofList rest⟩], none)

/-- The switch of the name after two hyphens, which may be followed by an equals sign and a value. -/
def readName (known : List Switch) (s : List Char) : Except Misuse Begun :=
  let name := String.ofList (s.takeWhile (· != '='))
  match known.find? (·.name == name), s.dropWhile (· != '=') with
  | none, _ => .error (.unknownSwitch ("--" ++ name))
  | some s, [] => if s.takesValue then .ok ([], some s) else .ok ([⟨s, ""⟩], none)
  | some s, _ :: value =>
    if s.takesValue then .ok ([⟨s, String.ofList value⟩], none)
    else .error (.unwantedValue ("--" ++ name))

/-- What an argument is. -/
inductive Argument where
  | word
  /-- Two hyphens, after which all arguments are words. -/
  | mark
  | name (text : List Char)
  | letters (text : List Char)

/-- What an argument is by its first characters. A single hyphen is a word. -/
def Argument.of (text : String) : Argument :=
  match text.toList with
  | ['-', '-'] => .mark
  | '-' :: '-' :: rest => .name rest
  | ['-'] => .word
  | '-' :: rest => .letters rest
  | _ => .word

/-- What arguments hold. Switches may come after words only if `mixed`. -/
def Arguments.read (known : List Switch) (mixed : Bool) : List String → Except Misuse Arguments
  | [] => .ok {}
  | argument :: rest =>
    let goOn (begun : Begun) : Except Misuse Arguments :=
      match begun.2, rest with
      | none, rest => do return (← read known mixed rest).after begun.1
      | some s, value :: rest => do return (← read known mixed rest).after (begun.1 ++ [⟨s, value⟩])
      | some s, [] => .error (.noValue ("--" ++ s.name))
    match Argument.of argument with
    | .mark => .ok { words := rest }
    | .name text => readName known text >>= goOn
    | .letters text => readLetters known text >>= goOn
    | .word =>
      if mixed then (read known mixed rest).map (·.afterWord argument)
      else .ok { words := argument :: rest }

end Verdict.Command
