import Verdict.File.Path
import Verdict.Table
import Verdict.Text.Quoted
import Verdict.Text.Utf8

/-!
# Files: trees

A tree of directories, files and symbolic links, and the resolution of paths in it. Following a path
goes through links; how many of them is bounded, so a cycle of links is refused.
-/

namespace Verdict.File

/-- What a name in a directory stands for. -/
inductive Node where
  | file (bytes : List UInt8)
  | directory (entries : List (String × Node))
  | link (target : String)
deriving Inhabited

/-- Why a path leads nowhere, or a file cannot be read. -/
inductive Fault where
  | missing
  | notDirectory
  | isDirectory
  | nameTooLong
  | tooManyLinks
deriving DecidableEq, Repr

namespace Fault

/-- The number of a fault. -/
def number : Fault → Nat
  | .missing => 2
  | .notDirectory => 20
  | .isDirectory => 21
  | .nameTooLong => 36
  | .tooManyLinks => 40

/-- The words for a fault. -/
def words : Fault → String
  | .missing => "No such file or directory"
  | .notDirectory => "Not a directory"
  | .isDirectory => "Is a directory"
  | .nameTooLong => "File name too long"
  | .tooManyLinks => "Too many levels of symbolic links"

/-- The wording of a fault at a path. -/
def message (f : Fault) (path : String) : String :=
  "[Errno " ++ toString f.number ++ "] " ++ f.words ++ ": " ++ Text.quoted path

/-- The fault only says that nothing is there. -/
def isAbsence : Fault → Bool
  | .missing | .notDirectory | .tooManyLinks => true
  | .isDirectory | .nameTooLong => false

end Fault

namespace Node

/-- The node at the end of names, without following links. -/
def at? : Node → List String → Option Node
  | n, [] => some n
  | .directory entries, name :: rest => (Table.get? entries name).bind (at? · rest)
  | _, _ :: _ => none

/-- The tree with a node put at the end of names; directories on the way are made. -/
def put : (tree : Node) → (names : List String) → (node : Node) → Node
  | _, [], node => node
  | .directory entries, name :: rest, node =>
    .directory (Table.insert entries name
      (put ((Table.get? entries name).getD (.directory [])) rest node))
  | _, name :: rest, node => .directory [(name, put (.directory []) rest node)]

end Node

/-- The most bytes of a name. -/
def maxNameBytes : Nat := 255

/-- The most bytes of a path. -/
def maxPathBytes : Nat := 4095

/-- The most links that a path may lead through. -/
def maxLinks : Nat := 40

/-- The path is too long to lead anywhere. -/
def Path.isTooLong (p : Path) : Bool :=
  maxPathBytes < p.text.utf8ByteSize

/-- The bytes of a file that is opened by a path. -/
def openedBy (path : Path) (bytes : List UInt8) : Except Fault (List UInt8) :=
  if path.isTooLong then .error .nameTooLong else .ok bytes

mutual

/-- The number of links in a tree. -/
def Node.countLinks : Node → Nat
  | .file _ => 0
  | .directory entries => countLinksIn entries
  | .link _ => 1

/-- The number of links below the entries of a directory. -/
def countLinksIn : List (String × Node) → Nat
  | [] => 0
  | (_, node) :: rest => node.countLinks + countLinksIn rest

end

/-- The places of existing nodes that steps lead to from a place, each given by the names from the
root of the tree. Links are followed, the last one only if `follows`. -/
def trace (root : Node) (follows : Bool) (links : Nat) (place : List String) :
    List String → Except Fault (List String)
  | [] => .ok place
  | name :: rest =>
    match root.at? place with
    | some (.directory entries) =>
      if name == ".." then trace root follows links place.dropLast rest
      else if name == "." then trace root follows links place rest
      else if maxNameBytes < name.utf8ByteSize then .error .nameTooLong
      else match Table.get? entries name with
        | none => .error .missing
        | some (.link target) =>
          if rest.isEmpty && !follows then .ok (place ++ [name])
          else match links with
            | 0 => .error .tooManyLinks
            | links + 1 =>
              trace root follows links (if (Path.ofText target).isAbsolute then [] else place)
                (Path.stepsOf target ++ rest)
        | some _ => trace root follows links (place ++ [name]) rest
    | _ => .error .notDirectory
termination_by names => (links, names.length)

/-- The place that steps lead to from a place, whether or not something is there. Any number of links
is followed, but none while it is being followed: then the steps from it on are left as they are. The
depth bounds how many links are followed one inside the other. -/
def settle (root : Node) (depth : Nat) (followed : List (List String)) (place : List String) :
    List String → Except (List String) (List String)
  | [] => .ok place
  | name :: rest =>
    if name == ".." then settle root depth followed place.dropLast rest
    else if name == "." then settle root depth followed place rest
    else
      let here := place ++ [name]
      match root.at? here with
      | some (.link target) =>
        match depth with
        | 0 => .error (here ++ rest)
        | depth + 1 =>
          if followed.contains here then .error (here ++ rest)
          else
            match settle root depth (here :: followed)
                (if (Path.ofText target).isAbsolute then [] else place) (Path.stepsOf target) with
            | .ok reached => settle root (depth + 1) followed reached rest
            | .error stopped => .error (stopped ++ rest)
      | _ => settle root depth followed here rest
termination_by names => (depth, names.length)

/-- A tree and the directory from which relative paths lead. -/
structure System where
  root : Node := .directory []
  workingDirectory : List String := []
deriving Inhabited

namespace System

/-- The working directory as a path. -/
def workingPath (fs : System) : Path :=
  ⟨"/", fs.workingDirectory⟩

/-- The place of the existing node that a path leads to. -/
def locate (fs : System) (path : Path) (follows : Bool := true) : Except Fault (List String) :=
  if path.isTooLong then .error .nameTooLong
  else trace fs.root follows maxLinks (if path.isAbsolute then [] else fs.workingDirectory) path.names

/-- The node that a path leads to, which is no link. -/
def find (fs : System) (path : Path) : Except Fault Node := do
  let place ← fs.locate path
  match fs.root.at? place with
  | some n => return n
  | none => .error .missing

/-- The absolute path without links to where a path leads, whether or not something is there; none if
the way ends in a cycle of links, with the path at which it does. -/
def resolve (fs : System) (path : Path) : Except Path Path :=
  match settle fs.root (fs.root.countLinks + 1) []
      (if path.isAbsolute then [] else fs.workingDirectory) path.names with
  | .ok place => .ok ⟨"/", place⟩
  | .error steps =>
    let stopped : Path := ⟨"/", Path.withoutSteps steps⟩
    match fs.find stopped with
    | .error .tooManyLinks => .error stopped
    | _ => .ok stopped

/-- A path that cannot be asked about holds a character that no path may hold. -/
def isAskable (path : Path) : Bool :=
  path.names.all fun n => !n.toList.contains '\x00'

/-- Something is at the end of a path. A fault other than absence is passed on. -/
def exists? (fs : System) (path : Path) : Except Fault Bool :=
  if !isAskable path then .ok false
  else match fs.find path with
    | .ok _ => .ok true
    | .error fault => if fault.isAbsence then .ok false else .error fault

/-- A directory is at the end of a path. -/
def isDirectory (fs : System) (path : Path) : Bool :=
  match fs.find path with
  | .ok (.directory _) => true
  | _ => false

/-- The bytes of the file at the end of a path. -/
def read (fs : System) (path : Path) : Except Fault (List UInt8) := do
  match ← fs.find path with
  | .file bytes => return bytes
  | .directory _ => .error .isDirectory
  | .link _ => .error .tooManyLinks

end System

end Verdict.File
