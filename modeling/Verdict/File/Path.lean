import Verdict.Text.Search

/-!
# Files: paths

A path is a root mark, absent for a relative path, and the names that lead from there. Empty names
and single points are left out.
-/

namespace Verdict.File

/-- A path. -/
structure Path where
  root : String
  names : List String
deriving DecidableEq, Repr

namespace Path

/-- The root mark of a text: a separator, or exactly two of them. -/
def rootOf (s : List Char) : String :=
  match s with
  | '/' :: '/' :: '/' :: _ => "/"
  | '/' :: '/' :: _ => "//"
  | '/' :: _ => "/"
  | _ => ""

/-- The path that a text writes. -/
def ofText (s : String) : Path :=
  ⟨rootOf s.toList,
    ((Text.splitAt '/' s.toList).map String.ofList).filter fun n => n != "" && n != "."⟩

/-- The steps that a text takes from its root. A separator or a point at the end is a step to the
same place, which has to be a directory. -/
def stepsOf (s : String) : List String :=
  let parts := (Text.splitAt '/' s.toList).map String.ofList
  let steps := parts.filter (· != "")
  if parts.getLast? == some "" then steps ++ ["."] else steps

/-- The names without the steps to the same or the upper directory, without regard to links. -/
def withoutSteps (names : List String) : List String :=
  names.foldl (fun kept name =>
    if name == ".." then kept.dropLast else if name == "." then kept else kept ++ [name]) []

/-- The text of a path. -/
def text (p : Path) : String :=
  let s := p.root ++ "/".intercalate p.names
  if s.isEmpty then "." else s

/-- The path is absolute. -/
def isAbsolute (p : Path) : Bool :=
  p.root != ""

/-- A path taken from another; an absolute path stays as it is. -/
def join (p q : Path) : Path :=
  if q.isAbsolute then q else { p with names := p.names ++ q.names }

/-- A name below a path. -/
def child (p : Path) (name : String) : Path :=
  { p with names := p.names ++ [name] }

/-- The last name of a path. -/
def name (p : Path) : String :=
  p.names.getLast?.getD ""

/-- A name without its last extension. A point at the beginning or end begins no extension. -/
def stemOf (name : String) : String :=
  let reversed := name.toList.reverse
  let extension := reversed.takeWhile (· != '.')
  let before := (reversed.dropWhile (· != '.')).drop 1
  if extension.isEmpty || before.isEmpty then name else String.ofList before.reverse

/-- The last name of a path without its extension. -/
def stem (p : Path) : String :=
  stemOf p.name

end Path

end Verdict.File
