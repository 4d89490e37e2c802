import Verdict.Fixture.Basic

/-!
# Fixtures: directories

A directory is walked from its top: the files of each directory in order, then its subdirectories in
order. Directories with a name that is passed over are not entered, nor are links to directories;
links to files are followed. Files that are too large or hold no text are left out. Every directory
is listed, and every file opened, by its path from the top, which must not be too long.
-/

namespace Verdict.Fixture

open File (Path System)

/-- A file met on a walk: the names that lead to it from the top, and its bytes. -/
structure Met where
  names : List String
  bytes : Except File.Fault (List UInt8)

/-- The path of a file from the top. -/
def Met.path (m : Met) : String := "/".intercalate m.names

/-- Named things in the order of their names. -/
def inOrder {α : Type} (items : List (String × α)) : List α :=
  (items.mergeSort fun a b => Text.atMost a.1 b.1).map (·.2)

/-- The files among the entries of the directory at a place: plain ones, and links to anything but a
directory. -/
def filesAt (fs : System) (top : Path) (place : List String) :
    List (String × File.Node) → List (String × Met)
  | [] => []
  | (name, node) :: rest =>
    let path := top.join ⟨"", place ++ [name]⟩
    let others := filesAt fs top place rest
    match node with
    | .file bytes => (name, ⟨place ++ [name], File.openedBy path bytes⟩) :: others
    | .directory _ => others
    | .link _ =>
      if fs.isDirectory path then others else (name, ⟨place ++ [name], fs.read path⟩) :: others

mutual

/-- The files below a directory at a place. -/
def filesBelow (fs : System) (top : Path) (passedOver : List String) (place : List String) :
    File.Node → List Met
  | .directory entries =>
    if (top.join ⟨"", place⟩).isTooLong then []
    else inOrder (filesAt fs top place entries) ++
      (inOrder (directoriesAt fs top passedOver place entries)).flatten
  | _ => []

/-- The directories among the entries of the directory at a place, with the files below them. -/
def directoriesAt (fs : System) (top : Path) (passedOver : List String) (place : List String) :
    List (String × File.Node) → List (String × List Met)
  | [] => []
  | (name, node) :: rest =>
    let others := directoriesAt fs top passedOver place rest
    if passedOver.contains name then others
    else match node with
      | .directory entries =>
        (name, filesBelow fs top passedOver (place ++ [name]) (.directory entries)) :: others
      | _ => others

end

/-- What a file is taken for. -/
inductive Selected where
  | text (path content : String)
  | warning (message : String)
  | left

/-- A file on a walk with its text, unless it is too large or holds none; one that cannot be read is
warned of. -/
def Met.select (top : Path) (sizeLimit : Int) (m : Met) : Selected :=
  match m.bytes with
  | .error fault =>
    .warning ("Cannot read " ++ m.path ++ ": " ++ fault.message (top.join ⟨"", m.names⟩).text)
  | .ok bytes =>
    if sizeLimit < bytes.length then .left
    else match Text.ofBytes bytes with
      | .ok content => .text m.path content
      | .error _ => .left

/-- The files with their texts. -/
def textsOf (selected : List Selected) : List (String × String) :=
  selected.filterMap fun s => match s with
    | .text path content => some (path, content)
    | _ => none

/-- The warnings about files. -/
def warningsOf (selected : List Selected) : List String :=
  selected.filterMap fun s => match s with
    | .warning message => some message
    | _ => none

/-- The project in a directory. -/
def loadDirectory (fs : System) (settings : FixtureSettings) (top : Path) : Loading :=
  match fs.find top with
  | .error _ => assemble settings top.name [] []
  | .ok node =>
    let selected :=
      (filesBelow fs top settings.passedOver [] node).map (Met.select top settings.sizeLimit)
    assemble settings top.name (textsOf selected) (warningsOf selected)

end Verdict.Fixture
