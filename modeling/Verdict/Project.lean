import Verdict.Value

/-!
# Projects

A project is what rules are simulated against: files with their contents, the order in which they
were listed, and the manifest of the project. A file is handed to rules as a descriptor.
-/

namespace Verdict

/-- A file as rules see it. -/
structure Descriptor where
  path : String
  content : String
deriving DecidableEq, Repr

/-- The name of the target of runs over a whole project. -/
def globalTarget : String := "GLOBAL"

/-- The last segment of a path; a path that ends in a separator has its whole text as name. -/
def fileName (path : String) : String :=
  let segment := (path.toList.reverse.takeWhile (· != '/')).reverse
  if segment.isEmpty then path else String.ofList segment

/-- A descriptor as a value. -/
def Descriptor.toValue (d : Descriptor) : Value :=
  .ofPairs [("fileName", .text (fileName d.path)), ("filePath", .text d.path),
    ("fileContent", .text d.content), ("content", .text d.content),
    ("relativePath", .text d.path)]

/-- The data of a project. `listing` names the files in load order. -/
structure Project where
  name : String
  files : Table String String
  manifest : Table String Value := []
  listing : List String := []

namespace Project

/-- The name of a project that has none. -/
def defaultName : String := "custom"

/-- The project of the given files, listed in their order. -/
def ofFiles (files : List (String × String)) (manifest : Table String Value := [])
    (name : String := defaultName) : Project :=
  let files := Table.ofPairs files
  { name, files, manifest, listing := files.keys }

/-- The paths of a listing, and those of other files that it lacks. -/
def extendListing (listing : List String) (paths : List String) : List String :=
  paths.foldl (fun listing path => if listing.contains path then listing else listing ++ [path])
    listing

/-- The project with other files laid over its own. -/
def withFiles (p : Project) (extra : Table String String) : Project :=
  { p with
    files := p.files.insertAll extra
    listing := extendListing p.listing extra.keys }

/-- The content of a file; a file that is not there is empty. -/
def contentOf (p : Project) (path : String) : String :=
  (p.files.get? path).getD ""

/-- The descriptor of a target, whether or not the project has it as a file. -/
def describe (p : Project) (path : String) : Descriptor :=
  ⟨path, p.contentOf path⟩

/-- The descriptors of all listed files. -/
def descriptors (p : Project) : List Descriptor :=
  p.listing.map p.describe

/-- A project as a value: a record with its four parts. -/
def toValue (p : Project) : Value :=
  .record .project [
    (.text "name", .text p.name),
    (.text "files", .ofPairs (p.files.map fun (path, content) => (path, .text content))),
    (.text "manifest", .ofPairs p.manifest),
    (.text "file_list", .texts p.listing)]

end Project

end Verdict
