import Verdict.Glob
import Verdict.Project
import Verdict.Text.LetterCase

/-!
# Fixtures: listings

The files of a project that pass some filters, in load order. A filter that is left out, or empty,
lets every file pass.
-/

namespace Verdict

/-- What a listing is asked for. -/
structure FileFilter where
  extensions : List String := []
  pathPattern : Option String := none
  excluded : List String := []

namespace FileFilter

/-- An extension as it is compared: in small letters, without points before it. -/
def bareExtension (s : String) : String :=
  String.ofList ((Text.lower s).toList.dropWhile (· == '.'))

/-- What stands after the last point of a path, in small letters; none if it has no point. -/
def extensionOf? (path : String) : Option String :=
  let chars := path.toList
  if chars.contains '.' then
    some (Text.lower (String.ofList (chars.reverse.takeWhile (· != '.')).reverse))
  else none

/-- The path ends in one of the extensions. -/
def passesExtensions (extensions : List String) (path : String) : Bool :=
  extensions.isEmpty || (extensionOf? path).any (extensions.map bareExtension).contains

/-- The path matches the pattern. -/
def passesPattern (pattern : Option String) (path : String) : Bool :=
  match pattern.filter (!·.isEmpty) with
  | some text => (Glob.ofText text).matchesPath path
  | none => true

/-- The last segment of a path. -/
def lastSegment (path : String) : String :=
  String.ofList (path.toList.reverse.takeWhile (· != '/')).reverse

/-- Neither the path nor its last segment matches one of the patterns. -/
def passesExclusion (excluded : List String) (path : String) : Bool :=
  !(excluded.any fun text =>
    let glob := Glob.ofText text
    glob.matchesPath path || glob.matchesPath (lastSegment path))

/-- The path passes every filter. -/
def passes (f : FileFilter) (path : String) : Bool :=
  passesExtensions f.extensions path && passesPattern f.pathPattern path &&
    passesExclusion f.excluded path

end FileFilter

/-- The files of a project that pass a filter. -/
def Project.listFiles (p : Project) (f : FileFilter) : List String :=
  p.listing.filter f.passes

end Verdict
