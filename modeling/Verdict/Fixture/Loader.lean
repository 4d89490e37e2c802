import Verdict.Fixture.Bundle
import Verdict.Fixture.Listing
import Verdict.Fixture.Walk

/-!
# Fixtures: loading

A location is an address on the network, a path, or the name of a fixture in the directory for
fixtures. A loader holds the project that was loaded last; a loading that fails leaves it alone.
-/

namespace Verdict.Fixture

open File (Path)

/-- The location is an address on the network. -/
def isAddress (location : String) : Bool :=
  location.startsWith "http://" || location.startsWith "https://"

/-- The first of the paths that is there. -/
def firstThere? (host : Host) : List Path → Except Fault (Option Path)
  | [] => .ok none
  | path :: rest => do
    if ← (host.files.exists? path).mapError (.files path) then return some path
    else firstThere? host rest

/-- The path that a location is itself. -/
def ownPath (host : Host) (location : String) : Except Fault Path :=
  (host.expandHome (Path.ofText location)).mapError .host

/-- The directory and the bundle of a name in the directory of fixtures. -/
def namedPaths (directory : Path) (location : String) : List Path :=
  [location, location ++ ".json"].map fun s => directory.join (Path.ofText s)

/-- The paths that a location may stand for, in order. -/
def candidates (host : Host) (settings : FixtureSettings) (location : String) :
    Except Fault (List Path) := do
  let own ← ownPath host location
  let directory ← (settings.directoryOn host).mapError .host
  return own :: namedPaths directory location

/-- The path of a location: itself, or the directory or bundle of that name among the fixtures. The
directory of fixtures is only determined if the location itself is not there. -/
def locate (host : Host) (settings : FixtureSettings) (location : String) :
    Except Fault Path := do
  let tried ← ownPath host location
  match ← firstThere? host [tried] with
  | some path => return path
  | none =>
    let directory ← (settings.directoryOn host).mapError .host
    match ← firstThere? host (namedPaths directory location) with
    | some path => return path
    | none => throw (.unknown location tried directory)

/-- Loads the project at a location. -/
def load (host : Host) (answers : Network.Answers) (settings : FixtureSettings)
    (location : String) : Loading :=
  if isAddress location then loadRemote answers settings location
  else match locate host settings location with
    | .error fault => .failed fault
    | .ok path =>
      if host.files.isDirectory path then loadDirectory host.files settings path
      else loadBundle host.files settings path

/-- A loader of fixtures. -/
structure Loader where
  settings : FixtureSettings := {}
  project : Option Project := none

namespace Loader

/-- The loader that holds a project. -/
def adopt (l : Loader) (p : Project) : Loader := { l with project := some p }

/-- The loader that holds none. -/
def clear (l : Loader) : Loader := { l with project := none }

/-- Loads the project at a location, and holds it if that succeeds. -/
def load (l : Loader) (host : Host) (answers : Network.Answers) (location : String) :
    Loading × Loader :=
  let loading := Fixture.load host answers l.settings location
  match loading.outcome with
  | .ok p => (loading, l.adopt p)
  | .error _ => (loading, l)

/-- The name of the project that is held. -/
def name? (l : Loader) : Option String := l.project.map (·.name)

/-- The content of a file of the project that is held. -/
def file? (l : Loader) (path : String) : Option String :=
  l.project.bind fun p => p.files.get? path

/-- The files of the project that is held which pass a filter. -/
def list (l : Loader) (f : FileFilter) : List String :=
  match l.project with
  | some p => p.listFiles f
  | none => []

end Loader

end Verdict.Fixture
