import Graft.Text.Search

/-! # Paths

A path is a text of parts with slashes between them; one that begins with a slash starts at the root.
A location is where a path leads once links, `.` and `..` are gone: the names from the root down. -/

namespace Graft

/-- A path as it is written. -/
abbrev Path := Text

/-- The names that lead from the root to a place. -/
abbrev Location := List Text

/-- The path of a location. -/
def Location.path (location : Location) : Path :=
  '/' :: Text.joined ['/'] location

namespace Path

/-- Whether a path starts at the root. -/
def isAbsolute (path : Path) : Bool :=
  path.head? == some '/'

/-- The texts between the slashes of a path, empty ones included. -/
def parts (path : Path) : List Text :=
  Text.pieces (· == '/') path

/-- A path as seen from a folder: itself when it is absolute. -/
def under (folder path : Path) : Path :=
  if isAbsolute path ∨ folder = [] then path
  else if folder.getLast? = some '/' then folder ++ path
  else folder ++ ['/'] ++ path

/-- What tells two paths apart as they are written: repeated slashes and inner dots do not. -/
structure Key where
  isAbsolute : Bool
  parts : List Text
  deriving DecidableEq, Repr

/-- The key of a path. -/
def key (path : Path) : Key :=
  let named := (parts path).filter fun part => part ≠ [] ∧ part ≠ ['.']
  let leads := !isAbsolute path && (parts path).head? == some ['.']
  { isAbsolute := isAbsolute path, parts := if leads then ['.'] :: named else named }

end Path

/-- The key of a location's path. -/
def Location.key (location : Location) : Path.Key :=
  { isAbsolute := true, parts := location }

end Graft
