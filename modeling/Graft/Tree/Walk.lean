import Graft.Tree.Basic

/-! # Following paths

A walk goes through a path part by part.  It enters folders only, follows every link it meets, and
gives up after too many of them. -/

namespace Graft

/-- Where a walk ends. -/
inductive Place where
  /-- at something -/
  | found (location : Location)
  /-- at nothing, in a folder that could hold it -/
  | absent (folder : Location) (name : Text)
  deriving DecidableEq, Repr

/-- The location of what stands at a place. -/
def Place.located : Place → Except AccessError Location
  | found location => .ok location
  | absent _ _ => .error .notFound

namespace Tree

/-- The number of bytes that a name may have. -/
def nameLimit : Nat := 255

/-- The number of bytes that a path may have. -/
def pathLimit : Nat := 4095

/-- The number of links that a walk follows. -/
def linkLimit : Nat := 40

/-- What a path is followed for. -/
inductive Purpose where
  /-- to use what is there; `.` and `..` are steps like any other, into folders that can be entered -/
  | use
  /-- to write a file, which is no place for a slash at the end; steps are taken as for use -/
  | write
  /-- to name what is there; `.` and `..` are reckoned, which any folder allows -/
  | name
  deriving DecidableEq, Repr

/-- Walk from a location through the parts of a path, following at most `links` links.  An empty
part stands for a slash, which only a folder has after it. -/
def walk (tree : Tree) (purpose : Purpose) (links : Nat) (location : Location) :
    List Text → Except AccessError Place
  | [] => .ok (.found location)
  | part :: rest =>
    match tree.node? location with
    | some (.folder access) =>
      if part = [] then walk tree purpose links location rest
      else if part = ['.'] ∧ (access = .full ∨ purpose = .name) then
        walk tree purpose links location rest
      else if part = ['.', '.'] ∧ (access = .full ∨ purpose = .name) then
        walk tree purpose links location.dropLast rest
      else if access ≠ .full then .error .denied
      else if purpose = .write ∧ rest ≠ [] ∧ rest.all (·.isEmpty) then .error .isDirectory
      else if nameLimit < part.byteSize then .error .nameTooLong
      else
        match tree.node? (location ++ [part]), links with
        | none, _ => if rest = [] then .ok (.absent location part) else .error .notFound
        | some (.link _), 0 => .error .tooManyLinks
        | some (.link target), links + 1 =>
          walk tree purpose links (if Path.isAbsolute target then [] else location)
            (Path.parts target ++ rest)
        | some _, links => walk tree purpose links (location ++ [part]) rest
    | some _ => .error .notDirectory
    | none => .error .notFound
termination_by parts => (links, parts.length)

/-- Where a path leads from a folder. -/
def placeFrom (tree : Tree) (purpose : Purpose) (folder : Location) (path : Path) :
    Except AccessError Place :=
  if '\x00' ∈ path then .error .nulInPath
  else if purpose ≠ .name ∧ pathLimit < path.byteSize then .error .nameTooLong
  else tree.walk purpose linkLimit (if Path.isAbsolute path then [] else folder) (Path.parts path)

/-- Where a path leads.  The empty path leads nowhere. -/
def place (tree : Tree) (purpose : Purpose) (path : Path) : Except AccessError Place :=
  if path = [] then .error .notFound else tree.placeFrom purpose tree.home path

/-- Whether a place holds something. -/
def holds (place : Except AccessError Place) : Bool :=
  match place with
  | .ok (.found _) => true
  | _ => false

/-- The location of what a path names as seen from a folder. -/
def locateFrom (tree : Tree) (folder : Location) (path : Path) : Except AccessError Location :=
  tree.placeFrom .name folder path >>= Place.located

/-- The location of what a path names. -/
def locate (tree : Tree) (path : Path) : Except AccessError Location :=
  tree.place .name path >>= Place.located

end Tree
end Graft
