import Graft.Tree.Path

/-! # File trees

A tree holds folders, files and links by their locations.  Putting a file somewhere changes what is
found there and nowhere else (`node?_put_self`, `node?_put_of_ne`). -/

namespace Graft

/-- What the owner of a node may do with it. -/
inductive Access where
  /-- everything -/
  | full
  /-- read it; a folder can be listed but not entered -/
  | readOnly
  /-- nothing -/
  | closed
  deriving DecidableEq, Repr

/-- What stands at a location. -/
inductive Node where
  | folder (access : Access)
  | file (access : Access) (content : ByteArray)
  | link (target : Path)

/-- A file tree and the folder that relative paths start from. -/
structure Tree where
  nodes : List (Location × Node)
  home : Location

/-- Why a tree refuses to do something. -/
inductive AccessError where
  | notFound
  | denied
  | notDirectory
  | isDirectory
  | nameTooLong
  | tooManyLinks
  | nulInPath
  | notText
  deriving DecidableEq, Repr

/-- The message of an error. -/
def AccessError.message : AccessError → Text
  | notFound => "No such file or directory (os error 2)"
  | denied => "Permission denied (os error 13)"
  | notDirectory => "Not a directory (os error 20)"
  | isDirectory => "Is a directory (os error 21)"
  | nameTooLong => "File name too long (os error 36)"
  | tooManyLinks => "Too many levels of symbolic links (os error 40)"
  | nulInPath => "file name contained an unexpected NUL byte"
  | notText => "stream did not contain valid UTF-8"

namespace Tree

/-- What stands at a location.  The root is always a folder. -/
def node? (tree : Tree) (location : Location) : Option Node :=
  if location = [] then some (.folder .full) else tree.nodes.lookup location

/-- The tree with a node at a location, in place of what was there. -/
def put (tree : Tree) (location : Location) (node : Node) : Tree :=
  { tree with nodes := (location, node) :: tree.nodes.filter fun entry => entry.1 ≠ location }

/-- The tree without what stands at a location. -/
def drop (tree : Tree) (location : Location) : Tree :=
  { tree with nodes := tree.nodes.filter fun entry => entry.1 ≠ location }

/-- The files of a tree. -/
def files (tree : Tree) : List (Location × ByteArray) :=
  tree.nodes.filterMap fun (location, node) =>
    match node with
    | .file _ content => some (location, content)
    | _ => none

theorem node?_put_self (tree : Tree) {location : Location} (node : Node) (h : location ≠ []) :
    (tree.put location node).node? location = some node := by
  simp [node?, put, h]

theorem lookup_filter_ne (nodes : List (Location × Node)) {location other : Location}
    (h : other ≠ location) :
    (nodes.filter fun entry => entry.1 ≠ location).lookup other = nodes.lookup other := by
  induction nodes with
  | nil => rfl
  | cons entry rest ih =>
    obtain ⟨place, node⟩ := entry
    by_cases keep : place = location
    · subst keep
      have differs : (other == place) = false := by simpa using h
      simpa [List.lookup_cons, differs] using ih
    · by_cases hit : other = place <;> simp_all [List.lookup_cons]

theorem node?_put_of_ne (tree : Tree) {location other : Location} (node : Node)
    (h : other ≠ location) : (tree.put location node).node? other = tree.node? other := by
  simp only [node?, put]
  split
  · rfl
  · have differs : (other == location) = false := by simpa using h
    rw [List.lookup_cons, differs]
    exact lookup_filter_ne _ h

end Tree
end Graft
