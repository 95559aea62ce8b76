import Graft.Tree.Walk

/-! # Reading and writing files

A target is a file that has been located already, or a path that is followed each time the file is
used.  Writing replaces the whole content, or makes the file where its folder can hold it. -/

namespace Graft

/-- A file to read or write. -/
inductive Target where
  | named (path : Path)
  | located (location : Location)
  deriving DecidableEq, Repr

namespace Target

/-- The path by which messages name a target. -/
def path : Target → Path
  | named path => path
  | located location => location.path

/-- What tells two targets apart. -/
def key : Target → Path.Key
  | named path => Path.key path
  | located location => location.key

end Target

namespace Tree

/-- The content of the file at a location. -/
def readAt (tree : Tree) (location : Location) : Except AccessError ByteArray :=
  match tree.node? location with
  | some (.file access content) => if access = .closed then .error .denied else .ok content
  | some (.folder access) => .error (if access = .closed then .denied else .isDirectory)
  | some (.link _) => .error .tooManyLinks
  | none => .error .notFound

/-- The tree with another content in the file at a location. -/
def writeAt (tree : Tree) (location : Location) (content : ByteArray) : Except AccessError Tree :=
  match tree.node? location with
  | some (.file access _) =>
    if access = .full then .ok (tree.put location (.file access content)) else .error .denied
  | some (.folder _) => .error .isDirectory
  | some (.link _) => .error .tooManyLinks
  | none => .error .notFound

/-- The content of a target. -/
def read (tree : Tree) : Target → Except AccessError ByteArray
  | .located location => tree.readAt location
  | .named path => tree.place .use path >>= Place.located >>= tree.readAt

/-- The tree with another content in the file that a path leads to, made if it is absent. -/
def writePath (tree : Tree) (path : Path) (content : ByteArray) : Except AccessError Tree := do
  match ← tree.place .write path with
  | .found location => tree.writeAt location content
  | .absent folder name => return tree.put (folder ++ [name]) (.file .full content)

/-- The tree with another content in a target. -/
def write (tree : Tree) (content : ByteArray) : Target → Except AccessError Tree
  | .located location => tree.writeAt location content
  | .named path => tree.writePath path content

/-- The folder in which the last part of a path is looked for. -/
def folderOf (tree : Tree) (path : Path) : Except AccessError Location := do
  if '\x00' ∈ path then throw .nulInPath
  if pathLimit < path.byteSize then throw .nameTooLong
  let start := if Path.isAbsolute path then [] else tree.home
  let place ← tree.walk .use linkLimit start (Path.parts path).dropLast
  let folder ← place.located
  match tree.node? folder with
  | some (.folder access) => if access = .full then return folder else throw .denied
  | _ => throw .notDirectory

/-- The tree without the file or link that a path names.  A link is not followed. -/
def remove (tree : Tree) (path : Path) : Except AccessError Tree := do
  let folder ← tree.folderOf path
  let name := (Path.parts path).getLast?.getD []
  if name = [] ∨ name = ['.'] ∨ name = ['.', '.'] then throw .isDirectory
  if nameLimit < name.byteSize then throw .nameTooLong
  match tree.node? (folder ++ [name]) with
  | some (.folder _) => throw .isDirectory
  | some _ => return tree.drop (folder ++ [name])
  | none => throw .notFound

end Tree
end Graft
