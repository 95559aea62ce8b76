import Graft.Tree.Content
import Graft.Weave

/-! # Patching files

A fragment is woven into a file by reading it, weaving, and writing the new content back in one go.
A file into which nothing is woven is not touched. -/

namespace Graft

/-- Why a file is not patched. -/
inductive PatchError where
  | missingFile (path : Path)
  | unreadable (path : Path) (cause : AccessError)
  | notText (path : Path)
  | unwritable (path : Path) (cause : AccessError)
  deriving DecidableEq, Repr

namespace PatchError

/-- The file in question. -/
def path : PatchError → Path
  | missingFile path => path
  | unreadable path _ => path
  | notText path => path
  | unwritable path _ => path

/-- The message of an error. -/
def message : PatchError → Text
  | missingFile path => "Target file does not exist: " ++ path
  | unreadable path cause => "Failed to read " ++ path ++ ": " ++ cause.message
  | notText path => "Target file is not valid UTF-8: " ++ path
  | unwritable path cause => "Failed to write " ++ path ++ ": " ++ cause.message

end PatchError

namespace Tree

/-- The text of a target. -/
def readText (tree : Tree) (target : Target) : Except PatchError Text :=
  match tree.read target with
  | .error .notFound => .error (.missingFile target.path)
  | .error cause => .error (.unreadable target.path cause)
  | .ok content =>
    match Text.decode? content with
    | some t => .ok t
    | none => .error (.notText target.path)

/-- The tree with another text in a target. -/
def writeText (tree : Tree) (target : Target) (t : Text) : Except PatchError Tree :=
  match tree.write t.encode target with
  | .error cause => .error (.unwritable target.path cause)
  | .ok tree => .ok tree

end Tree

/-- The index of the anchor that a decision is due to. -/
def Decision.strategy? : Decision → Option Nat
  | insert strategy _ => some strategy
  | alreadyPresent => none
  | anchorNotFound => none

/-- What came of patching a file. -/
structure FilePatch where
  /-- the index of the anchor that resolved -/
  strategy : Option Nat
  result : Except PatchError Outcome

namespace Tree

/-- Weave a fragment into a file. -/
def patchFile (tree : Tree) (path : Path) (spec : Spec) : FilePatch × Tree :=
  match tree.readText (.named path) with
  | .error e => ({ strategy := none, result := .error e }, tree)
  | .ok t =>
    let decided := decision t spec
    let strategy := decided.strategy?
    match decided.outcome t spec.fragment with
    | .applied patched =>
      match tree.writeText (.named path) patched with
      | .error e => ({ strategy, result := .error e }, tree)
      | .ok tree => ({ strategy, result := .ok (.applied patched) }, tree)
    | outcome => ({ strategy, result := .ok outcome }, tree)

/-- Weave fragments into a file one after another.  One that fails does not stop the others. -/
def patchFileAll (tree : Tree) (path : Path) : List Spec → List FilePatch × Tree
  | [] => ([], tree)
  | spec :: others =>
    let (patch, tree) := tree.patchFile path spec
    let (patches, tree) := tree.patchFileAll path others
    (patch :: patches, tree)

end Tree
end Graft
