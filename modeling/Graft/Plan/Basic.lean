import Graft.Spec

/-! # Patch plans

A plan lists patches; a patch weaves one specification into one file. -/

namespace Graft

/-- What a plan says about itself. -/
structure Metadata where
  name : Text := []
  description : Option Text := none
  /-- files are looked up under the project root and must lie inside it -/
  workspaceRelative : Bool := false
  deriving DecidableEq, Repr

/-- A fragment for a file. -/
structure Patch where
  id : Text
  file : Text
  spec : Spec
  deriving DecidableEq, Repr

/-- Patches in the order they are applied. -/
structure Plan where
  info : Metadata := {}
  patches : List Patch := []
  deriving DecidableEq, Repr

end Graft
