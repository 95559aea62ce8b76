import Graft.Project.Run

/-! # The log

What a run or the patching of a file tells a log.  The events follow from what came of the patches,
so a log says nothing that the results do not bear out. -/

namespace Graft

/-- How much an event matters. -/
inductive Level where
  | debug
  | info
  | warn
  deriving DecidableEq, Repr

/-- What a field of an event holds. -/
inductive FieldValue where
  | text (t : Text)
  | number (n : Nat)
  deriving DecidableEq, Repr

/-- An event. -/
structure Event where
  level : Level
  message : Text
  fields : List (Text × FieldValue)
  /-- the id of the patch that was being applied -/
  patch : Option Text := none
  deriving DecidableEq, Repr

/-- The field that names a file. -/
def fileField (target : Target) : Text × FieldValue :=
  ("file", .text target.path)

/-- The field that names an identity. -/
def identityField (spec : Spec) : Text × FieldValue :=
  ("identity", .text spec.identity.describe)

/-- The field that counts the anchors. -/
def strategiesField (spec : Spec) : Text × FieldValue :=
  ("strategies", .number spec.anchors.length)

/-- The event of an anchor that resolved. -/
def resolvedEvents (file : Path) (spec : Spec) (strategy : Option Nat) : List Event :=
  match strategy with
  | none => []
  | some index =>
    let anchor := (spec.anchors[index]?.map Anchor.describe).getD []
    [{ level := .debug
       message := "anchor resolved"
       fields := [("file", .text file), ("strategy", .number index), ("anchor", .text anchor)] }]

/-! ## Patching a file -/

/-- The events of what came of patching a file. -/
def FilePatch.events (patch : FilePatch) (path : Path) (spec : Spec) : List Event :=
  let file := fileField (.named path)
  let identity := identityField spec
  resolvedEvents path spec patch.strategy ++
    match patch.result with
    | .error _ => []
    | .ok (.applied _) =>
      [{ level := .info, message := "fragment applied", fields := [file, identity] }]
    | .ok .alreadyPresent =>
      [{ level := .debug, message := "fragment already present", fields := [file, identity] }]
    | .ok .anchorNotFound =>
      [{ level := .warn
         message := "no anchor strategy resolved"
         fields := [file, identity, strategiesField spec] }]

/-! ## Running a plan -/

/-- The event of the result of a patch. -/
def PatchResult.event (result : PatchResult) (mode : RunMode) (spec : Spec) : Event :=
  let file := fileField result.file
  match result with
  | .applied _ _ =>
    match mode with
    | .write => { level := .info, message := "fragment applied", fields := [file] }
    | .dryRun => { level := .debug, message := "fragment would be applied", fields := [file] }
  | .alreadyPresent _ =>
    { level := .debug
      message := "fragment already present"
      fields := [file, identityField spec] }
  | .anchorNotFound _ hint =>
    { level := .warn
      message := "no anchor strategy resolved"
      fields := [file, strategiesField spec, ("hint", .text (hint.getD "none"))] }

/-- The file of an entry for which an anchor resolved. -/
def Entry.file (entry : Entry) : Path :=
  match entry.result with
  | .ok result => result.file.path
  | .error (.patch cause) => cause.path
  | .error (.refused file _) => file
  | .error (.noProject root _) => root

/-- The events of an entry. -/
def Entry.events (entry : Entry) (mode : RunMode) : List Event :=
  let spec := entry.patch.spec
  let last : Event :=
    match entry.result with
    | .ok result => result.event mode spec
    | .error e =>
      { level := .warn, message := "patch failed", fields := [("error", .text e.message)] }
  (resolvedEvents entry.file spec entry.strategy ++ [last]).map fun event =>
    { event with patch := some entry.patch.id }

/-- The events of a run. -/
def Run.events (run : Run) (root : Path) (mode : RunMode) : List Event :=
  match run.rejected with
  | some cause =>
    [{ level := .warn
       message := "workspace root rejected"
       fields := [("root", .text root), ("error", .text cause.message)] }]
  | none => run.entries.flatMap fun entry => entry.events mode

end Graft
