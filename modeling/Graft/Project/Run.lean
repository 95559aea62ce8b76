import Graft.Diff.Unified
import Graft.Plan.Basic
import Graft.Project.Guard
import Graft.Project.Patch
import Graft.Similarity

/-! # Running a plan

A plan is run patch by patch, each seeing what those before it left, and a patch that fails stops no
other.  A dry run leaves every file as it is: what a patch would have written is kept as a draft, and
later patches see the draft in place of the file. -/

namespace Graft

/-- Whether a run writes to files. -/
inductive RunMode where
  | write
  | dryRun
  deriving DecidableEq, Repr

/-! ## Results -/

/-- What came of a patch. -/
inductive PatchResult where
  /-- the fragment is in the file, or would be -/
  | applied (file : Target) (diff : Text)
  | alreadyPresent (file : Target)
  /-- no anchor resolved; the hint names a line that one may have meant -/
  | anchorNotFound (file : Target) (hint : Option Text)
  deriving DecidableEq, Repr

namespace PatchResult

/-- The file that a result is about. -/
def file : PatchResult → Target
  | applied file _ => file
  | alreadyPresent file => file
  | anchorNotFound file _ => file

/-- A result as a message tells it. -/
def describe : PatchResult → Text
  | applied file _ => "Applied patch to " ++ file.path
  | alreadyPresent file => "Already present in " ++ file.path
  | anchorNotFound file none => "No insertion point found in " ++ file.path
  | anchorNotFound file (some hint) =>
    "No insertion point found in " ++ file.path ++ " (" ++ hint ++ ")"

end PatchResult

/-- Why a patch of a plan fails. -/
inductive RunError where
  | patch (cause : PatchError)
  /-- the guard does not let the file through -/
  | refused (file : Path) (cause : GuardError)
  /-- there is no project to guard; every patch of the plan fails by it -/
  | noProject (root : Path) (cause : GuardError)
  deriving DecidableEq, Repr

/-- The message of an error. -/
def RunError.message : RunError → Text
  | patch cause => "patch error: " ++ cause.message
  | refused file cause => "unsafe target " ++ file ++ ": " ++ cause.message
  | noProject root cause => "invalid workspace root " ++ root ++ ": " ++ cause.message

/-- What a run reports on one patch. -/
structure Entry where
  patch : Patch
  /-- the index of the anchor that resolved -/
  strategy : Option Nat
  result : Except RunError PatchResult

/-! ## One patch -/

/-- What a run has done so far. -/
structure RunState where
  tree : Tree
  /-- the texts that a dry run would have written, the latest first -/
  drafts : List (Path.Key × Text) := []

/-- The file of a patch: under a guard, what the file leads to from the project; otherwise the file
as it is written.  There has to be something. -/
def targetOf (guard : Option Guard) (tree : Tree) (patch : Patch) : Except RunError Target :=
  match guard with
  | some guard =>
    let shown := Path.under guard.root.path patch.file
    if Tree.holds (tree.placeFrom .use guard.root patch.file) then
      match guard.validate tree patch.file with
      | .error cause => .error (.refused shown cause)
      | .ok location => .ok (.located location)
    else .error (.patch (.missingFile shown))
  | none =>
    if Tree.holds (tree.place .use patch.file) then .ok (.named patch.file)
    else .error (.patch (.missingFile patch.file))

namespace RunState

/-- The text of a target as a run sees it. -/
def readText (state : RunState) (target : Target) : Except PatchError Text :=
  match state.drafts.lookup target.key with
  | some draft => .ok draft
  | none => state.tree.readText target

/-- The state with another text in a target. -/
def writeText (state : RunState) (mode : RunMode) (target : Target) (t : Text) :
    Except PatchError RunState :=
  match mode with
  | .write =>
    match state.tree.writeText target t with
    | .error cause => .error cause
    | .ok tree => .ok { state with tree }
  | .dryRun => .ok { state with drafts := (target.key, t) :: state.drafts }

/-- Apply a patch to its file. -/
def applyTo (state : RunState) (mode : RunMode) (patch : Patch) (target : Target) :
    Entry × RunState :=
  match state.readText target with
  | .error cause => ({ patch, strategy := none, result := .error (.patch cause) }, state)
  | .ok t =>
    let decided := decision t patch.spec
    let strategy := decided.strategy?
    match decided.outcome t patch.spec.fragment with
    | .applied patched =>
      match state.writeText mode target patched with
      | .error cause => ({ patch, strategy, result := .error (.patch cause) }, state)
      | .ok state =>
        let diff := Diff.unified target.path t patched
        ({ patch, strategy, result := .ok (.applied target diff) }, state)
    | .alreadyPresent => ({ patch, strategy, result := .ok (.alreadyPresent target) }, state)
    | .anchorNotFound =>
      let hint := (nearMiss? t patch.spec).map NearMiss.describe
      ({ patch, strategy, result := .ok (.anchorNotFound target hint) }, state)

/-- Apply a patch. -/
def apply (state : RunState) (guard : Option Guard) (mode : RunMode) (patch : Patch) :
    Entry × RunState :=
  match targetOf guard state.tree patch with
  | .error cause => ({ patch, strategy := none, result := .error cause }, state)
  | .ok target => state.applyTo mode patch target

/-- Apply patches one after another. -/
def applyAll (state : RunState) (guard : Option Guard) (mode : RunMode) :
    List Patch → List Entry × RunState
  | [] => ([], state)
  | patch :: others =>
    let (entry, state) := state.apply guard mode patch
    let (entries, state) := state.applyAll guard mode others
    (entry :: entries, state)

end RunState

/-! ## A plan -/

/-- What came of running a plan. -/
structure Run where
  /-- why there is no project to guard, when that is so -/
  rejected : Option GuardError
  /-- one entry a patch, in the order of the plan -/
  entries : List Entry
  /-- the tree afterwards -/
  tree : Tree

/-- The guard that a plan asks for. -/
def Plan.guard? (plan : Plan) (tree : Tree) (root : Path) : Except GuardError (Option Guard) :=
  if plan.info.workspaceRelative then
    match Guard.ofRoot tree root with
    | .error cause => .error cause
    | .ok guard => .ok (some guard)
  else .ok none

/-- Run a plan on the project at a path. -/
def Plan.run (plan : Plan) (tree : Tree) (root : Path) (mode : RunMode) : Run :=
  match plan.guard? tree root with
  | .error cause =>
    { rejected := some cause
      entries := plan.patches.map fun patch =>
        { patch, strategy := none, result := .error (.noProject root cause) }
      tree }
  | .ok guard =>
    let (entries, state) := RunState.applyAll { tree } guard mode plan.patches
    { rejected := none, entries, tree := state.tree }

end Graft
