import Graft.Diff.Compact
import Graft.Text.Quoted

/-! # Unified diffs

The changes between two texts as hunks, each with the lines around it, under a header that names the
file.  Two equal texts have an empty diff. -/

namespace Graft.Diff

/-! ## Changes -/

/-- A run of lines that both texts have, or that one text has instead of what the other has. -/
structure Change where
  same : Bool
  /-- where the old lines begin -/
  old : Nat
  oldCount : Nat
  /-- where the new lines begin -/
  new : Nat
  newCount : Nat
  deriving DecidableEq, Repr

namespace Change

/-- An edit by itself. -/
def ofEdit (edit : Edit) : Change :=
  match edit.action with
  | .keep => ⟨true, edit.old, edit.count, edit.new, edit.count⟩
  | .delete => ⟨false, edit.old, edit.count, edit.new, 0⟩
  | .insert => ⟨false, edit.old, 0, edit.new, edit.count⟩

/-- A change with one more edit of the same sort.  The old lines count from the first deletion on
and the new ones from the first insertion on, where there is one. -/
def extend (change : Change) (edit : Edit) : Change :=
  match edit.action with
  | .keep =>
    { change with
      oldCount := change.oldCount + edit.count
      newCount := change.newCount + edit.count }
  | .delete =>
    { change with
      old := if change.oldCount = 0 then edit.old else change.old
      oldCount := change.oldCount + edit.count }
  | .insert =>
    { change with
      new := if change.newCount = 0 then edit.new else change.new
      newCount := change.newCount + edit.count }

/-- The changes of a script, `current` being the one that its first edits may belong to. -/
def collect (current : Change) : List Edit → List Change
  | [] => [current]
  | edit :: rest =>
    if current.same = (edit.action == .keep) then collect (current.extend edit) rest
    else current :: collect (ofEdit edit) rest

/-- The changes of a script. -/
def ofScript : List Edit → List Change
  | [] => []
  | edit :: rest => collect (ofEdit edit) rest

/-- The change without its first `count` lines on either side. -/
def dropLines (change : Change) (count : Nat) : Change :=
  { change with
    old := change.old + count
    oldCount := change.oldCount - count
    new := change.new + count
    newCount := change.newCount - count }

/-- The first `count` lines of a change on either side. -/
def takeLines (change : Change) (count : Nat) : Change :=
  { change with oldCount := min count change.oldCount, newCount := min count change.newCount }

end Change

/-! ## Hunks -/

/-- The number of unchanged lines shown around a change. -/
def context : Nat := 2

/-- The changes with no more than the context before the first and after the last. -/
def trimEnds (changes : List Change) : List Change :=
  let trimFirst : List Change → List Change
    | first :: rest =>
      if first.same then first.dropLines (first.oldCount - context) :: rest else first :: rest
    | [] => []
  let trimLast : List Change → List Change
    | last :: rest => if last.same then last.takeLines context :: rest else last :: rest
    | [] => []
  (trimLast (trimFirst changes).reverse).reverse

/-- Groups of changes: a run of unchanged lines longer than two contexts parts two groups.
`pending` is the group so far, backwards. -/
def groupFrom (pending : List Change) : List Change → List (List Change)
  | [] =>
    match pending with
    | [] => []
    | [only] => if only.same then [] else [[only]]
    | _ => [pending.reverse]
  | change :: rest =>
    if change.same ∧ 2 * context < change.oldCount then
      (change.takeLines context :: pending).reverse ::
        groupFrom [change.dropLines (change.oldCount - context)] rest
    else groupFrom (change :: pending) rest

/-- The hunks of a list of changes. -/
def hunks (changes : List Change) : List (List Change) :=
  groupFrom [] (trimEnds changes)

/-! ## Writing -/

/-- The lines from `start` to `stop` as a hunk's header gives them. -/
def rangeText (start stop : Nat) : Text :=
  match stop - start with
  | 0 => Text.ofNat start ++ ",0"
  | 1 => Text.ofNat (start + 1)
  | count => Text.ofNat (start + 1) ++ "," ++ Text.ofNat count

/-- A line of a hunk. -/
def markedLine (mark : Char) (line : Text) : Text :=
  let isTerminated := line.getLast? = some '\n' ∨ line.getLast? = some '\r'
  mark :: line ++ if isTerminated then [] else "\n\\ No newline at end of file\n"

/-- The lines of a change. -/
def changeText (old new : List Text) (change : Change) : Text :=
  let oldLines := (old.drop change.old).take change.oldCount
  let newLines := (new.drop change.new).take change.newCount
  if change.same then oldLines.flatMap (markedLine ' ')
  else oldLines.flatMap (markedLine '-') ++ newLines.flatMap (markedLine '+')

/-- A hunk with its header. -/
def hunkText (old new : List Text) (hunk : List Change) : Text :=
  match hunk.head?, hunk.getLast? with
  | some first, some last =>
    "@@ -" ++ rangeText first.old (last.old + last.oldCount) ++ " +" ++
      rangeText first.new (last.new + last.newCount) ++ " @@\n" ++
      hunk.flatMap (changeText old new)
  | _, _ => []

/-- The unified diff between two states of a file. -/
def unified (file original patched : Text) : Text :=
  let old := splitLines original
  let new := splitLines patched
  let parts := hunks (Change.ofScript (compact old new (script old new 0 0)))
  if parts = [] then []
  else
    "--- " ++ file ++ " (original)\n+++ " ++ file ++ " (patched)\n" ++
      parts.flatMap (hunkText old new)

end Graft.Diff
