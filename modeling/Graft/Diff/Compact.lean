import Graft.Diff.Edit

/-! # Sliding edits

Where the lines around an insertion repeat, it can stand at several places.  Compaction moves each
edit up as far as it goes and then down, and merges those of one kind that meet.  Lines are only
ever moved across equal ones, so a compacted script still leads from the old lines to the new. -/

namespace Graft.Diff

/-- A script with one edit in focus. -/
structure Focus where
  /-- the edits before it, the nearest first -/
  above : List Edit
  edit : Edit
  /-- the edits after it -/
  below : List Edit
  deriving Repr

namespace Edit

/-- The old lines of an edit, none of an insertion. -/
def oldLines (old : List Text) (edit : Edit) : List Text :=
  if edit.action = .insert then [] else (old.drop edit.old).take edit.count

/-- The new lines of an edit, none of a deletion. -/
def newLines (new : List Text) (edit : Edit) : List Text :=
  if edit.action = .delete then [] else (new.drop edit.new).take edit.count

/-- The edit with `count` more lines before its first. -/
def growUp (edit : Edit) (count : Nat) : Edit :=
  { edit with old := edit.old - count, new := edit.new - count, count := edit.count + count }

/-- The edit with `count` more lines after its last. -/
def growDown (edit : Edit) (count : Nat) : Edit :=
  { edit with count := edit.count + count }

/-- The edit at another place of both texts. -/
def shifted (edit : Edit) (move : Nat → Nat) : Edit :=
  { edit with old := move edit.old, new := move edit.new }

/-- The edit without its last `count` lines. -/
def cutDown (edit : Edit) (count : Nat) : Edit :=
  { edit with count := edit.count - count }

/-- The edit without its first `count` lines. -/
def cutUp (edit : Edit) (count : Nat) : Edit :=
  { edit with old := edit.old + count, new := edit.new + count, count := edit.count - count }

end Edit

/-- The edits below after `count` kept lines came on top of them. -/
def keepAbove (kept : Edit) : List Edit → List Edit
  | next :: rest =>
    if next.action = .keep then next.growUp kept.count :: rest else kept :: next :: rest
  | [] => [kept]

/-- The edits above after `count` kept lines came below the nearest. -/
def keepBelow (kept : Edit) : List Edit → List Edit
  | previous :: rest =>
    if previous.action = .keep then previous.growDown kept.count :: rest
    else kept :: previous :: rest
  | [] => [kept]

/-- What a list of edits weighs: each step of a slide takes some of it away. -/
def weight (edits : List Edit) : Nat :=
  edits.foldr (fun edit total => edit.count + 1 + total) 0

/-- Move the edit in focus up as far as it goes. -/
def slideUp (old new : List Text) (focus : Focus) : Focus :=
  match _h : focus.above with
  | [] => focus
  | previous :: rest =>
    if previous.action = .keep then
      let s := commonSuffix (previous.oldLines old) (focus.edit.newLines new)
      if 0 < s ∧ 0 < previous.count then
        let kept : Edit :=
          { action := .keep
            old := previous.old + previous.count - s
            new := focus.edit.new + focus.edit.count - s
            count := s }
        let shorter := previous.cutDown s
        slideUp old new
          { above := if shorter.count = 0 then rest else shorter :: rest
            edit := focus.edit.shifted (· - s)
            below := keepAbove kept focus.below }
      else if previous.count = 0 then slideUp old new { focus with above := rest }
      else focus
    else if previous.action = focus.edit.action then
      slideUp old new { focus with above := rest, edit := previous.growDown focus.edit.count }
    else slideUp old new { focus with above := rest, below := previous :: focus.below }
termination_by weight focus.above
decreasing_by
  all_goals simp only [_h, weight, List.foldr_cons]
  · split
    · omega
    · simp only [List.foldr_cons, Edit.cutDown]
      omega
  all_goals omega

/-- Move the edit in focus down as far as it goes. -/
def slideDown (old new : List Text) (focus : Focus) : Focus :=
  match _h : focus.below with
  | [] => focus
  | next :: rest =>
    if next.action = .keep then
      let p := commonPrefix (next.oldLines old) (focus.edit.newLines new)
      if 0 < p ∧ 0 < next.count then
        let kept : Edit := { action := .keep, old := next.old, new := focus.edit.new, count := p }
        let shorter := next.cutUp p
        slideDown old new
          { above := keepBelow kept focus.above
            edit := focus.edit.shifted (· + p)
            below := if shorter.count = 0 then rest else shorter :: rest }
      else if next.count = 0 then slideDown old new { focus with below := rest }
      else focus
    else if next.action = focus.edit.action then
      slideDown old new { focus with edit := focus.edit.growDown next.count, below := rest }
    else slideDown old new { focus with above := next :: focus.above, below := rest }
termination_by weight focus.below
decreasing_by
  all_goals simp only [_h, weight, List.foldr_cons]
  · split
    · omega
    · simp only [List.foldr_cons, Edit.cutUp]
      omega
  all_goals omega

/-- Slide every edit of one kind, up and then down.  An edit that slid up is followed by edits that
are visited again, at most `fuel` visits in all. -/
def slideAll (old new : List Text) (action : Action) (above : List Edit) :
    List Edit → Nat → List Edit
  | [], _ => above.reverse
  | edits, 0 => above.reverse ++ edits
  | edit :: below, fuel + 1 =>
    if edit.action = action then
      let focus := slideDown old new (slideUp old new { above, edit, below })
      slideAll old new action (focus.edit :: focus.above) focus.below fuel
    else slideAll old new action (edit :: above) below fuel

/-- The script with its edits slid to where they end up: deletions first, then insertions. -/
def compact (old new : List Text) (edits : List Edit) : List Edit :=
  let visits := (weight edits + 1) * (weight edits + 1)
  let deletionsDone := slideAll old new .delete [] edits visits
  slideAll old new .insert [] deletionsDone visits

end Graft.Diff
