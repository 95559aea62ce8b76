import Graft.Text.Basic

/-! # Edit scripts

A script turns one list of lines into another by keeping, deleting and inserting runs of lines.  It
is found by divide and conquer: searches from both ends meet in the middle of a shortest script, and
the two halves are solved in the same way. -/

namespace Graft.Diff

/-! ## Lines -/

/-- The lines of a text, each with its break: a `\n`, a `\r\n` or a `\r` by itself. -/
def splitLines : Text → List Text
  | [] => []
  | '\n' :: rest => ['\n'] :: splitLines rest
  | '\r' :: '\n' :: rest => ['\r', '\n'] :: splitLines rest
  | '\r' :: rest => ['\r'] :: splitLines rest
  | c :: rest =>
    match splitLines rest with
    | [] => [[c]]
    | first :: others => (c :: first) :: others

/-! ## Edits -/

/-- What is done with a run of lines. -/
inductive Action where
  | keep
  | delete
  | insert
  deriving DecidableEq, Repr

/-- A step of a script. -/
structure Edit where
  action : Action
  /-- where the run begins, or would begin, among the old lines -/
  old : Nat
  /-- where the run begins, or would begin, among the new lines -/
  new : Nat
  /-- the number of lines -/
  count : Nat
  deriving DecidableEq, Repr

/-- The length of the longest common beginning of two lists. -/
def commonPrefix : List Text → List Text → Nat
  | a :: as, b :: bs => if a = b then commonPrefix as bs + 1 else 0
  | _, _ => 0

/-- The length of the longest common end of two lists. -/
def commonSuffix (as bs : List Text) : Nat :=
  commonPrefix as.reverse bs.reverse

/-! ## The middle of a shortest script

Diagonal `k` holds the points with `x - y = k`.  After `d` steps a search has reached the diagonals
`d, d - 2, …, -d`; a frontier lists, in this order, how far along each of them it got. -/

/-- Where a search stood before and after it followed equal lines along its diagonal. -/
structure Reach where
  startX : Nat
  startY : Nat
  stopX : Nat
  deriving Repr

/-- The reach on diagonal `diagonal` of a search that enters it at `x`. -/
def follow (old new : List Text) (diagonal : Int) (x : Nat) : Reach :=
  let y := (x - diagonal).toNat
  { startX := x, startY := y, stopX := x + commonPrefix (old.drop x) (new.drop y) }

/-- Where the search enters each diagonal after one more step, from the frontier before. -/
def entries (frontier : List Nat) : List Nat :=
  match frontier with
  | [] => [0]
  | first :: rest => (first + 1) :: inner first rest
where
  /-- The entries past the frontier's point `above`. -/
  inner (above : Nat) : List Nat → List Nat
    | [] => [above]
    | below :: rest => (if below < above then above else below + 1) :: inner below rest

/-- The reaches after `d` steps. -/
def reaches (old new : List Text) (d : Nat) (frontier : List Nat) : List Reach :=
  (entries frontier).mapIdx fun i x => follow old new ((d : Int) - 2 * i) x

/-- The entry of a frontier of `d` steps on a diagonal. -/
def onDiagonal? (d : Nat) (frontier : List Nat) (diagonal : Int) : Option Nat :=
  if -(d : Int) ≤ diagonal ∧ diagonal ≤ d ∧ (d - diagonal) % 2 = 0 then
    frontier[((d - diagonal) / 2).toNat]?
  else none

/-- The first reach of `d` steps that meets the opposite frontier of `e` steps. -/
def meeting? (size : Nat) (delta : Int) (d : Nat) (reached : List Reach) (e : Nat)
    (opposite : List Nat) : Option Reach :=
  (reached.zipIdx.find? fun (reach, i) =>
    let diagonal := (d : Int) - 2 * i
    (onDiagonal? e opposite (delta - diagonal)).any fun x => size ≤ reach.stopX + x).map (·.1)

/-- The point where a forward and a backward search of `d` or more steps meet, given their frontiers
of `d - 1` steps.  At most `fuel` steps are tried. -/
def middleFrom? (old new : List Text) (forward backward : List Nat) (d : Nat) :
    Nat → Option (Nat × Nat)
  | 0 => none
  | fuel + 1 =>
    let n := old.length
    let m := new.length
    let delta := (n : Int) - m
    let ahead := reaches old new d forward
    let aheadStops := ahead.map (·.stopX)
    let met := if delta % 2 = 0 ∨ d = 0 then none else meeting? n delta d ahead (d - 1) backward
    match met with
    | some reach => some (reach.startX, reach.startY)
    | none =>
      let behind := reaches old.reverse new.reverse d backward
      let met := if delta % 2 = 0 then meeting? n delta d behind d aheadStops else none
      match met with
      | some reach => some (n - reach.stopX, m - (reach.stopX + reach.startY - reach.startX))
      | none => middleFrom? old new aheadStops (behind.map (·.stopX)) (d + 1) fuel

/-- A point on a shortest script between two lists that neither begin nor end alike. -/
def middle? (old new : List Text) : Option (Nat × Nat) :=
  middleFrom? old new [] [] 0 ((old.length + new.length + 1) / 2 + 1)

/-! ## Scripts -/

/-- A step over `count` lines; no step when there are none. -/
def step (action : Action) (old new count : Nat) : List Edit :=
  if count = 0 then [] else [{ action, old, new, count }]

theorem length_take_drop_le (xs : List Text) (first count : Nat) :
    ((xs.drop first).take count).length ≤ xs.length := by
  simp only [List.length_take, List.length_drop]
  omega

/-- A shortest script between two lists whose lines count from `o` and `n` on. -/
def script (old new : List Text) (o n : Nat) : List Edit :=
  let first := commonPrefix old new
  let oldRest := old.drop first
  let newRest := new.drop first
  let last := commonSuffix oldRest newRest
  let oldCore := oldRest.take (oldRest.length - last)
  let newCore := newRest.take (newRest.length - last)
  let o' := o + first
  let n' := n + first
  let replaceAll :=
    step .delete o' n' oldCore.length ++ step .insert (o' + oldCore.length) n' newCore.length
  let core :=
    if oldCore = [] ∨ newCore = [] then replaceAll
    else match middle? oldCore newCore with
      | none => replaceAll
      | some (x, y) =>
        if _within : 0 < x + y ∧ 0 < (oldCore.length - x) + (newCore.length - y) ∧
            x ≤ oldCore.length ∧ y ≤ newCore.length then
          script (oldCore.take x) (newCore.take y) o' n' ++
            script (oldCore.drop x) (newCore.drop y) (o' + x) (n' + y)
        else replaceAll
  step .keep o n first ++ core ++
    step .keep (o' + oldCore.length) (n' + newCore.length) last
termination_by old.length + new.length
decreasing_by
  all_goals
    have oldShorter : oldCore.length ≤ old.length := length_take_drop_le old first _
    have newShorter : newCore.length ≤ new.length := length_take_drop_le new first _
    simp only [List.length_take, List.length_drop]
    clear_value oldCore newCore
    omega

end Graft.Diff
