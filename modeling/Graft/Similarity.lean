import Graft.Spec
import Graft.Text.Lines

/-! # Near misses

When a marker is nowhere to be found, the line most like it may tell why.  Likeness is one minus the
edit distance over the length of the longer text, as a binary fraction of double precision. -/

namespace Graft

/-! ## Edit distance -/

/-- A row of the table of distances, after its entry `left`: the distances between the text read so
far, which ends in `c`, and the longer and longer beginnings of `other`, from the row before. -/
def distanceRow (c : Char) (left : Nat) : Text → List Nat → List Nat
  | d :: ds, diagonal :: above :: rest =>
    let here := min (min left above + 1) (diagonal + if c = d then 0 else 1)
    here :: distanceRow c here ds (above :: rest)
  | _, _ => []

/-- The least number of characters to insert, delete or replace to get from one text to the
other. -/
def editDistance (a b : Text) : Nat :=
  let rows := a.foldl
    (fun row c =>
      let first := row.headD 0 + 1
      first :: distanceRow c first b row)
    (List.range (b.length + 1))
  rows.getLastD 0

/-- How alike two texts are: 1 when they are the same, 0 when nothing matches. -/
def similarity (a b : Text) : Float :=
  if a = [] ∧ b = [] then 1.0
  else 1.0 - (editDistance a b).toFloat / (max a.length b.length).toFloat

/-! ## The closest line -/

/-- A line that resembles a marker. -/
structure NearMiss where
  marker : Text
  /-- the line's number, from 1 -/
  line : Nat
  /-- the line without the blanks around it -/
  text : Text
  similarity : Float

namespace NearMiss

/-- How alike a line and a marker must be for the line to be offered. -/
def threshold : Float := 0.6

/-- The last of the most alike. -/
def best? (misses : List NearMiss) : Option NearMiss :=
  misses.foldl
    (fun best miss =>
      match best with
      | none => some miss
      | some other => if miss.similarity < other.similarity then some other else some miss)
    none

/-- A share in per cent, rounded to the nearest whole number and from halfway to the even one. -/
def percent (share : Float) : Nat :=
  let scaled := share * 100.0
  let whole := scaled.floor
  let n := whole.toUInt64.toNat
  let rest := scaled - whole
  if rest < 0.5 then n
  else if 0.5 < rest then n + 1
  else n + n % 2

/-- A near miss as a message tells it. -/
def describe (miss : NearMiss) : Text :=
  "closest match for " ++ miss.marker.quoted ++ " is line " ++ Text.ofNat miss.line ++ ": " ++
    miss.text.quoted ++ " (" ++ Text.ofNat (percent miss.similarity) ++ "% similar)"

end NearMiss

/-- The line most like the first line of a marker that shows something. -/
def closestLine? (t marker : Text) : Option NearMiss := do
  let needle ← (marker.lines.map (·.body.trim)).find? (!·.isEmpty)
  let numbered := t.lines.zipIdx 1
  NearMiss.best? <| numbered.filterMap fun (line, number) =>
    let text := line.body.trim
    let miss : NearMiss := { marker, line := number, text, similarity := similarity needle text }
    if text ≠ [] ∧ NearMiss.threshold ≤ miss.similarity then some miss else none

/-- The line most like the marker of some anchor. -/
def nearMiss? (t : Text) (spec : Spec) : Option NearMiss :=
  NearMiss.best? <| (spec.anchors.filterMap Anchor.primaryMarker?).filterMap (closestLine? t)

end Graft
