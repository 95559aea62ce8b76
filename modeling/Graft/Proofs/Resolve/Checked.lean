import Graft.Proofs.Block.Checked
import Graft.Proofs.Splice.Checked
import Graft.Proofs.Text.CheckedLines

/-!
# Planning without faults

Planning searches texts byte by byte, reads bytes by their offsets, cuts parts out of lines
and counts delimiters down, and each of these stops at a wrong offset. No offset is wrong:
a checked planner that does all of this faults on no text and at no anchor, and gives what
the planner gives (`resolve_eq`). The point that it gives lies between characters, so the
text is cut there into two texts, and splicing does not fault either
(`planning_never_faults`).
-/

namespace Graft

open Text

namespace Checked

variable {t marker : Text} {start : Nat}

/-! ## Literal anchors -/

/-- The bytes of a match that starts at byte `start`, which are checked like a cut. -/
def matchSpan (t : Text) (start : Nat) (marker : Text) : Checked (Nat × Nat) := do
  let stop := start + (bytes marker).length
  let _ ← slice t start stop
  return (start, stop)

/-- The point after a line. -/
def pointAfter (t : Text) (index : Nat) : Checked Point := do
  let line ← known t.lines[index]?
  let indent ← indentAt t index
  if line.stop < line.next then
    return { offset := line.next, indent, placement := .lineStart }
  else return { offset := (bytes t).length, indent, placement := .endOfText }

/-- The point after the last line of the match of `marker` at byte `start`, or of the first
`terminator` from there on. -/
def pointAfterMatch (t : Text) (start : Nat) (marker : Text) : Option Text → Checked Point
  | none => do
    let (first, stop) ← matchSpan t start marker
    let (_, last) ← matchedLines t first stop
    pointAfter t last
  | some terminator => do
    let found ← known (locate t terminator start)
    let (first, stop) ← matchSpan t found terminator
    let (_, last) ← matchedLines t first stop
    pointAfter t last

/-- The point before the first line of the match of `marker` at byte `start`. -/
def pointBeforeMatch (t : Text) (start : Nat) (marker : Text) : Checked Point := do
  let (first, stop) ← matchSpan t start marker
  let (index, _) ← matchedLines t first stop
  let line ← known t.lines[index]?
  let indent ← indentAt t index
  return { offset := line.start, indent, placement := .lineStart }

theorem matchSpan_eq (h : StandsAt t marker start) :
    matchSpan t start marker = pure (start, start + byteSize marker) := by
  rw [matchSpan, length_bytes,
    slice_eq (Nat.le_add_right _ _) h.isBoundary h.isBoundary_add, pure_bind]

theorem pointAfter_eq (t : Text) (index : Nat) :
    pointAfter t index =
      known (t.lines[index]? >>= fun line => some (Graft.pointAfter t line)) := by
  refine known_bind_eq fun line hline => ?_
  have hnext : line.next = line.stop + byteSize line.ending := rfl
  rw [indentAt_eq hline, pure_bind, length_bytes, Graft.pointAfter]
  cases hterminator : line.terminator with
  | none =>
      have hsize : byteSize line.ending = 0 := by
        rw [Line.ending, hterminator]
        rfl
      rw [if_neg (by omega)]
      rfl
  | some ending =>
      have hsize : 0 < byteSize line.ending := by
        rw [Line.ending, hterminator]
        cases ending with
        | lf => decide
        | crlf => decide
      rw [if_pos (by omega)]
      rfl

/-- The lines of a match, and then the point after the last of them. -/
theorem matchedLines_bind_eq (h : StandsAt t marker start) (next : Nat × Nat → Checked Point)
    (value : Nat × Nat → Option Point) (hnext : ∀ found, next found = known (value found)) :
    (do
      let (first, stop) ← matchSpan t start marker
      let found ← matchedLines t first stop
      next found) =
      known (t.matchedLines? start (start + byteSize marker) >>= value) := by
  rw [matchSpan_eq h, pure_bind]
  dsimp only
  rw [matchedLines_eq (Nat.le_add_right _ _) h.add_le]
  exact known_bind_eq fun found _ => hnext found

theorem pointAfterMatch_eq (h : StandsAt t marker start) (terminator : Option Text) :
    pointAfterMatch t start marker terminator =
      known (pointAfterMatch? t start marker terminator) := by
  cases terminator with
  | none => exact matchedLines_bind_eq h _ _ fun found => pointAfter_eq t found.2
  | some terminator =>
      have hspan : pointAfterMatch? t start marker (some terminator) =
          t.locate? terminator start >>= fun found =>
            t.matchedLines? found (found + byteSize terminator) >>= fun found =>
              t.lines[found.2]? >>= fun line => some (Graft.pointAfter t line) := by
        rw [pointAfterMatch?]
        cases t.locate? terminator start with
        | none => rfl
        | some found => rfl
      rw [pointAfterMatch, locate_eq, hspan]
      refine known_bind_eq fun found hfound => ?_
      have hstands := ((locate?_eq_some_iff h.isBoundary).mp hfound).2.standsAt
      exact matchedLines_bind_eq hstands _ _ fun found => pointAfter_eq t found.2

theorem pointBeforeMatch_eq (h : StandsAt t marker start) :
    pointBeforeMatch t start marker = known (pointBeforeMatch? t start marker) := by
  refine matchedLines_bind_eq h _ _ fun found => known_bind_eq fun line hline => ?_
  rw [indentAt_eq hline, pure_bind]
  rfl

/-! ## Every anchor -/

/-- The point that an anchor resolves to. -/
def resolve (t : Text) : Anchor → Checked Point
  | .literalAfter marker bound terminator => do
    let start ← known (locateAfter t marker bound)
    pointAfterMatch t start marker terminator
  | .lastLiteralAfter marker terminator => do
    let start ← known (locateLast t marker)
    pointAfterMatch t start marker terminator
  | .literalBefore marker bound => do
    let start ← known (locateAfter t marker bound)
    pointBeforeMatch t start marker
  | .blockBodyStart header d => do
    let block ← findHeaded t header d
    block.startPoint t d
  | .blockBodyEnd header d => do
    let block ← findHeaded t header d
    block.endPoint t
  | .endOfDocument =>
    return { offset := (bytes t).length, indent := [], placement := .endOfText }

/-- **Planning does not fault**, and gives what it gives without checks. -/
theorem resolve_eq (t : Text) (anchor : Anchor) : resolve t anchor = known (resolve? t anchor) := by
  cases anchor with
  | literalAfter marker bound terminator =>
      rw [resolve, locateAfter_eq]
      exact known_bind_eq fun start hstart =>
        pointAfterMatch_eq (locateAfter?_eq_some_iff.mp hstart).standsAt terminator
  | lastLiteralAfter marker terminator =>
      rw [resolve, locateLast_eq]
      exact known_bind_eq fun start hstart =>
        pointAfterMatch_eq (locateLast?_eq_some_iff.mp hstart).2.1 terminator
  | literalBefore marker bound =>
      rw [resolve, locateAfter_eq]
      exact known_bind_eq fun start hstart =>
        pointBeforeMatch_eq (locateAfter?_eq_some_iff.mp hstart).standsAt
  | blockBodyStart header d =>
      rw [resolve, resolve?]
      rcases findHeaded_cases t header d with ⟨hfind, hnone⟩ | ⟨b, block, hfind, hsome, hof⟩
      · rw [hfind, hnone]
        rfl
      · rw [hfind, hsome, pure_bind, hof.startPoint]
        rfl
  | blockBodyEnd header d =>
      rw [resolve, resolve?]
      rcases findHeaded_cases t header d with ⟨hfind, hnone⟩ | ⟨b, block, hfind, hsome, hof⟩
      · rw [hfind, hnone]
        rfl
      · rw [hfind, hsome, pure_bind, hof.endPoint]
        rfl
  | endOfDocument =>
      rw [resolve, length_bytes]
      rfl

end Checked

/-- A point cuts its text between characters. -/
theorem isBoundary_of_resolve? {t : Text} {anchor : Anchor} {point : Point}
    (h : resolve? t anchor = some point) : IsBoundary t point.offset := by
  cases cut_of_resolve? h with
  | lineStart hcut _ _ => exact ⟨_, _, hcut, rfl⟩
  | endOfText _ => exact ⟨t, [], by simp, rfl⟩
  | @afterOpener d before after _ _ _ hcut _ _ =>
      refine ⟨before ++ [d.opener], after, by simp [hcut], ?_⟩
      simp [utf8Size_opener]
  | beforeCloser _ hcut _ _ => exact ⟨_, _, hcut, rfl⟩

/-- **Planning and splicing fault on no text and at no anchor.** Every range that is cut or read
is one of whole characters inside the text, no count goes below zero, and a point cuts the bytes of
the text into those of two texts. Nor does the line index fault that they go by. -/
theorem planning_never_faults (t : Text) (anchor : Anchor) :
    (Checked.indexLines (bytes t) 0).run = .ok (some (t.lines.map Line.edges)) ∧
      (Checked.detect t).run = .ok (some (LineEnding.detect t)) ∧
      (Checked.resolve t anchor).run = .ok (resolve? t anchor) ∧
      ∀ point, resolve? t anchor = some point →
        point.offset ≤ (bytes t).length ∧ isCharBoundary (bytes t) point.offset = true ∧
        bytes (t.takeBytes point.offset) = (bytes t).take point.offset ∧
        bytes (t.dropBytes point.offset) = (bytes t).drop point.offset ∧
        ∀ fragment,
          (Checked.splice t point fragment).run = .ok (some (splice t point fragment)) := by
  have hindex := Checked.indexLines_eq [] t
  rw [List.nil_append, byteSize_nil] at hindex
  refine ⟨by rw [hindex]; rfl, by rw [Checked.detect_eq]; rfl, by rw [Checked.resolve_eq]; rfl,
    fun point hpoint => ?_⟩
  have hboundary := isBoundary_of_resolve? hpoint
  refine ⟨?_, isCharBoundary_bytes_iff.mpr hboundary, bytes_takeBytes hboundary,
    bytes_dropBytes hboundary, fun fragment => ?_⟩
  · rw [length_bytes]
    exact hboundary.le_byteSize
  · rw [Checked.splice_eq hboundary]
    rfl

/-- A block whose header has two bytes and whose body has three. -/
def accented : Text := ['ï', '{', '€', '}', '\n']

/-- The end of the body is behind six bytes. -/
def accentedPoint : Point where
  offset := 6
  indent := [' ', ' ', ' ', ' ']
  placement := .midLine []

/-- The place at the end of the body is between characters, and no fault is on the way there. -/
theorem accented_never_faults :
    resolve? accented (.blockBodyEnd ['ï'] .brace) = some accentedPoint ∧
      bytes (accented.takeBytes 6) = (bytes accented).take 6 ∧
      (Checked.splice accented accentedPoint [['é']]).run =
        .ok (some (splice accented accentedPoint [['é']])) := by
  have hpoint : resolve? accented (.blockBodyEnd ['ï'] .brace) = some accentedPoint := by decide
  obtain ⟨-, -, -, hpoints⟩ := planning_never_faults accented (.blockBodyEnd ['ï'] .brace)
  obtain ⟨-, -, htake, -, hsplice⟩ := hpoints accentedPoint hpoint
  exact ⟨hpoint, htake, hsplice _⟩

end Graft
