import Graft.Block
import Graft.Splice

/-! # From anchors to points

Each anchor resolves to at most one point of a text.  Literal anchors resolve to the edge of a line,
block anchors to the edge of a line where the block spans lines and beside a delimiter where it does
not. -/

namespace Graft

/-! ## Literal anchors -/

/-- The point after a line. -/
def pointAfter (t : Text) (line : Line) : Point :=
  match line.terminator with
  | some _ => { offset := line.next, indent := line.indent, placement := .lineStart }
  | none => { offset := t.byteSize, indent := line.indent, placement := .endOfText }

/-- The point after the last line of the match of `marker` at byte `start`, or of the first
`terminator` from there on. -/
def pointAfterMatch? (t : Text) (start : Nat) (marker : Text) (terminator : Option Text) :
    Option Point := do
  let (first, stop) ←
    match terminator with
    | none => some (start, start + marker.byteSize)
    | some terminator => (t.locate? terminator start).map fun found => (found, found + terminator.byteSize)
  let (_, last) ← t.matchedLines? first stop
  let line ← t.lines[last]?
  return pointAfter t line

/-- The point before the first line of the match of `marker` at byte `start`. -/
def pointBeforeMatch? (t : Text) (start : Nat) (marker : Text) : Option Point := do
  let (first, _) ← t.matchedLines? start (start + marker.byteSize)
  let line ← t.lines[first]?
  return { offset := line.start, indent := line.indent, placement := .lineStart }

/-! ## Block anchors -/

namespace Block

/-- Where the first line of a block's body goes. -/
def startPoint (t : Text) (d : Delimiter) (block : Block) : Point :=
  let rest := block.afterOpen t
  let nested := block.openLine.indent ++ t.indentUnit
  if Text.isBlank rest ∧ block.spansLines then
    let indent :=
      match block.body.find? fun line => !line.isBlank with
      | some line => line.indent
      | none => if Text.isBlank (block.beforeClose t) then nested else block.closeLine.indent
    { offset := block.openLine.next, indent, placement := .lineStart }
  else
    let isEmpty := (rest.trimStart Text.isSpace).head? = some d.closer
    { offset := block.opens + 1
      indent := nested
      placement := .midLine (if isEmpty then block.openLine.indent else nested) }

/-- Where the last line of a block's body goes. -/
def endPoint (t : Text) (block : Block) : Point :=
  if Text.isBlank (block.beforeClose t) ∧ block.spansLines then
    let indent :=
      match block.body.reverse.find? fun line => !line.isBlank with
      | some line => line.indent
      | none => block.closeLine.indent ++ t.indentUnit
    { offset := block.closeLine.start, indent, placement := .lineStart }
  else
    let indent :=
      if block.spansLines then block.closeLine.indent
      else block.openLine.indent ++ t.indentUnit
    { offset := block.closes
      indent
      placement := .midLine block.openLine.indent }

end Block

/-! ## Every anchor -/

/-- The point that an anchor resolves to. -/
def resolve? (t : Text) : Anchor → Option Point
  | .literalAfter marker bound terminator => do
    let start ← t.locateAfter? marker bound
    pointAfterMatch? t start marker terminator
  | .lastLiteralAfter marker terminator => do
    let start ← t.locateLast? marker
    pointAfterMatch? t start marker terminator
  | .literalBefore marker bound => do
    let start ← t.locateAfter? marker bound
    pointBeforeMatch? t start marker
  | .blockBodyStart header d => (Block.find? t header d).map (Block.startPoint t d)
  | .blockBodyEnd header d => (Block.find? t header d).map (Block.endPoint t)
  | .endOfDocument =>
    some { offset := t.byteSize, indent := [], placement := .endOfText }

end Graft
