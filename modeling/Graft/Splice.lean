import Graft.Text.Blank
import Graft.Text.Lines
import Graft.Text.Search

/-! # Splicing

A point says where a fragment goes into a text and how it is laid out there.  The fragment always
lands on lines of its own, and every break that is added is the text's own line ending. -/

namespace Graft

/-! ## Points -/

/-- How a fragment meets the text around it. -/
inductive Placement where
  /-- the point is the start of a line; the fragment goes ahead of it -/
  | lineStart
  /-- the point is the end of the text; empty lines that lead the fragment are separators, dropped
  where the text ends in blank lines already -/
  | endOfText
  /-- the point is inside a line, whose rest goes on after `resume` on a line of its own -/
  | midLine (resume : Text)
  deriving DecidableEq, Repr

/-- A place for a fragment. -/
structure Point where
  /-- the byte offset -/
  offset : Nat
  /-- what is put before every line of the fragment that is not empty -/
  indent : Text
  placement : Placement
  deriving DecidableEq, Repr

/-! ## Rendering -/

/-- The lines of a fragment, indented, with line endings between them.  Empty lines stay empty. -/
def renderFragment (fragment : List Text) (indent : Text) (ending : LineEnding) : Text :=
  Text.joined ending.text (fragment.map fun line => if line = [] then [] else indent ++ line)

/-- Without indentation a fragment is rendered as its lines, joined. -/
theorem renderFragment_nil (fragment : List Text) (ending : LineEnding) :
    renderFragment fragment [] ending = Text.joined ending.text fragment := by
  have hmap : (fragment.map fun line => if line = [] then [] else [] ++ line) = fragment := by
    refine (List.map_congr_left fun line _ => ?_).trans (List.map_id fragment)
    split
    · rename_i hline
      exact hline.symm
    · rfl
  rw [renderFragment, hmap]

/-- The number of blank lines that a terminated text ends in.  Its first line never counts. -/
def trailingBlankLines (t : Text) : Nat :=
  if t.endsLine then
    ((Text.pieces (· == '\n') t.dropLast).tail.reverse.takeWhile Text.isBlank).length
  else 0

/-- The text with a fragment put in at a point. -/
def splice (t : Text) (point : Point) (fragment : List Text) : Text :=
  let ending := LineEnding.detect t
  let head := t.takeBytes point.offset
  let tail := t.dropBytes point.offset
  match point.placement with
  | .lineStart =>
    head ++ renderFragment fragment point.indent ending ++ ending.text ++ tail
  | .endOfText =>
    let separators := (fragment.takeWhile List.isEmpty).length
    let kept := fragment.drop (min separators (trailingBlankLines t))
    let closed := if t = [] ∨ t.endsLine then t else t ++ ending.text
    closed ++ renderFragment kept point.indent ending ++ ending.text
  | .midLine resume =>
    head.trimEnd Text.isIndent ++ ending.text ++
      renderFragment fragment point.indent ending ++ ending.text ++
      resume ++ tail.trimStart Text.isIndent

end Graft
