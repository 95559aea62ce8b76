import Graft.Text.Blank
import Graft.Text.Lines

/-! # Indentation

The run of spaces and tabs at the front of a line, and one more level of it in the manner of the
text: a tab where the first indented line starts with a tab, four spaces otherwise. -/

namespace Graft

namespace Text

/-- The spaces and tabs that a line starts with. -/
def leading (line : Text) : Text :=
  line.takeWhile isIndent

/-- One level of indentation. -/
def indentUnit (t : Text) : Text :=
  let indented := (lines t).find? fun line =>
    (line.body.head?.any isIndent) && !isBlank line.body
  match indented with
  | some line => if line.body.head? = some '\t' then ['\t'] else [' ', ' ', ' ', ' ']
  | none => [' ', ' ', ' ', ' ']

/-- The indentation of the line at `index`; none past the end. -/
def indentAt (t : Text) (index : Nat) : Text :=
  ((lines t)[index]?.map fun line => leading line.body).getD []

/-- The indentation of the line at `index` and one level more. -/
def nestedIndentAt (t : Text) (index : Nat) : Text :=
  indentAt t index ++ indentUnit t

end Text

/-- The spaces and tabs that a line starts with. -/
def Line.indent (line : Line) : Text :=
  Text.leading line.body

/-- Whether a line shows nothing. -/
def Line.isBlank (line : Line) : Bool :=
  Text.isBlank line.body

end Graft
