import Graft.Text.Basic

/-! # Lines

A line ends with `\n` or `\r\n`; the last one may end with the text.  A `\r` directly before a `\n`
belongs to the terminator, any other `\r` to the line.  The lines tile the text: written one after
another they are the text (`flatMap_lines`). -/

namespace Graft

/-- How a text ends its lines. -/
inductive LineEnding where
  | lf
  | crlf
  deriving DecidableEq, Repr

namespace LineEnding

/-- The characters of a line ending. -/
def text : LineEnding → Text
  | lf => ['\n']
  | crlf => ['\r', '\n']

/-- The ending of the first terminated line; `lf` when no line is terminated. -/
def detect : Text → LineEnding
  | [] => lf
  | '\n' :: _ => lf
  | '\r' :: '\n' :: _ => crlf
  | _ :: rest => detect rest

end LineEnding

/-- A line of a text. -/
structure Line where
  /-- the offset of its first byte -/
  start : Nat
  /-- the line without its terminator -/
  body : Text
  /-- the terminator, which only the last line can lack -/
  terminator : Option LineEnding
  deriving DecidableEq, Repr

namespace Line

/-- The text of a terminator. -/
def ending (line : Line) : Text :=
  (line.terminator.map LineEnding.text).getD []

/-- The offset just past the line's body. -/
def stop (line : Line) : Nat :=
  line.start + line.body.byteSize

/-- The offset of the line that follows. -/
def next (line : Line) : Nat :=
  line.stop + line.ending.byteSize

/-- The line as it stands in the text. -/
def text (line : Line) : Text :=
  line.body ++ line.ending

end Line

namespace Text

/-- The bodies of the lines of a text, each with its terminator. -/
def splitLines : Text → List (Text × Option LineEnding)
  | [] => []
  | '\n' :: rest => ([], some .lf) :: splitLines rest
  | '\r' :: '\n' :: rest => ([], some .crlf) :: splitLines rest
  | c :: rest =>
    match splitLines rest with
    | [] => [([c], none)]
    | (body, terminator) :: others => (c :: body, terminator) :: others

/-- The lines with the given bodies and terminators, laid out from byte `start`. -/
def layLines (start : Nat) : List (Text × Option LineEnding) → List Line
  | [] => []
  | (body, terminator) :: others =>
    let line : Line := { start, body, terminator }
    line :: layLines line.next others

/-- The lines of a text. -/
def lines (t : Text) : List Line :=
  layLines 0 (splitLines t)

/-- The index of the line that holds byte `offset`, its terminator counted in.  The end of the text
belongs to the last line. -/
def lineIndexAt? (t : Text) (offset : Nat) : Option Nat :=
  if t = [] ∨ t.byteSize < offset then none
  else
    let past := (lines t).takeWhile fun line => line.next ≤ offset
    some (min past.length ((lines t).length - 1))

/-- Whether the last line is terminated. -/
def endsLine (t : Text) : Bool :=
  t.getLast? == some '\n'

theorem endsLine_iff {t : Text} : t.endsLine = true ↔ t.getLast? = some '\n' :=
  beq_iff_eq

/-! ## Tiling -/

theorem flatMap_splitLines (t : Text) :
    ((splitLines t).flatMap fun piece => piece.1 ++ (piece.2.map LineEnding.text).getD []) = t := by
  fun_induction splitLines t with
  | case1 => rfl
  | case2 rest ih => simp [LineEnding.text, ih]
  | case3 rest ih => simp [LineEnding.text, ih]
  | case4 c rest _ _ h ih => simp_all
  | case5 c rest _ _ body terminator others h ih => simp_all

theorem map_layLines (start : Nat) (parts : List (Text × Option LineEnding)) :
    (layLines start parts).map (fun line => (line.body, line.terminator)) = parts := by
  induction parts generalizing start with
  | nil => rfl
  | cons part others ih => simp [layLines, ih]

/-- The lines of a text, written one after another, are the text. -/
theorem flatMap_lines (t : Text) : (lines t).flatMap Line.text = t := by
  conv => rhs; rw [← flatMap_splitLines t, ← map_layLines 0 (splitLines t), List.flatMap_map]
  rfl

end Text
end Graft
