import Graft.Text.Lines
import Graft.Text.Search

/-! # Locating markers

Where a marker stands in a text, and which lines it covers.  An empty marker stands nowhere. -/

namespace Graft.Text

/-- The offset of the first `marker` at or past byte `start`. -/
def locate? (t marker : Text) (start : Nat) : Option Nat :=
  if marker = [] ∨ ¬IsBoundary t start then none
  else (occurrence? (t.dropBytes start) marker).map (start + ·)

/-- The offset of the last `marker`. -/
def locateLast? (t marker : Text) : Option Nat :=
  if marker = [] then none else lastOccurrence? t marker

/-- The offset of the first `marker` past the first `bound`; without a bound, of the first one. -/
def locateAfter? (t marker : Text) : Option Text → Option Nat
  | none => locate? t marker 0
  | some bound => do
    let found ← locate? t bound 0
    locate? t marker (found + bound.byteSize)

/-! ## The lines under a match -/

/-- Whether a `\n` or a `\r` stands at byte `offset`. -/
def breakAt (t : Text) (offset : Nat) : Bool :=
  charAt? t offset == some '\n' || charAt? t offset == some '\r'

/-- How many of the `size` bytes from `start` on are breaks before anything else. -/
def leadingBreaks (t : Text) (start : Nat) : Nat → Nat
  | 0 => 0
  | size + 1 => if breakAt t start then leadingBreaks t (start + 1) size + 1 else 0

/-- How many of the `size` bytes from `start` on are left when the breaks at their end go. -/
def withoutFinalBreaks (t : Text) (start : Nat) : Nat → Nat
  | 0 => 0
  | size + 1 => if breakAt t (start + size) then withoutFinalBreaks t start size else size + 1

/-- The indices of the first and the last line that the bytes from `start` to `stop` show something
of.  Breaks at either end of the span do not count, unless there is nothing else in it. -/
def matchedLines? (t : Text) (start stop : Nat) : Option (Nat × Nat) :=
  let first := start + leadingBreaks t start (stop - start)
  let size := withoutFinalBreaks t first (stop - first)
  if size = 0 then (lineIndexAt? t start).map fun line => (line, line)
  else do
    let firstLine ← lineIndexAt? t first
    let lastLine ← lineIndexAt? t (first + size - 1)
    return (firstLine, lastLine)

end Graft.Text
