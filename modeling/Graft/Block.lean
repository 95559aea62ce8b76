import Graft.Spec
import Graft.Text.Locate
import Graft.Text.Indent

/-! # Blocks

A block runs from an opening delimiter to the closing one that matches it.  Every delimiter counts,
in strings and comments too. -/

namespace Graft

/-! ## Matching delimiters -/

/-- The offset of the first opening delimiter at or past byte `start`. -/
def findOpen? (t : Text) (start : Nat) (d : Delimiter) : Option Nat :=
  t.findChar? (· == d.opener) start

/-- The offset of the delimiter that closes a block, where `t` is what follows byte `offset` of it
and `inner` blocks are open inside. -/
def closing? (d : Delimiter) (offset inner : Nat) : Text → Option Nat
  | [] => none
  | c :: rest =>
    if c = d.opener then closing? d (offset + c.utf8Size) (inner + 1) rest
    else if c = d.closer then
      match inner with
      | 0 => some offset
      | inner + 1 => closing? d (offset + c.utf8Size) inner rest
    else closing? d (offset + c.utf8Size) inner rest

/-- The offset of the delimiter that closes the block opened at byte `opens`. -/
def findClose? (t : Text) (opens : Nat) (d : Delimiter) : Option Nat :=
  if t.charAt? opens = some d.opener then
    closing? d (opens + 1) 0 (t.dropBytes (opens + 1))
  else none

/-- The delimiters of the first block that opens at or past byte `start`. -/
def findBlock? (t : Text) (start : Nat) (d : Delimiter) : Option (Nat × Nat) := do
  let opens ← findOpen? t start d
  let closes ← findClose? t opens d
  return (opens, closes)

/-! ## A block and its lines -/

/-- A block of a text. -/
structure Block where
  /-- the offset of the opening delimiter -/
  opens : Nat
  /-- the offset of the closing delimiter -/
  closes : Nat
  /-- the line of the opening delimiter -/
  openLine : Line
  /-- the line of the closing delimiter -/
  closeLine : Line
  /-- the lines strictly between those two -/
  body : List Line
  deriving Repr

namespace Block

/-- The first block that opens at or after `header`.  The header may hold the delimiter itself. -/
def find? (t header : Text) (d : Delimiter) : Option Block := do
  let headerAt ← t.locate? header 0
  let (opens, closes) ← findBlock? t headerAt d
  let first ← t.lineIndexAt? opens
  let last ← t.lineIndexAt? closes
  let openLine ← t.lines[first]?
  let closeLine ← t.lines[last]?
  return { opens, closes, openLine, closeLine, body := (t.lines.take last).drop (first + 1) }

/-- Whether the block is closed on a later line than it is opened. -/
def spansLines (block : Block) : Bool :=
  block.openLine.start < block.closeLine.start

/-- What follows the opening delimiter on its line. -/
def afterOpen (block : Block) (t : Text) : Text :=
  t.slice (block.opens + 1) block.openLine.stop

/-- What precedes the closing delimiter on its line, inside the block. -/
def beforeClose (block : Block) (t : Text) : Text :=
  let start := if block.spansLines then block.closeLine.start else block.opens + 1
  t.slice start block.closes

end Block
end Graft
