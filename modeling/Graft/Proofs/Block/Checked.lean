import Graft.Proofs.Block.Insertion
import Graft.Proofs.Text.Checked

/-!
# Blocks without faults

Delimiters are counted byte by byte, and what lies between a delimiter and the edge of its
line is cut out by offsets. The count of open blocks does not go below zero, since it
starts at an opening delimiter and stops where it is back at zero (`findClose_eq`). The cuts
are in order, since a delimiter lies on its line and the closing one behind the opening one
(`Block.Of`). So planning a place at a block does not fault (`startPoint_eq`, `endPoint_eq`).
-/

namespace Graft

open Text

namespace Checked

variable {t header : Text} {d : Delimiter}

/-! ## Matching delimiters -/

/-- The offset of the first opening delimiter at or past byte `start`. -/
def findOpen (t : Text) (start : Nat) (d : Delimiter) : Option Nat :=
  if start ≤ (bytes t).length then
    (((bytes t).drop start).findIdx? (· == asciiByte d.opener)).map (start + ·)
  else none

/-- The place of the delimiter that closes a block, where the bytes are those from `place` on and
`depth` blocks are open before them. -/
def closeFrom (d : Delimiter) (place depth : Nat) : List UInt8 → Checked Nat
  | [] => known none
  | b :: rest =>
    if b = asciiByte d.opener then closeFrom d (place + 1) (depth + 1) rest
    else if b = asciiByte d.closer then do
      let depth ← minus depth 1
      if depth = 0 then pure place else closeFrom d (place + 1) depth rest
    else closeFrom d (place + 1) depth rest

/-- The offset of the delimiter that closes the block opened at byte `opens`. -/
def findClose (t : Text) (opens : Nat) (d : Delimiter) : Checked Nat :=
  if (bytes t)[opens]? = some (asciiByte d.opener) then
    closeFrom d opens 0 ((bytes t).drop opens)
  else known none

/-- The delimiters of the first block that opens at or past byte `start`. -/
def findBlock (t : Text) (start : Nat) (d : Delimiter) : Checked (Nat × Nat) := do
  let opens ← known (findOpen t start d)
  let closes ← findClose t opens d
  return (opens, closes)

theorem opener_lt (d : Delimiter) : d.opener.toNat < 0x80 := by
  cases d <;> decide

theorem closer_lt (d : Delimiter) : d.closer.toNat < 0x80 := by
  cases d <;> decide

theorem asciiByte_closer_ne_opener (d : Delimiter) : asciiByte d.closer ≠ asciiByte d.opener := by
  cases d <;> decide

theorem findOpen_eq (t : Text) (start : Nat) (d : Delimiter) :
    findOpen t start d = findOpen? t start d := by
  rw [findOpen, findOpen?, findChar?_eq_findIdx? (opener_lt d)]
  split
  · rfl
  · rw [List.drop_eq_nil_of_le (by omega)]
    rfl

/-- Bytes of other characters are passed over. -/
theorem closeFrom_append {place depth : Nat} {others : List UInt8}
    (hopener : asciiByte d.opener ∉ others) (hcloser : asciiByte d.closer ∉ others)
    (rest : List UInt8) :
    closeFrom d place depth (others ++ rest) = closeFrom d (place + others.length) depth rest := by
  induction others generalizing place with
  | nil => rfl
  | cons b others ih =>
      rw [List.mem_cons, not_or] at hopener hcloser
      rw [List.cons_append, closeFrom, if_neg (Ne.symm hopener.1), if_neg (Ne.symm hcloser.1),
        ih hopener.2 hcloser.2, List.length_cons, Nat.add_assoc, Nat.add_comm 1]

/-- **The count of open blocks does not go below zero** while one is open. -/
theorem closeFrom_eq (d : Delimiter) (place inner : Nat) (t : Text) :
    closeFrom d place (inner + 1) (bytes t) = known (closing? d place inner t) := by
  induction t generalizing place inner with
  | nil => rfl
  | cons c t ih =>
      rw [bytes_cons]
      simp only [closing?]
      split
      · rename_i hopener
        subst hopener
        rw [utf8EncodeChar_of_ascii (opener_lt d), List.singleton_append, closeFrom, if_pos rfl,
          utf8Size_opener, ih]
      · split
        · rename_i hcloser
          subst hcloser
          rw [utf8EncodeChar_of_ascii (closer_lt d), List.singleton_append, closeFrom,
            if_neg (asciiByte_closer_ne_opener d), if_pos rfl, minus_eq (by omega), pure_bind,
            Nat.add_sub_cancel]
          cases inner with
          | zero => rfl
          | succ inner => rw [if_neg (by omega), utf8Size_closer, ih]
        · rename_i hopener hcloser
          rw [closeFrom_append (mt (asciiByte_mem_utf8EncodeChar_iff (opener_lt d)).mp hopener)
            (mt (asciiByte_mem_utf8EncodeChar_iff (closer_lt d)).mp hcloser),
            String.length_utf8EncodeChar, ih]

theorem findClose_eq (t : Text) (opens : Nat) (d : Delimiter) :
    findClose t opens d = known (findClose? t opens d) := by
  simp only [findClose, findClose?, getElem?_bytes_eq_some_iff (opener_lt d)]
  split
  · rename_i hopener
    obtain ⟨before, rest, rfl, rfl⟩ := charAt?_eq_some hopener
    have hsize : byteSize before + 1 = byteSize (before ++ [d.opener]) := by
      rw [byteSize_append, byteSize_cons, utf8Size_opener, byteSize_nil]
    have hcut : before ++ d.opener :: rest = before ++ [d.opener] ++ rest := by simp
    have hdrop : (bytes (before ++ d.opener :: rest)).drop (byteSize before) =
        asciiByte d.opener :: bytes rest := by
      rw [bytes_append, ← length_bytes, List.drop_left, bytes_cons,
        utf8EncodeChar_of_ascii (opener_lt d), List.singleton_append]
    rw [hdrop, closeFrom, if_pos rfl, closeFrom_eq, hsize, hcut, dropBytes_append_byteSize]
  · rfl

theorem findBlock_eq (t : Text) (start : Nat) (d : Delimiter) :
    findBlock t start d = known (findBlock? t start d) := by
  rw [findBlock, findOpen_eq]
  refine known_bind_eq fun opens _ => ?_
  rw [findClose_eq]
  exact known_bind_eq fun _ _ => rfl

/-! ## A block and its lines -/

/-- A block of a text, with the indices of its lines. -/
structure Block where
  /-- the offset of the opening delimiter -/
  opens : Nat
  /-- the offset of the closing delimiter -/
  closes : Nat
  /-- the index of the line of the opening delimiter -/
  openLine : Nat
  /-- the index of the line of the closing delimiter -/
  closeLine : Nat

/-- The first block that opens at or after `header`. -/
def findHeaded (t header : Text) (d : Delimiter) : Checked Block := do
  let headerAt ← known (locate t header 0)
  let (opens, closes) ← findBlock t headerAt d
  let openLine ← known (t.lineIndexAt? opens)
  let closeLine ← known (t.lineIndexAt? closes)
  return { opens, closes, openLine, closeLine }

namespace Block

/-- The indices of the lines strictly between those of the delimiters. -/
def bodyLines (b : Block) : List Nat :=
  List.range' (b.openLine + 1) (max b.closeLine (b.openLine + 1) - (b.openLine + 1))

/-- What precedes the closing delimiter on its line, inside the block. -/
def beforeClose (t : Text) (b : Block) : Checked Text := do
  let closeLine ← item t.lines b.closeLine
  let start := if b.closeLine = b.openLine then b.opens + 1 else closeLine.start
  slice t start b.closes

/-- The indentation of the first of some lines that shows anything. -/
def bodyIndent (t : Text) (indices : List Nat) (other : Checked Text) : Checked Text := do
  match ← findLine t (fun line => !line.isBlank) indices with
  | some (index, _) => indentAt t index
  | none => other

/-- Where the first line of a block's body goes. -/
def startPoint (t : Text) (d : Delimiter) (b : Block) : Checked Point := do
  let openLine ← item t.lines b.openLine
  let rest ← slice t (b.opens + 1) openLine.stop
  if rest.isBlank ∧ b.openLine < b.closeLine then
    let indent ← bodyIndent t b.bodyLines do
      let before ← b.beforeClose t
      if before.isBlank then nestedIndentAt t b.openLine else indentAt t b.closeLine
    return { offset := openLine.next, indent, placement := .lineStart }
  else
    let nested ← nestedIndentAt t b.openLine
    let resume ← if (bytes (rest.trimStart isSpace)).head? = some (asciiByte d.closer) then
      indentAt t b.openLine else pure nested
    return { offset := b.opens + 1, indent := nested, placement := .midLine resume }

/-- Where the last line of a block's body goes. -/
def endPoint (t : Text) (b : Block) : Checked Point := do
  let closeLine ← item t.lines b.closeLine
  let before ← b.beforeClose t
  if before.isBlank ∧ b.openLine < b.closeLine then
    let indent ← bodyIndent t b.bodyLines.reverse (nestedIndentAt t b.closeLine)
    return { offset := closeLine.start, indent, placement := .lineStart }
  else
    let indent ← if b.closeLine = b.openLine then nestedIndentAt t b.openLine
      else indentAt t b.closeLine
    let resume ← indentAt t b.openLine
    return { offset := b.closes, indent, placement := .midLine resume }

/-! ## The block that is found -/

/-- A block with the indices of its lines is the block with these lines, and its cuts are in
order. -/
structure Of (t : Text) (b : Block) (block : Graft.Block) : Prop where
  opens : b.opens = block.opens
  closes : b.closes = block.closes
  openLine : t.lines[b.openLine]? = some block.openLine
  closeLine : t.lines[b.closeLine]? = some block.closeLine
  body : block.body = (t.lines.take b.closeLine).drop (b.openLine + 1)
  behindOpen : IsBoundary t (block.opens + 1)
  aheadClose : IsBoundary t block.closes
  opens_lt : block.opens < block.closes
  opens_lt_stop : block.opens < block.openLine.stop
  start_le : block.closeLine.start ≤ block.closes
  le_line : b.openLine ≤ b.closeLine

end Block

/-- What stands on a line and is no break stands ahead of the terminator. -/
theorem lt_stop {index offset : Nat} {line : Line} {c : Char} (h : t.lines[index]? = some line)
    (hnext : offset < line.next) (hc : StandsAt t [c] offset) (hbreak : isBreak c = false) :
    offset < line.stop := by
  obtain ⟨before, after, rfl, hstart, -⟩ := exists_of_getElem?_lines h
  by_contra hge
  have hstop : byteSize (before ++ line.body) = line.stop := by
    rw [byteSize_append, hstart, Line.stop]
  obtain ⟨more, rfl⟩ := Nat.exists_eq_add_of_le (Nat.le_of_not_lt hge)
  rw [Line.text, ← List.append_assoc, List.append_assoc, ← hstop, standsAt_append_iff] at hc
  rw [Line.next] at hnext
  rcases standsAt_or_of_append hc with hc | ⟨past, rfl, -⟩
  · have hall : line.ending.all isBreak = true := by
      rw [Line.ending]
      cases line.terminator with
      | none => rfl
      | some ending => cases ending <;> rfl
    rw [List.all_eq_true.mp hall c hc.mem] at hbreak
    cases hbreak
  · omega

theorem Block.of_findBlock? {start opens closes first last : Nat} {openLine closeLine : Line}
    (hblock : findBlock? t start d = some (opens, closes))
    (hfirst : t.lineIndexAt? opens = some first) (hlast : t.lineIndexAt? closes = some last)
    (hopenLine : t.lines[first]? = some openLine) (hcloseLine : t.lines[last]? = some closeLine) :
    Block.Of t ⟨opens, closes, first, last⟩
      ⟨opens, closes, openLine, closeLine, (t.lines.take last).drop (first + 1)⟩ := by
  obtain ⟨before, body, after, ht, rfl, rfl⟩ := findBlock?_eq_some hblock
  have hsize := congrArg byteSize ht
  rw [byteSize_block] at hsize
  obtain ⟨line, hline, hstart, hnext⟩ := exists_line_of_lineIndexAt? hfirst (by omega)
  obtain rfl : line = openLine := Option.some.inj (hline.symm.trans hopenLine)
  obtain ⟨other, hother, hstart', hnext'⟩ := exists_line_of_lineIndexAt? hlast (by omega)
  obtain rfl : other = closeLine := Option.some.inj (hother.symm.trans hcloseLine)
  have hopener : byteSize before + 1 = byteSize (before ++ [d.opener]) := by
    simp [utf8Size_opener]
  have hbody : byteSize before + 1 + byteSize body = byteSize (before ++ d.opener :: body) := by
    simp [utf8Size_opener, Nat.add_assoc]
  refine
    { opens := rfl, closes := rfl, openLine := hline, closeLine := hother, body := rfl,
      behindOpen := ⟨before ++ [d.opener], body ++ d.closer :: after, by simp [ht], hopener.symm⟩
      aheadClose := ⟨before ++ d.opener :: body, d.closer :: after, ht, hbody.symm⟩
      opens_lt := Nat.lt_of_lt_of_le (Nat.lt_succ_self _) (Nat.le_add_right _ _)
      opens_lt_stop := ?_, start_le := hstart', le_line := ?_ }
  · have hstands : StandsAt t [d.opener] (byteSize before) :=
      ⟨before, body ++ d.closer :: after, by simp [ht], rfl⟩
    exact lt_stop hline hnext hstands (by cases d <;> rfl)
  · -- the line of a later offset is no earlier one
    refine Nat.le_of_not_lt fun hlt => ?_
    have hle := next_le_start_of_lt hother hline hlt
    dsimp only at *
    omega

/-- **A block is found without a fault**, and its cuts are in order. -/
theorem findHeaded_cases (t header : Text) (d : Delimiter) :
    (findHeaded t header d = known none ∧ Graft.Block.find? t header d = none) ∨
      ∃ b block, findHeaded t header d = pure b ∧ Graft.Block.find? t header d = some block ∧
        Block.Of t b block := by
  rw [findHeaded, locate_eq, Graft.Block.find?]
  cases t.locate? header 0 with
  | none => exact .inl ⟨rfl, rfl⟩
  | some headerAt =>
      rw [known_some, pure_bind, findBlock_eq]
      cases hblock : findBlock? t headerAt d with
      | none =>
          refine .inl ⟨rfl, ?_⟩
          simp only [Option.bind_eq_bind, Option.bind_some, hblock, Option.bind_none]
      | some found =>
          obtain ⟨opens, closes⟩ := found
          obtain ⟨before, body, after, ht, hopens, hcloses⟩ := findBlock?_eq_some hblock
          have hsize := congrArg byteSize ht
          rw [byteSize_block] at hsize
          have hne : t ≠ [] := by
            rintro rfl
            rw [byteSize_nil] at hsize
            omega
          obtain ⟨first, openLine, hfirst, hopenLine⟩ := exists_lineIndexAt? hne opens (by omega)
          obtain ⟨last, closeLine, hlast, hcloseLine⟩ := exists_lineIndexAt? hne closes (by omega)
          have hof := Block.of_findBlock? hblock hfirst hlast hopenLine hcloseLine
          refine .inr ⟨_, _, ?_, ?_, hof⟩
          · simp only [known_some, pure_bind, hfirst, hlast]
          · simp only [Option.bind_eq_bind, Option.bind_some, hblock, hfirst, hlast, hopenLine,
              hcloseLine, Option.pure_def]

namespace Block

variable {b : Block} {block : Graft.Block}

theorem Of.spansLines_iff (h : Of t b block) :
    block.spansLines = true ↔ b.openLine < b.closeLine := by
  rw [Graft.Block.spansLines, decide_eq_true_eq]
  constructor
  · intro hlt
    refine Nat.lt_of_not_le fun hle => ?_
    have hstarts := start_le_of_le h.closeLine h.openLine hle
    omega
  · intro hlt
    have hnext := next_le_start_of_lt h.openLine h.closeLine hlt
    have hlong := start_lt_next (List.mem_of_getElem? h.openLine)
    omega

theorem Of.afterOpen (h : Of t b block) :
    slice t (b.opens + 1) block.openLine.stop = pure (block.afterOpen t) := by
  rw [h.opens]
  exact slice_eq h.opens_lt_stop h.behindOpen (isBoundary_line h.openLine).2

theorem Of.beforeClose (h : Of t b block) : b.beforeClose t = pure (block.beforeClose t) := by
  rw [Block.beforeClose, item_eq h.closeLine, pure_bind, Graft.Block.beforeClose, h.closes, h.opens]
  by_cases hspans : block.spansLines = true
  · have hlt := h.spansLines_iff.mp hspans
    rw [if_pos hspans, if_neg (by omega)]
    exact slice_eq h.start_le (isBoundary_line h.closeLine).1 h.aheadClose
  · have hle := mt h.spansLines_iff.mpr hspans
    have hline := h.le_line
    rw [if_neg hspans, if_pos (by omega)]
    exact slice_eq h.opens_lt h.behindOpen h.aheadClose

theorem Of.bodyLines (h : Of t b block) :
    List.Forall₂ (fun index line => t.lines[index]? = some line) b.bodyLines block.body := by
  have hlast := (List.getElem?_eq_some_iff.mp h.closeLine).1
  have hfirst := (List.getElem?_eq_some_iff.mp h.openLine).1
  have hcount : max b.closeLine (b.openLine + 1) - (b.openLine + 1) =
      b.closeLine - (b.openLine + 1) := by
    omega
  rw [Block.bodyLines, h.body, hcount, List.drop_take]
  exact forall₂_range' (by omega)

/-- The indentation of the first of some lines that shows anything is that of the first one. -/
theorem bodyIndent_eq {indices : List Nat} {lines : List Line} {other : Checked Text} {indent : Text}
    (h : List.Forall₂ (fun index line => t.lines[index]? = some line) indices lines)
    (hother : other = pure indent) :
    bodyIndent t indices other = pure
      (match lines.find? fun line => !line.isBlank with
        | some line => line.indent
        | none => indent) := by
  obtain ⟨found, hfound, hcases⟩ := exists_findLine (fun line => !line.isBlank) h
  rw [bodyIndent, hfound, pure_bind]
  rcases hcases with ⟨rfl, hnone⟩ | ⟨index, line, rfl, hline, hsome⟩
  · have hnone' : lines.find? (fun line => !line.isBlank) = none := hnone
    rw [hnone']
    exact hother
  · have hsome' : lines.find? (fun line => !line.isBlank) = some line := hsome
    rw [hsome']
    exact indentAt_eq hline

/-- **The place of the first line of a body is found without a fault.** -/
theorem Of.startPoint (h : Of t b block) (d : Delimiter) :
    b.startPoint t d = pure (block.startPoint t d) := by
  rw [Block.startPoint, item_eq h.openLine, pure_bind, h.afterOpen, pure_bind,
    nestedIndentAt_eq h.openLine, indentAt_eq h.openLine, indentAt_eq h.closeLine, h.beforeClose]
  simp only [Graft.Block.startPoint, pure_bind, ← h.spansLines_iff,
    head?_bytes_eq_some_iff (closer_lt d), h.opens]
  split
  · have hother : (if (block.beforeClose t).isBlank then
        (pure (block.openLine.indent ++ t.indentUnit) : Checked Text)
          else pure block.closeLine.indent) =
        pure (if (block.beforeClose t).isBlank then block.openLine.indent ++ t.indentUnit
          else block.closeLine.indent) :=
      (apply_ite pure _ _ _).symm
    rw [bodyIndent_eq h.bodyLines hother]
    exact pure_bind _ _
  · split
    · rfl
    · rfl

/-- **The place of the last line of a body is found without a fault.** -/
theorem Of.endPoint (h : Of t b block) : b.endPoint t = pure (block.endPoint t) := by
  have hspans := h.spansLines_iff
  have hle := h.le_line
  rw [Block.endPoint, item_eq h.closeLine, pure_bind, h.beforeClose, pure_bind,
    nestedIndentAt_eq h.closeLine, nestedIndentAt_eq h.openLine, indentAt_eq h.openLine,
    indentAt_eq h.closeLine]
  simp only [Graft.Block.endPoint, pure_bind, ← hspans, h.closes]
  split
  · rw [bodyIndent_eq (List.rel_reverse h.bodyLines) rfl]
    exact pure_bind _ _
  · by_cases hline : b.closeLine = b.openLine
    · rw [if_pos hline, if_neg (mt hspans.mp (by omega))]
    · rw [if_neg hline, if_pos (hspans.mpr (by omega))]

end Block
end Checked
end Graft
