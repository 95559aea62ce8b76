import Graft.Proofs.Text.LineStart
import Graft.Weave

/-!
# Where a resolved point cuts its text

Whatever anchor a point comes from, it cuts the text in one of four places: at
the start of a line, at the end of the text, just past an opening delimiter or
just ahead of a closing one; the last two only when the anchor looks for a block
of that delimiter. `cut_of_resolve?` says so once for all anchors, so nothing
that is proved of splicing has to open an anchor again.
-/

namespace Graft

open Text

/-- The delimiter of the blocks that an anchor looks for. -/
def Anchor.delimiter? : Anchor → Option Delimiter
  | .blockBodyStart _ d => some d
  | .blockBodyEnd _ d => some d
  | .literalAfter _ _ _ => none
  | .literalBefore _ _ => none
  | .lastLiteralAfter _ _ => none
  | .endOfDocument => none

/-- The places where a point that `anchor` resolves to can cut a text. What the
point puts before lines is indentation in every case. -/
inductive Cut (t : Text) (anchor : Anchor) : Point → Prop where
  | lineStart {before after indent : Text} : t = before ++ after → AtLineStart before →
      indent.all isIndent = true →
      Cut t anchor { offset := byteSize before, indent, placement := .lineStart }
  | endOfText {indent : Text} : indent.all isIndent = true →
      Cut t anchor { offset := byteSize t, indent, placement := .endOfText }
  | afterOpener {d : Delimiter} {before after indent resume : Text} :
      anchor.delimiter? = some d → t = before ++ d.opener :: after →
      indent.all isIndent = true → resume.all isIndent = true →
      Cut t anchor { offset := byteSize before + 1, indent, placement := .midLine resume }
  | beforeCloser {d : Delimiter} {before after indent resume : Text} :
      anchor.delimiter? = some d → t = before ++ d.closer :: after →
      indent.all isIndent = true → resume.all isIndent = true →
      Cut t anchor { offset := byteSize before, indent, placement := .midLine resume }

/-- What a point puts ahead of the rest of a line that it breaks. -/
def Placement.resume : Placement → Text
  | .lineStart => []
  | .endOfText => []
  | .midLine resume => resume

/-- What a point puts into a text beside the fragment is indentation. -/
theorem Cut.all_isIndent {t : Text} {anchor : Anchor} {point : Point} (hcut : Cut t anchor point) :
    point.indent.all isIndent = true ∧ point.placement.resume.all isIndent = true := by
  cases hcut with
  | lineStart _ _ hindent => exact ⟨hindent, rfl⟩
  | endOfText hindent => exact ⟨hindent, rfl⟩
  | afterOpener _ _ hindent hresume => exact ⟨hindent, hresume⟩
  | beforeCloser _ _ hindent hresume => exact ⟨hindent, hresume⟩

/-! ## Indentation -/

theorem Line.all_indent (line : Line) : line.indent.all isIndent = true :=
  List.all_takeWhile

theorem all_indentUnit (t : Text) : t.indentUnit.all isIndent = true := by
  simp only [indentUnit]
  split
  · split <;> rfl
  · rfl

theorem all_indent_append_indentUnit (t : Text) (line : Line) :
    (line.indent ++ t.indentUnit).all isIndent = true := by
  rw [List.all_append, line.all_indent, all_indentUnit, Bool.and_self]

/-! ## Literal anchors -/

/-- The point after a line cuts just past its terminator, or at the end of the text. -/
theorem cut_pointAfter {t : Text} (anchor : Anchor) {i : Nat} {line : Line}
    (h : (lines t)[i]? = some line) : Cut t anchor (pointAfter t line) := by
  simp only [pointAfter]
  split
  · rename_i ending hending
    obtain ⟨before, after, hcut, hsize, hstart⟩ := exists_of_terminator h hending
    rw [← hsize]
    exact .lineStart hcut hstart line.all_indent
  · exact .endOfText line.all_indent

/-- A point at the start of a line. -/
theorem cut_start {t indent : Text} (anchor : Anchor) {i : Nat} {line : Line}
    (h : (lines t)[i]? = some line) (hindent : indent.all isIndent = true) :
    Cut t anchor { offset := line.start, indent, placement := .lineStart } := by
  obtain ⟨before, after, hcut, hsize, hstart⟩ := exists_of_getElem?_lines h
  rw [← hsize]
  exact .lineStart (by rw [hcut, List.append_assoc]) hstart hindent

theorem pointAfter_indent (t : Text) (line : Line) : (pointAfter t line).indent = line.indent := by
  simp only [pointAfter]
  split <;> rfl

/-- The point behind a match is the point after some line. -/
theorem exists_line_of_pointAfterMatch? {t : Text} {start : Nat} {marker : Text}
    {terminator : Option Text} {point : Point}
    (h : pointAfterMatch? t start marker terminator = some point) :
    ∃ (i : Nat) (line : Line), (lines t)[i]? = some line ∧ point = pointAfter t line := by
  cases terminator with
  | none =>
      simp only [pointAfterMatch?, Option.bind_eq_bind, Option.bind_eq_some_iff, Option.pure_def,
        Option.some.injEq] at h
      obtain ⟨span, -, found, -, line, hline, rfl⟩ := h
      exact ⟨_, line, hline, rfl⟩
  | some terminator =>
      simp only [pointAfterMatch?, Option.bind_eq_bind, Option.bind_eq_some_iff, Option.pure_def,
        Option.some.injEq] at h
      obtain ⟨span, -, found, -, line, hline, rfl⟩ := h
      exact ⟨_, line, hline, rfl⟩

theorem cut_of_pointAfterMatch? {t : Text} (anchor : Anchor) {start : Nat} {marker : Text}
    {terminator : Option Text} {point : Point}
    (h : pointAfterMatch? t start marker terminator = some point) : Cut t anchor point := by
  obtain ⟨i, line, hline, rfl⟩ := exists_line_of_pointAfterMatch? h
  exact cut_pointAfter anchor hline

theorem cut_of_pointBeforeMatch? {t : Text} (anchor : Anchor) {start : Nat} {marker : Text}
    {point : Point} (h : pointBeforeMatch? t start marker = some point) :
    Cut t anchor point := by
  simp only [pointBeforeMatch?, Option.bind_eq_bind, Option.bind_eq_some_iff, Option.pure_def,
    Option.some.injEq] at h
  obtain ⟨found, -, line, hline, rfl⟩ := h
  exact cut_start anchor hline line.all_indent

/-! ## Block anchors -/

/-- What a block that is found consists of. -/
theorem Block.find?_eq_some {t header : Text} {d : Delimiter} {block : Block}
    (h : Block.find? t header d = some block) :
    ∃ headerAt first last, t.locate? header 0 = some headerAt ∧
      findBlock? t headerAt d = some (block.opens, block.closes) ∧
      t.lineIndexAt? block.opens = some first ∧ t.lineIndexAt? block.closes = some last ∧
      t.lines[first]? = some block.openLine ∧ t.lines[last]? = some block.closeLine ∧
      block.body = (t.lines.take last).drop (first + 1) := by
  simp only [Block.find?, Option.bind_eq_bind, Option.bind_eq_some_iff, Option.pure_def,
    Option.some.injEq] at h
  obtain ⟨headerAt, hheader, ⟨opens, closes⟩, hblock, first, hfirst, last, hlast, openLine,
    hopen, closeLine, hclose, rfl⟩ := h
  exact ⟨headerAt, first, last, hheader, hblock, hfirst, hlast, hopen, hclose, rfl⟩

/-- The place where the first line of a block's body goes. -/
theorem cut_startPoint {t header : Text} {anchor : Anchor} {d : Delimiter} {block : Block}
    (h : Block.find? t header d = some block) (hd : anchor.delimiter? = some d) :
    Cut t anchor (block.startPoint t d) := by
  obtain ⟨headerAt, first, last, -, hblock, -, -, hopen, hclose, -⟩ := Block.find?_eq_some h
  simp only [Block.startPoint]
  split
  · -- the block goes on past its first line, which therefore has a terminator
    rename_i hspans
    have hlt : block.openLine.start < block.closeLine.start := by
      simpa [Block.spansLines] using hspans.2
    obtain ⟨ending, hending⟩ := terminator_isSome_of_start_lt hopen hclose hlt
    obtain ⟨before, after, hcut, hsize, hstart⟩ := exists_of_terminator hopen hending
    rw [← hsize]
    refine .lineStart hcut hstart ?_
    split
    · rename_i line _
      exact line.all_indent
    · split
      · exact all_indent_append_indentUnit t block.openLine
      · exact block.closeLine.all_indent
  · obtain ⟨before, body, after, hcut, hopens, -⟩ := findBlock?_eq_some hblock
    have hsplit : t = before ++ d.opener :: (body ++ d.closer :: after) := by
      rw [hcut]
      simp
    rw [hopens]
    refine .afterOpener hd hsplit (all_indent_append_indentUnit t block.openLine) ?_
    split
    · exact block.openLine.all_indent
    · exact all_indent_append_indentUnit t block.openLine

/-- The place where the last line of a block's body goes. -/
theorem cut_endPoint {t header : Text} {anchor : Anchor} {d : Delimiter} {block : Block}
    (h : Block.find? t header d = some block) (hd : anchor.delimiter? = some d) :
    Cut t anchor (block.endPoint t) := by
  obtain ⟨headerAt, first, last, -, hblock, -, -, hopen, hclose, -⟩ := Block.find?_eq_some h
  simp only [Block.endPoint]
  split
  · refine cut_start anchor hclose ?_
    split
    · rename_i line _
      exact line.all_indent
    · exact all_indent_append_indentUnit t block.closeLine
  · obtain ⟨before, body, after, hcut, -, hcloses⟩ := findBlock?_eq_some hblock
    have hsize : byteSize (before ++ d.opener :: body) = block.closes := by
      rw [byteSize_append, byteSize_cons, utf8Size_opener, hcloses, Nat.add_assoc]
    rw [← hsize]
    refine .beforeCloser hd hcut ?_ block.openLine.all_indent
    split
    · exact block.closeLine.all_indent
    · exact all_indent_append_indentUnit t block.openLine

/-! ## Every anchor -/

/-- **Every resolved point cuts its text in one of four places.** -/
theorem cut_of_resolve? {t : Text} {anchor : Anchor} {point : Point}
    (h : resolve? t anchor = some point) : Cut t anchor point := by
  cases anchor with
  | literalAfter marker bound terminator =>
      simp only [resolve?, Option.bind_eq_bind, Option.bind_eq_some_iff] at h
      obtain ⟨start, -, h⟩ := h
      exact cut_of_pointAfterMatch? _ h
  | lastLiteralAfter marker terminator =>
      simp only [resolve?, Option.bind_eq_bind, Option.bind_eq_some_iff] at h
      obtain ⟨start, -, h⟩ := h
      exact cut_of_pointAfterMatch? _ h
  | literalBefore marker bound =>
      simp only [resolve?, Option.bind_eq_bind, Option.bind_eq_some_iff] at h
      obtain ⟨start, -, h⟩ := h
      exact cut_of_pointBeforeMatch? _ h
  | blockBodyStart header d =>
      obtain ⟨block, hblock, rfl⟩ := Option.map_eq_some_iff.mp h
      exact cut_startPoint hblock rfl
  | blockBodyEnd header d =>
      obtain ⟨block, hblock, rfl⟩ := Option.map_eq_some_iff.mp h
      exact cut_endPoint hblock rfl
  | endOfDocument =>
      simp only [resolve?, Option.some.injEq] at h
      subst h
      exact .endOfText rfl

/-- The anchor at the index of the first point resolved to it. -/
theorem exists_getElem?_of_firstPoint? {t : Text} {anchors : List Anchor} {index : Nat}
    {point : Point} (h : firstPoint? t anchors = some (index, point)) :
    ∃ anchor, anchors[index]? = some anchor ∧ resolve? t anchor = some point := by
  induction anchors generalizing index with
  | nil => simp [firstPoint?] at h
  | cons anchor others ih =>
      simp only [firstPoint?] at h
      split at h
      · rename_i found hfound
        cases h
        exact ⟨anchor, rfl, hfound⟩
      · obtain ⟨⟨later, found⟩, hlater, heq⟩ := Option.map_eq_some_iff.mp h
        cases heq
        exact ih hlater

/-- An anchor of the list resolved to the first point. -/
theorem exists_of_firstPoint? {t : Text} {anchors : List Anchor} {index : Nat} {point : Point}
    (h : firstPoint? t anchors = some (index, point)) :
    ∃ anchor ∈ anchors, resolve? t anchor = some point := by
  obtain ⟨anchor, hindex, hresolve⟩ := exists_getElem?_of_firstPoint? h
  exact ⟨anchor, List.mem_of_getElem? hindex, hresolve⟩

end Graft
