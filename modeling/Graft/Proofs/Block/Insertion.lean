import Mathlib
import Graft.Proofs.Block.Nesting
import Graft.Proofs.Splice.Contents
import Graft.Proofs.Text.LineIndex

/-!
# Insertions into blocks

A point that a block anchor resolves to cuts the body of the block
(`exists_bodyCut_of_resolve?`): no branch of the resolution leaves the two delimiters.
What is spliced in there is a balanced text if the fragment is one, since indentation
and line endings hold no delimiter. So the block is found again where it was, with its
closing delimiter moved by what the text grew, and the fragment lies in between
(`splice_block_body`).
-/

namespace Graft

open Text

/-! ## The cut of a body -/

/-- The point cuts a body in two: behind the opening delimiter at the earliest, ahead of the closing
one at the latest. -/
structure BodyCut (before front : Text) (point : Point) : Prop where
  offset_eq : point.offset = byteSize before + 1 + byteSize front
  ne_endOfText : point.placement ≠ .endOfText

variable {t header before body after : Text} {d : Delimiter} {block : Block}

/-- A cut of the text that lies between the delimiters of a block is a cut of its body. -/
theorem exists_front_of_le {x y : Text}
    (h : before ++ d.opener :: body ++ d.closer :: after = x ++ y)
    (hopens : byteSize before + 1 ≤ byteSize x)
    (hcloses : byteSize x ≤ byteSize before + 1 + byteSize body) :
    ∃ front back, body = front ++ back ∧ byteSize x = byteSize before + 1 + byteSize front := by
  have hopener : byteSize (before ++ [d.opener]) = byteSize before + 1 := by
    simp [utf8Size_opener]
  have hsplit : before ++ [d.opener] ++ (body ++ d.closer :: after) = x ++ y := by
    rw [← h]
    simp
  obtain ⟨front, rfl, hrest⟩ := exists_append_of_byteSize_le hsplit (by omega)
  rw [byteSize_append, hopener] at hcloses
  obtain ⟨back, hbody, -⟩ := exists_append_of_byteSize_le hrest.symm (by omega)
  exact ⟨front, back, hbody, by rw [byteSize_append, hopener]⟩

/-- Both delimiters of a block lie on their lines, and if it spans lines, the line that opens it
ends before the line that closes it. -/
theorem Block.line_bounds (h : Block.find? t header d = some block)
    (hopens : block.opens < byteSize t) (hcloses : block.closes < byteSize t) :
    block.opens < block.openLine.next ∧ block.closeLine.start ≤ block.closes ∧
      (block.spansLines = true → block.openLine.next ≤ block.closeLine.start) := by
  obtain ⟨headerAt, first, last, -, -, hfirst, hlast, hopen, hclose, -⟩ := Block.find?_eq_some h
  obtain ⟨line, hline, -, hbefore⟩ := exists_line_of_lineIndexAt? hfirst hopens
  rw [hopen, Option.some.injEq] at hline
  subst hline
  obtain ⟨line, hline, hstart, -⟩ := exists_line_of_lineIndexAt? hlast hcloses
  rw [hclose, Option.some.injEq] at hline
  subst hline
  refine ⟨hbefore, hstart, fun hspans => ?_⟩
  have hlt : block.openLine.start < block.closeLine.start := by
    simpa [Block.spansLines] using hspans
  refine next_le_start_of_lt hopen hclose (Nat.lt_of_not_le fun hle => ?_)
  have hstarts := start_le_of_le hclose hopen hle
  omega

section Points

variable (h : Block.find? t header d = some block)
  (ht : t = before ++ d.opener :: body ++ d.closer :: after)
  (hopens : block.opens = byteSize before)
  (hcloses : block.closes = byteSize before + 1 + byteSize body)

include h ht hopens hcloses

theorem exists_bodyCut_startPoint :
    ∃ front back, body = front ++ back ∧ BodyCut before front (block.startPoint t d) := by
  have hsize : byteSize t = byteSize before + 1 + byteSize body + 1 + byteSize after := by
    rw [ht, byteSize_block]
  obtain ⟨hbefore, hstart, hspan⟩ := Block.line_bounds h (by omega) (by omega)
  obtain ⟨headerAt, first, last, -, -, -, -, hopen, hclose, -⟩ := Block.find?_eq_some h
  simp only [Block.startPoint]
  split
  · -- the fragment goes behind the line that opens the block, which is not the one that closes it
    rename_i hspans
    have hlt : block.openLine.start < block.closeLine.start := by
      simpa [Block.spansLines] using hspans.2
    obtain ⟨ending, hending⟩ := terminator_isSome_of_start_lt hopen hclose hlt
    obtain ⟨x, y, hcut, hnext, -⟩ := exists_of_terminator hopen hending
    have hle := hspan hspans.2
    obtain ⟨front, back, hbody, hfront⟩ :=
      exists_front_of_le (ht.symm.trans hcut) (by omega) (by omega)
    exact ⟨front, back, hbody, by rw [← hnext, hfront], by simp⟩
  · exact ⟨[], body, rfl, by rw [hopens, byteSize_nil, Nat.add_zero], by simp⟩

theorem exists_bodyCut_endPoint :
    ∃ front back, body = front ++ back ∧ BodyCut before front (block.endPoint t) := by
  have hsize : byteSize t = byteSize before + 1 + byteSize body + 1 + byteSize after := by
    rw [ht, byteSize_block]
  obtain ⟨hbefore, hstart, hspan⟩ := Block.line_bounds h (by omega) (by omega)
  obtain ⟨headerAt, first, last, -, -, -, -, -, hclose, -⟩ := Block.find?_eq_some h
  simp only [Block.endPoint]
  split
  · -- the fragment goes ahead of the line that closes the block
    rename_i hspans
    obtain ⟨x, y, hcut, hx, -⟩ := exists_of_getElem?_lines hclose
    have hle := hspan hspans.2
    rw [List.append_assoc] at hcut
    obtain ⟨front, back, hbody, hfront⟩ :=
      exists_front_of_le (ht.symm.trans hcut) (by omega) (by omega)
    exact ⟨front, back, hbody, by rw [← hx, hfront], by simp⟩
  · exact ⟨body, [], by rw [List.append_nil], hcloses, by simp⟩

end Points

/-- **A block anchor resolves to a cut of the body of its block.** -/
theorem exists_bodyCut_of_resolve? {anchor : Anchor} {point : Point}
    (hanchor : anchor = .blockBodyStart header d ∨ anchor = .blockBodyEnd header d)
    (hresolve : resolve? t anchor = some point) :
    ∃ headerAt before front back after, t.locate? header 0 = some headerAt ∧
      t = before ++ d.opener :: (front ++ back) ++ d.closer :: after ∧
      findOpen? t headerAt d = some (byteSize before) ∧ d.Balances (front ++ back) ∧
      BodyCut before front point := by
  -- both anchors look for the same block, and differ in the point alone
  obtain ⟨block, hblock, hpoint⟩ : ∃ block, Block.find? t header d = some block ∧
      (point = block.startPoint t d ∨ point = block.endPoint t) := by
    rcases hanchor with rfl | rfl
    · obtain ⟨block, hblock, rfl⟩ := Option.map_eq_some_iff.mp hresolve
      exact ⟨block, hblock, .inl rfl⟩
    · obtain ⟨block, hblock, rfl⟩ := Option.map_eq_some_iff.mp hresolve
      exact ⟨block, hblock, .inr rfl⟩
  obtain ⟨headerAt, _, _, hheader, hfound, -⟩ := Block.find?_eq_some hblock
  obtain ⟨hopen, before, body, after, ht, hbody, hopens, hcloses⟩ :=
    findBlock?_eq_some_iff.mp hfound
  have hcut : ∃ front back, body = front ++ back ∧ BodyCut before front point := by
    rcases hpoint with rfl | rfl
    · exact exists_bodyCut_startPoint hblock ht hopens hcloses
    · exact exists_bodyCut_endPoint hblock ht hopens hcloses
  obtain ⟨front, back, rfl, hcut⟩ := hcut
  exact ⟨headerAt, before, front, back, after, hheader, ht, hopens ▸ hopen, hbody, hcut⟩

/-! ## The new body -/

/-- Where the body is cut, blanks go and the fragment comes in; the delimiters and what is outside
of them stay. -/
theorem exists_splice_bodyCut {front back : Text} {point : Point}
    (ht : t = before ++ d.opener :: (front ++ back) ++ d.closer :: after)
    (hcut : BodyCut before front point) (fragment : List Text) :
    ∃ kept blanks rest opening, front ++ back = kept ++ blanks ++ rest ∧
      blanks.all isIndent = true ∧ (opening = [] ∨ opening = (LineEnding.detect t).text) ∧
      splice t point fragment = before ++ d.opener :: (kept ++
        (opening ++ renderFragment fragment point.indent (LineEnding.detect t) ++
          (LineEnding.detect t).text ++ point.placement.resume) ++ rest) ++ d.closer :: after := by
  obtain ⟨offset, indent, placement⟩ := point
  have hoffset : offset = byteSize (before ++ d.opener :: front) := by
    rw [byteSize_append, byteSize_cons, utf8Size_opener, ← Nat.add_assoc]
    exact hcut.offset_eq
  have hsplit : t = (before ++ d.opener :: front) ++ (back ++ d.closer :: after) := by
    rw [ht]
    simp
  subst hoffset
  cases placement with
  | endOfText => exact (hcut.ne_endOfText rfl).elim
  | lineStart =>
      refine ⟨front, [], back, [], by simp, rfl, .inl rfl, ?_⟩
      conv => lhs; rw [hsplit, splice_lineStart, ← hsplit]
      simp [Placement.resume]
  | midLine resume =>
      refine ⟨front.trimEnd isIndent,
        (front.reverse.takeWhile isIndent).reverse ++ back.takeWhile isIndent,
        back.trimStart isIndent, (LineEnding.detect t).text, ?_, ?_, .inr rfl, ?_⟩
      · rw [← List.append_assoc, trimEnd_append_takeWhile, List.append_assoc,
          takeWhile_append_trimStart]
      · rw [List.all_append, List.all_reverse, List.all_takeWhile, List.all_takeWhile,
          Bool.and_self]
      · conv => lhs; rw [hsplit, splice_midLine, ← hsplit]
        rw [trimEnd_append_cons_of_neg _ _ (isIndent_opener d),
          trimStart_append_cons_of_neg _ _ (isIndent_closer d)]
        simp [Placement.resume]

/-! ## Delimiters in the new body -/

theorem filter_marks_of_all_isIndent (d : Delimiter) {blanks : Text}
    (h : blanks.all isIndent = true) : blanks.filter d.marks = [] := by
  rw [List.filter_eq_nil_iff]
  intro c hc
  have hblank := List.all_eq_true.mp h c hc
  simp only [Delimiter.marks, Bool.or_eq_true, beq_iff_eq, not_or]
  constructor
  · rintro rfl
    rw [isIndent_opener] at hblank
    cases hblank
  · rintro rfl
    rw [isIndent_closer] at hblank
    cases hblank

theorem filter_marks_text (d : Delimiter) (ending : LineEnding) :
    ending.text.filter d.marks = [] := by
  cases d <;> cases ending <;> rfl

/-- A rendered fragment has the delimiters of the fragment. -/
theorem filter_marks_renderFragment (d : Delimiter) (fragment : List Text) {indent : Text}
    (hindent : indent.all isIndent = true) (ending : LineEnding) :
    (renderFragment fragment indent ending).filter d.marks = fragment.flatten.filter d.marks := by
  have hjoined (lines : List Text) :
      (joined ending.text lines).filter d.marks = lines.flatten.filter d.marks := by
    fun_induction joined ending.text lines with
    | case1 => rfl
    | case2 last => simp
    | case3 first next others ih =>
        simp only [List.filter_append, filter_marks_text, ih, List.append_nil, List.flatten_cons]
  rw [renderFragment, hjoined, List.filter_flatten, List.filter_flatten, List.map_map]
  congr 1
  refine List.map_congr_left fun line _ => ?_
  by_cases hline : line = []
  · simp [hline]
  · simp [hline, filter_marks_of_all_isIndent d hindent]

/-- What comes in with a fragment has no delimiters but those of the fragment. -/
theorem filter_marks_added (d : Delimiter) (fragment : List Text) {opening indent resume : Text}
    (ending : LineEnding) (hopening : opening = [] ∨ opening = ending.text)
    (hindent : indent.all isIndent = true) (hresume : resume.all isIndent = true) :
    (opening ++ renderFragment fragment indent ending ++ ending.text ++ resume).filter d.marks =
      fragment.flatten.filter d.marks := by
  have hopens : opening.filter d.marks = [] := by
    rcases hopening with rfl | rfl
    · rfl
    · exact filter_marks_text d ending
  simp only [List.filter_append, hopens, filter_marks_text,
    filter_marks_renderFragment d fragment hindent, filter_marks_of_all_isIndent d hresume,
    List.append_nil, List.nil_append]

/-- The body stays balanced when a balanced fragment comes in for blanks. -/
theorem balances_body {kept blanks rest added : Text} {fragment : List Text}
    (hbody : d.Balances (kept ++ blanks ++ rest)) (hblanks : blanks.filter d.marks = [])
    (hadded : added.filter d.marks = fragment.flatten.filter d.marks)
    (hfragment : d.Balances fragment.flatten) : d.Balances (kept ++ added ++ rest) := by
  have hsame : (kept ++ rest).filter d.marks = (kept ++ blanks ++ rest).filter d.marks := by
    simp only [List.filter_append, hblanks, List.append_nil]
  have hrest : d.Balances (kept ++ rest) := (Delimiter.balances_iff_of_filter_eq hsame).mpr hbody
  exact hrest.insert ((Delimiter.balances_iff_of_filter_eq hadded).mpr hfragment)

/-- **What a block anchor puts into a text goes into the body of its block**, and where the fragment
is balanced, the block keeps its delimiters: it is found where it was, its closing delimiter moved
by what the text grew, and the text outside of the body stays as it is. -/
theorem splice_block_body {t header : Text} {d : Delimiter} {anchor : Anchor} {point : Point}
    {fragment : List Text}
    (hanchor : anchor = .blockBodyStart header d ∨ anchor = .blockBodyEnd header d)
    (hresolve : resolve? t anchor = some point) (hfragment : d.Balances fragment.flatten) :
    ∃ headerAt opens closes, t.locate? header 0 = some headerAt ∧
      findBlock? t headerAt d = some (opens, closes) ∧
      let r := splice t point fragment
      let closes' := closes + r.byteSize - t.byteSize
      findBlock? r headerAt d = some (opens, closes') ∧
        r.takeBytes (opens + 1) = t.takeBytes (opens + 1) ∧
        r.dropBytes closes' = t.dropBytes closes ∧
        ∃ kept blanks rest opening, blanks.all isIndent = true ∧
          t.slice (opens + 1) closes = kept ++ blanks ++ rest ∧
          r.slice (opens + 1) closes' = kept ++ (opening ++
            renderFragment fragment point.indent (LineEnding.detect t) ++
            (LineEnding.detect t).text ++ point.placement.resume) ++ rest ∧
          (opening = [] ∨ opening = (LineEnding.detect t).text) := by
  obtain ⟨headerAt, before, front, back, after, hheader, ht, hopen, hbody, hcut⟩ :=
    exists_bodyCut_of_resolve? hanchor hresolve
  obtain ⟨kept, blanks, rest, opening, hsplit, hblanks, hopening, hsplice⟩ :=
    exists_splice_bodyCut ht hcut fragment
  obtain ⟨hindent, hresume⟩ := (cut_of_resolve? hresolve).all_isIndent
  rw [hsplit] at ht hbody
  have hmarks :=
    filter_marks_added d fragment (LineEnding.detect t) hopening hindent hresume
  generalize hadded : opening ++ renderFragment fragment point.indent (LineEnding.detect t) ++
    (LineEnding.detect t).text ++ point.placement.resume = added at hsplice hmarks
  have hbody' : d.Balances (kept ++ added ++ rest) :=
    balances_body hbody (filter_marks_of_all_isIndent d hblanks) hmarks hfragment
  have hgrown : byteSize before + 1 + byteSize (kept ++ blanks ++ rest) +
      byteSize (splice t point fragment) - byteSize t =
      byteSize before + 1 + byteSize (kept ++ added ++ rest) := by
    rw [hsplice, ht, byteSize_block, byteSize_block]
    omega
  refine ⟨headerAt, _, _, hheader,
    findBlock?_eq_some_iff.mpr ⟨hopen, before, _, after, ht, hbody, rfl, rfl⟩, ?_⟩
  dsimp only
  rw [hgrown, hsplice]
  refine ⟨findBlock?_body (ht ▸ hopen) hbody', ?_, ?_, kept, blanks, rest, opening, hblanks, ?_, ?_,
    hopening⟩
  · rw [ht, takeBytes_block, takeBytes_block]
  · rw [ht, dropBytes_block, dropBytes_block]
  · rw [ht, slice_block]
  · rw [slice_block, hadded]

/-- A condition with braces of its own goes to the end of a block on one line, inside of it. -/
theorem condition_stays_in_block :
    (resolve? "go() { a(); }" (.blockBodyEnd "go()" .brace) =
        some { offset := 12, indent := "    ", placement := .midLine [] }) ∧
      Delimiter.brace.Balances (List.flatten ["if b \x7b", "\x7d"]) ∧
      findBlock? "go() { a(); }" 0 .brace = some (5, 12) ∧
      findBlock? (splice "go() { a(); }"
        { offset := 12, indent := "    ", placement := .midLine [] }
        ["if b \x7b", "\x7d"]) 0 .brace = some (5, 29) := by
  have hresolve : resolve? "go() { a(); }" (.blockBodyEnd "go()" .brace) =
      some { offset := 12, indent := "    ", placement := .midLine [] } := by cbv
  have hbalances : Delimiter.brace.Balances (List.flatten ["if b \x7b", "\x7d"]) := by decide
  have hblock : findBlock? "go() { a(); }" 0 .brace = some (5, 12) := by cbv
  obtain ⟨headerAt, opens, closes, hheader, hfound, hmoved, -⟩ :=
    splice_block_body (.inr rfl) hresolve hbalances
  have hstart : Text.locate? "go() { a(); }" "go()" 0 = some 0 := by cbv
  obtain rfl : 0 = headerAt := Option.some.inj (hstart.symm.trans hheader)
  obtain ⟨rfl, rfl⟩ : 5 = opens ∧ 12 = closes :=
    Prod.mk.inj (Option.some.inj (hblock.symm.trans hfound))
  have hgrown : 12 + byteSize (splice "go() { a(); }"
      { offset := 12, indent := "    ", placement := .midLine [] } ["if b \x7b", "\x7d"]) -
      byteSize "go() { a(); }" = 29 := by cbv
  refine ⟨hresolve, hbalances, hblock, ?_⟩
  rw [hmoved, hgrown]

end Graft
