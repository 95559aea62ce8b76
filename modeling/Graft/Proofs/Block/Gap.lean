import Graft.Proofs.Block.Insertion
import Graft.Proofs.Text.LineInsert

/-!
# A line inside a block

A text may be cut between two lines of a block: behind the line that opens it, ahead of the
line that closes it. A balanced line that goes in there leaves the block in its place
(`Gap.exists_find?_insert`): the header is found where it was, since it cannot reach over
the cut, and so is the opening delimiter; the closing one moves by the size of the line,
and the body gains the line.
-/

namespace Graft

open Text

variable {t header a b : Text} {d : Delimiter} {block : Block}

/-! ## The lines of a block -/

/-- A block lies in its text, and its delimiters on the lines that open and close it. -/
theorem Block.bounds (h : Block.find? t header d = some block) :
    block.opens < block.closes ∧ block.closes < byteSize t ∧ block.openLine.start ≤ block.opens ∧
      block.opens < block.openLine.next ∧ block.closeLine.start ≤ block.closes ∧
      block.closes < block.closeLine.next := by
  obtain ⟨headerAt, first, last, -, hfound, hfirst, hlast, hopen, hclose, -⟩ :=
    Block.find?_eq_some h
  obtain ⟨before, body, after, heq, hopens, hcloses⟩ := findBlock?_eq_some hfound
  have hsize := congrArg byteSize heq
  rw [byteSize_block] at hsize
  obtain ⟨line, hline, hstart, hnext⟩ := exists_line_of_lineIndexAt? hfirst (by omega)
  rw [hopen, Option.some.injEq] at hline
  subst hline
  obtain ⟨line, hline, hstart', hnext'⟩ := exists_line_of_lineIndexAt? hlast (by omega)
  rw [hclose, Option.some.injEq] at hline
  subst hline
  omega

/-- The body of a block lies between the lines that open and close it. -/
theorem Block.body_bounds (h : Block.find? t header d = some block) {line : Line}
    (hline : line ∈ block.body) :
    block.openLine.next ≤ line.start ∧ line.start < line.next ∧
      line.next ≤ block.closeLine.start := by
  obtain ⟨headerAt, first, last, -, -, -, -, hopen, hclose, hbody⟩ := Block.find?_eq_some h
  rw [hbody] at hline
  obtain ⟨i, hi⟩ := List.mem_iff_getElem?.mp hline
  rw [List.getElem?_drop, List.getElem?_take] at hi
  split at hi
  · rename_i hlt
    exact ⟨next_le_start_of_lt hopen hi (by omega), start_lt_next (List.mem_of_getElem? hi),
      next_le_start_of_lt hi hclose hlt⟩
  · cases hi

/-- A block is found by its delimiters and the lines that have them. -/
theorem Block.find?_of_lines {headerAt first last : Nat} (hlocate : t.locate? header 0 = some headerAt)
    (hfound : findBlock? t headerAt d = some (block.opens, block.closes))
    (hopen : (lines t)[first]? = some block.openLine)
    (hopens : block.openLine.start ≤ block.opens ∧ block.opens < block.openLine.next)
    (hclose : (lines t)[last]? = some block.closeLine)
    (hcloses : block.closeLine.start ≤ block.closes ∧ block.closes < block.closeLine.next)
    (hbody : ((lines t).take last).drop (first + 1) = block.body) :
    Block.find? t header d = some block := by
  have hopenEnd := next_le_byteSize (List.mem_of_getElem? hopen)
  have hcloseEnd := next_le_byteSize (List.mem_of_getElem? hclose)
  have hfirst : lineIndexAt? t block.opens = some first :=
    (lineIndexAt?_eq_some_iff (by omega)).mpr ⟨block.openLine, hopen, hopens⟩
  have hlast : lineIndexAt? t block.closes = some last :=
    (lineIndexAt?_eq_some_iff (by omega)).mpr ⟨block.closeLine, hclose, hcloses⟩
  simp only [Block.find?, hlocate, hfound, hfirst, hlast, hopen, hclose, hbody,
    Option.bind_eq_bind, Option.bind_some, Option.pure_def]

/-! ## A cut between two lines -/

/-- The text `a ++ b` has a block, and is cut behind the line that opens it and ahead of the line
that closes it. -/
structure Gap (header : Text) (d : Delimiter) (a b : Text) (block : Block) : Prop where
  found : Block.find? (a ++ b) header d = some block
  atLineStart : AtLineStart a
  openLine_le : block.openLine.next ≤ byteSize a
  le_closeLine : byteSize a ≤ block.closeLine.start

theorem le_of_findChar? {p : Char → Bool} {start offset : Nat}
    (h : findChar? p t start = some offset) : start ≤ offset := by
  induction t generalizing start offset with
  | nil => simp [findChar?] at h
  | cons c t ih =>
      rw [findChar?] at h
      split at h
      · rename_i hhit
        omega
      · obtain ⟨found, hfound, rfl⟩ := Option.map_eq_some_iff.mp h
        have := ih hfound
        omega

namespace Gap

theorem exists_feed (h : Gap header d a b block) : ∃ front, a = front ++ ['\n'] := by
  obtain ⟨-, -, -, hopens, -, -⟩ := Block.bounds h.found
  have hle := h.openLine_le
  rcases h.atLineStart with rfl | hlast
  · rw [byteSize_nil] at hle
    omega
  · exact List.getLast?_eq_some_iff.mp hlast

/-- The header stands ahead of the cut, so it does not hang on what stands behind. -/
theorem locate?_eq (h : Gap header d a b block) (hheader : '\n' ∉ header) (c : Text) :
    (a ++ c).locate? header 0 = (a ++ b).locate? header 0 := by
  obtain ⟨headerAt, first, last, hlocate, hfound, -⟩ := Block.find?_eq_some h.found
  obtain ⟨hopen, -⟩ := findBlock?_eq_some_iff.mp hfound
  obtain ⟨-, -, -, hopens, -, -⟩ := Block.bounds h.found
  have hle := h.openLine_le
  have hahead := le_of_findChar? hopen
  obtain ⟨front, rfl⟩ := h.exists_feed
  have hsize : byteSize (front ++ ['\n']) = byteSize front + 1 := by
    rw [byteSize_append]
    rfl
  rw [hlocate]
  rw [locate?_eq_some_iff (isBoundary_zero _)] at hlocate ⊢
  rw [List.append_assoc, List.singleton_append] at hlocate ⊢
  rw [isFirstFrom_append_feed_iff hheader (by omega)] at hlocate ⊢
  exact hlocate

/-- The delimiters of the block, with a balanced text in the gap. -/
theorem findBlock?_insert (h : Gap header d a b block) {headerAt : Nat}
    (hfound : findBlock? (a ++ b) headerAt d = some (block.opens, block.closes)) {middle : Text}
    (hmiddle : d.Balances middle) :
    findBlock? (a ++ middle ++ b) headerAt d =
      some (block.opens, block.closes + byteSize middle) := by
  obtain ⟨-, -, -, hbefore, hbehind, -⟩ := Block.bounds h.found
  have hopenLine := h.openLine_le
  have hcloseLine := h.le_closeLine
  obtain ⟨hopen, before, body, after, heq, hbody, hopens, hcloses⟩ :=
    findBlock?_eq_some_iff.mp hfound
  obtain ⟨front, back, rfl, hsize⟩ := exists_front_of_le heq.symm (by omega) (by omega)
  -- the cut of the text is the cut of the body
  have hcut : a ++ b = before ++ d.opener :: front ++ (back ++ d.closer :: after) := by
    rw [heq]
    simp
  obtain ⟨rfl, rfl⟩ := append_inj_of_byteSize_eq hcut (by
    rw [hsize, byteSize_append, byteSize_cons, utf8Size_opener, Nat.add_assoc])
  have hwhole : before ++ d.opener :: front ++ middle ++ (back ++ d.closer :: after) =
      before ++ d.opener :: (front ++ middle ++ back) ++ d.closer :: after := by simp
  rw [heq, hopens] at hopen
  rw [hwhole, findBlock?_body hopen (hbody.insert hmiddle), hopens, hcloses]
  simp only [byteSize_append]
  congr 2
  omega

/-- The line that opens the block is one of the front, the line that closes it one of the back, and
the body is what is between them. -/
theorem exists_lines (h : Gap header d a b block) :
    ∃ headerAt first more, (a ++ b).locate? header 0 = some headerAt ∧
      findBlock? (a ++ b) headerAt d = some (block.opens, block.closes) ∧
      (lines a)[first]? = some block.openLine ∧
      ((lines b).map (Line.moved (byteSize a)))[more]? = some block.closeLine ∧
      block.body = (lines a).drop (first + 1) ++
        ((lines b).map (Line.moved (byteSize a))).take more := by
  obtain ⟨headerAt, first, last, hlocate, hfound, -, -, hopen, hclose, hbody⟩ :=
    Block.find?_eq_some h.found
  obtain ⟨-, -, hopenStart, hopenNext, hcloseStart, hcloseNext⟩ := Block.bounds h.found
  have hopenLine := h.openLine_le
  have hcloseLine := h.le_closeLine
  have hlines := lines_append h.atLineStart b
  have hfirst : first < (lines a).length := by
    refine Nat.lt_of_not_le fun hle => ?_
    rw [hlines, List.getElem?_append_right hle, List.getElem?_map, Option.map_eq_some_iff] at hopen
    obtain ⟨line, -, hline⟩ := hopen
    have hstart := congrArg Line.start hline
    rw [Line.moved_start] at hstart
    omega
  have hlast : (lines a).length ≤ last := by
    refine Nat.le_of_not_lt fun hlt => ?_
    rw [hlines, List.getElem?_append_left hlt] at hclose
    have hnext := next_le_byteSize (List.mem_of_getElem? hclose)
    omega
  obtain ⟨more, rfl⟩ := Nat.exists_eq_add_of_le hlast
  rw [hlines, List.getElem?_append_left hfirst] at hopen
  rw [hlines, List.getElem?_append_right (Nat.le_add_right _ _), Nat.add_sub_cancel_left] at hclose
  rw [hlines, List.take_length_add_append,
    List.drop_append_of_le_length (Nat.succ_le_of_lt hfirst)] at hbody
  exact ⟨headerAt, first, more, hlocate, hfound, hopen, hclose, hbody⟩

/-- **A balanced line in a gap of a block becomes a line of its body**, and the block stays where it
was, its end moved by the size of the line. -/
theorem exists_find?_insert (h : Gap header d a b block) (hheader : '\n' ∉ header) {body : Text}
    (hfeed : '\n' ∉ body) (hbalances : d.Balances (body ++ ['\n'])) :
    let size := byteSize (body ++ ['\n'])
    ∃ front line back, block.body = front ++ back ∧ (∀ l ∈ front, l.start < byteSize a) ∧
      (∀ l ∈ back, byteSize a ≤ l.start) ∧ line.text = body ++ ['\n'] ∧
      Block.find? (a ++ (body ++ ['\n']) ++ b) header d = some
        { opens := block.opens
          closes := block.closes + size
          openLine := block.openLine
          closeLine := block.closeLine.moved size
          body := front ++ line :: back.map (Line.moved size) } := by
  intro size
  obtain ⟨headerAt, first, more, hlocate, hfound, hopen, hclose, hbody⟩ := h.exists_lines
  obtain ⟨-, -, hopenStart, hopenNext, hcloseStart, hcloseNext⟩ := Block.bounds h.found
  obtain ⟨line, htext, -, hlines⟩ := lines_insert h.atLineStart hfeed b
  have hlocate' := h.locate?_eq hheader (body ++ ['\n'] ++ b)
  rw [← List.append_assoc, hlocate] at hlocate'
  have hmoved : ((lines b).map (Line.moved (byteSize a))).map (Line.moved size) =
      (lines b).map (Line.moved (byteSize a + size)) := by
    rw [List.map_map]
    exact List.map_congr_left fun l _ => Line.moved_moved _ l size
  obtain ⟨hfirst, -⟩ := List.getElem?_eq_some_iff.mp hopen
  refine ⟨(lines a).drop (first + 1), line, ((lines b).map (Line.moved (byteSize a))).take more,
    hbody, ?_, ?_, htext, ?_⟩
  · intro l hl
    have hmem := List.mem_of_mem_drop hl
    have hlt := start_lt_next hmem
    have hnext := next_le_byteSize hmem
    omega
  · intro l hl
    obtain ⟨l, -, rfl⟩ := List.mem_map.mp (List.mem_of_mem_take hl)
    rw [Line.moved_start]
    omega
  · have hopen' : (lines (a ++ (body ++ ['\n']) ++ b))[first]? = some block.openLine := by
      rw [hlines, List.getElem?_append_left hfirst, hopen]
    have hclose' : (lines (a ++ (body ++ ['\n']) ++ b))[(lines a).length + (more + 1)]? =
        some (block.closeLine.moved size) := by
      rw [hlines, List.getElem?_append_right (Nat.le_add_right _ _), Nat.add_sub_cancel_left,
        List.getElem?_cons_succ, ← hmoved, List.getElem?_map, hclose, Option.map_some]
    have hcloses' : (block.closeLine.moved size).start ≤ block.closes + size ∧
        block.closes + size < (block.closeLine.moved size).next := by
      rw [Line.moved_start, Line.moved_next]
      omega
    refine Block.find?_of_lines hlocate' (h.findBlock?_insert hfound hbalances) hopen'
      ⟨hopenStart, hopenNext⟩ hclose' hcloses' ?_
    rw [hlines, List.take_length_add_append,
      List.drop_append_of_le_length (Nat.succ_le_of_lt hfirst), List.take_succ_cons,
      List.map_take, hmoved]

end Gap
end Graft
