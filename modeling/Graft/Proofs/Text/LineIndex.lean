import Graft.Proofs.Text.LineStart

/-!
# The line of an offset

An offset inside a text lies in exactly the line whose index the text gives for it:
not before the start of that line, and before the start of the next
(`exists_line_of_lineIndexAt?`). Lines stand one behind the other, so what a line
starts with lies past the whole of every earlier line (`next_le_start_of_lt`), and no
other line has the offset (`lineIndexAt?_eq_some_iff`).
-/

namespace Graft.Text

/-! ## Offsets and laid lines -/

theorem byteSize_pieceText (start : Nat) (piece : Text × Option LineEnding) :
    start + byteSize (pieceText piece) =
      Line.next { start, body := piece.1, terminator := piece.2 } := by
  simp only [pieceText, byteSize_append, Line.next, Line.stop, Line.ending, Nat.add_assoc]

theorem byteSize_flatMap_splitLines (t : Text) :
    byteSize ((splitLines t).flatMap pieceText) = byteSize t :=
  congrArg byteSize (flatMap_splitLines t)

/-- Behind the lines that end by an offset comes the line that has it. -/
theorem exists_line_behind_takeWhile {start offset : Nat} {parts : List (Text × Option LineEnding)}
    (hstart : start ≤ offset) (hoffset : offset < start + byteSize (parts.flatMap pieceText)) :
    ∃ line, (layLines start parts)[((layLines start parts).takeWhile
        fun line => line.next ≤ offset).length]? = some line ∧
      line.start ≤ offset ∧ offset < line.next := by
  induction parts generalizing start with
  | nil =>
      simp only [List.flatMap_nil, byteSize_nil] at hoffset
      omega
  | cons part others ih =>
      have hnext := byteSize_pieceText start part
      rw [List.flatMap_cons, byteSize_append] at hoffset
      simp only [layLines]
      by_cases hpast : Line.next { start, body := part.1, terminator := part.2 } ≤ offset
      · rw [List.takeWhile_cons_of_pos (by simpa using hpast), List.length_cons,
          List.getElem?_cons_succ]
        exact ih hpast (by omega)
      · rw [List.takeWhile_cons_of_neg (by simpa using hpast)]
        exact ⟨_, rfl, hstart, by omega⟩

/-- **The line that a text gives for an offset has the offset.** -/
theorem exists_line_of_lineIndexAt? {t : Text} {offset index : Nat}
    (h : lineIndexAt? t offset = some index) (hoffset : offset < byteSize t) :
    ∃ line, (lines t)[index]? = some line ∧ line.start ≤ offset ∧ offset < line.next := by
  unfold lineIndexAt? at h
  split at h
  · cases h
  · cases h
    have hinside : offset < 0 + byteSize ((splitLines t).flatMap pieceText) := by
      rw [byteSize_flatMap_splitLines]
      omega
    obtain ⟨line, hline, hbounds⟩ := exists_line_behind_takeWhile (Nat.zero_le offset) hinside
    refine ⟨line, ?_, hbounds⟩
    -- the line behind those that end by the offset is there, so the index is not cut short
    obtain ⟨hlt, -⟩ := List.getElem?_eq_some_iff.mp hline
    rw [← hline, lines]
    congr 1
    omega

/-! ## Lines have bytes -/

theorem pieceText_ne_nil_of_mem_splitLines {t : Text} {piece : Text × Option LineEnding}
    (h : piece ∈ splitLines t) : pieceText piece ≠ [] := by
  fun_induction splitLines t generalizing piece with
  | case1 => cases h
  | case2 rest ih =>
      rcases List.mem_cons.mp h with rfl | h
      · simp [pieceText, LineEnding.text]
      · exact ih h
  | case3 rest ih =>
      rcases List.mem_cons.mp h with rfl | h
      · simp [pieceText, LineEnding.text]
      · exact ih h
  | case4 c rest _ _ hrest ih =>
      obtain rfl := List.mem_singleton.mp h
      simp [pieceText]
  | case5 c rest _ _ body terminator others hrest ih =>
      rw [hrest] at ih
      rcases List.mem_cons.mp h with rfl | h
      · simp [pieceText]
      · exact ih (List.mem_cons_of_mem _ h)

theorem start_lt_next {t : Text} {line : Line} (h : line ∈ lines t) : line.start < line.next := by
  obtain ⟨i, hi⟩ := List.mem_iff_getElem?.mp h
  have hne := pieceText_ne_nil_of_mem_splitLines (List.mem_of_getElem? (getElem?_layLines hi).1)
  have hlength := length_le_byteSize (pieceText (line.body, line.terminator))
  have hpos := List.length_pos_iff.mpr hne
  have hnext : line.start + byteSize (pieceText (line.body, line.terminator)) = line.next :=
    byteSize_pieceText line.start (line.body, line.terminator)
  omega

/-! ## One line behind the other -/

/-- A line ends where the pieces up to it do. -/
theorem next_eq_of_getElem?_lines {t : Text} {i : Nat} {line : Line}
    (h : (lines t)[i]? = some line) :
    line.next = byteSize (((splitLines t).take (i + 1)).flatMap pieceText) := by
  obtain ⟨hpiece, hstart⟩ := getElem?_layLines h
  have hnext : line.start + byteSize (pieceText (line.body, line.terminator)) = line.next :=
    byteSize_pieceText line.start (line.body, line.terminator)
  rw [List.take_add_one, hpiece, Option.toList_some, List.flatMap_append, List.flatMap_singleton,
    byteSize_append]
  omega

theorem next_le_byteSize {t : Text} {line : Line} (h : line ∈ lines t) :
    line.next ≤ byteSize t := by
  obtain ⟨i, hi⟩ := List.mem_iff_getElem?.mp h
  have hlength := (List.getElem?_eq_some_iff.mp (getElem?_layLines hi).1).1
  have hstarts := byteSize_flatMap_take_le (splitLines t) (show i + 1 ≤ (splitLines t).length from hlength)
  rw [List.take_length, byteSize_flatMap_splitLines] at hstarts
  rwa [next_eq_of_getElem?_lines hi]

/-- A later line starts where an earlier one ends, or past it. -/
theorem next_le_start_of_lt {t : Text} {i j : Nat} {line other : Line}
    (hi : (lines t)[i]? = some line) (hj : (lines t)[j]? = some other) (hlt : i < j) :
    line.next ≤ other.start := by
  have hstarts := byteSize_flatMap_take_le (splitLines t) (show i + 1 ≤ j from hlt)
  rw [next_eq_of_getElem?_lines hi, (getElem?_layLines hj).2]
  omega

/-- **A line that has an offset is the line of it.** -/
theorem lineIndexAt?_eq_some_iff {t : Text} {offset index : Nat} (hoffset : offset < byteSize t) :
    lineIndexAt? t offset = some index ↔
      ∃ line, (lines t)[index]? = some line ∧ line.start ≤ offset ∧ offset < line.next := by
  refine ⟨fun h => exists_line_of_lineIndexAt? h hoffset, ?_⟩
  rintro ⟨line, hline, hstart, hnext⟩
  have hinside : ¬(t = [] ∨ byteSize t < offset) := by
    rintro (rfl | hlt)
    · simp at hoffset
    · omega
  obtain ⟨found, hfound⟩ : ∃ found, lineIndexAt? t offset = some found := by
    rw [lineIndexAt?, if_neg hinside]
    exact ⟨_, rfl⟩
  obtain ⟨other, hother, hstart', hnext'⟩ := exists_line_of_lineIndexAt? hfound hoffset
  rw [hfound, Option.some.injEq]
  -- of two lines with the offset neither ends before the other starts
  rcases Nat.lt_trichotomy found index with hlt | heq | hlt
  · have hle := next_le_start_of_lt hother hline hlt
    omega
  · exact heq
  · have hle := next_le_start_of_lt hline hother hlt
    omega

end Graft.Text
