import Graft.Proofs.Text.Position
import Graft.Text.Indent

/-!
# The edges of a line

The only `\n` of a line is its last character, so the line of an offset can be told from
the text alone: it starts behind the last `\n` ahead of the offset
(`isLineStart_of_line`), it ends with the first `\n` from there on
(`exists_feed_of_terminator`), and where there is none it ends with the text
(`not_standsAt_feed`). Its indentation is that of the text from its start on
(`indent_eq_leading`).
-/

namespace Graft.Text

variable {t : Text} {i offset : Nat} {line : Line}

/-! ## One line -/

theorem feed_notMem_of_mem_splitLines {t : Text} {piece : Text × Option LineEnding}
    (h : piece ∈ splitLines t) : '\n' ∉ piece.1 := by
  fun_induction splitLines t generalizing piece with
  | case1 => cases h
  | case2 rest ih =>
      rcases List.mem_cons.mp h with rfl | h
      · exact List.not_mem_nil
      · exact ih h
  | case3 rest ih =>
      rcases List.mem_cons.mp h with rfl | h
      · exact List.not_mem_nil
      · exact ih h
  | case4 c rest hfeed _ hrest ih =>
      obtain rfl := List.mem_singleton.mp h
      exact fun hmem => hfeed (List.mem_singleton.mp hmem).symm
  | case5 c rest hfeed _ body terminator others hrest ih =>
      rw [hrest] at ih
      rcases List.mem_cons.mp h with rfl | h
      · intro hmem
        rcases List.mem_cons.mp hmem with hc | hmem
        · exact hfeed hc.symm
        · exact ih List.mem_cons_self hmem
      · exact ih (List.mem_cons_of_mem _ h)

theorem feed_notMem_body (h : (lines t)[i]? = some line) : '\n' ∉ line.body :=
  feed_notMem_of_mem_splitLines (List.mem_of_getElem? (getElem?_layLines h).1)

/-- A line that lacks a terminator ends with the text. -/
theorem next_eq_of_terminator_eq_none (h : (lines t)[i]? = some line)
    (hnone : line.terminator = none) : line.next = byteSize t := by
  have hpiece := (getElem?_layLines h).1
  rw [hnone] at hpiece
  rw [next_eq_of_getElem?_lines h, ← length_of_getElem?_splitLines hpiece, List.take_length,
    byteSize_flatMap_splitLines]

/-- The only `\n` of a line is the last byte of it. -/
theorem add_one_eq_of_standsAt_feed {place : Nat} (hbody : '\n' ∉ line.body)
    (h : StandsAt line.text ['\n'] place) :
    line.start + place + 1 = line.next ∧ line.terminator ≠ none := by
  rcases standsAt_or_of_append h with hfeed | ⟨more, rfl, hfeed⟩
  · exact absurd hfeed.mem hbody
  obtain ⟨start, body, terminator⟩ := line
  simp only [Line.next, Line.stop, Line.ending] at hfeed ⊢
  rw [← charAt?_eq_some_iff] at hfeed
  cases terminator with
  | none => simp [charAt?] at hfeed
  | some ending =>
      have hmore : more + 1 = byteSize ending.text := by
        cases ending with
        | lf =>
            obtain rfl : more = 0 := by simpa [LineEnding.text, charAt?] using hfeed
            rfl
        | crlf =>
            obtain rfl : more = 1 := by
              have hsize : '\r'.utf8Size = 1 := rfl
              simp only [Option.map_some, Option.getD_some, LineEnding.text, charAt?, hsize] at hfeed
              grind
            rfl
      rw [Option.map_some, Option.getD_some, ← hmore]
      exact ⟨by omega, Option.some_ne_none ending⟩

/-- A line in its text: what stands before it, and what stands behind it. -/
theorem exists_line_cut (h : (lines t)[i]? = some line) :
    ∃ before after, t = before ++ (line.text ++ after) ∧ byteSize before = line.start ∧
      AtLineStart before ∧ (line.terminator = none → after = []) := by
  obtain ⟨before, after, heq, hsize, hstart⟩ := exists_of_getElem?_lines h
  rw [List.append_assoc] at heq
  refine ⟨before, after, heq, hsize, hstart, fun hnone => ?_⟩
  have hnext := next_eq_of_terminator_eq_none h hnone
  have hlength := length_le_byteSize after
  rw [heq] at hnext
  simp only [Line.next, Line.stop, Line.text, byteSize_append] at hnext
  exact List.eq_nil_of_length_eq_zero (by omega)

theorem byteSize_text (line : Line) : line.start + byteSize line.text = line.next := by
  simp only [Line.next, Line.stop, Line.text, byteSize_append, Nat.add_assoc]

/-- A line lies between characters. -/
theorem isBoundary_line (h : (lines t)[i]? = some line) :
    IsBoundary t line.start ∧ IsBoundary t line.stop := by
  obtain ⟨before, after, rfl, hstart, -⟩ := exists_of_getElem?_lines h
  refine ⟨⟨before, line.text ++ after, by simp, hstart⟩,
    ⟨before ++ line.body, line.ending ++ after, ?_, ?_⟩⟩
  · simp only [Line.text, List.append_assoc]
  · rw [byteSize_append, hstart, Line.stop]

theorem slice_line (h : (lines t)[i]? = some line) :
    slice t line.start line.stop = line.body := by
  obtain ⟨before, after, rfl, hstart, -, -⟩ := exists_line_cut h
  rw [Line.stop, ← hstart, Line.text, List.append_assoc, slice_append_append]

/-! ## Indentation -/

/-- Indentation ends with the first character that is none. -/
theorem leading_append (a : Text) {b : Text} (hb : ∀ c, b.head? = some c → isIndent c = false) :
    leading (a ++ b) = leading a := by
  have hnil : b.takeWhile isIndent = [] := by
    cases b with
    | nil => rfl
    | cons c b => rw [List.takeWhile_cons_of_neg (by simp [hb c rfl])]
  rw [leading, List.takeWhile_append, hnil, List.append_nil]
  split
  · rename_i hall
    exact (List.takeWhile_prefix isIndent |>.eq_of_length hall).symm
  · rfl

theorem leading_text_append (line : Line) {after : Text} (hafter : line.terminator = none → after = []) :
    leading (line.text ++ after) = line.indent := by
  rw [Line.text, List.append_assoc]
  refine leading_append _ fun c hc => ?_
  cases hending : line.terminator with
  | none => simp [Line.ending, hending, hafter hending] at hc
  | some ending =>
      cases ending <;>
        · simp [Line.ending, hending, LineEnding.text] at hc
          subst hc
          rfl

/-- A line is indented as the text from its start on. -/
theorem indent_eq_leading (h : (lines t)[i]? = some line) :
    line.indent = leading (t.dropBytes line.start) := by
  obtain ⟨before, after, rfl, hsize, -, hafter⟩ := exists_line_cut h
  rw [← hsize, dropBytes_append_byteSize, leading_text_append line hafter]

/-! ## The line of an offset -/

/-- Where the line of the byte at `offset` starts: at the start of the text, or behind the last `\n`
ahead of the offset. -/
def IsLineStart (t : Text) (offset start : Nat) : Prop :=
  IsGreatest {place | place = 0 ∨
    ∃ feed, feed < offset ∧ StandsAt t ['\n'] feed ∧ place = feed + 1} start

variable (h : (lines t)[i]? = some line) (hstart : line.start ≤ offset)

include h hstart

theorem isLineStart_of_line (hnext : offset < line.next) : IsLineStart t offset line.start := by
  obtain ⟨before, after, rfl, hsize, hbefore, -⟩ := exists_line_cut h
  constructor
  · rcases hbefore with rfl | hlast
    · exact .inl hsize.symm
    · obtain ⟨front, rfl⟩ := List.getLast?_eq_some_iff.mp hlast
      have hfront : byteSize front + 1 = line.start := by
        rw [← hsize, byteSize_append]
        rfl
      exact .inr ⟨byteSize front, by omega, ⟨front, line.text ++ after, by simp, rfl⟩, hfront.symm⟩
  · rintro place (rfl | ⟨feed, hfeed, hstands, rfl⟩)
    · exact Nat.zero_le _
    · -- a `\n` of the line is the last byte of it, so one ahead of the offset is ahead of the line
      refine Nat.le_of_not_lt fun hlt => ?_
      obtain ⟨more, rfl⟩ := Nat.exists_eq_add_of_le (show byteSize before ≤ feed by omega)
      rw [standsAt_append_iff] at hstands
      have htext := byteSize_text line
      rcases standsAt_or_of_append hstands with hstands | ⟨_, rfl, -⟩
      · obtain ⟨hend, -⟩ := add_one_eq_of_standsAt_feed (feed_notMem_body h) hstands
        omega
      · omega

theorem exists_feed_of_terminator (hnext : offset < line.next) {ending : LineEnding}
    (hending : line.terminator = some ending) :
    ∃ feed, IsFirstFrom t ['\n'] offset feed ∧ line.next = feed + 1 := by
  obtain ⟨before, after, rfl, hsize, -, -⟩ := exists_line_cut h
  have htext := byteSize_text line
  obtain ⟨front, hfront⟩ : ∃ front, line.text = front ++ ['\n'] := by
    rw [← List.getLast?_eq_some_iff, Line.text, Line.ending, hending, Option.map_some,
      Option.getD_some, List.getLast?_append, getLast?_text, Option.some_or]
  have hlast : byteSize line.text = byteSize front + 1 := by
    rw [hfront, byteSize_append]
    rfl
  refine ⟨line.start + byteSize front, ⟨⟨by omega, ?_⟩, ?_⟩, by omega⟩
  · exact ⟨before ++ front, after, by simp [hfront], by rw [byteSize_append, hsize]⟩
  · rintro feed ⟨hle, hstands⟩
    obtain ⟨more, rfl⟩ := Nat.exists_eq_add_of_le (show byteSize before ≤ feed by omega)
    rw [standsAt_append_iff] at hstands
    rcases standsAt_or_of_append hstands with hstands | ⟨_, rfl, -⟩
    · obtain ⟨hend, -⟩ := add_one_eq_of_standsAt_feed (feed_notMem_body h) hstands
      omega
    · omega

theorem not_standsAt_feed (hnone : line.terminator = none) {feed : Nat} (hle : offset ≤ feed) :
    ¬StandsAt t ['\n'] feed := by
  intro hstands
  obtain ⟨before, after, rfl, hsize, -, hafter⟩ := exists_line_cut h
  obtain rfl := hafter hnone
  obtain ⟨more, rfl⟩ := Nat.exists_eq_add_of_le (show byteSize before ≤ feed by omega)
  rw [standsAt_append_iff, List.append_nil] at hstands
  exact (add_one_eq_of_standsAt_feed (feed_notMem_body h) hstands).2 hnone

end Graft.Text
