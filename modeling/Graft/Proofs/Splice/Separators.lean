import Mathlib.Data.List.TakeWhile
import Graft.Proofs.Text.Fragment
import Graft.Resolve

/-!
# Separators at the end of a text

A fragment that goes to the end of a text can ask to be separated from it: the empty
lines that lead the fragment are the separator, and the blank lines that the text ends
in already count towards it. Two readings of a line meet here. The splice counts blank
lines from break to break, and so never counts the first line of the text
(`trailingBlankLines_eq`); the text itself has lines. They agree but for a text that is
blank altogether, which gets one line more than it was asked for
(`blanksAtEnd_ahead_of_fragment`).
-/

namespace Graft

open Text

/-! ## Blank lines at an end -/

/-- How many lines, counted from the last one, are blank. -/
def blanksAtEnd (lines : List Line) : Nat :=
  (lines.reverse.takeWhile Line.isBlank).length

theorem blanksAtEnd_concat {line : Line} (hblank : line.isBlank = true) (lines : List Line) :
    blanksAtEnd (lines ++ [line]) = blanksAtEnd lines + 1 := by
  rw [blanksAtEnd, List.reverse_concat, List.takeWhile_cons_of_pos hblank, List.length_cons]
  rfl

/-- A line in front counts only where all lines behind it do. -/
theorem blanksAtEnd_cons (line : Line) (lines : List Line) :
    blanksAtEnd (line :: lines) =
      if (line :: lines).all Line.isBlank then blanksAtEnd lines + 1 else blanksAtEnd lines := by
  rw [blanksAtEnd, blanksAtEnd, List.reverse_cons, List.takeWhile_append]
  by_cases hall : lines.all Line.isBlank
  · have hrun : lines.reverse.takeWhile Line.isBlank = lines.reverse :=
      List.takeWhile_eq_self_iff.mpr fun line hline =>
        List.all_eq_true.mp hall line (List.mem_reverse.mp hline)
    rw [hrun, if_pos rfl, List.length_append, List.all_cons, hall, Bool.and_true]
    cases hline : line.isBlank with
    | false => simp [hline]
    | true => simp [hline]
  · have hrun : (lines.reverse.takeWhile Line.isBlank).length ≠ lines.reverse.length := by
      intro hlength
      have heq := (List.takeWhile_prefix Line.isBlank).eq_of_length hlength
      rw [List.takeWhile_eq_self_iff] at heq
      exact hall (List.all_eq_true.mpr fun line hline => heq line (List.mem_reverse.mpr hline))
    rw [if_neg hrun, if_neg]
    rw [List.all_cons, Bool.and_eq_true]
    exact fun h => hall h.2

/-- The count hangs on which lines are blank alone. -/
theorem blanksAtEnd_eq_of_map_eq {lines : List Line} {bodies : List Text}
    (h : lines.map Line.isBlank = bodies.map isBlank) :
    blanksAtEnd lines = (bodies.reverse.takeWhile isBlank).length := by
  have hcount {α : Type} (p : α → Bool) (l : List α) :
      (l.reverse.takeWhile p).length = ((l.map p).reverse.takeWhile id).length := by
    rw [← List.map_reverse, List.takeWhile_map, List.length_map]
    rfl
  rw [blanksAtEnd, hcount, h, ← hcount]

/-! ## Lines and breaks -/

theorem isBlank_dropFinal {c : Char} (hc : isSpace c = true) (t : Text) :
    isBlank (t.dropFinal c) = isBlank t := by
  rw [dropFinal]
  split
  · rename_i hlast
    obtain ⟨front, rfl⟩ := List.getLast?_eq_some_iff.mp hlast
    simp [isBlank, hc]
  · rfl

/-- **The lines of a terminated text are blank where the pieces between its breaks are.**  A `\r`
that is left to a piece is blank. -/
theorem map_isBlank_lines (t : Text) :
    (lines (t ++ ['\n'])).map Line.isBlank = (pieces (· == '\n') t).map isBlank := by
  have hbodies : (lines (t ++ ['\n'])).map Line.isBlank =
      ((lines (t ++ ['\n'])).map Line.body).map isBlank := by
    rw [List.map_map]
    rfl
  rw [hbodies, map_body_lines_feed, List.map_map]
  exact List.map_congr_left fun piece _ => isBlank_dropFinal rfl piece

/-- The splice counts the blank lines at the end of a text, the first line of it left out. -/
theorem trailingBlankLines_eq {t : Text} (ht : t.endsLine = true) :
    trailingBlankLines t = blanksAtEnd (lines t).tail := by
  obtain ⟨front, rfl⟩ : ∃ front, t = front ++ ['\n'] :=
    List.getLast?_eq_some_iff.mp (by simpa [endsLine] using ht)
  have hblank : (lines (front ++ ['\n'])).tail.map Line.isBlank =
      (pieces (· == '\n') front).tail.map isBlank := by
    rw [List.map_tail, map_isBlank_lines, List.map_tail]
  rw [trailingBlankLines, if_pos ht, List.dropLast_concat, blanksAtEnd_eq_of_map_eq hblank]

/-- A text that is blank altogether has one blank line at its end that the splice does not count. -/
theorem blanksAtEnd_lines {t : Text} (ht : t.endsLine = true) :
    blanksAtEnd (lines t) =
      if (lines t).all Line.isBlank then trailingBlankLines t + 1 else trailingBlankLines t := by
  rw [trailingBlankLines_eq ht]
  cases hlines : lines t with
  | nil =>
      have hnil : t = [] := by
        rw [← flatMap_lines t, hlines]
        rfl
      rw [hnil] at ht
      cases ht
  | cons line later => rw [List.tail_cons, blanksAtEnd_cons]

/-! ## Separating -/

/-- The given number of line endings, one after another. -/
def LineEnding.repeated (ending : LineEnding) : Nat → Text
  | 0 => []
  | count + 1 => ending.text ++ ending.repeated count

/-- Empty lines that lead a fragment are written as line endings. -/
theorem renderFragment_replicate_append (count : Nat) (first : Text) (others : List Text)
    (indent : Text) (ending : LineEnding) :
    renderFragment (List.replicate count [] ++ first :: others) indent ending =
      ending.repeated count ++ renderFragment (first :: others) indent ending := by
  induction count with
  | zero => rfl
  | succ count ih =>
      rw [List.replicate_succ, List.cons_append]
      -- the line is not the last one, so a line ending follows it
      have hjoined : renderFragment ([] :: (List.replicate count [] ++ first :: others)) indent
          ending = ending.text ++
            renderFragment (List.replicate count [] ++ first :: others) indent ending := by
        cases hmore : List.replicate count [] ++ first :: others with
        | nil => simp at hmore
        | cons next later =>
            simp only [renderFragment, List.map_cons, if_true, joined, List.nil_append]
      rw [hjoined, ih, LineEnding.repeated, List.append_assoc]

theorem atLineStart_append_repeated {t : Text} (ht : AtLineStart t) (ending : LineEnding)
    (count : Nat) : AtLineStart (t ++ ending.repeated count) := by
  induction count generalizing t with
  | zero => rwa [LineEnding.repeated, List.append_nil]
  | succ count ih =>
      rw [LineEnding.repeated, ← List.append_assoc]
      exact ih (atLineStart_append_text t ending)

/-- Every line ending at the start of a line is a blank line more. -/
theorem blanksAtEnd_append_repeated {t : Text} (ht : AtLineStart t) (ending : LineEnding)
    (count : Nat) :
    blanksAtEnd (lines (t ++ ending.repeated count)) = blanksAtEnd (lines t) + count := by
  induction count generalizing t with
  | zero => rw [LineEnding.repeated, List.append_nil, Nat.add_zero]
  | succ count ih =>
      obtain ⟨line, hline, hblank⟩ : ∃ line, lines ending.text = [line] ∧ line.isBlank = true := by
        cases ending <;> exact ⟨_, rfl, rfl⟩
      have hone : blanksAtEnd (lines (t ++ ending.text)) = blanksAtEnd (lines t) + 1 := by
        rw [lines_append ht, hline, List.map_singleton]
        exact blanksAtEnd_concat (show (line.moved (byteSize t)).isBlank = true from hblank) _
      rw [LineEnding.repeated, ← List.append_assoc, ih (atLineStart_append_text t ending), hone,
        Nat.add_assoc, Nat.add_comm 1]

theorem takeWhile_isEmpty_replicate_append {first : Text} (hfirst : first ≠ []) (count : Nat)
    (others : List Text) :
    (List.replicate count [] ++ first :: others).takeWhile List.isEmpty =
      List.replicate count [] := by
  rw [List.takeWhile_append_of_pos, List.takeWhile_cons_of_neg (by simpa using hfirst),
    List.append_nil]
  intro line hline
  rw [List.eq_of_mem_replicate hline]
  rfl

/-- A fragment at the end of a terminated text stands behind as many more line endings as the text
lacks blank lines. -/
theorem splice_endOfText_separated {t first : Text} (ht : t.endsLine = true) (hfirst : first ≠ [])
    (count : Nat) (others : List Text) {point : Point} (hpoint : point.placement = .endOfText) :
    splice t point (List.replicate count [] ++ first :: others) =
      t ++ (LineEnding.detect t).repeated (count - trailingBlankLines t) ++
        (renderFragment (first :: others) point.indent (LineEnding.detect t) ++
          (LineEnding.detect t).text) := by
  have hkept : (List.replicate count [] ++ first :: others).drop
      (min count (trailingBlankLines t)) =
      List.replicate (count - trailingBlankLines t) [] ++ first :: others := by
    rw [List.drop_append_of_le_length (by simp), List.drop_replicate,
      show count - min count (trailingBlankLines t) = count - trailingBlankLines t by omega]
  simp only [splice, hpoint]
  rw [takeWhile_isEmpty_replicate_append hfirst, List.length_replicate, hkept, if_pos (.inr ht),
    renderFragment_replicate_append]
  simp only [List.append_assoc]

/-- **How far a fragment is separated from the text that it follows.**  Where `count` empty lines
lead the fragment, the line on which the rest of it starts has behind a text with anything shown in
it as many blank lines ahead as the greater of `count` and the number that the text ended in. Behind
a text of blank lines alone there is one more, unless the text had more than `count` of them. -/
theorem blanksAtEnd_ahead_of_fragment {t first : Text} (ht : t.endsLine = true)
    (hfirst : first ≠ []) (count : Nat) (others : List Text) {point : Point}
    (hpoint : point.placement = .endOfText) :
    let result := splice t point (List.replicate count [] ++ first :: others)
    ∃ front index line,
      result = front ++ (renderFragment (first :: others) point.indent (LineEnding.detect t) ++
        (LineEnding.detect t).text) ∧
      (lines result)[index]? = some line ∧ line.start = byteSize front ∧
      blanksAtEnd ((lines result).take index) =
        if (lines t).all Line.isBlank then max (count + 1) (blanksAtEnd (lines t))
        else max count (blanksAtEnd (lines t)) := by
  intro result
  have hstart : AtLineStart t := .inr (by simpa [endsLine] using ht)
  have hresult := splice_endOfText_separated ht hfirst count others hpoint
  generalize hfront : t ++ (LineEnding.detect t).repeated (count - trailingBlankLines t) = front
    at hresult
  generalize hrest : renderFragment (first :: others) point.indent (LineEnding.detect t) ++
    (LineEnding.detect t).text = rest at hresult
  have hfrontStart : AtLineStart front :=
    hfront ▸ atLineStart_append_repeated hstart (LineEnding.detect t) _
  -- the lines of the result are those of the front and then those of the rest, which has one
  have hlines : lines result = lines front ++ (lines rest).map (Line.moved (byteSize front)) := by
    rw [show result = front ++ rest from hresult, lines_append hfrontStart]
  obtain ⟨line, later, hline, hzero⟩ :
      ∃ line later, lines rest = line :: later ∧ line.start = 0 := by
    cases hsplit : splitLines rest with
    | nil =>
        have hnil := splitLines_eq_nil_iff.mp hsplit
        rw [← hrest, List.append_eq_nil_iff] at hnil
        exact absurd (getLast?_text (LineEnding.detect t)) (by rw [hnil.2]; nofun)
    | cons piece later =>
        rw [lines, hsplit]
        exact ⟨_, _, rfl, rfl⟩
  refine ⟨front, (lines front).length, line.moved (byteSize front), hresult, ?_, ?_, ?_⟩
  · rw [hlines, hline, List.map_cons, List.getElem?_append_right (Nat.le_refl _), Nat.sub_self,
      List.getElem?_cons_zero]
  · rw [Line.moved_start, hzero, Nat.zero_add]
  · rw [hlines, List.take_left, ← hfront, blanksAtEnd_append_repeated hstart, blanksAtEnd_lines ht]
    split
    · omega
    · omega

/-- The end of any text. -/
def Point.atEnd (t : Text) : Point :=
  { offset := byteSize t, indent := [], placement := .endOfText }

/-- Of the three separators that a route asks for two are there already, one of them an indented
line, so one is added. -/
theorem route_follows_blank_lines :
    ∃ front index line,
      splice "a;\r\n  \r\n\r\n" (Point.atEnd "a;\r\n  \r\n\r\n") [[], [], [], "route;", "end;"] =
        front ++ "route;\r\nend;\r\n" ∧
      (lines (splice "a;\r\n  \r\n\r\n" (Point.atEnd "a;\r\n  \r\n\r\n")
        [[], [], [], "route;", "end;"]))[index]? = some line ∧ line.start = byteSize front ∧
      blanksAtEnd ((lines (splice "a;\r\n  \r\n\r\n" (Point.atEnd "a;\r\n  \r\n\r\n")
        [[], [], [], "route;", "end;"])).take index) = 3 := by
  have hlines : (lines ("a;\r\n  \r\n\r\n" : Text)).all Line.isBlank = false := by decide
  have hblanks : blanksAtEnd (lines ("a;\r\n  \r\n\r\n" : Text)) = 2 := by decide
  obtain ⟨front, index, line, hresult, hline, hstart, hcount⟩ :=
    @blanksAtEnd_ahead_of_fragment "a;\r\n  \r\n\r\n" "route;" (by decide) (by decide) 3 ["end;"]
      (Point.atEnd "a;\r\n  \r\n\r\n") rfl
  rw [hlines, hblanks] at hcount
  exact ⟨front, index, line, hresult, hline, hstart, hcount⟩

/-- A text that is one blank line already has the separator that a fragment asks for, and yet it is
added: the fragment has two blank lines ahead. -/
theorem separator_doubled_in_blank_text :
    resolve? "\n" .endOfDocument = some (Point.atEnd "\n") ∧
      endsLine "\n" = true ∧ blanksAtEnd (lines ("\n" : Text)) = 1 ∧
      splice "\n" (Point.atEnd "\n") [[], "x"] = "\n\n" ++ "x\n" ∧
      ((lines (splice "\n" (Point.atEnd "\n") [[], "x"]))[2]?.map Line.text) = some "x\n".toList ∧
      blanksAtEnd ((lines (splice "\n" (Point.atEnd "\n") [[], "x"])).take 2) = 2 ∧
      max 1 (blanksAtEnd (lines ("\n" : Text))) ≠ 2 := by
  decide

end Graft
