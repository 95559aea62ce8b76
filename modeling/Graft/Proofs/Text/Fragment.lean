import Graft.Proofs.Text.LineInsert
import Graft.Proofs.Text.Words
import Graft.Spec
import Graft.Splice

/-!
# Fragments written as one text

The lines of a fragment can be written as one text in many ways, since each break can be
of either kind (`Spec.WrittenAs`). Reading such a text back needs no knowledge of the
breaks: a fragment has the lines of its text, once the last one is terminated
(`Spec.splitFragment_eq_map_body`), and a text that was written line by line has those
lines (`Spec.WrittenAs.map_body_lines`). What reading cannot tell is whether an empty
line or nothing follows the break that ends a text. It takes it for nothing, so a
fragment of several lines whose last one is empty needs a break behind that line, and no
other does (`Spec.splitFragment_writtenAs`).
-/

namespace Graft

open Text

/-! ## Lines and pieces -/

/-- A line that a `\n` ends loses the `\r` at its end. -/
theorem Text.map_body_lines_singleton {line : Text} (hfeed : '\n' ∉ line) :
    (lines (line ++ ['\n'])).map Line.body = [line.dropFinal '\r'] := by
  rw [lines, splitLines_terminated hfeed, terminatedPiece, dropFinal]
  split
  · rfl
  · rfl

/-- **The lines of a terminated text are the pieces between its breaks**, each without the `\r` at
its end. -/
theorem Text.map_body_lines_feed (t : Text) :
    (lines (t ++ ['\n'])).map Line.body = (pieces (· == '\n') t).map (·.dropFinal '\r') := by
  induction hsize : t.length using Nat.strong_induction_on generalizing t with
  | _ size ih =>
      subst hsize
      by_cases hfeed : '\n' ∈ t
      · obtain ⟨line, others, rfl, hline⟩ := List.eq_append_cons_of_mem hfeed
        have hless : others.length < (line ++ '\n' :: others).length := by simp; omega
        have hcut : line ++ '\n' :: others ++ ['\n'] = (line ++ ['\n']) ++ (others ++ ['\n']) := by
          simp
        rw [hcut, map_body_lines_append (.inr (by simp)), map_body_lines_singleton hline,
          ih _ hless others rfl, pieces_append_cons (p := (· == '\n')) rfl, pieces_of_notMem hline,
          List.map_append, List.map_singleton]
      · rw [map_body_lines_singleton hfeed, pieces_of_notMem hfeed, List.map_singleton]

namespace Spec

/-! ## Reading -/

/-- **A fragment has the lines of the text that it is written as**, once that is terminated. -/
theorem splitFragment_eq_map_body (t : Text) :
    splitFragment t = (lines (if t.endsLine then t else t ++ ['\n'])).map Line.body := by
  rw [splitFragment, dropFinal]
  by_cases hlast : t.getLast? = some '\n'
  · obtain ⟨front, rfl⟩ := List.getLast?_eq_some_iff.mp hlast
    rw [if_pos hlast, if_pos (endsLine_iff.mpr hlast), List.dropLast_concat, map_body_lines_feed]
  · rw [if_neg hlast, if_neg (mt endsLine_iff.mp hlast), map_body_lines_feed]

theorem splitFragment_append_text (t : Text) (ending : LineEnding) :
    splitFragment (t ++ ending.text) = (lines (t ++ ending.text)).map Line.body := by
  have hlast : (t ++ ending.text).getLast? = some '\n' := by
    rw [List.getLast?_append, getLast?_text, Option.some_or]
  rw [splitFragment_eq_map_body, if_pos (endsLine_iff.mpr hlast)]

/-! ## Writing -/

/-- The text is the lines of the fragment in order, with a break of either kind behind each but the
last. -/
inductive WrittenAs : List Text → Text → Prop
  | last (line : Text) : WrittenAs [line] line
  | cons (line : Text) (ending : LineEnding) {others : List Text} {t : Text}
      (h : WrittenAs others t) : WrittenAs (line :: others) (line ++ ending.text ++ t)

namespace WrittenAs

variable {fragment : List Text} {t : Text}

theorem joined {fragment : List Text} (hne : fragment ≠ []) (ending : LineEnding) :
    WrittenAs fragment (Text.joined ending.text fragment) := by
  fun_induction Text.joined ending.text fragment with
  | case1 => exact (hne rfl).elim
  | case2 line => exact .last line
  | case3 line next others ih => exact .cons line ending (ih (List.cons_ne_nil next others))

/-- With a break behind the last line too, the lines are those that were written. -/
theorem map_body_lines (h : WrittenAs fragment t) (hlines : ∀ line ∈ fragment, IsLine line)
    (final : LineEnding) : (lines (t ++ final.text)).map Line.body = fragment := by
  induction h with
  | last line =>
      rw [lines_line (hlines line List.mem_cons_self) final, List.map_singleton]
  | @cons line ending others t _ ih =>
      have hothers := ih fun line hline => hlines line (List.mem_cons_of_mem _ hline)
      rw [List.append_assoc, map_body_lines_append (atLineStart_append_text line ending),
        lines_line (hlines line List.mem_cons_self) ending, hothers, List.map_singleton,
        List.singleton_append]

/-- A writing is one line, or one of the lines ahead of the last, a break and the last line. -/
theorem cases_last (h : WrittenAs fragment t) :
    fragment = [t] ∨ ∃ (front : List Text) (start : Text) (ending : LineEnding) (line : Text),
      WrittenAs front start ∧ fragment = front ++ [line] ∧ t = start ++ ending.text ++ line := by
  induction h with
  | last line => exact .inl rfl
  | @cons line ending others t _ ih =>
      right
      rcases ih with rfl | ⟨front, start, final, last, hfront, rfl, rfl⟩
      · exact ⟨[line], line, ending, t, .last line, rfl, rfl⟩
      · exact ⟨line :: front, line ++ ending.text ++ start, final, last,
          .cons line ending hfront, rfl, by simp only [List.append_assoc]⟩

theorem ne_nil (h : WrittenAs fragment t) : fragment ≠ [] := by
  cases h with
  | last => exact List.cons_ne_nil t []
  | cons line _ _ => exact List.cons_ne_nil line _

/-! ## Reading what was written -/

/-- A text that no break ends is read as the lines that it was written from. -/
theorem splitFragment_eq (h : WrittenAs fragment t) (hlines : ∀ line ∈ fragment, IsLine line)
    (hopen : t.getLast? ≠ some '\n') : splitFragment t = fragment := by
  rw [splitFragment_eq_map_body, if_neg (mt endsLine_iff.mp hopen)]
  exact h.map_body_lines hlines .lf

/-- Without a break behind the last line the fragment is read as it was, unless the last line is
empty and there are others. -/
theorem splitFragment_eq_iff (h : WrittenAs fragment t) (hlines : ∀ line ∈ fragment, IsLine line) :
    splitFragment t = fragment ↔ fragment.getLast? ≠ some [] ∨ fragment.length = 1 := by
  rcases h.cases_last with rfl | ⟨front, start, ending, line, hfront, rfl, rfl⟩
  · have hopen : t.getLast? ≠ some '\n' := fun hlast =>
      (hlines t List.mem_cons_self).oneLine (List.mem_of_getLast? hlast)
    exact iff_of_true (h.splitFragment_eq hlines hopen) (.inr rfl)
  have hsize : (front ++ [line]).length ≠ 1 := by
    simpa using hfront.ne_nil
  rw [List.getLast?_concat, or_iff_left hsize]
  by_cases hempty : line = []
  · -- the break ahead of the empty line is taken for the end of the text
    subst hempty
    have hread : splitFragment (start ++ ending.text ++ []) = front := by
      rw [List.append_nil, splitFragment_append_text]
      exact hfront.map_body_lines
        (fun line hline => hlines line (List.mem_append_left _ hline)) ending
    rw [hread]
    simp
  · have hopen : (start ++ ending.text ++ line).getLast? ≠ some '\n' := by
      intro hlast
      rw [List.getLast?_append_of_ne_nil _ hempty] at hlast
      exact (hlines line (by simp)).oneLine (List.mem_of_getLast? hlast)
    exact iff_of_true (h.splitFragment_eq hlines hopen) (by simpa using hempty)

end WrittenAs

/-- **Reading a fragment undoes writing it, whatever the breaks.**  With a break behind the last
line every fragment comes back; without one, exactly those that are one line or do not end in an
empty one. Rendering is one way of writing. -/
theorem splitFragment_writtenAs {fragment : List Text} (hne : fragment ≠ [])
    (hlines : ∀ line ∈ fragment, IsLine line) :
    (∀ t, WrittenAs fragment t →
      (∀ ending : LineEnding, splitFragment (t ++ ending.text) = fragment) ∧
      (splitFragment t = fragment ↔ fragment.getLast hne ≠ [] ∨ fragment.length = 1)) ∧
    ∀ ending, WrittenAs fragment (renderFragment fragment [] ending) ∧
      (fragment.getLast hne ≠ [] →
        splitFragment (renderFragment fragment [] ending) = fragment) := by
  have hlast : fragment.getLast? ≠ some [] ↔ fragment.getLast hne ≠ [] := by
    rw [List.getLast?_eq_some_getLast hne, ne_eq, Option.some.injEq]
  refine ⟨fun t h => ⟨fun ending => ?_, ?_⟩, fun ending => ?_⟩
  · rw [splitFragment_append_text]
    exact h.map_body_lines hlines ending
  · rw [← hlast]
    exact h.splitFragment_eq_iff hlines
  · have hrendered : WrittenAs fragment (renderFragment fragment [] ending) := by
      rw [renderFragment_nil]
      exact .joined hne ending
    refine ⟨hrendered, fun hfinal => ?_⟩
    exact (hrendered.splitFragment_eq_iff hlines).mpr (.inl (hlast.mpr hfinal))

/-- Lines with both kinds of breaks between them: one line is empty and one has a `\r` inside. -/
def mixedFragment : List Text := ["a();", [], "b\rc", "d"]

theorem mixedFragment_read_back :
    WrittenAs mixedFragment "a();\r\n\nb\rc\r\nd" ∧
      splitFragment "a();\r\n\nb\rc\r\nd\r\n" = mixedFragment ∧
      splitFragment "a();\r\n\nb\rc\r\nd" = mixedFragment ∧
      splitFragment (renderFragment mixedFragment [] .crlf) = mixedFragment := by
  have hwritten : WrittenAs mixedFragment "a();\r\n\nb\rc\r\nd" :=
    .cons "a();" .crlf (.cons [] .lf (.cons "b\rc" .crlf (.last "d")))
  obtain ⟨hread, hrendered⟩ :=
    @splitFragment_writtenAs mixedFragment (by decide) (by decide)
  obtain ⟨hterminated, hopen⟩ := hread _ hwritten
  exact ⟨hwritten, hterminated .crlf, hopen.mpr (.inl (by decide)), (hrendered .crlf).2 (by decide)⟩

/-- The break ahead of an empty last line is taken for the end of the text. -/
example : splitFragment "a();\n" = ["a();"] := by decide

end Spec
end Graft
