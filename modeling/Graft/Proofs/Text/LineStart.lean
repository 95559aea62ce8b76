import Graft.Proofs.Text.Cut

/-!
# Where lines start

A line of a text is a part of it, and what stands before the line is made of
terminated lines (`exists_of_getElem?_lines`): a cut at a line's start, or just
past its terminator, never separates two characters of one line. Only the last
line can lack a terminator, so a line that another one follows has it
(`terminator_isSome_of_start_lt`).
-/

namespace Graft.Text

/-- What can stand before the first character of a line. -/
def AtLineStart (before : Text) : Prop :=
  before = [] ∨ before.getLast? = some '\n'

/-- The body of a line and its terminator, as they stand in the text. -/
def pieceText (piece : Text × Option LineEnding) : Text :=
  piece.1 ++ (piece.2.map LineEnding.text).getD []

/-! ## Terminators -/

theorem getLast?_text (ending : LineEnding) : ending.text.getLast? = some '\n' := by
  cases ending <;> rfl

theorem exists_text_eq (ending : LineEnding) :
    ∃ closing : Text, (∀ c ∈ closing, c = '\r') ∧ ending.text = closing ++ ['\n'] := by
  cases ending with
  | lf => exact ⟨[], by simp, rfl⟩
  | crlf => exact ⟨['\r'], by simp, rfl⟩

/-- What ends in a terminator ends a line. -/
theorem atLineStart_append_text (t : Text) (ending : LineEnding) :
    AtLineStart (t ++ ending.text) := by
  right
  rw [List.getLast?_append, getLast?_text, Option.some_or]

/-- Only the last piece can lack a terminator. -/
theorem length_of_getElem?_splitLines {t body : Text} {i : Nat}
    (h : (splitLines t)[i]? = some (body, none)) : (splitLines t).length = i + 1 := by
  fun_induction splitLines t generalizing i body with
  | case1 => simp at h
  | case2 rest ih =>
      cases i with
      | zero => simp at h
      | succ i => simp only [List.length_cons, ih (by simpa using h)]
  | case3 rest ih =>
      cases i with
      | zero => simp at h
      | succ i => simp only [List.length_cons, ih (by simpa using h)]
  | case4 c rest _ _ hrest ih =>
      cases i with
      | zero => rfl
      | succ i => simp at h
  | case5 c rest _ _ found terminator others hrest ih =>
      rw [hrest] at ih
      cases i with
      | zero =>
          rw [List.getElem?_cons_zero, Option.some.injEq, Prod.mk.injEq] at h
          exact ih (i := 0) (by rw [List.getElem?_cons_zero, h.2])
      | succ i => exact ih (i := i + 1) (by simpa using h)

/-- Terminated pieces, one after another, are nothing or end a line. -/
theorem atLineStart_flatMap {pieces : List (Text × Option LineEnding)}
    (h : ∀ piece ∈ pieces, piece.2 ≠ none) : AtLineStart (pieces.flatMap pieceText) := by
  rcases List.eq_nil_or_concat pieces with rfl | ⟨front, ⟨body, terminator⟩, rfl⟩
  · exact .inl rfl
  · obtain ⟨ending, hending⟩ := Option.ne_none_iff_exists'.mp (h (body, terminator) (by simp))
    obtain rfl : terminator = some ending := hending
    rw [List.concat_eq_append, List.flatMap_append, List.flatMap_singleton]
    simp only [pieceText, Option.map_some, Option.getD_some]
    rw [← List.append_assoc]
    exact atLineStart_append_text _ ending

/-! ## Offsets of lines -/

/-- A line starts past the pieces before it. -/
theorem getElem?_layLines {start i : Nat} {parts : List (Text × Option LineEnding)} {line : Line}
    (h : (layLines start parts)[i]? = some line) :
    parts[i]? = some (line.body, line.terminator) ∧
      line.start = start + byteSize ((parts.take i).flatMap pieceText) := by
  induction parts generalizing start i with
  | nil => simp [layLines] at h
  | cons part others ih =>
      cases i with
      | zero =>
          simp only [layLines, List.getElem?_cons_zero, Option.some.injEq] at h
          subst h
          exact ⟨rfl, by simp⟩
      | succ i =>
          simp only [layLines, List.getElem?_cons_succ] at h
          obtain ⟨hpart, hstart⟩ := ih h
          refine ⟨by simpa using hpart, ?_⟩
          rw [hstart, List.take_succ_cons, List.flatMap_cons, byteSize_append]
          simp only [Line.next, Line.stop, Line.ending, pieceText, byteSize_append]
          omega

/-- A line cuts its text in three, and what stands before it is made of whole lines. -/
theorem exists_of_getElem?_lines {t : Text} {i : Nat} {line : Line}
    (h : (lines t)[i]? = some line) :
    ∃ before after, t = before ++ line.text ++ after ∧ byteSize before = line.start ∧
      AtLineStart before := by
  obtain ⟨hpiece, hstart⟩ := getElem?_layLines h
  obtain ⟨hlt, hget⟩ := List.getElem?_eq_some_iff.mp hpiece
  refine ⟨((splitLines t).take i).flatMap pieceText,
    ((splitLines t).drop (i + 1)).flatMap pieceText, ?_, by rw [hstart, Nat.zero_add], ?_⟩
  · calc t = (splitLines t).flatMap pieceText := (flatMap_splitLines t).symm
      _ = ((splitLines t).take i ++ (splitLines t)[i] ::
            (splitLines t).drop (i + 1)).flatMap pieceText := by
          rw [← List.drop_eq_getElem_cons hlt, List.take_append_drop]
      _ = _ := by
          rw [hget, List.flatMap_append, List.flatMap_cons, List.append_assoc]
          rfl
  · refine atLineStart_flatMap fun piece hpiece hnone => ?_
    obtain ⟨k, hk, rfl⟩ := List.getElem_of_mem hpiece
    rw [List.length_take] at hk
    rw [List.getElem_take] at hnone
    -- a piece without terminator would be the last one, but the line comes after it
    have hbare : (splitLines t)[k]? = some ((splitLines t)[k].1, none) := by
      rw [List.getElem?_eq_getElem (by omega), ← hnone]
    have hlast := length_of_getElem?_splitLines hbare
    omega

/-- A cut just past a terminated line is the start of a line. -/
theorem exists_of_terminator {t : Text} {i : Nat} {line : Line} {ending : LineEnding}
    (h : (lines t)[i]? = some line) (hending : line.terminator = some ending) :
    ∃ before after, t = before ++ after ∧ byteSize before = line.next ∧ AtLineStart before := by
  obtain ⟨before, after, rfl, hstart, -⟩ := exists_of_getElem?_lines h
  refine ⟨before ++ line.text, after, rfl, ?_, ?_⟩
  · simp only [byteSize_append, Line.text, Line.next, Line.stop, hstart, Nat.add_assoc]
  · rw [Line.text, Line.ending, hending, ← List.append_assoc]
    exact atLineStart_append_text _ ending

theorem byteSize_flatMap_take_le (parts : List (Text × Option LineEnding)) {i j : Nat}
    (hle : i ≤ j) :
    byteSize ((parts.take i).flatMap pieceText) ≤ byteSize ((parts.take j).flatMap pieceText) := by
  have hsplit : parts.take j = parts.take i ++ (parts.drop i).take (j - i) := by
    rw [← List.take_add, Nat.add_sub_cancel' hle]
  rw [hsplit, List.flatMap_append, byteSize_append]
  omega

/-- Lines start in the order they stand in. -/
theorem start_le_of_le {t : Text} {i j : Nat} {line other : Line}
    (hi : (lines t)[i]? = some line) (hj : (lines t)[j]? = some other) (hle : i ≤ j) :
    line.start ≤ other.start := by
  have hstarts := byteSize_flatMap_take_le (splitLines t) hle
  rw [(getElem?_layLines hi).2, (getElem?_layLines hj).2]
  omega

/-- A line that another one follows is terminated. -/
theorem terminator_isSome_of_start_lt {t : Text} {i j : Nat} {line other : Line}
    (hi : (lines t)[i]? = some line) (hj : (lines t)[j]? = some other)
    (hlt : line.start < other.start) : ∃ ending, line.terminator = some ending := by
  rw [← Option.ne_none_iff_exists']
  intro hnone
  have hpiece := (getElem?_layLines hi).1
  rw [hnone] at hpiece
  have hlast := length_of_getElem?_splitLines hpiece
  have hbound := (List.getElem?_eq_some_iff.mp (getElem?_layLines hj).1).1
  have := start_le_of_le hj hi (by omega)
  omega

end Graft.Text
