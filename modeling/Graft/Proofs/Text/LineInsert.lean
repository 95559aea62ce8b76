import Graft.Proofs.Text.LineEdges

/-!
# A line between lines

A text that is cut where a line starts has the lines of the front and then those of the
back, only further on (`lines_append`). So a line that goes in at such a cut becomes one
more line there and moves the others by its size (`lines_insert`), and whichever break
ends it, it is read back as it was (`lines_line`). A needle without `\n` cannot reach over
the cut, so the first one ahead of it is found as before (`isFirstFrom_append_feed_iff`).
-/

namespace Graft

/-- The same line, `size` bytes further on. -/
def Line.moved (size : Nat) (line : Line) : Line :=
  { line with start := line.start + size }

namespace Line

variable (size : Nat) (line : Line)

@[simp] theorem moved_start : (line.moved size).start = line.start + size := rfl

@[simp] theorem moved_moved (more : Nat) : (line.moved size).moved more = line.moved (size + more) := by
  simp only [moved, Nat.add_assoc]

@[simp] theorem moved_next : (line.moved size).next = line.next + size := by
  simp only [next, stop, ending, moved]
  omega

end Line

namespace Text

variable {a b t last needle : Text} {start offset : Nat}

/-! ## Lines of two pieces -/

theorem splitLines_eq_nil_iff : splitLines t = [] ↔ t = [] := by
  constructor
  · intro h
    have hjoined := flatMap_splitLines t
    rw [h] at hjoined
    exact hjoined.symm
  · rintro rfl
    rfl

/-- Only a `\n`, and a `\r` ahead of one, end a line. -/
theorem splitLines_cons {c : Char} {rest : Text} (hfeed : c ≠ '\n')
    (hreturn : c = '\r' → rest.head? ≠ some '\n') :
    splitLines (c :: rest) =
      match splitLines rest with
      | [] => [([c], none)]
      | (body, terminator) :: others => (c :: body, terminator) :: others := by
  have hrest : ∀ tail, c = '\r' → rest = '\n' :: tail → False := by
    rintro tail hc rfl
    exact hreturn hc rfl
  exact splitLines.eq_4 c rest hfeed hrest

/-- What starts with a line does not start with a break. -/
theorem head?_append_ne_feed (hfeed : '\n' ∉ last) (hne : last ≠ []) (rest : Text) :
    (last ++ rest).head? ≠ some '\n' := by
  rw [List.head?_append_of_ne_nil last hne]
  exact fun hhead => hfeed (List.mem_of_head? hhead)

/-- The piece of a terminated line. -/
def terminatedPiece (last : Text) : Text × Option LineEnding :=
  if last.getLast? = some '\r' then (last.dropLast, some .crlf) else (last, some .lf)

/-- A text whose only `\n` is its last character is one line. -/
theorem splitLines_terminated (hfeed : '\n' ∉ last) :
    splitLines (last ++ ['\n']) = [terminatedPiece last] := by
  induction last with
  | nil => rfl
  | cons c last ih =>
      rw [List.mem_cons, not_or] at hfeed
      cases last with
      | nil =>
          by_cases hreturn : c = '\r'
          · subst hreturn
            rfl
          · rw [List.cons_append, splitLines_cons (Ne.symm hfeed.1) (fun h => absurd h hreturn)]
            simp [terminatedPiece, hreturn, splitLines]
      | cons d last =>
          have hnext := head?_append_ne_feed hfeed.2 (List.cons_ne_nil d last) ['\n']
          rw [List.cons_append, splitLines_cons (Ne.symm hfeed.1) (fun _ => hnext), ih hfeed.2,
            terminatedPiece, terminatedPiece, List.getLast?_cons_cons]
          by_cases hreturn : (d :: last).getLast? = some '\r'
          · rw [if_pos hreturn, if_pos hreturn]
            rfl
          · rw [if_neg hreturn, if_neg hreturn]

/-- A front that ends a line shares no line with the back. -/
theorem splitLines_append (ha : AtLineStart a) (b : Text) :
    splitLines (a ++ b) = splitLines a ++ splitLines b := by
  -- behind its first character a front that goes on ends a line too
  have tail {c : Char} {rest : Text} (h : AtLineStart (c :: rest)) (hne : rest ≠ []) :
      AtLineStart rest := by
    rw [AtLineStart, or_iff_right (List.cons_ne_nil c rest)] at h
    exact .inr (by rwa [List.getLast?_cons_of_ne_nil hne] at h)
  fun_induction splitLines a with
  | case1 => rfl
  | case2 rest ih =>
      rw [List.cons_append, splitLines, List.cons_append, List.cons.injEq, and_iff_right rfl]
      by_cases hnil : rest = []
      · subst hnil
        rfl
      · exact ih (tail ha hnil)
  | case3 rest ih =>
      rw [List.cons_append, List.cons_append, splitLines, List.cons_append, List.cons.injEq,
        and_iff_right rfl]
      by_cases hnil : rest = []
      · subst hnil
        rfl
      · exact ih (tail (tail ha (List.cons_ne_nil _ _)) hnil)
  | case4 c rest hfeed _ hrest ih =>
      obtain rfl := splitLines_eq_nil_iff.mp hrest
      simp only [AtLineStart, List.cons_ne_nil, List.getLast?_singleton, Option.some.injEq,
        false_or] at ha
      exact (hfeed ha).elim
  | case5 c rest hfeed hreturn body terminator others hrest ih =>
      have hne : rest ≠ [] := by
        rintro rfl
        cases hrest
      have hnext : c = '\r' → (rest ++ b).head? ≠ some '\n' := by
        intro hc hhead
        rw [List.head?_append_of_ne_nil _ hne] at hhead
        obtain ⟨more, rfl⟩ := List.head?_eq_some_iff.mp hhead
        exact hreturn more hc rfl
      rw [List.cons_append, splitLines_cons (fun h => hfeed h) hnext, ih (tail ha hne), hrest]
      rfl

theorem layLines_append (start : Nat) (parts others : List (Text × Option LineEnding)) :
    layLines start (parts ++ others) =
      layLines start parts ++ layLines (start + byteSize (parts.flatMap pieceText)) others := by
  induction parts generalizing start with
  | nil => simp [layLines]
  | cons part parts ih =>
      rw [List.cons_append, layLines, layLines, ih, List.cons_append, List.flatMap_cons,
        byteSize_append, ← Nat.add_assoc, byteSize_pieceText]

theorem layLines_moved (start size : Nat) (parts : List (Text × Option LineEnding)) :
    layLines (start + size) parts = (layLines start parts).map (Line.moved size) := by
  induction parts generalizing start with
  | nil => rfl
  | cons part parts ih =>
      rw [layLines, layLines, List.map_cons, ← ih, ← Line.moved_next]
      rfl

/-- **A cut where a line starts is a cut of the lines.** -/
theorem lines_append (ha : AtLineStart a) (b : Text) :
    lines (a ++ b) = lines a ++ (lines b).map (Line.moved (byteSize a)) := by
  rw [lines, splitLines_append ha, layLines_append, byteSize_flatMap_splitLines, layLines_moved]
  rfl

/-- **A line that goes in where a line starts moves the lines behind it.** -/
theorem lines_insert (ha : AtLineStart a) {body : Text} (hfeed : '\n' ∉ body) (b : Text) :
    ∃ line : Line, line.text = body ++ ['\n'] ∧ line.start = byteSize a ∧
      lines (a ++ (body ++ ['\n']) ++ b) =
        lines a ++ line :: (lines b).map (Line.moved (byteSize a + byteSize (body ++ ['\n']))) := by
  have hpiece := splitLines_terminated hfeed
  generalize terminatedPiece body = piece at hpiece
  have hfront : AtLineStart (a ++ (body ++ ['\n'])) := .inr (by simp)
  have hlines : lines (body ++ ['\n']) = [⟨0, piece.1, piece.2⟩] := by
    rw [lines, hpiece]
    rfl
  refine ⟨⟨byteSize a, piece.1, piece.2⟩, ?_, rfl, ?_⟩
  · have htext : Line.text ⟨0, piece.1, piece.2⟩ = body ++ ['\n'] := by
      simpa [hlines] using flatMap_lines (body ++ ['\n'])
    exact htext
  · rw [lines_append hfront, lines_append ha, hlines, byteSize_append, List.append_assoc]
    simp [Line.moved]

/-- A line without its break: no `\n` is in it, and its end takes no part of the break that
follows. -/
structure IsLine (line : Text) : Prop where
  oneLine : '\n' ∉ line
  last : line.getLast? ≠ some '\r'

instance (line : Text) : Decidable (IsLine line) :=
  decidable_of_iff ('\n' ∉ line ∧ line.getLast? ≠ some '\r')
    ⟨fun h => ⟨h.1, h.2⟩, fun h => ⟨h.oneLine, h.last⟩⟩

theorem Unbroken.isLine (h : Unbroken t) : IsLine t where
  oneLine := h.notMem_of_isBreak rfl
  last := fun hlast => h.notMem_of_isBreak rfl (List.mem_of_getLast? hlast)

/-- A line and its ending, of either kind, are one piece. -/
theorem splitLines_line {body : Text} (hbody : IsLine body) (ending : LineEnding) :
    splitLines (body ++ ending.text) = [(body, some ending)] := by
  cases ending with
  | lf =>
      rw [LineEnding.text, splitLines_terminated hbody.oneLine, terminatedPiece,
        if_neg hbody.last]
  | crlf =>
      have hcut : body ++ LineEnding.crlf.text = (body ++ ['\r']) ++ ['\n'] := by
        simp [LineEnding.text]
      have hfeed : '\n' ∉ body ++ ['\r'] := by simp [hbody.oneLine]
      rw [hcut, splitLines_terminated hfeed, terminatedPiece, List.getLast?_concat, if_pos rfl,
        List.dropLast_concat]

theorem lines_line {body : Text} (hbody : IsLine body) (ending : LineEnding) :
    lines (body ++ ending.text) = [{ start := 0, body, terminator := some ending }] := by
  rw [lines, splitLines_line hbody]
  rfl

/-- The bodies of the lines do not hang on where the lines are. -/
theorem map_body_lines_append (ha : AtLineStart a) (b : Text) :
    (lines (a ++ b)).map Line.body = (lines a).map Line.body ++ (lines b).map Line.body := by
  rw [lines_append ha, List.map_append, List.map_map]
  rfl

/-! ## Needles and breaks -/

/-- What cannot hold a character ends ahead of it. -/
theorem standsAt_append_cons_iff {c : Char} (hneedle : c ∉ needle) (hoffset : offset ≤ byteSize a) :
    StandsAt (a ++ c :: b) needle offset ↔ StandsAt a needle offset := by
  constructor
  · rintro ⟨before, after, heq, rfl⟩
    obtain ⟨middle, rfl, hrest⟩ := exists_append_of_byteSize_le heq.symm hoffset
    rcases List.append_eq_append_iff.mp hrest with ⟨more, rfl, -⟩ | ⟨more, rfl, hmore⟩
    · exact ⟨before, more, rfl, rfl⟩
    · cases more with
      | nil => exact ⟨before, [], by simp, rfl⟩
      | cons d more =>
          obtain ⟨rfl, -⟩ := List.cons.inj hmore
          simp at hneedle
  · rintro ⟨before, after, rfl, rfl⟩
    exact ⟨before, after ++ c :: b, by simp, rfl⟩

/-- The first needle ahead of a `\n` does not hang on what stands behind the `\n`. -/
theorem isFirstFrom_append_feed_iff (hneedle : '\n' ∉ needle) (hoffset : offset ≤ byteSize a) :
    IsFirstFrom (a ++ '\n' :: b) needle start offset ↔ IsFirstFrom a needle start offset := by
  constructor
  · rintro ⟨⟨hstart, hstands⟩, hleast⟩
    refine ⟨⟨hstart, (standsAt_append_cons_iff hneedle hoffset).mp hstands⟩, ?_⟩
    rintro place ⟨hle, hplace⟩
    have hinside := hplace.add_le
    exact hleast ⟨hle, (standsAt_append_cons_iff hneedle (by omega)).mpr hplace⟩
  · rintro ⟨⟨hstart, hstands⟩, hleast⟩
    refine ⟨⟨hstart, (standsAt_append_cons_iff hneedle hoffset).mpr hstands⟩, ?_⟩
    rintro place ⟨hle, hplace⟩
    refine Nat.le_of_not_lt fun hlt => ?_
    have hplace' := (standsAt_append_cons_iff hneedle (by omega)).mp hplace
    have := hleast ⟨hle, hplace'⟩
    omega

/-! ## Slices of two pieces -/

theorem takeBytes_append_of_le {size : Nat} (hsize : size ≤ byteSize a) :
    takeBytes (a ++ b) size = takeBytes a size := by
  induction a generalizing size with
  | nil =>
      obtain rfl : size = 0 := by simpa using hsize
      cases b with
      | nil => rfl
      | cons c b => simp [takeBytes, c.utf8Size_pos.ne']
  | cons c a ih =>
      rw [byteSize_cons] at hsize
      rw [List.cons_append, takeBytes, takeBytes]
      by_cases hfits : c.utf8Size ≤ size
      · rw [if_pos hfits, if_pos hfits, ih (by omega)]
      · rw [if_neg hfits, if_neg hfits]

theorem dropBytes_append_of_le {size : Nat} (hsize : size ≤ byteSize a) :
    dropBytes (a ++ b) size = dropBytes a size ++ b := by
  induction a generalizing size with
  | nil =>
      obtain rfl : size = 0 := by simpa using hsize
      cases b with
      | nil => rfl
      | cons c b => simp [dropBytes, c.utf8Size_pos.ne']
  | cons c a ih =>
      rw [byteSize_cons] at hsize
      rw [List.cons_append, dropBytes, dropBytes]
      by_cases hfits : c.utf8Size ≤ size
      · rw [if_pos hfits, if_pos hfits, ih (by omega)]
      · rw [if_neg hfits, if_neg hfits, List.cons_append]

theorem dropBytes_append_add (a b : Text) (size : Nat) :
    dropBytes (a ++ b) (byteSize a + size) = dropBytes b size := by
  induction a with
  | nil => simp
  | cons c a ih =>
      rw [List.cons_append, dropBytes, byteSize_cons, if_pos (by omega),
        show c.utf8Size + byteSize a + size - c.utf8Size = byteSize a + size by omega, ih]

/-- A slice of the front is one of the whole. -/
theorem slice_append_of_le {stop : Nat} (hstart : start ≤ byteSize a) (hstop : stop ≤ byteSize a) :
    slice (a ++ b) start stop = slice a start stop := by
  have hsize := congrArg byteSize (takeBytes_append_dropBytes a start)
  have hle := byteSize_takeBytes_le a start
  rw [byteSize_append] at hsize
  rw [slice, slice, dropBytes_append_of_le hstart, takeBytes_append_of_le (by omega)]

/-- A slice of the back is one of the whole, further on. -/
theorem slice_append_add (a b : Text) (start stop : Nat) :
    slice (a ++ b) (byteSize a + start) (byteSize a + stop) = slice b start stop := by
  rw [slice, slice, dropBytes_append_add, Nat.add_sub_add_left]

end Text
end Graft
