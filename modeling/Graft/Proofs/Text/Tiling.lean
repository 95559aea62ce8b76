import Graft.Proofs.Text.LineEdges
import Mathlib.Data.List.TakeWhile

/-!
# Lines tile a text

Each line of a text starts where the one before it ends, the first at the start of the text
and the last ending with it, so every offset inside has one line. Within a line the body
comes first, without a break; then the break, which takes a `\r` that stands ahead of its
`\n` (`return_notMem_of_lf`). Since lines also end in the order they stand in, those that
end by an offset come ahead of those that do not, and a search that halves the lines finds
where they part (`searchHalves_lines`).
-/

namespace Graft

/-! ## Searching by halves -/

section Halves

variable {α : Type} {p : α → Bool} {xs : List α} {low high place : Nat}

/-- The place from `low` to `high` where a property stops to hold, searched by halves. -/
def searchHalves (p : α → Bool) (xs : List α) (low high : Nat) : Nat :=
  if low < high then
    if xs[(low + high) / 2]?.any p then searchHalves p xs ((low + high) / 2 + 1) high
    else searchHalves p xs low ((low + high) / 2)
  else low
termination_by high - low

/-- **A search by halves finds where the list parts**, if all ahead of a place have the property and
none from there on. -/
theorem searchHalves_eq (hlow : low ≤ place) (hhigh : place ≤ high) (hlength : high ≤ xs.length)
    (hahead : ∀ i x, xs[i]? = some x → i < place → p x = true)
    (hbehind : ∀ i x, xs[i]? = some x → place ≤ i → p x = false) :
    searchHalves p xs low high = place := by
  have hmiddle {low high : Nat} (hlt : low < high) (hlength : high ≤ xs.length) :
      xs[(low + high) / 2]?.any p = true ↔ (low + high) / 2 < place := by
    have hx := List.getElem?_eq_getElem (l := xs) (show (low + high) / 2 < xs.length by omega)
    rw [hx, Option.any_some]
    refine ⟨fun hp => Nat.not_le.mp fun hle => ?_, hahead _ _ hx⟩
    rw [hbehind _ _ hx hle] at hp
    cases hp
  fun_induction searchHalves p xs low high with
  | case1 low high hlt hp ih =>
      have hplace := (hmiddle hlt hlength).mp hp
      exact ih (by omega) hhigh hlength
  | case2 low high hlt hp ih =>
      have hplace := mt (hmiddle hlt hlength).mpr hp
      exact ih hlow (by omega) (by omega)
  | case3 low high hge => omega

/-- Where the property never comes back, a search by halves and one in order find the same place. -/
theorem searchHalves_eq_length_takeWhile
    (hparts : ∀ (i j : Nat) (x y : α), xs[i]? = some x → xs[j]? = some y → i ≤ j →
      p y = true → p x = true) :
    searchHalves p xs 0 xs.length = (xs.takeWhile p).length := by
  have hplace : (xs.takeWhile p).length = xs.findIdx fun x => !p x := by
    rw [List.takeWhile_eq_take_findIdx_not, List.length_take,
      Nat.min_eq_left List.findIdx_le_length]
  rw [hplace]
  refine searchHalves_eq (Nat.zero_le _) List.findIdx_le_length le_rfl (fun i x hx hi => ?_)
    fun j y hy hj => ?_
  · obtain ⟨-, rfl⟩ := List.getElem?_eq_some_iff.mp hx
    simpa using List.not_of_lt_findIdx hi
  · obtain ⟨hlt, -⟩ := List.getElem?_eq_some_iff.mp hy
    have hfirst : xs.findIdx (fun x => !p x) < xs.length := Nat.lt_of_le_of_lt hj hlt
    have hstops := List.findIdx_getElem (w := hfirst)
    have hback := hparts _ _ _ _ (List.getElem?_eq_getElem hfirst) hy hj
    cases hp : p y with
    | false => rfl
    | true =>
        rw [hback hp] at hstops
        cases hstops

end Halves

namespace Text

variable {t : Text} {i offset : Nat} {line : Line}

/-! ## Breaks -/

/-- A `\r` ahead of a `\n` is in the break. -/
theorem return_of_mem_splitLines {piece : Text × Option LineEnding}
    (h : piece ∈ splitLines t) (hlf : piece.2 = some .lf) : piece.1.getLast? ≠ some '\r' := by
  fun_induction splitLines t generalizing piece with
  | case1 => cases h
  | case2 rest ih =>
      rcases List.mem_cons.mp h with rfl | h
      · simp
      · exact ih h hlf
  | case3 rest ih =>
      rcases List.mem_cons.mp h with rfl | h
      · cases hlf
      · exact ih h hlf
  | case4 c rest _ _ hrest ih =>
      obtain rfl := List.mem_singleton.mp h
      cases hlf
  | case5 c rest hfeed hreturn body terminator others hrest ih =>
      rw [hrest] at ih
      rcases List.mem_cons.mp h with rfl | h
      · cases body with
        | nil =>
            -- the break follows the character at once
            have hsplit := flatMap_splitLines rest
            obtain rfl : terminator = some .lf := hlf
            rw [hrest] at hsplit
            intro hc
            exact hreturn _ (by simpa using hc) hsplit.symm
        | cons d body =>
            rw [List.getLast?_cons_cons]
            exact ih List.mem_cons_self hlf
      · exact ih (List.mem_cons_of_mem _ h) hlf

theorem return_notMem_of_lf (h : (lines t)[i]? = some line) (hlf : line.terminator = some .lf) :
    line.body.getLast? ≠ some '\r' :=
  return_of_mem_splitLines (List.mem_of_getElem? (getElem?_layLines h).1) hlf

/-! ## A line in its text -/

/-- How the line at `index` lies in a text. -/
structure LineAt (t : Text) (index : Nat) (line : Line) : Prop where
  isBoundary_start : IsBoundary t line.start
  isBoundary_stop : IsBoundary t line.stop
  isBoundary_next : IsBoundary t line.next
  start_le_stop : line.start ≤ line.stop
  stop_le_next : line.stop ≤ line.next
  start_lt_next : line.start < line.next
  slice_body : slice t line.start line.stop = line.body
  feed_notMem : '\n' ∉ slice t line.start line.stop
  /-- the break is `\n` behind no `\r`, or `\r\n`, or missing at the end of the text -/
  slice_break :
    slice t line.stop line.next = ['\n'] ∧ (slice t line.start line.stop).getLast? ≠ some '\r' ∨
      slice t line.stop line.next = ['\r', '\n'] ∨
        slice t line.stop line.next = [] ∧ index + 1 = (lines t).length

theorem length_lines (t : Text) : (lines t).length = (splitLines t).length := by
  have hpieces : (lines t).map (fun line => (line.body, line.terminator)) = splitLines t :=
    map_layLines 0 (splitLines t)
  rw [← hpieces, List.length_map]

theorem slice_text (h : (lines t)[i]? = some line) :
    slice t line.start line.next = line.text := by
  obtain ⟨before, after, rfl, hsize, -, -⟩ := exists_line_cut h
  rw [← byteSize_text line, ← hsize, slice_append_append]

theorem slice_ending (h : (lines t)[i]? = some line) :
    slice t line.stop line.next = line.ending := by
  obtain ⟨before, after, rfl, hsize, -, -⟩ := exists_line_cut h
  rw [Line.next, Line.stop, ← hsize, ← byteSize_append, Line.text, List.append_assoc,
    ← List.append_assoc, slice_append_append]

theorem lineAt_of_getElem?_lines (h : (lines t)[i]? = some line) : LineAt t i line := by
  obtain ⟨before, after, ht, hsize, -, -⟩ := exists_line_cut h
  have hbody := slice_line h
  refine
    { isBoundary_start := (isBoundary_line h).1
      isBoundary_stop := (isBoundary_line h).2
      isBoundary_next := ⟨before ++ line.text, after, ?_, ?_⟩
      start_le_stop := Nat.le_add_right _ _
      stop_le_next := Nat.le_add_right _ _
      start_lt_next := start_lt_next (List.mem_of_getElem? h)
      slice_body := hbody
      feed_notMem := hbody ▸ feed_notMem_body h
      slice_break := ?_ }
  · rw [ht, List.append_assoc]
  · rw [byteSize_append, hsize, byteSize_text]
  · rw [hbody, slice_ending h]
    cases hterminator : line.terminator with
    | none =>
        have hpiece := (getElem?_layLines h).1
        rw [hterminator] at hpiece
        refine .inr (.inr ⟨by rw [Line.ending, hterminator]; rfl, ?_⟩)
        rw [length_lines, length_of_getElem?_splitLines hpiece]
    | some ending =>
        cases ending with
        | lf =>
            exact .inl ⟨by rw [Line.ending, hterminator]; rfl, return_notMem_of_lf h hterminator⟩
        | crlf => exact .inr (.inl (by rw [Line.ending, hterminator]; rfl))

/-! ## All lines -/

/-- Lines that lie in a text one behind the other and leave out nothing. -/
structure Tiles (t : Text) (lines : List Line) : Prop where
  start_first : ∀ line, lines.head? = some line → line.start = 0
  start_following : ∀ i line other, lines[i]? = some line → lines[i + 1]? = some other →
    other.start = line.next
  next_last : ∀ line, lines.getLast? = some line → line.next = byteSize t
  flatMap_slice : (lines.flatMap fun line => slice t line.start line.next) = t

theorem tiles_lines (t : Text) : Tiles t (lines t) := by
  refine ⟨fun line h => ?_, fun i line other hline hother => ?_, fun line h => ?_, ?_⟩
  · rw [List.head?_eq_getElem?] at h
    rw [(getElem?_layLines h).2]
    rfl
  · rw [next_eq_of_getElem?_lines hline, (getElem?_layLines hother).2, Nat.zero_add]
  · rw [List.getLast?_eq_getElem?] at h
    obtain ⟨hlt, -⟩ := List.getElem?_eq_some_iff.mp h
    rw [next_eq_of_getElem?_lines h, Nat.sub_add_cancel (Nat.one_le_of_lt hlt), length_lines,
      List.take_length, byteSize_flatMap_splitLines]
  · have hslice : ∀ line ∈ lines t, slice t line.start line.next = line.text := by
      intro line hmem
      obtain ⟨i, h⟩ := List.mem_iff_getElem?.mp hmem
      exact slice_text h
    rw [List.flatMap_congr hslice, flatMap_lines]

/-! ## The line of an offset -/

theorem lineIndexAt?_eq_none_iff : lineIndexAt? t offset = none ↔ t = [] ∨ byteSize t < offset := by
  rw [lineIndexAt?]
  split
  · rename_i houtside
    exact ⟨fun _ => houtside, fun _ => rfl⟩
  · rename_i hinside
    exact ⟨fun h => absurd h (Option.some_ne_none _), fun houtside => absurd houtside hinside⟩

/-- Lines end in the order they stand in. -/
theorem next_le_of_le {i j : Nat} {line other : Line} (hi : (lines t)[i]? = some line)
    (hj : (lines t)[j]? = some other) (hle : i ≤ j) : line.next ≤ other.next := by
  rw [next_eq_of_getElem?_lines hi, next_eq_of_getElem?_lines hj]
  exact byteSize_flatMap_take_le _ (Nat.succ_le_succ hle)

/-- The lines that end by an offset are found by halves. -/
theorem searchHalves_lines (t : Text) (offset : Nat) :
    searchHalves (fun line => decide (line.next ≤ offset)) (lines t) 0 (lines t).length =
      ((lines t).takeWhile fun line => decide (line.next ≤ offset)).length := by
  refine searchHalves_eq_length_takeWhile fun i j line other hline hother hle hends => ?_
  rw [decide_eq_true_eq] at hends ⊢
  exact (next_le_of_le hline hother hle).trans hends

/-- The end of a text belongs to the last line. -/
theorem lineIndexAt?_byteSize (h : t ≠ []) :
    lineIndexAt? t (byteSize t) = some ((lines t).length - 1) := by
  have hall : ((lines t).takeWhile fun line => decide (line.next ≤ byteSize t)) = lines t := by
    rw [List.takeWhile_eq_self_iff]
    exact fun line hline => decide_eq_true (next_le_byteSize hline)
  rw [lineIndexAt?, if_neg (by simp [h]), hall]
  simp

/-- **The lines of a text tile it, and the index of an offset is that of the one line that has it.**
A search by halves for the first line that ends past the offset gives the index too. -/
theorem lines_tile (t : Text) :
    Tiles t (lines t) ∧
    (∀ i line, (lines t)[i]? = some line → LineAt t i line) ∧
    (∀ offset, lineIndexAt? t offset = none ↔ t = [] ∨ byteSize t < offset) ∧
    (∀ offset, offset < byteSize t → ∃ i, lineIndexAt? t offset = some i ∧
      ∀ j, (∃ line, (lines t)[j]? = some line ∧ line.start ≤ offset ∧ offset < line.next) ↔ j = i) ∧
    (t ≠ [] → lineIndexAt? t (byteSize t) = some ((lines t).length - 1) ∧
      ∃ line, (lines t)[(lines t).length - 1]? = some line) ∧
    ∀ offset i, lineIndexAt? t offset = some i →
      i = min (searchHalves (fun line => decide (line.next ≤ offset)) (lines t) 0 (lines t).length)
        ((lines t).length - 1) := by
  refine ⟨tiles_lines t, fun i line => lineAt_of_getElem?_lines, fun offset =>
    lineIndexAt?_eq_none_iff, fun offset hoffset => ?_, fun h => ⟨lineIndexAt?_byteSize h, ?_⟩,
    fun offset i h => ?_⟩
  · have hne : t ≠ [] := by
      rintro rfl
      exact Nat.not_lt_zero _ hoffset
    obtain ⟨i, line, hi, -⟩ := exists_lineIndexAt? hne offset hoffset.le
    refine ⟨i, hi, fun j => ?_⟩
    rw [← lineIndexAt?_eq_some_iff hoffset, hi, Option.some.injEq, eq_comm]
  · have hpos := List.length_pos_iff.mpr (lines_ne_nil h)
    exact ⟨_, List.getElem?_eq_getElem (Nat.sub_lt hpos Nat.one_pos)⟩
  · rw [searchHalves_lines]
    rw [lineIndexAt?] at h
    split at h
    · cases h
    · exact (Option.some.inj h).symm

/-- The three breaks that a line can have, and a `\r` that is none. -/
def mixedBreaks : Text := "a\r\nb\rc\né"

theorem mixedBreaks_tiled :
    LineAt mixedBreaks 1 { start := 3, body := "b\rc", terminator := some .lf } ∧
      lineIndexAt? mixedBreaks 6 = some 1 ∧ lineIndexAt? mixedBreaks 9 = some 2 := by
  obtain ⟨-, hlines, -, hinside, hend, -⟩ := lines_tile mixedBreaks
  have hline : (lines mixedBreaks)[1]? =
      some { start := 3, body := "b\rc", terminator := some .lf } := by decide
  obtain ⟨i, hi, hunique⟩ := hinside 6 (by decide)
  have hone : 1 = i := (hunique 1).mp ⟨_, hline, by decide, by decide⟩
  have hlast := (hend (by decide)).1
  have hsize : byteSize mixedBreaks = 9 ∧ (lines mixedBreaks).length - 1 = 2 := by decide
  exact ⟨hlines 1 _ hline, hone ▸ hi, hsize.1 ▸ hsize.2 ▸ hlast⟩

end Text
end Graft
