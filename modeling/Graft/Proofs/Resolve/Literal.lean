import Graft.Proofs.Resolve.Cut
import Graft.Proofs.Text.LineEdges

/-!
# Where literal anchors resolve to

A literal anchor goes by a stretch of its text: the marker that it finds, or the first
terminator from there on. Breaks at the edges of the stretch do not count, unless there is
nothing else in it; the line of the last byte that counts is the one to insert after, and
the line of the first one the one to insert before. The searches, the stretch and the two
edges of the line are said here by least and greatest places of the text, without the line
index; `resolve?_literal` ties all three literal anchors to them.
-/

namespace Graft

open Text

variable {t marker : Text} {terminator : Option Text} {found start stop offset : Nat}
  {point : Point}

/-! ## What a stretch shows -/

namespace Text

/-- The first byte of a stretch that is of no break; the first of all where every byte is of one. -/
def IsFirstShown (t : Text) (start stop offset : Nat) : Prop :=
  IsLeast {place | start ≤ place ∧ place < stop ∧ IsShown t place} offset ∨
    (∀ place, start ≤ place → place < stop → ¬IsShown t place) ∧ offset = start

/-- The last byte of a stretch that is of no break; the first of all where every byte is of one. -/
def IsLastShown (t : Text) (start stop offset : Nat) : Prop :=
  IsGreatest {place | start ≤ place ∧ place < stop ∧ IsShown t place} offset ∨
    (∀ place, start ≤ place → place < stop → ¬IsShown t place) ∧ offset = start

/-- What is one byte where there is such a byte is one byte with a default too. -/
theorem eq_of_or_default {p : Nat → Prop} {isNone : Prop} {default other : Nat}
    (hunique : p offset → p other → offset = other) (hnone : ∀ {place}, p place → ¬isNone)
    (h : p offset ∨ isNone ∧ offset = default) (h' : p other ∨ isNone ∧ other = default) :
    offset = other := by
  rcases h with h | ⟨hempty, rfl⟩ <;> rcases h' with h' | ⟨hempty', rfl⟩
  · exact hunique h h'
  · exact absurd hempty' (hnone h)
  · exact absurd hempty (hnone h')
  · rfl

theorem IsFirstShown.unique {other : Nat} (h : IsFirstShown t start stop offset)
    (hother : IsFirstShown t start stop other) : offset = other :=
  eq_of_or_default IsLeast.unique (fun hleast hnone => hnone _ hleast.1.1 hleast.1.2.1 hleast.1.2.2)
    h hother

theorem IsLastShown.unique {other : Nat} (h : IsLastShown t start stop offset)
    (hother : IsLastShown t start stop other) : offset = other :=
  eq_of_or_default IsGreatest.unique
    (fun hgreatest hnone => hnone _ hgreatest.1.1 hgreatest.1.2.1 hgreatest.1.2.2) h hother

theorem breakAt_eq_true_iff : breakAt t offset = true ↔ ¬IsShown t offset := by
  rw [← breakAt_eq_false_iff, Bool.not_eq_false]

/-- The breaks at the start of a stretch, up to the first byte that is of none. -/
theorem leadingBreaks_spec (t : Text) (start size : Nat) :
    (∀ place, start ≤ place → place < start + leadingBreaks t start size → ¬IsShown t place) ∧
      (leadingBreaks t start size < size → IsShown t (start + leadingBreaks t start size)) := by
  fun_induction leadingBreaks t start size with
  | case1 start => exact ⟨fun place _ _ => by omega, fun h => (Nat.not_lt_zero 0 h).elim⟩
  | case2 start size hbreak ih =>
      obtain ⟨hskipped, hshown⟩ := ih
      constructor
      · intro place hle hlt
        rcases Nat.eq_or_lt_of_le hle with rfl | hle
        · exact breakAt_eq_true_iff.mp hbreak
        · exact hskipped place hle (by omega)
      · intro h
        rw [← Nat.add_assoc, Nat.add_right_comm]
        exact hshown (by omega)
  | case3 start size hshown =>
      exact ⟨fun place _ _ => by omega, fun _ => breakAt_eq_false_iff.mp (by simpa using hshown)⟩

/-- The breaks at the end of a stretch, back to the last byte that is of none. -/
theorem withoutFinalBreaks_spec (t : Text) (start size : Nat) :
    (∀ place, start + withoutFinalBreaks t start size ≤ place → place < start + size →
        ¬IsShown t place) ∧
      (0 < withoutFinalBreaks t start size →
        IsShown t (start + withoutFinalBreaks t start size - 1)) := by
  fun_induction withoutFinalBreaks t start size with
  | case1 => exact ⟨fun place _ _ => by omega, fun h => (Nat.not_lt_zero 0 h).elim⟩
  | case2 size hbreak ih =>
      obtain ⟨hskipped, hshown⟩ := ih
      refine ⟨fun place hle hlt => ?_, hshown⟩
      rcases Nat.lt_or_ge place (start + size) with hlt | hge
      · exact hskipped place hle hlt
      · obtain rfl : place = start + size := by omega
        exact breakAt_eq_true_iff.mp hbreak
  | case3 size hshown =>
      exact ⟨fun place _ _ => by omega, fun _ => breakAt_eq_false_iff.mp (by simpa using hshown)⟩

/-- **The lines of a stretch are those of the first and the last byte that it shows.** -/
theorem exists_matchedLines?_shown (hlt : start < stop) (hstop : stop ≤ byteSize t) :
    ∃ first last i j, IsFirstShown t start stop first ∧ IsLastShown t start stop last ∧
      first < byteSize t ∧ last < byteSize t ∧ lineIndexAt? t first = some i ∧
      lineIndexAt? t last = some j ∧ matchedLines? t start stop = some (i, j) := by
  have ht : t ≠ [] := by
    rintro rfl
    simp at hstop
    omega
  simp only [matchedLines?]
  obtain ⟨hleading, hfirst⟩ := leadingBreaks_spec t start (stop - start)
  have hle := leadingBreaks_le t start (stop - start)
  generalize leadingBreaks t start (stop - start) = skipped at hleading hfirst hle
  obtain ⟨hfinal, hlast⟩ := withoutFinalBreaks_spec t (start + skipped) (stop - (start + skipped))
  have hsize := withoutFinalBreaks_le t (start + skipped) (stop - (start + skipped))
  generalize withoutFinalBreaks t (start + skipped) (stop - (start + skipped)) = size
    at hfinal hlast hsize
  split
  · rename_i hzero
    have hnone : ∀ place, start ≤ place → place < stop → ¬IsShown t place := by
      intro place hle hlt
      rcases Nat.lt_or_ge place (start + skipped) with h | h
      · exact hleading place hle h
      · exact hfinal place (by omega) (by omega)
    obtain ⟨i, line, hi, -⟩ := exists_lineIndexAt? ht start (by omega)
    exact ⟨start, start, i, i, .inr ⟨hnone, rfl⟩, .inr ⟨hnone, rfl⟩, by omega, by omega, hi, hi,
      by rw [hi, Option.map_some]⟩
  · rename_i hpos
    have hshown := hfirst (by omega)
    have hshown' := hlast (by omega)
    obtain ⟨i, line, hi, -⟩ := exists_lineIndexAt? ht (start + skipped) (by omega)
    obtain ⟨j, line, hj, -⟩ := exists_lineIndexAt? ht (start + skipped + size - 1) (by omega)
    refine ⟨start + skipped, start + skipped + size - 1, i, j, .inl ⟨⟨?_, ?_, hshown⟩, ?_⟩,
      .inl ⟨⟨?_, ?_, hshown'⟩, ?_⟩, by omega, by omega, hi, hj, by rw [hi, hj]; rfl⟩
    · omega
    · omega
    · rintro place ⟨hle, -, hplace⟩
      exact Nat.le_of_not_lt fun h => hleading place hle h hplace
    · omega
    · omega
    · rintro place ⟨-, hlt, hplace⟩
      exact Nat.le_of_not_lt fun h => hfinal place (by omega) (by omega) hplace

end Text

/-! ## The points at a line -/

/-- The point ahead of the line of the byte at `offset`. -/
def IsPointBefore (t : Text) (offset : Nat) (point : Point) : Prop :=
  IsLineStart t offset point.offset ∧ point.indent = leading (t.dropBytes point.offset) ∧
    point.placement = .lineStart

/-- The point behind the line of the byte at `offset`: past the next `\n`, or at the end of the text
where there is none. -/
def IsPointAfter (t : Text) (offset : Nat) (point : Point) : Prop :=
  (∃ start, IsLineStart t offset start ∧ point.indent = leading (t.dropBytes start)) ∧
    ((∃ feed, IsFirstFrom t ['\n'] offset feed ∧ point.offset = feed + 1 ∧
        point.placement = .lineStart) ∨
      (∀ feed, offset ≤ feed → ¬StandsAt t ['\n'] feed) ∧ point.offset = byteSize t ∧
        point.placement = .endOfText)

theorem IsPointBefore.unique {other : Point} (h : IsPointBefore t offset point)
    (hother : IsPointBefore t offset other) : point = other := by
  obtain ⟨place, indent, placement⟩ := point
  obtain ⟨place', indent', placement'⟩ := other
  obtain ⟨hplace, hindent, hplacement⟩ := h
  obtain ⟨hplace', hindent', hplacement'⟩ := hother
  obtain rfl : place = place' := hplace.unique hplace'
  simp_all

theorem IsPointAfter.unique {other : Point} (h : IsPointAfter t offset point)
    (hother : IsPointAfter t offset other) : point = other := by
  obtain ⟨place, indent, placement⟩ := point
  obtain ⟨place', indent', placement'⟩ := other
  obtain ⟨⟨start, hstart, hindent⟩, hbehind⟩ := h
  obtain ⟨⟨start', hstart', hindent'⟩, hbehind'⟩ := hother
  obtain rfl := hstart.unique hstart'
  rcases hbehind with ⟨feed, hfeed, hplace, hplacement⟩ | ⟨hnone, hplace, hplacement⟩ <;>
    rcases hbehind' with ⟨feed', hfeed', hplace', hplacement'⟩ | ⟨hnone', hplace', hplacement'⟩
  · obtain rfl := hfeed.unique hfeed'
    simp_all
  · exact absurd hfeed.1.2 (hnone' _ hfeed.1.1)
  · exact absurd hfeed'.1.2 (hnone _ hfeed'.1.1)
  · simp_all

theorem isPointAfter_of_line {i : Nat} {line : Line} (h : (lines t)[i]? = some line)
    (hstart : line.start ≤ offset) (hnext : offset < line.next) :
    IsPointAfter t offset (pointAfter t line) := by
  simp only [pointAfter]
  split
  · rename_i ending hending
    obtain ⟨feed, hfeed, heq⟩ := exists_feed_of_terminator h hstart hnext hending
    exact ⟨⟨line.start, isLineStart_of_line h hstart hnext, indent_eq_leading h⟩,
      .inl ⟨feed, hfeed, heq, rfl⟩⟩
  · rename_i hnone
    exact ⟨⟨line.start, isLineStart_of_line h hstart hnext, indent_eq_leading h⟩,
      .inr ⟨fun feed hle => not_standsAt_feed h hstart hnone hle, rfl, rfl⟩⟩

/-! ## The stretch of a match -/

/-- The bytes that an anchor goes by: the marker at `found`, or the first terminator from there
on. -/
def IsStretch (t marker : Text) (found : Nat) : Option Text → Nat → Nat → Prop
  | none, start, stop => start = found ∧ stop = found + byteSize marker
  | some terminator, start, stop =>
    terminator ≠ [] ∧ IsFirstFrom t terminator found start ∧ stop = start + byteSize terminator

/-- A stretch has a byte, and lies in the text. -/
theorem IsStretch.bounds (h : IsStretch t marker found terminator start stop) (hne : marker ≠ [])
    (hfound : StandsAt t marker found) : start < stop ∧ stop ≤ byteSize t := by
  cases terminator with
  | none =>
      obtain ⟨rfl, rfl⟩ := h
      have hpos := byteSize_pos hne
      exact ⟨by omega, hfound.add_le⟩
  | some terminator =>
      obtain ⟨hterminator, hfirst, rfl⟩ := h
      have hpos := byteSize_pos hterminator
      exact ⟨by omega, hfirst.standsAt.add_le⟩

/-- Behind a match there is a point just when there is a stretch to go by. -/
theorem exists_isStretch_of_pointAfterMatch? (hfound : StandsAt t marker found)
    (h : pointAfterMatch? t found marker terminator = some point) :
    ∃ start stop, IsStretch t marker found terminator start stop := by
  cases terminator with
  | none => exact ⟨_, _, rfl, rfl⟩
  | some terminator =>
      simp only [pointAfterMatch?, Option.bind_eq_bind, Option.bind_eq_some_iff,
        Option.map_eq_some_iff] at h
      obtain ⟨span, ⟨start, hstart, rfl⟩, -⟩ := h
      obtain ⟨hne, hfirst⟩ := (locate?_eq_some_iff hfound.isBoundary).mp hstart
      exact ⟨start, _, hne, hfirst, rfl⟩

theorem exists_pointAfterMatch? (hne : marker ≠ []) (hfound : StandsAt t marker found)
    (h : IsStretch t marker found terminator start stop) :
    ∃ point shown, pointAfterMatch? t found marker terminator = some point ∧
      IsLastShown t start stop shown ∧ IsPointAfter t shown point := by
  obtain ⟨hlt, hstop⟩ := h.bounds hne hfound
  obtain ⟨first, last, i, j, -, hshown, -, hinside, -, hj, hlines⟩ :=
    exists_matchedLines?_shown hlt hstop
  obtain ⟨line, hline, hstart, hnext⟩ := exists_line_of_lineIndexAt? hj hinside
  refine ⟨pointAfter t line, last, ?_, hshown, isPointAfter_of_line hline hstart hnext⟩
  cases terminator with
  | none =>
      obtain ⟨rfl, rfl⟩ := h
      simp [pointAfterMatch?, hlines, hline]
  | some terminator =>
      obtain ⟨hterminator, hfirst, rfl⟩ := h
      have hlocate := (locate?_eq_some_iff hfound.isBoundary).mpr ⟨hterminator, hfirst⟩
      simp [pointAfterMatch?, hlocate, hlines, hline]

theorem isSome_pointAfterMatch?_iff (hne : marker ≠ []) (hfound : StandsAt t marker found) :
    (pointAfterMatch? t found marker terminator).isSome = true ↔
      ∃ start stop, IsStretch t marker found terminator start stop := by
  rw [Option.isSome_iff_exists]
  constructor
  · rintro ⟨point, hpoint⟩
    exact exists_isStretch_of_pointAfterMatch? hfound hpoint
  · rintro ⟨start, stop, hstretch⟩
    obtain ⟨point, -, hpoint, -⟩ := exists_pointAfterMatch? hne hfound hstretch
    exact ⟨point, hpoint⟩

/-- The point behind a match is the one behind the last line that the stretch shows. -/
theorem pointAfterMatch?_eq_some_iff (hne : marker ≠ []) (hfound : StandsAt t marker found) :
    pointAfterMatch? t found marker terminator = some point ↔
      ∃ start stop shown, IsStretch t marker found terminator start stop ∧
        IsLastShown t start stop shown ∧ IsPointAfter t shown point := by
  constructor
  · intro h
    obtain ⟨start, stop, hstretch⟩ := exists_isStretch_of_pointAfterMatch? hfound h
    obtain ⟨point', shown, hpoint, hshown, hafter⟩ := exists_pointAfterMatch? hne hfound hstretch
    rw [hpoint, Option.some.injEq] at h
    subst h
    exact ⟨start, stop, shown, hstretch, hshown, hafter⟩
  · rintro ⟨start, stop, shown, hstretch, hshown, hafter⟩
    obtain ⟨point', shown', hpoint, hshown', hafter'⟩ := exists_pointAfterMatch? hne hfound hstretch
    obtain rfl := hshown.unique hshown'
    rw [hpoint, hafter.unique hafter']

theorem exists_pointBeforeMatch? (hne : marker ≠ []) (hfound : StandsAt t marker found) :
    ∃ point shown, pointBeforeMatch? t found marker = some point ∧
      IsFirstShown t found (found + byteSize marker) shown ∧ IsPointBefore t shown point := by
  have hpos := byteSize_pos hne
  obtain ⟨first, last, i, j, hshown, -, hinside, -, hi, -, hlines⟩ :=
    exists_matchedLines?_shown (show found < found + byteSize marker by omega) hfound.add_le
  obtain ⟨line, hline, hstart, hnext⟩ := exists_line_of_lineIndexAt? hi hinside
  have hpoint : pointBeforeMatch? t found marker =
      some { offset := line.start, indent := line.indent, placement := .lineStart } := by
    simp [pointBeforeMatch?, hlines, hline]
  exact ⟨_, first, hpoint, hshown, isLineStart_of_line hline hstart hnext,
    indent_eq_leading hline, rfl⟩

/-- The point ahead of a match is the one ahead of the first line that the match shows. -/
theorem pointBeforeMatch?_eq_some_iff (hne : marker ≠ []) (hfound : StandsAt t marker found) :
    pointBeforeMatch? t found marker = some point ↔
      ∃ shown, IsFirstShown t found (found + byteSize marker) shown ∧
        IsPointBefore t shown point := by
  obtain ⟨point', shown, hpoint, hshown, hbefore⟩ := exists_pointBeforeMatch? hne hfound
  rw [hpoint, Option.some.injEq]
  constructor
  · rintro rfl
    exact ⟨shown, hshown, hbefore⟩
  · rintro ⟨shown', hshown', hbefore'⟩
    obtain rfl := hshown.unique hshown'
    exact hbefore.unique hbefore'

/-! ## The three anchors -/

variable {bound : Option Text}

theorem isSome_resolve?_literalAfter_iff :
    (resolve? t (.literalAfter marker bound terminator)).isSome = true ↔
      ∃ found start stop, IsFoundAfter t marker bound found ∧
        IsStretch t marker found terminator start stop := by
  simp only [resolve?, Option.bind_eq_bind, Option.isSome_bind, Option.any_eq_true,
    locateAfter?_eq_some_iff]
  refine exists_congr fun found => ?_
  simp only [exists_and_left]
  exact and_congr_right fun h => isSome_pointAfterMatch?_iff h.ne_nil h.standsAt

theorem isSome_resolve?_lastLiteralAfter_iff :
    (resolve? t (.lastLiteralAfter marker terminator)).isSome = true ↔
      ∃ found start stop, (marker ≠ [] ∧ IsLast t marker found) ∧
        IsStretch t marker found terminator start stop := by
  simp only [resolve?, Option.bind_eq_bind, Option.isSome_bind, Option.any_eq_true,
    locateLast?_eq_some_iff]
  refine exists_congr fun found => ?_
  simp only [exists_and_left]
  exact and_congr_right fun h => isSome_pointAfterMatch?_iff h.1 h.2.1

theorem isSome_resolve?_literalBefore_iff :
    (resolve? t (.literalBefore marker bound)).isSome = true ↔
      ∃ found, IsFoundAfter t marker bound found := by
  simp only [resolve?, Option.bind_eq_bind, Option.isSome_bind, Option.any_eq_true,
    locateAfter?_eq_some_iff]
  refine exists_congr fun found => and_iff_left_of_imp fun h => ?_
  obtain ⟨point, -, hpoint, -⟩ := exists_pointBeforeMatch? h.ne_nil h.standsAt
  rw [hpoint, Option.isSome_some]

/-- **A literal anchor resolves exactly where its texts stand.**  The anchors that insert after a
line need a marker, the first one behind the bound or the last one of all, and a terminator from
there on if they name one; they go by the last byte that this stretch shows, and resolve to the end
of the line of it. The anchor that inserts before a line needs the marker alone, and goes by the
first byte that it shows. -/
theorem resolve?_literal (t marker : Text) (bound terminator : Option Text) :
    (((resolve? t (.literalAfter marker bound terminator)).isSome = true ↔
          ∃ found start stop, IsFoundAfter t marker bound found ∧
            IsStretch t marker found terminator start stop) ∧
        ∀ point, resolve? t (.literalAfter marker bound terminator) = some point ↔
          ∃ found start stop shown, IsFoundAfter t marker bound found ∧
            IsStretch t marker found terminator start stop ∧ IsLastShown t start stop shown ∧
            IsPointAfter t shown point) ∧
      (((resolve? t (.lastLiteralAfter marker terminator)).isSome = true ↔
          ∃ found start stop, (marker ≠ [] ∧ IsLast t marker found) ∧
            IsStretch t marker found terminator start stop) ∧
        ∀ point, resolve? t (.lastLiteralAfter marker terminator) = some point ↔
          ∃ found start stop shown, (marker ≠ [] ∧ IsLast t marker found) ∧
            IsStretch t marker found terminator start stop ∧ IsLastShown t start stop shown ∧
            IsPointAfter t shown point) ∧
      (((resolve? t (.literalBefore marker bound)).isSome = true ↔
          ∃ found, IsFoundAfter t marker bound found) ∧
        ∀ point, resolve? t (.literalBefore marker bound) = some point ↔
          ∃ found shown, IsFoundAfter t marker bound found ∧
            IsFirstShown t found (found + byteSize marker) shown ∧
            IsPointBefore t shown point) := by
  refine ⟨⟨isSome_resolve?_literalAfter_iff, fun point => ?_⟩,
    ⟨isSome_resolve?_lastLiteralAfter_iff, fun point => ?_⟩,
    isSome_resolve?_literalBefore_iff, fun point => ?_⟩
  · simp only [resolve?, Option.bind_eq_bind, Option.bind_eq_some_iff, locateAfter?_eq_some_iff]
    refine exists_congr fun found => ?_
    simp only [exists_and_left]
    exact and_congr_right fun h => by
      simpa using pointAfterMatch?_eq_some_iff h.ne_nil h.standsAt
  · simp only [resolve?, Option.bind_eq_bind, Option.bind_eq_some_iff, locateLast?_eq_some_iff]
    refine exists_congr fun found => ?_
    simp only [exists_and_left]
    exact and_congr_right fun h => by
      simpa using pointAfterMatch?_eq_some_iff h.1 h.2.1
  · simp only [resolve?, Option.bind_eq_bind, Option.bind_eq_some_iff, locateAfter?_eq_some_iff]
    refine exists_congr fun found => ?_
    simp only [exists_and_left]
    exact and_congr_right fun h => pointBeforeMatch?_eq_some_iff h.ne_nil h.standsAt

/-- The break that the marker starts with does not count, and its own line is not the last one of
the stretch. -/
example : resolve? "use A;\r\nuse\tB,\r\n  C;\r\nend" (.lastLiteralAfter "\nuse" (some ";")) =
    some { offset := 22, indent := "  ", placement := .lineStart } := by cbv

end Graft
