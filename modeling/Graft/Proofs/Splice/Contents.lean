import Graft.Proofs.Resolve.Cut

/-!
# What a spliced text holds

One equation for each place where a point can cut its text says what splicing
makes of the text there. From them: the result holds every line of the fragment
(`infix_splice_of_mem`), the whole fragment where it is laid out as it is
written (`fragmentText_infix_splice`), and every key of the old text that the
anchor spares (`Anchor.Spares.infix_splice`).
-/

namespace Graft

open Text

/-! ## The four cuts -/

variable (fragment : List Text) (indent resume : Text)

theorem splice_lineStart (before after : Text) :
    splice (before ++ after) { offset := byteSize before, indent, placement := .lineStart }
        fragment =
      before ++ renderFragment fragment indent (LineEnding.detect (before ++ after)) ++
        (LineEnding.detect (before ++ after)).text ++ after := by
  simp [splice]

/-- What is appended follows the whole text. -/
theorem exists_splice_endOfText (t : Text) (offset : Nat) :
    ∃ tail, splice t { offset, indent, placement := .endOfText } fragment = t ++ tail := by
  simp only [splice]
  split
  · exact ⟨_, List.append_assoc _ _ _⟩
  · exact ⟨_, by simp only [List.append_assoc]; rfl⟩

theorem isIndent_opener (d : Delimiter) : isIndent d.opener = false := by
  cases d <;> rfl

theorem isIndent_closer (d : Delimiter) : isIndent d.closer = false := by
  cases d <;> rfl

/-- A line that is broken loses the spaces and tabs at the break. -/
theorem splice_midLine (before after : Text) :
    splice (before ++ after)
        { offset := byteSize before, indent, placement := .midLine resume } fragment =
      before.trimEnd isIndent ++ (LineEnding.detect (before ++ after)).text ++
        renderFragment fragment indent (LineEnding.detect (before ++ after)) ++
        (LineEnding.detect (before ++ after)).text ++ resume ++ after.trimStart isIndent := by
  simp only [splice, takeBytes_append_byteSize, dropBytes_append_byteSize]

theorem splice_afterOpener (d : Delimiter) (before after : Text) :
    splice (before ++ d.opener :: after)
        { offset := byteSize before + 1, indent, placement := .midLine resume } fragment =
      before ++ [d.opener] ++ (LineEnding.detect (before ++ d.opener :: after)).text ++
        renderFragment fragment indent (LineEnding.detect (before ++ d.opener :: after)) ++
        (LineEnding.detect (before ++ d.opener :: after)).text ++ resume ++
        after.trimStart isIndent := by
  have hsize : byteSize before + 1 = byteSize (before ++ [d.opener]) := by
    simp [utf8Size_opener]
  have hcut : before ++ d.opener :: after = (before ++ [d.opener]) ++ after := by simp
  rw [hsize, hcut, splice_midLine, trimEnd_append_of_neg before (isIndent_opener d)]

theorem splice_beforeCloser (d : Delimiter) (before after : Text) :
    splice (before ++ d.closer :: after)
        { offset := byteSize before, indent, placement := .midLine resume } fragment =
      before.trimEnd isIndent ++ (LineEnding.detect (before ++ d.closer :: after)).text ++
        renderFragment fragment indent (LineEnding.detect (before ++ d.closer :: after)) ++
        (LineEnding.detect (before ++ d.closer :: after)).text ++ resume ++
        d.closer :: after := by
  rw [splice_midLine, trimStart_cons_of_neg after (isIndent_closer d)]

/-! ## The fragment -/

variable {fragment indent}

theorem renderFragment_singleton {line : Text} (hne : line ≠ []) (indent : Text)
    (ending : LineEnding) : renderFragment [line] indent ending = indent ++ line := by
  simp [renderFragment, joined, hne]

/-- A rendered fragment holds each of its lines, indented. -/
theorem infix_renderFragment {line : Text} (h : line ∈ fragment) (hne : line ≠ [])
    (ending : LineEnding) : indent ++ line <:+: renderFragment fragment indent ending := by
  refine infix_joined (List.mem_map.mpr ⟨line, h, ?_⟩)
  rw [if_neg hne]

/-- Whatever the placement, the fragment is rendered into the result, without some of the empty
lines that lead it at most. -/
theorem exists_splice_eq (t : Text) (point : Point) (fragment : List Text) :
    ∃ n front back, n ≤ (fragment.takeWhile List.isEmpty).length ∧
      splice t point fragment = front ++
        renderFragment (fragment.drop n) point.indent (LineEnding.detect t) ++ back := by
  simp only [splice]
  split
  · exact ⟨0, _, _, Nat.zero_le _, by rw [List.drop_zero, List.append_assoc (_ ++ _)]⟩
  · exact ⟨_, _, _, Nat.min_le_left _ _, rfl⟩
  · rename_i resume _
    refine ⟨0, (t.takeBytes point.offset).trimEnd isIndent ++ (LineEnding.detect t).text,
      (LineEnding.detect t).text ++ (resume ++ (t.dropBytes point.offset).trimStart isIndent),
      Nat.zero_le _, ?_⟩
    simp only [List.drop_zero, List.append_assoc]

theorem eq_nil_of_mem_take {n : Nat} (hn : n ≤ (fragment.takeWhile List.isEmpty).length) :
    ∀ line ∈ fragment.take n, line = [] := by
  intro line hline
  have hleading : fragment.take n <+: fragment.takeWhile List.isEmpty :=
    List.prefix_of_prefix_length_le (List.take_prefix _ _) (List.takeWhile_prefix _)
      (Nat.le_trans (List.length_take_le _ _) hn)
  have hempty := List.all_eq_true.mp List.all_takeWhile line (hleading.subset hline)
  exact List.isEmpty_iff.mp hempty

/-- No other line is dropped with the empty lines that lead a fragment. -/
theorem mem_drop_of_ne_nil {line : Text} (h : line ∈ fragment) (hne : line ≠ []) {n : Nat}
    (hn : n ≤ (fragment.takeWhile List.isEmpty).length) : line ∈ fragment.drop n := by
  rw [← List.take_append_drop n fragment] at h
  exact (List.mem_append.mp h).resolve_left fun hfront => hne (eq_nil_of_mem_take hn line hfront)

/-- A spliced text holds what any line of the fragment holds. -/
theorem infix_splice_of_mem {line key : Text} (t : Text) (point : Point) (h : line ∈ fragment)
    (hkey : key <:+: line) (hne : key ≠ []) : key <:+: splice t point fragment := by
  have hline : line ≠ [] := by
    rintro rfl
    exact hne (List.infix_nil.mp hkey)
  obtain ⟨n, front, back, hn, heq⟩ := exists_splice_eq t point fragment
  have hindented : key <:+: point.indent ++ line := hkey.trans (List.suffix_append _ _).isInfix
  have hrendered : point.indent ++ line <:+:
      renderFragment (fragment.drop n) point.indent (LineEnding.detect t) :=
    infix_renderFragment (mem_drop_of_ne_nil h hline hn) hline (LineEnding.detect t)
  rw [heq]
  exact (hindented.trans hrendered).trans (List.infix_append _ _ _)

/-- Where the text ends its lines with line feeds and the point does not indent, a fragment that
no empty line leads stands in the result as it is written. -/
theorem fragmentText_infix_splice {t : Text} {point : Point} {spec : Spec}
    (hending : LineEnding.detect t = .lf) (hindent : point.indent = [])
    (hlead : spec.fragment.head? ≠ some []) :
    spec.fragmentText <:+: splice t point spec.fragment := by
  obtain ⟨n, front, back, hn, heq⟩ := exists_splice_eq t point spec.fragment
  have hnone : spec.fragment.takeWhile List.isEmpty = [] := by
    cases hfragment : spec.fragment with
    | nil => rfl
    | cons line others =>
        rw [hfragment, List.head?_cons, ne_eq, Option.some.injEq] at hlead
        exact List.takeWhile_cons_of_neg (by simpa using hlead)
  obtain rfl : n = 0 := by simpa [hnone] using hn
  rw [heq, hending, hindent, List.drop_zero, renderFragment_nil]
  exact List.infix_append _ _ _

/-! ## The text around it -/

/-- What no weaving at `anchor` can take from a text: a key on one line, with no blank at either
end that trimming could reach, and without the delimiters at which a line may be broken. -/
structure Anchor.Spares (anchor : Anchor) (key : Text) : Prop where
  ne_nil : key ≠ []
  oneLine : '\n' ∉ key
  head : ∀ c, key.head? = some c → isIndent c = false
  last : ∀ c, key.getLast? = some c → isIndent c = false
  delimiter : ∀ d, anchor.delimiter? = some d → d.opener ∉ key ∧ d.closer ∉ key

/-- **Splicing at a resolved point keeps every key that the anchor spares.** -/
theorem Anchor.Spares.infix_splice {t key : Text} {anchor : Anchor} {point : Point}
    (hspares : anchor.Spares key) (hcut : Cut t anchor point) (h : key <:+: t)
    (fragment : List Text) : key <:+: splice t point fragment := by
  cases hcut with
  | @lineStart before after indent hsplit hstart hindent =>
      -- the cut is at the start, or behind a line feed, which the key lacks
      subst hsplit
      rw [splice_lineStart]
      have hsides : key <:+: before ∨ key <:+: after := by
        rcases hstart with rfl | hlast
        · exact .inr h
        · exact infix_of_infix_append_of_getLast? h hlast hspares.oneLine
      rcases hsides with h | h
      · simp only [List.append_assoc]
        exact List.infix_append_of_infix_left h
      · exact List.infix_append_of_infix_right h
  | endOfText =>
      obtain ⟨tail, htail⟩ := exists_splice_endOfText fragment _ t (byteSize t)
      rw [htail]
      exact List.infix_append_of_infix_left h
  | @afterOpener d before after indent resume hd hsplit =>
      -- the key lacks the delimiter before the cut, and the blanks behind the cut cannot lead it
      subst hsplit
      rw [splice_afterOpener]
      have hsides : key <:+: before ++ [d.opener] ∨ key <:+: after :=
        infix_of_infix_append_of_getLast? (c := d.opener) (by simpa using h) (by simp)
          (hspares.delimiter d hd).1
      rcases hsides with h | h
      · simp only [List.append_assoc (before ++ [d.opener])]
        exact List.infix_append_of_infix_left h
      · exact List.infix_append_of_infix_right
          (infix_trimStart h hspares.head hspares.ne_nil)
  | @beforeCloser d before after indent resume hd hsplit =>
      -- the key lacks the delimiter behind the cut, and the blanks before the cut cannot end it
      subst hsplit
      rw [splice_beforeCloser]
      rcases infix_of_infix_append_cons h (hspares.delimiter d hd).2 with h | h
      · simp only [List.append_assoc]
        exact List.infix_append_of_infix_left (infix_trimEnd h hspares.last hspares.ne_nil)
      · exact List.infix_append_of_infix_right h

end Graft
