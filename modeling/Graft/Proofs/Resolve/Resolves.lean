import Mathlib.Data.List.Infix
import Graft.Proofs.Block.Nesting
import Graft.Proofs.Resolve.Cut
import Graft.Proofs.Text.Occurrence

/-!
# When anchors resolve

Where an anchor goes hangs on lines and indentation, but whether it resolves at all
hangs on what occurs in the text alone: a marker, a terminator behind it, a block behind
a header. One equivalence for each kind of anchor says so, in terms of the suffixes of
the text that start with the marker (`isSome_resolve?_lastLiteralAfter` and its
neighbours). A block in turn hangs on the delimiters of the text alone
(`Delimiter.hasBlock_filter_iff`).
-/

namespace Graft

open Text

/-! ## Literal anchors -/

section Literal

variable {t before rest marker terminator : Text}

/-- There is a point behind each match. -/
theorem isSome_pointAfterMatch?_none (hne : marker ≠ []) (hstarts : marker <+: rest) :
    (pointAfterMatch? (before ++ rest) (byteSize before) marker none).isSome = true := by
  obtain ⟨back, rfl⟩ := hstarts
  have ht : before ++ (marker ++ back) ≠ [] := by simp [hne]
  obtain ⟨i, j, -, line, hmatch, -, hline⟩ := exists_matchedLines? ht
    (Nat.le_add_right (byteSize before) (byteSize marker)) (by simp only [byteSize_append]; omega)
  simp [pointAfterMatch?, hmatch, hline]

/-- There is a point behind the first terminator from a match on, when there is a terminator. -/
theorem isSome_pointAfterMatch?_some (hne : terminator ≠ []) :
    (pointAfterMatch? (before ++ rest) (byteSize before) marker (some terminator)).isSome = true ↔
      terminator <:+: rest := by
  rw [← exists_fromFirst?_iff]
  rcases occurrence?_cases rest terminator with
    ⟨hnone, hfrom⟩ | ⟨front, back, rfl, hstarts, hsome, hfrom⟩
  · simp [pointAfterMatch?, locate?_append hne, hnone, hfrom]
  · obtain ⟨back, rfl⟩ := hstarts
    have ht : before ++ (front ++ (terminator ++ back)) ≠ [] := by simp [hne]
    obtain ⟨i, j, -, line, hmatch, -, hline⟩ := exists_matchedLines? ht
      (Nat.le_add_right (byteSize before + byteSize front) (byteSize terminator))
      (by simp only [byteSize_append]; omega)
    simp [pointAfterMatch?, locate?_append hne, hsome, hfrom, hmatch, hline]

theorem isSome_resolve?_literalAfter (hne : marker ≠ []) :
    (resolve? t (.literalAfter marker none none)).isSome = true ↔ marker <:+: t := by
  rw [← exists_fromFirst?_iff]
  rcases occurrence?_cases t marker with ⟨hnone, hfrom⟩ | ⟨before, rest, rfl, hstarts, hsome, hfrom⟩
  · simp [resolve?, locateAfter?, locate?_zero hne, hnone, hfrom]
  · simp [resolve?, locateAfter?, locate?_zero hne, hsome, hfrom,
      isSome_pointAfterMatch?_none hne hstarts]

/-- The terminator may stand behind any marker, since it stands behind the first one then. -/
theorem isSome_resolve?_literalAfter_through (hne : marker ≠ []) (hterminator : terminator ≠ []) :
    (resolve? t (.literalAfter marker none (some terminator))).isSome = true ↔
      ∃ rest, rest <:+ t ∧ marker <+: rest ∧ terminator <:+: rest := by
  rcases occurrence?_cases t marker with ⟨hnone, hfrom⟩ | ⟨before, rest, rfl, hstarts, hsome, hfrom⟩
  · have hnot : ¬marker <:+: t := by
      rw [← exists_fromFirst?_iff, hfrom]
      simp
    simp only [resolve?, locateAfter?, locate?_zero hne, hnone, Option.bind_eq_bind,
      Option.bind_none, Option.isSome_none, Bool.false_eq_true, false_iff, not_exists]
    rintro rest ⟨hrest, hstarts, -⟩
    exact hnot (hstarts.isInfix.trans hrest.isInfix)
  · simp only [resolve?, locateAfter?, locate?_zero hne, hsome, Option.bind_eq_bind,
      Option.bind_some, isSome_pointAfterMatch?_some hterminator]
    constructor
    · exact fun h => ⟨rest, List.suffix_append _ _, hstarts, h⟩
    · rintro ⟨other, hother, hmarker, h⟩
      exact h.trans (suffix_of_fromFirst? hfrom hother hmarker).isInfix

/-- The terminator stands behind every marker, since it stands behind the last one. -/
theorem isSome_resolve?_lastLiteralAfter (hne : marker ≠ []) (hterminator : terminator ≠ []) :
    (resolve? t (.lastLiteralAfter marker (some terminator))).isSome = true ↔
      marker <:+: t ∧ ∀ rest, rest <:+ t → marker <+: rest → terminator <:+: rest := by
  simp only [resolve?, locateLast?, if_neg hne, Option.bind_eq_bind]
  cases hlast : lastOccurrence? t marker with
  | none =>
      have hnot : ¬marker <:+: t := by
        rw [← exists_lastOccurrence?_iff, hlast]
        simp
      simp [hnot]
  | some offset =>
      have hmarker : marker <:+: t := exists_lastOccurrence?_iff.mp ⟨offset, hlast⟩
      obtain ⟨before, rest, rfl, rfl, hstarts, hshortest⟩ := lastOccurrence?_eq_some hlast
      rw [Option.bind_some, isSome_pointAfterMatch?_some hterminator]
      constructor
      · exact fun h => ⟨hmarker, fun other hother hneedle =>
          h.trans (hshortest other hother hneedle).isInfix⟩
      · exact fun h => h.2 rest (List.suffix_append _ _) hstarts

end Literal

/-! ## Block anchors -/

/-- A text has a block: behind the first opening delimiter stands a balanced text and then a closing
one. -/
def Delimiter.HasBlock (d : Delimiter) (t : Text) : Prop :=
  ∃ before body after, t = before ++ d.opener :: (body ++ d.closer :: after) ∧
    d.opener ∉ before ∧ d.Balances body

/-- **Whether a text has a block hangs on its delimiters alone.** -/
theorem Delimiter.hasBlock_filter_iff {d : Delimiter} {t : Text} :
    d.HasBlock (t.filter d.marks) ↔ d.HasBlock t := by
  have hopener : d.marks d.opener = true := by simp [marks]
  have hcloser : d.marks d.closer = true := by simp [marks]
  constructor
  · rintro ⟨before, body, after, heq, hfirst, hbody⟩
    obtain ⟨front, block, rfl, rfl, hblock⟩ := List.filter_eq_append_iff.mp heq
    obtain ⟨skipped, rest, rfl, hskipped, -, hrest⟩ := List.filter_eq_cons_iff.mp hblock
    obtain ⟨inner, back, rfl, rfl, hclose⟩ := List.filter_eq_append_iff.mp hrest
    obtain ⟨inner', after, rfl, hinner', -, -⟩ := List.filter_eq_cons_iff.mp hclose
    refine ⟨front ++ skipped, inner ++ inner', after, by simp, ?_, ?_⟩
    · rw [List.mem_append, not_or]
      refine ⟨fun hmem => hfirst (List.mem_filter.mpr ⟨hmem, hopener⟩), fun hmem => ?_⟩
      exact hskipped _ hmem hopener
    · -- the characters behind the inner delimiters are none themselves
      have hnone : inner'.filter d.marks = [] := List.filter_eq_nil_iff.mpr hinner'
      refine (balances_iff_of_filter_eq ?_).mp hbody
      rw [List.filter_append, hnone, List.append_nil, List.filter_filter]
      simp
  · rintro ⟨before, body, after, rfl, hfirst, hbody⟩
    refine ⟨before.filter d.marks, body.filter d.marks, after.filter d.marks, ?_, ?_, ?_⟩
    · simp [List.filter_append, hopener, hcloser]
    · exact fun hmem => hfirst (List.mem_of_mem_filter hmem)
    · refine (balances_iff_of_filter_eq ?_).mp hbody
      simp [List.filter_filter]

section Block

variable {t header before rest : Text} {d : Delimiter}

/-- A search from behind a text goes on in what stands there. -/
theorem findChar?_append (p : Char → Bool) (before rest : Text) :
    findChar? p (before ++ rest) (byteSize before) =
      (findChar? p rest 0).map (byteSize before + ·) := by
  induction before with
  | nil => simp
  | cons c before ih =>
      have hsize := c.utf8Size_pos
      rw [List.cons_append, findChar?, byteSize_cons, if_neg (by omega), Nat.add_sub_cancel_left,
        ih, Option.map_map]
      congr 1
      funext offset
      simp only [Function.comp_apply]
      omega

theorem findChar?_zero_eq_some_iff {p : Char → Bool} {offset : Nat} :
    findChar? p t 0 = some offset ↔ ∃ front c back, t = front ++ c :: back ∧ p c = true ∧
      (∀ x ∈ front, p x = false) ∧ byteSize front = offset := by
  induction t generalizing offset with
  | nil => simp [findChar?]
  | cons e t ih =>
      rw [findChar?, Nat.zero_sub]
      by_cases he : p e = true
      · rw [if_pos ⟨rfl, he⟩, Option.some.injEq]
        constructor
        · rintro rfl
          exact ⟨[], e, t, rfl, he, fun _ hx => (List.not_mem_nil hx).elim, rfl⟩
        · rintro ⟨front, c, back, heq, hc, hfront, rfl⟩
          cases front with
          | nil => rfl
          | cons x front =>
              obtain ⟨rfl, -⟩ := List.cons.inj heq
              rw [hfront e List.mem_cons_self] at he
              cases he
      · rw [if_neg (by simpa using he), Option.map_eq_some_iff]
        rw [Bool.not_eq_true] at he
        constructor
        · rintro ⟨found, hfound, rfl⟩
          obtain ⟨front, c, back, rfl, hc, hfront, rfl⟩ := ih.mp hfound
          exact ⟨e :: front, c, back, rfl, hc, List.forall_mem_cons.mpr ⟨he, hfront⟩,
            by rw [byteSize_cons, Nat.add_comm]⟩
        · rintro ⟨front, c, back, heq, hc, hfront, rfl⟩
          cases front with
          | nil =>
              obtain ⟨rfl, -⟩ := List.cons.inj heq
              rw [hc] at he
              cases he
          | cons x front =>
              obtain ⟨rfl, rfl⟩ := List.cons.inj heq
              refine ⟨byteSize front, ih.mpr ⟨front, c, back, rfl, hc, ?_, rfl⟩,
                by rw [byteSize_cons, Nat.add_comm]⟩
              exact fun y hy => hfront y (List.mem_cons_of_mem _ hy)

theorem exists_findBlock?_iff (before : Text) :
    (∃ opens closes, findBlock? (before ++ rest) (byteSize before) d = some (opens, closes)) ↔
      d.HasBlock rest := by
  simp only [findBlock?_eq_some_iff, findOpen?, findChar?_append, Option.map_eq_some_iff,
    findChar?_zero_eq_some_iff]
  constructor
  · rintro ⟨opens, closes, ⟨offset, ⟨front, c, back, rfl, hc, hfront, rfl⟩, rfl⟩, front', body,
      after, heq, hbody, hopens, -⟩
    obtain rfl : c = d.opener := by simpa using hc
    have hsplit : before ++ front ++ d.opener :: back =
        front' ++ d.opener :: (body ++ d.closer :: after) := by simpa using heq
    obtain ⟨-, hblock⟩ := append_inj_of_byteSize_eq hsplit (by rw [byteSize_append, hopens])
    obtain ⟨-, rfl⟩ := List.cons.inj hblock
    refine ⟨front, body, after, rfl, fun hmem => ?_, hbody⟩
    have hopener := hfront _ hmem
    simp at hopener
  · rintro ⟨front, body, after, rfl, hfirst, hbody⟩
    have hnone : ∀ c ∈ front, (c == d.opener) = false := by
      intro c hc
      rw [beq_eq_false_iff_ne]
      rintro rfl
      exact hfirst hc
    refine ⟨_, _, ⟨_, ⟨front, d.opener, _, rfl, beq_self_eq_true _, hnone, rfl⟩, rfl⟩,
      before ++ front, body, after, by simp, hbody, by rw [byteSize_append], rfl⟩

/-- A block anchor resolves where a block stands behind the first header. -/
theorem isSome_find?_iff (hne : header ≠ []) :
    (Block.find? t header d).isSome = true ↔
      ∃ rest, fromFirst? t header = some rest ∧ d.HasBlock rest := by
  rcases occurrence?_cases t header with ⟨hnone, hfrom⟩ | ⟨before, rest, rfl, hstarts, hsome, hfrom⟩
  · simp [Block.find?, locate?_zero hne, hnone, hfrom]
  · have ht : before ++ rest ≠ [] := by
      obtain ⟨back, rfl⟩ := hstarts
      simp [hne]
    simp only [hfrom, Option.some.injEq, exists_eq_left', ← exists_findBlock?_iff before]
    simp only [Block.find?, locate?_zero hne, hsome, Option.bind_eq_bind, Option.bind_some]
    constructor
    · intro h
      cases hblock : findBlock? (before ++ rest) (byteSize before) d with
      | none => simp [hblock] at h
      | some found => exact ⟨found.1, found.2, rfl⟩
    · rintro ⟨opens, closes, hblock⟩
      -- both delimiters stand inside the text, so they have lines
      obtain ⟨front, body, after, heq, hopens, hcloses⟩ := findBlock?_eq_some hblock
      have hsize := congrArg byteSize heq
      rw [byteSize_block] at hsize
      obtain ⟨i, openLine, hi, hopenLine⟩ := exists_lineIndexAt? ht opens (by omega)
      obtain ⟨j, closeLine, hj, hcloseLine⟩ := exists_lineIndexAt? ht closes (by omega)
      simp [hblock, hi, hj, hopenLine, hcloseLine]

theorem isSome_resolve?_blockBodyStart (hne : header ≠ []) :
    (resolve? t (.blockBodyStart header d)).isSome = true ↔
      ∃ rest, fromFirst? t header = some rest ∧ d.HasBlock rest := by
  rw [resolve?, Option.isSome_map, isSome_find?_iff hne]

theorem isSome_resolve?_blockBodyEnd (hne : header ≠ []) :
    (resolve? t (.blockBodyEnd header d)).isSome = true ↔
      ∃ rest, fromFirst? t header = some rest ∧ d.HasBlock rest := by
  rw [resolve?, Option.isSome_map, isSome_find?_iff hne]

end Block
end Graft
