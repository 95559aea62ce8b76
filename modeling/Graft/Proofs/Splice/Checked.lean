import Graft.Proofs.Text.Checked
import Graft.Proofs.Text.Words
import Graft.Splice

/-!
# Splicing without faults

Splicing cuts a text in two, which faults where the cut goes through a character, and
counts blank lines from its end, cutting one line off after the other. The cuts of the
count are at breaks (`trailingBlankLines_eq`), so splicing at an offset between characters
does not fault (`splice_eq`).
-/

namespace Graft

open Text

namespace Checked

variable {t : Text}

/-! ## Blank lines at the end -/

theorem standsAt_of_locateLast {newline : Nat} (h : locateLast t ['\n'] = some newline) :
    StandsAt t ['\n'] newline := by
  rw [locateLast_eq] at h
  exact (locateLast?_eq_some_iff.mp h).2.1

/-- The last break is the one that no other is behind. -/
theorem locateLast_feed {last : Text} (hlast : '\n' ∉ last) (before : Text) :
    locateLast (before ++ '\n' :: last) ['\n'] = some (byteSize before) := by
  rw [locateLast_eq, locateLast?_eq_some_iff]
  refine ⟨List.cons_ne_nil _ _, StandsAt.of_append before ['\n'] last, fun place hplace => ?_⟩
  refine Nat.le_of_not_lt fun hlt => hlast ?_
  have hsize : byteSize (before ++ ['\n']) = byteSize before + 1 := byteSize_append before ['\n']
  obtain ⟨more, rfl⟩ := Nat.exists_eq_add_of_le (Nat.succ_le_of_lt hlt)
  have hbehind : before ++ '\n' :: last = before ++ ['\n'] ++ last := by simp
  rw [hbehind, Nat.succ_eq_add_one, ← hsize] at hplace
  exact ((standsAt_append_iff _ _ _).mp hplace).mem

/-- The number of blank lines that a text without its final break ends in, its first line left
out. -/
def countBlanks (t : Text) : Checked Nat :=
  match _h : locateLast t ['\n'] with
  | none => pure 0
  | some newline => do
    let last ← slice t (newline + 1) (bytes t).length
    if last.isBlank then
      let _ ← slice t 0 newline
      let count ← countBlanks (t.takeBytes newline)
      return count + 1
    else return 0
termination_by byteSize t
decreasing_by
  have hle := (standsAt_of_locateLast _h).add_le
  have hpos := ('\n').utf8Size_pos
  have htake := byteSize_takeBytes_le t newline
  rw [byteSize_cons, byteSize_nil] at hle
  omega

/-- The number of blank lines that a terminated text ends in. -/
def trailingBlankLines (t : Text) : Checked Nat :=
  if t.getLast? = some '\n' then countBlanks t.dropLast else pure 0

theorem countBlanks_of_notMem (h : '\n' ∉ t) : countBlanks t = pure 0 := by
  rw [countBlanks]
  split
  · rfl
  · rename_i newline hfound
    exact absurd (standsAt_of_locateLast hfound).mem h

/-- The cuts of the count are at a break. -/
theorem countBlanks_append {before last : Text} (hlast : '\n' ∉ last) :
    countBlanks (before ++ '\n' :: last) =
      if last.isBlank then (do
        let count ← countBlanks before
        return count + 1)
      else pure 0 := by
  have hbehind : before ++ '\n' :: last = before ++ ['\n'] ++ last := by simp
  have hsize : byteSize (before ++ ['\n']) = byteSize before + 1 := byteSize_append before ['\n']
  have hcut : IsBoundary (before ++ '\n' :: last) (byteSize before + 1) :=
    ⟨before ++ ['\n'], last, hbehind, hsize⟩
  have hdrop : (before ++ '\n' :: last).dropBytes (byteSize before + 1) = last := by
    rw [← hsize, hbehind, dropBytes_append_byteSize]
  have hfound := locateLast_feed hlast before
  rw [countBlanks]
  split
  · rename_i hnone
    rw [hnone] at hfound
    cases hfound
  · rename_i newline hsome
    obtain rfl : byteSize before = newline := Option.some.inj (hfound.symm.trans hsome)
    rw [slice_tail hcut, hdrop, pure_bind, slice_head ⟨before, _, rfl, rfl⟩, pure_bind,
      takeBytes_append_byteSize]

/-- **Blank lines are counted without a fault.** -/
theorem countBlanks_eq (t : Text) : countBlanks t =
    pure ((pieces (· == '\n') t).tail.reverse.takeWhile Text.isBlank).length := by
  induction hsize : byteSize t using Nat.strong_induction_on generalizing t with
  | _ size ih =>
      subst hsize
      by_cases hfeed : '\n' ∈ t
      · obtain ⟨front, back, hreverse, hfront⟩ :=
          List.eq_append_cons_of_mem (List.mem_reverse.mpr hfeed)
        obtain ⟨before, last, rfl, hlast⟩ :
            ∃ before last, t = before ++ '\n' :: last ∧ '\n' ∉ last :=
          ⟨back.reverse, front.reverse, by simpa using congrArg List.reverse hreverse, by simpa⟩
        have hless : byteSize before < byteSize (before ++ '\n' :: last) := by
          have hpos := ('\n').utf8Size_pos
          rw [byteSize_append, byteSize_cons]
          omega
        rw [countBlanks_append hlast, ih _ hless before rfl, pure_bind, pieces_append_cons rfl,
          pieces_of_notMem hlast, List.tail_append_of_ne_nil (pieces_ne_nil _ _), List.reverse_append,
          List.reverse_singleton, List.singleton_append]
        split
        · rename_i hblank
          rw [List.takeWhile_cons_of_pos hblank, List.length_cons]
        · rename_i hshown
          rw [List.takeWhile_cons_of_neg hshown]
          rfl
      · rw [countBlanks_of_notMem hfeed, pieces_of_notMem hfeed]
        rfl

theorem trailingBlankLines_eq (t : Text) :
    trailingBlankLines t = pure (Graft.trailingBlankLines t) := by
  simp only [trailingBlankLines, Graft.trailingBlankLines, endsLine, beq_iff_eq, countBlanks_eq]
  split
  · rfl
  · rfl

/-! ## Splicing -/

/-- The lines of a fragment behind the first `skip`. -/
def dropLines (fragment : List Text) (skip : Nat) : Checked (List Text) :=
  if skip ≤ fragment.length then pure (fragment.drop skip) else fault (.range skip fragment.length)

/-- The text with a fragment put in at a point. -/
def splice (t : Text) (point : Point) (fragment : List Text) : Checked Text := do
  let ending := LineEnding.detect t
  let offset := min point.offset (bytes t).length
  match point.placement with
  | .lineStart =>
    let head ← slice t 0 offset
    let tail ← slice t offset (bytes t).length
    return head ++ renderFragment fragment point.indent ending ++ ending.text ++ tail
  | .endOfText =>
    let separators := (fragment.takeWhile List.isEmpty).length
    let blanks ← trailingBlankLines t
    let kept ← dropLines fragment (min separators blanks)
    let closed := if t = [] ∨ t.endsLine then t else t ++ ending.text
    return closed ++ renderFragment kept point.indent ending ++ ending.text
  | .midLine resume =>
    let head ← slice t 0 offset
    let tail ← slice t offset (bytes t).length
    return head.trimEnd isIndent ++ ending.text ++
      renderFragment fragment point.indent ending ++ ending.text ++
      resume ++ tail.trimStart isIndent

/-- **Splicing at an offset between characters does not fault.** -/
theorem splice_eq {point : Point} (h : IsBoundary t point.offset) (fragment : List Text) :
    splice t point fragment = pure (Graft.splice t point fragment) := by
  have hmin : min point.offset (bytes t).length = point.offset := by
    rw [length_bytes]
    exact Nat.min_eq_left h.le_byteSize
  simp only [splice, Graft.splice, hmin, slice_head h, slice_tail h, pure_bind,
    trailingBlankLines_eq]
  have hdrop : dropLines fragment (min (fragment.takeWhile List.isEmpty).length
      (Graft.trailingBlankLines t)) = pure (fragment.drop
        (min (fragment.takeWhile List.isEmpty).length (Graft.trailingBlankLines t))) :=
    if_pos ((Nat.min_le_left _ _).trans (List.takeWhile_prefix _).length_le)
  cases point.placement with
  | lineStart => rfl
  | endOfText => simp only [hdrop, pure_bind]
  | midLine resume => rfl

end Checked
end Graft
