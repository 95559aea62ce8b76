import Mathlib
import Graft.Proofs.Splice.Contents
import Graft.Proofs.Weave.Outcome

/-!
# How a woven text is laid out

A fragment goes into a text as whole lines. `Layout` says what that means for every
placement at once: the old text falls into a front, some spaces and tabs, and a back;
the new text is the front, the fragment on lines of its own, and the back. Splicing at
a point that an anchor resolves to lays the text out so (`Cut.layout`), whatever the
anchor and whatever the text ends its lines with. Nothing of the old text is lost but
those blanks, and they are lost only where a line is broken (`weave_lays_out`).
-/

namespace Graft

open Text

/-- `r` is `t` with the fragment laid out on lines of its own at `point`. -/
structure Layout (t : Text) (point : Point) (fragment : List Text) (r : Text) where
  front : Text
  /-- what goes: spaces and tabs at the place where a line is broken -/
  blanks : Text
  back : Text
  /-- the line ending that the front lacks, if it does -/
  opening : Text
  /-- how many of the empty lines that lead the fragment the text has already -/
  spared : Nat
  source_eq : t = front ++ blanks ++ back
  result_eq : r = front ++ opening ++
    renderFragment (fragment.drop spared) point.indent (LineEnding.detect t) ++
    (LineEnding.detect t).text ++ point.placement.resume ++ back
  atLineStart : AtLineStart (front ++ opening)
  opening_eq : opening = [] ∨ opening = (LineEnding.detect t).text
  all_blanks : blanks.all isIndent = true
  all_indent : point.indent.all isIndent = true
  all_resume : point.placement.resume.all isIndent = true
  eq_nil_of_mem : ∀ line ∈ fragment.take spared, line = []
  spared_eq_zero : point.placement ≠ .endOfText → spared = 0
  blanks_eq_nil : (∀ resume, point.placement ≠ .midLine resume) → blanks = []

/-! ## Every cut is laid out -/

theorem layout_lineStart {before after indent : Text} (hstart : AtLineStart before)
    (hindent : indent.all isIndent = true) (fragment : List Text) :
    let point : Point := { offset := byteSize before, indent, placement := .lineStart }
    Nonempty (Layout (before ++ after) point fragment (splice (before ++ after) point fragment)) :=
  ⟨{ front := before
     blanks := []
     back := after
     opening := []
     spared := 0
     source_eq := by simp
     result_eq := by
       rw [splice_lineStart]
       simp [Placement.resume]
     atLineStart := by simpa using hstart
     opening_eq := .inl rfl
     all_blanks := rfl
     all_indent := hindent
     all_resume := rfl
     eq_nil_of_mem := by simp
     spared_eq_zero := fun _ => rfl
     blanks_eq_nil := fun _ => rfl }⟩

/-- At the end of a text, a line that is not terminated is ended first. -/
theorem layout_endOfText {t indent : Text} (hindent : indent.all isIndent = true)
    (fragment : List Text) :
    let point : Point := { offset := byteSize t, indent, placement := .endOfText }
    Nonempty (Layout t point fragment (splice t point fragment)) :=
  ⟨{ front := t
     blanks := []
     back := []
     opening := if t = [] ∨ t.endsLine then [] else (LineEnding.detect t).text
     spared := min (fragment.takeWhile List.isEmpty).length (trailingBlankLines t)
     source_eq := by simp
     result_eq := by
       simp only [splice, Placement.resume]
       split <;> simp
     atLineStart := by
       split
       · rename_i hclosed
         rw [List.append_nil]
         rcases hclosed with hnil | hends
         · exact .inl hnil
         · exact .inr (by simpa [endsLine] using hends)
       · exact atLineStart_append_text t _
     opening_eq := by
       split
       · exact .inl rfl
       · exact .inr rfl
     all_blanks := rfl
     all_indent := hindent
     all_resume := rfl
     eq_nil_of_mem := eq_nil_of_mem_take (Nat.min_le_left _ _)
     spared_eq_zero := fun h => (h rfl).elim
     blanks_eq_nil := fun _ => rfl }⟩

/-- A line that is broken goes on behind the fragment, on a line of its own. -/
theorem layout_midLine {before after indent resume : Text} (hindent : indent.all isIndent = true)
    (hresume : resume.all isIndent = true) (fragment : List Text) :
    let point : Point := { offset := byteSize before, indent, placement := .midLine resume }
    Nonempty (Layout (before ++ after) point fragment (splice (before ++ after) point fragment)) :=
  ⟨{ front := before.trimEnd isIndent
     blanks := (before.reverse.takeWhile isIndent).reverse ++ after.takeWhile isIndent
     back := after.trimStart isIndent
     opening := (LineEnding.detect (before ++ after)).text
     spared := 0
     source_eq := by
       rw [← List.append_assoc, trimEnd_append_takeWhile, List.append_assoc,
         takeWhile_append_trimStart]
     result_eq := by
       rw [splice_midLine]
       rfl
     atLineStart := atLineStart_append_text _ _
     opening_eq := .inr rfl
     all_blanks := by
       rw [List.all_append, List.all_reverse, List.all_takeWhile, List.all_takeWhile, Bool.and_self]
     all_indent := hindent
     all_resume := hresume
     eq_nil_of_mem := by simp
     spared_eq_zero := fun _ => rfl
     blanks_eq_nil := fun h => (h resume rfl).elim }⟩

/-- **Wherever an anchor cuts a text, the fragment goes in as whole lines.** -/
theorem Cut.layout {t : Text} {anchor : Anchor} {point : Point} (hcut : Cut t anchor point)
    (fragment : List Text) : Nonempty (Layout t point fragment (splice t point fragment)) := by
  cases hcut with
  | lineStart hsplit hstart hindent =>
      subst hsplit
      exact layout_lineStart hstart hindent fragment
  | endOfText hindent => exact layout_endOfText hindent fragment
  | @afterOpener d before after indent resume _ hsplit hindent hresume =>
      have hsize : byteSize before + 1 = byteSize (before ++ [d.opener]) := by
        simp [utf8Size_opener]
      rw [hsplit, hsize, List.append_cons]
      exact layout_midLine hindent hresume fragment
  | beforeCloser _ hsplit hindent hresume =>
      subst hsplit
      exact layout_midLine hindent hresume fragment

/-- An anchor that looks for no block breaks no line. -/
theorem Cut.ne_midLine {t : Text} {anchor : Anchor} {point : Point} (hcut : Cut t anchor point)
    (hanchor : anchor.delimiter? = none) (resume : Text) : point.placement ≠ .midLine resume := by
  cases hcut with
  | lineStart _ _ _ => nofun
  | endOfText _ => nofun
  | afterOpener hd _ _ _ =>
      rw [hanchor] at hd
      cases hd
  | beforeCloser hd _ _ _ =>
      rw [hanchor] at hd
      cases hd

/-! ## What is kept -/

namespace Layout

variable {t r : Text} {point : Point} {fragment : List Text}

/-- Where no line is broken, the old text is the new one without one part of it. -/
theorem exists_chunk (layout : Layout t point fragment r)
    (hwhole : ∀ resume, point.placement ≠ .midLine resume) :
    ∃ front chunk back, r = front ++ chunk ++ back ∧ t = front ++ back := by
  have hblanks := layout.blanks_eq_nil hwhole
  refine ⟨layout.front, layout.opening ++
    renderFragment (fragment.drop layout.spared) point.indent (LineEnding.detect t) ++
    (LineEnding.detect t).text ++ point.placement.resume, layout.back, ?_, ?_⟩
  · conv => lhs; rw [layout.result_eq]
    simp only [List.append_assoc]
  · conv => lhs; rw [layout.source_eq]
    rw [hblanks, List.append_nil]

/-- Every character of the old text but spaces and tabs is in the new one, in order. -/
theorem filter_sublist (layout : Layout t point fragment r) :
    (t.filter (!isIndent ·)).Sublist (r.filter (!isIndent ·)) := by
  have hblanks : layout.blanks.filter (!isIndent ·) = [] := by
    rw [List.filter_eq_nil_iff]
    intro c hc
    simp [List.all_eq_true.mp layout.all_blanks c hc]
  have hkept : t.filter (!isIndent ·) = (layout.front ++ layout.back).filter (!isIndent ·) := by
    conv => lhs; rw [layout.source_eq]
    rw [List.filter_append, List.filter_append, hblanks, List.append_nil, List.filter_append]
  have hsublist : (layout.front ++ layout.back).Sublist r := by
    conv => rhs; rw [layout.result_eq]
    refine List.Sublist.append ?_ (List.Sublist.refl layout.back)
    simp only [List.append_assoc]
    exact List.sublist_append_left _ _
  rw [hkept]
  exact hsublist.filter _

end Layout

/-- **A fragment is woven in as whole lines, and nothing is lost.**  The text is laid out around the
fragment; where the anchor looks for no block, taking one part out of the result gives the text
back, and for every anchor all characters but spaces and tabs stay, in order. -/
theorem weave_lays_out {t : Text} {spec : Spec} {strategy : Nat} {point : Point}
    (h : decision t spec = .insert strategy point) :
    ∃ r, weave t spec = .applied r ∧ Nonempty (Layout t point spec.fragment r) ∧
      (∀ anchor, spec.anchors[strategy]? = some anchor → anchor.delimiter? = none →
        ∃ front chunk back, r = front ++ chunk ++ back ∧ t = front ++ back) ∧
      (t.filter (!isIndent ·)).Sublist (r.filter (!isIndent ·)) := by
  have happlied : weave t spec = .applied (splice t point spec.fragment) := by
    rw [weave, h]
    rfl
  obtain ⟨-, _, _, hdecision, hpoint, -⟩ := exists_of_weave_eq_applied happlied
  rw [h, Decision.insert.injEq] at hdecision
  obtain ⟨rfl, rfl⟩ := hdecision
  obtain ⟨anchor, hindex, hresolve⟩ := exists_getElem?_of_firstPoint? hpoint
  have hcut := cut_of_resolve? hresolve
  obtain ⟨layout⟩ := hcut.layout spec.fragment
  refine ⟨_, happlied, ⟨layout⟩, fun other hother hnone => ?_, layout.filter_sublist⟩
  rw [hindex, Option.some.injEq] at hother
  subst hother
  exact layout.exists_chunk (hcut.ne_midLine hnone)

/-- A call for the end of a block. -/
def callSpec : Spec where
  fragment := ["b();"]
  identity := .contains "b();"
  anchors := [.literalAfter "// calls" none none, .blockBodyEnd "go()" .brace]

/-- A block on one line is broken at its end, and only the blank ahead of the break goes. -/
theorem call_breaks_block :
    (decision "go() \x7b a(); \x7d\r\n" callSpec =
        .insert 1 { offset := 12, indent := "    ", placement := .midLine [] }) ∧
      weave "go() \x7b a(); \x7d\r\n" callSpec = .applied "go() \x7b a();\r\n    b();\r\n\x7d\r\n" ∧
      Nonempty (Layout "go() \x7b a(); \x7d\r\n"
        { offset := 12, indent := "    ", placement := .midLine [] } callSpec.fragment
        "go() \x7b a();\r\n    b();\r\n\x7d\r\n") := by
  have hinsert : decision "go() \x7b a(); \x7d\r\n" callSpec =
      .insert 1 { offset := 12, indent := "    ", placement := .midLine [] } := by cbv
  have happlied : weave "go() \x7b a(); \x7d\r\n" callSpec =
      .applied "go() \x7b a();\r\n    b();\r\n\x7d\r\n" := by cbv
  obtain ⟨r, hr, hlayout, -⟩ := weave_lays_out hinsert
  obtain rfl := Outcome.applied.inj (happlied.symm.trans hr)
  exact ⟨hinsert, happlied, hlayout⟩

end Graft
