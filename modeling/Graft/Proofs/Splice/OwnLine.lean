import Mathlib.Data.List.Infix
import Graft.Proofs.Resolve.Resolves
import Graft.Proofs.Splice.Contents

/-!
# A line of its own

Behind a line of a text, a fragment of one line is put in on a line of its own
(`gainsLine_pointAfter`): between breaks, with indentation ahead of it and nothing
behind. That takes nothing from the text and brings in little: what the text holds
without spanning lines it goes on holding, and what it holds then it held before or the
line holds it (`GainsLine.infix_or_infix`). So an anchor goes on resolving, as long as
the line itself cannot be mistaken for what the anchor looks for
(`Anchor.Withstands.isSome_resolve?`).
-/

namespace Graft

open Text

namespace Text

variable {a b t needle rest : Text}

theorem suffix_append_cases (h : rest <:+ a ++ b) :
    rest <:+ b ∨ ∃ front, front ≠ [] ∧ front <:+ a ∧ rest = front ++ b := by
  rcases List.suffix_or_suffix_of_suffix h (List.suffix_append a b) with h' | ⟨front, rfl⟩
  · exact .inl h'
  · by_cases hfront : front = []
    · subst hfront
      exact .inl (List.suffix_refl b)
    · obtain ⟨before, heq⟩ := h
      rw [← List.append_assoc, List.append_left_inj] at heq
      exact .inr ⟨front, hfront, ⟨before, heq⟩, rfl⟩

theorem AtBreak.append_left (hb : AtBreak b) (ha : a.all isBreak = true) : AtBreak (a ++ b) := by
  cases a with
  | nil => exact hb
  | cons c a =>
      rw [List.all_cons, Bool.and_eq_true] at ha
      intro d hd
      obtain rfl : c = d := by simpa using hd
      exact ha.1

theorem atBreak_append_of_ne_nil (hne : a ≠ []) (ha : a.all isBreak = true) (b : Text) :
    AtBreak (a ++ b) := by
  intro d hd
  rw [List.head?_append_of_ne_nil _ hne] at hd
  exact List.all_eq_true.mp ha d (List.mem_of_head? hd)

theorem Unbroken.tail (h : Unbroken t) : Unbroken t.tail :=
  fun c hc => h c (List.mem_of_mem_tail hc)

/-- Breaks hold nothing but breaks. -/
theorem Unbroken.not_infix_of_all_isBreak (h : Unbroken needle) (hne : needle ≠ [])
    (hbreaks : t.all isBreak = true) : ¬needle <:+: t := by
  obtain ⟨c, rest, rfl⟩ := List.exists_cons_of_ne_nil hne
  intro hwithin
  have hbreak := List.all_eq_true.mp hbreaks c (hwithin.subset List.mem_cons_self)
  exact h.notMem_of_isBreak hbreak List.mem_cons_self

/-! ## A line between breaks -/

/-- The second text is the first one with `line` put in on a line of its own, indented, behind
another line. -/
inductive GainsLine (line : Text) : Text → Text → Prop
  | intro {front lead indent closing back : Text} : lead ≠ [] → lead.all isBreak = true →
      indent.all isIndent = true → closing.all isBreak = true → AtBreak back →
      GainsLine line (front ++ back) (front ++ (lead ++ ((indent ++ line) ++ (closing ++ back))))

variable {line r : Text}

theorem all_isBreak_text (ending : LineEnding) : ending.text.all isBreak = true := by
  cases ending <;> rfl

/-- What goes in behind a line feed is on a line of its own. -/
theorem gainsLine_behind_feed (front after line : Text) {indent : Text}
    (hindent : indent.all isIndent = true) (ending : LineEnding) :
    GainsLine line (front ++ ['\n'] ++ after)
      (front ++ ['\n'] ++ (indent ++ line) ++ ending.text ++ after) := by
  -- the line feed of the ending goes to the text behind, in place of the one ahead
  obtain ⟨closing, hreturns, htext⟩ := exists_text_eq ending
  have hclosing : closing.all isBreak = true :=
    List.all_eq_true.mpr fun c hc => hreturns c hc ▸ rfl
  have hback : AtBreak ('\n' :: after) := by
    intro c hc
    obtain rfl : '\n' = c := by simpa using hc
    rfl
  have hgains : GainsLine line (front ++ '\n' :: after)
      (front ++ (['\n'] ++ ((indent ++ line) ++ (closing ++ '\n' :: after)))) :=
    .intro (by simp) rfl hindent hclosing hback
  simpa [htext] using hgains

/-- Behind a line, a fragment of one line goes between what ends a line and what stands behind it.
Where the line has no terminator, it gets one. -/
theorem exists_splice_pointAfter {i : Nat} {last : Line} (h : (lines t)[i]? = some last)
    (hne : line ≠ []) :
    ∃ head tail, head.getLast? = some '\n' ∧
      splice t (pointAfter t last) [line] =
        head ++ (last.indent ++ line) ++ (LineEnding.detect t).text ++ tail ∧
      (t = head ++ tail ∧ (pointAfter t last).offset = byteSize head ∨
        head = t ++ (LineEnding.detect t).text ∧ tail = [] ∧
          (pointAfter t last).offset = byteSize t) := by
  simp only [pointAfter]
  split
  · rename_i ending hending
    obtain ⟨before, after, rfl, hsize, hstart⟩ := exists_of_terminator h hending
    have hfeed : before.getLast? = some '\n' := by
      refine hstart.resolve_left ?_
      rintro rfl
      have hpos := start_lt_next (List.mem_of_getElem? h)
      rw [byteSize_nil] at hsize
      omega
    refine ⟨before, after, hfeed, ?_, .inl ⟨rfl, hsize.symm⟩⟩
    rw [← hsize, splice_lineStart, renderFragment_singleton hne]
  · have ht : t ≠ [] := by
      rintro rfl
      simp [lines, splitLines, layLines] at h
    have hkept : ([line].takeWhile List.isEmpty).length = 0 := by simp [hne]
    simp only [splice, hkept, Nat.zero_min, List.drop_zero, renderFragment_singleton hne]
    split
    · rename_i hends
      have hfeed : t.getLast? = some '\n' := by simpa [endsLine, ht] using hends
      exact ⟨t, [], hfeed, by simp, .inl (by simp)⟩
    · refine ⟨t ++ (LineEnding.detect t).text, [], ?_, by simp, .inr (by simp)⟩
      rw [List.getLast?_append, getLast?_text, Option.some_or]

/-- **Behind a line, a fragment of one line goes on a line of its own.** -/
theorem gainsLine_pointAfter {i : Nat} {last : Line} (h : (lines t)[i]? = some last)
    (hne : line ≠ []) : GainsLine line t (splice t (pointAfter t last) [line]) := by
  obtain ⟨head, tail, hfeed, hsplice, hcut⟩ := exists_splice_pointAfter h hne
  rw [hsplice]
  rcases hcut with ⟨heq, -⟩ | ⟨rfl, rfl, -⟩
  · obtain ⟨front, rfl⟩ := List.getLast?_eq_some_iff.mp hfeed
    have hgains := gainsLine_behind_feed front tail line last.all_indent (LineEnding.detect t)
    rwa [← heq] at hgains
  · have hbreaks := all_isBreak_text (LineEnding.detect t)
    have hbreak : (LineEnding.detect t).text ≠ [] := by
      cases LineEnding.detect t <;> simp [LineEnding.text]
    have hgains : GainsLine line (t ++ []) (t ++ ((LineEnding.detect t).text ++
        ((last.indent ++ line) ++ ((LineEnding.detect t).text ++ [])))) :=
      .intro hbreak hbreaks last.all_indent hbreaks (by simp [AtBreak])
    simpa using hgains

namespace GainsLine

/-- A text keeps what does not span its lines. -/
theorem infix_of_infix (h : GainsLine line t r) (hneedle : Unbroken needle.tail)
    (hwithin : needle <:+: t) : needle <:+: r := by
  cases h with
  | intro hlead hbreaks hindent hclosing hback =>
      rcases (infix_append_iff_of_atBreak hneedle hback).mp hwithin with hwithin | hwithin
      · exact List.infix_append_of_infix_left hwithin
      · simp only [← List.append_assoc]
        exact List.infix_append_of_infix_right hwithin

/-- **What a text holds afterwards, it held before or the line holds.** -/
theorem infix_or_infix (h : GainsLine line t r) (hneedle : Unbroken needle) (hne : needle ≠ [])
    (hhead : ∀ c, needle.head? = some c → isIndent c = false) (hwithin : needle <:+: r) :
    needle <:+: t ∨ needle <:+: line := by
  cases h with
  | @intro front lead indent closing back hlead hbreaks hindent hclosing hback =>
      rcases (infix_append_iff_of_atBreak hneedle.tail
        (atBreak_append_of_ne_nil hlead hbreaks _)).mp hwithin with hwithin | hwithin
      · exact .inl (List.infix_append_of_infix_left hwithin)
      -- the breaks that lead the line are no part of the needle
      have hlast : lead.getLast? = some (lead.getLast hlead) :=
        List.getLast?_eq_some_getLast hlead
      have hlast' : lead.getLast hlead ∉ needle :=
        hneedle.notMem_of_isBreak (List.all_eq_true.mp hbreaks _ (List.getLast_mem hlead))
      have hline := (infix_of_infix_append_of_getLast? hwithin hlast hlast').resolve_left
        (hneedle.not_infix_of_all_isBreak hne hbreaks)
      rcases (infix_append_iff_of_atBreak hneedle.tail (hback.append_left hclosing)).mp hline with
        hwithin | hwithin
      · have htrim := infix_trimStart hwithin hhead hne
        rw [trimStart, List.dropWhile_append_of_pos (List.all_eq_true.mp hindent)] at htrim
        exact .inr (htrim.trans (List.dropWhile_suffix _).isInfix)
      · rcases (infix_append_iff_of_atBreak hneedle.tail hback).mp hwithin with hwithin | hwithin
        · exact absurd hwithin (hneedle.not_infix_of_all_isBreak hne hclosing)
        · exact .inl (List.infix_append_of_infix_right hwithin)

/-- Where a marker stood, it stands afterwards, with the line behind it at most. -/
theorem exists_suffix (h : GainsLine line t r) (hneedle : Unbroken needle.tail)
    (hrest : rest <:+ t) (hstarts : needle <+: rest) :
    ∃ other, other <:+ r ∧ needle <+: other ∧ (other = rest ∨ line <:+: other) := by
  cases h with
  | @intro front lead indent closing back hlead hbreaks hindent hclosing hback =>
      rcases suffix_append_cases hrest with hrest | ⟨shown, hne, hshown, rfl⟩
      · refine ⟨rest, ?_, hstarts, .inl rfl⟩
        simp only [← List.append_assoc]
        exact hrest.trans (List.suffix_append _ _)
      · have hfront := prefix_of_prefix_append hneedle hback hne hstarts
        obtain ⟨before, rfl⟩ := hshown
        refine ⟨shown ++ (lead ++ ((indent ++ line) ++ (closing ++ back))), ⟨before, by simp⟩,
          hfront.trans (List.prefix_append _ _), .inr ?_⟩
        exact ⟨shown ++ lead ++ indent, closing ++ back, by simp⟩

/-- Where a marker that starts with a line feed stands afterwards, it stood before, or the line
stands behind it. -/
theorem suffix_or_infix (h : GainsLine line t r) (hline : Unbroken line) {word : Text}
    (hword : Unbroken word) (hne : word ≠ []) (hrest : rest <:+ r)
    (hstarts : '\n' :: word <+: rest) : rest <:+ t ∨ line <:+: rest := by
  cases h with
  | @intro front lead indent closing back hlead hbreaks hindent hclosing hback =>
      rw [← List.append_assoc] at hrest
      rcases suffix_append_cases hrest with hrest | ⟨shown, -, -, rfl⟩
      · rcases suffix_append_cases hrest with hrest | ⟨shown, hshown, hsuffix, rfl⟩
        · rcases suffix_append_cases hrest with hrest | ⟨shown, hshown, hsuffix, rfl⟩
          · exact .inl (hrest.trans (List.suffix_append _ _))
          · -- breaks alone have no room for the word
            have htail : Unbroken ('\n' :: word).tail := hword
            have hwhole := prefix_of_prefix_append htail hback hshown hstarts
            have hwithin : word <:+: closing := (List.suffix_cons _ word).isInfix.trans
              (hwhole.isInfix.trans hsuffix.isInfix)
            exact absurd hwithin (hword.not_infix_of_all_isBreak hne hclosing)
        · -- neither the indentation nor the line has a line feed
          obtain ⟨c, tail, rfl⟩ := List.exists_cons_of_ne_nil hshown
          obtain rfl : '\n' = c := (List.cons_prefix_cons.mp hstarts).1
          rcases List.mem_append.mp (hsuffix.subset List.mem_cons_self) with hmem | hmem
          · exact absurd (List.all_eq_true.mp hindent _ hmem) (by decide)
          · exact absurd hmem (hline.notMem_of_isBreak rfl)
      · exact .inr ⟨shown ++ indent, closing ++ back, by simp⟩

theorem filter_marks_eq_nil (d : Delimiter)
    (hbreaks : t.all isBreak = true ∨ t.all isIndent = true) : t.filter d.marks = [] := by
  rw [List.filter_eq_nil_iff]
  intro c hc hmark
  have hchar : isBreak c = true ∨ isIndent c = true :=
    hbreaks.imp (List.all_eq_true.mp · c hc) (List.all_eq_true.mp · c hc)
  simp only [Delimiter.marks, Bool.or_eq_true, beq_iff_eq] at hmark
  rcases hmark with rfl | rfl
  · cases d <;> simp [isBreak, isIndent, Delimiter.opener] at hchar
  · cases d <;> simp [isBreak, isIndent, Delimiter.closer] at hchar

/-- What has neither the header nor delimiters moves no block when it is put in between lines. -/
theorem hasBlock_append_append {front inserted back header : Text} {d : Delimiter}
    (hheader : Unbroken header) (hne : header ≠ []) (hback : AtBreak back)
    (hbreak : AtBreak (inserted ++ back)) (hnot : ¬header <:+: inserted)
    (hmarks : inserted.filter d.marks = [])
    (hblock : ∃ rest, fromFirst? (front ++ back) header = some rest ∧ d.HasBlock rest) :
    ∃ rest, fromFirst? (front ++ (inserted ++ back)) header = some rest ∧ d.HasBlock rest := by
  obtain ⟨rest, hrest, hblock⟩ := hblock
  rw [fromFirst?_append hheader.tail hne hback] at hrest
  rw [fromFirst?_append hheader.tail hne hbreak, fromFirst?_append hheader.tail hne hback,
    fromFirst?_eq_none hnot]
  cases hfront : fromFirst? front header with
  | none =>
      rw [hfront] at hrest
      exact ⟨rest, hrest, hblock⟩
  | some shown =>
      rw [hfront] at hrest
      obtain rfl : shown ++ back = rest := by simpa using hrest
      refine ⟨shown ++ (inserted ++ back), rfl, ?_⟩
      rw [← Delimiter.hasBlock_filter_iff] at hblock ⊢
      simpa [List.filter_append, hmarks] using hblock

/-- **Where a text has a block behind a header, it has one afterwards**, if the line has neither the
header nor delimiters. -/
theorem hasBlock (h : GainsLine line t r) {header : Text} {d : Delimiter}
    (hheader : Unbroken header) (hne : header ≠ [])
    (hhead : ∀ c, header.head? = some c → isIndent c = false) (hline : ¬header <:+: line)
    (hmarks : line.filter d.marks = [])
    (hblock : ∃ rest, fromFirst? t header = some rest ∧ d.HasBlock rest) :
    ∃ rest, fromFirst? r header = some rest ∧ d.HasBlock rest := by
  cases h with
  | @intro front lead indent closing back hlead hbreaks hindent hclosing hback =>
      have hgains : GainsLine line ([] ++ [])
          ([] ++ (lead ++ ((indent ++ line) ++ (closing ++ [])))) :=
        .intro hlead hbreaks hindent hclosing (by simp [AtBreak])
      have hnot : ¬header <:+: lead ++ ((indent ++ line) ++ closing) := by
        intro hwithin
        rcases hgains.infix_or_infix hheader hne hhead (by simpa using hwithin) with hnil | hwithin
        · exact hne (List.infix_nil.mp hnil)
        · exact hline hwithin
      have hfilter : (lead ++ ((indent ++ line) ++ closing)).filter d.marks = [] := by
        simp [hmarks, filter_marks_eq_nil d (.inl hbreaks), filter_marks_eq_nil d (.inr hindent),
          filter_marks_eq_nil d (.inl hclosing)]
      have hbreak : AtBreak (lead ++ ((indent ++ line) ++ closing) ++ back) := by
        rw [List.append_assoc]
        exact atBreak_append_of_ne_nil hlead hbreaks _
      have hmoved := hasBlock_append_append hheader hne hback hbreak hnot hfilter hblock
      simpa using hmoved

end GainsLine
end Text

/-! ## Anchors -/

/-- A line that is put in cannot be mistaken for what the anchor looks for. -/
inductive Anchor.Withstands (line : Text) : Anchor → Prop
  | literalAfter {marker : Text} : Unbroken marker.tail → marker ≠ [] →
      Withstands line (.literalAfter marker none none)
  | literalAfter_through {marker terminator : Text} : Unbroken marker.tail → marker ≠ [] →
      terminator ≠ [] → terminator <:+: line →
      Withstands line (.literalAfter marker none (some terminator))
  | lastLiteralAfter {word terminator : Text} : Unbroken word → word ≠ [] → terminator ≠ [] →
      terminator <:+: line → Withstands line (.lastLiteralAfter ('\n' :: word) (some terminator))
  | blockBodyStart {header : Text} {d : Delimiter} : Unbroken header → header ≠ [] →
      (∀ c, header.head? = some c → isIndent c = false) → ¬header <:+: line →
      line.filter d.marks = [] → Withstands line (.blockBodyStart header d)
  | blockBodyEnd {header : Text} {d : Delimiter} : Unbroken header → header ≠ [] →
      (∀ c, header.head? = some c → isIndent c = false) → ¬header <:+: line →
      line.filter d.marks = [] → Withstands line (.blockBodyEnd header d)
  | endOfDocument : Withstands line .endOfDocument

/-- **An anchor that resolved goes on resolving** when the text gains a line that the anchor
withstands. -/
theorem Anchor.Withstands.isSome_resolve? {line t r : Text} {anchor : Anchor}
    (hanchor : anchor.Withstands line) (hline : Unbroken line) (h : GainsLine line t r)
    (hresolve : (resolve? t anchor).isSome = true) : (resolve? r anchor).isSome = true := by
  cases hanchor with
  | literalAfter hmarker hne =>
      rw [isSome_resolve?_literalAfter hne] at hresolve ⊢
      exact h.infix_of_infix hmarker hresolve
  | literalAfter_through hmarker hne hterminator hwithin =>
      rw [isSome_resolve?_literalAfter_through hne hterminator] at hresolve ⊢
      obtain ⟨rest, hrest, hstarts, hend⟩ := hresolve
      obtain ⟨other, hother, hstarts', hcases⟩ := h.exists_suffix hmarker hrest hstarts
      refine ⟨other, hother, hstarts', ?_⟩
      rcases hcases with rfl | hline'
      · exact hend
      · exact hwithin.trans hline'
  | lastLiteralAfter hword hne hterminator hwithin =>
      rw [isSome_resolve?_lastLiteralAfter (List.cons_ne_nil _ _) hterminator] at hresolve ⊢
      refine ⟨h.infix_of_infix hword hresolve.1, fun rest hrest hstarts => ?_⟩
      rcases h.suffix_or_infix hline hword hne hrest hstarts with hrest | hline'
      · exact hresolve.2 rest hrest hstarts
      · exact hwithin.trans hline'
  | blockBodyStart hheader hne hhead hnot hmarks =>
      rw [isSome_resolve?_blockBodyStart hne] at hresolve ⊢
      exact h.hasBlock hheader hne hhead hnot hmarks hresolve
  | blockBodyEnd hheader hne hhead hnot hmarks =>
      rw [isSome_resolve?_blockBodyEnd hne] at hresolve ⊢
      exact h.hasBlock hheader hne hhead hnot hmarks hresolve
  | endOfDocument => rfl

end Graft
