import Mathlib
import Graft.Proofs.Splice.Layout
import Graft.Proofs.Weave.Permanence

/-!
# Line endings

A text that ends its lines in one way goes on ending them so, whatever is woven into it.
`LineEnding.Only` says what that means for each ending. Cutting a text keeps it unless
the cut parts a carriage return from its line feed (`Only.right`), and no anchor cuts
there: what stands before a cut is a whole line or ends in an opening delimiter, or else
a closing one stands behind it. What is put in ends its lines with the ending that the
text is seen to have, which is the only one that it has (`Only.detect_eq`). So splicing
at a resolved point keeps the ending (`Cut.only_splice`), and so does a whole chain of
weavings (`weave_keeps_ending`).
-/

namespace Graft

open Text

/-! ## One ending -/

/-- No line of a text ends in another way: a text of line feeds has no carriage return at all, and
in the other a carriage return stands directly before each line feed. -/
def LineEnding.Only : LineEnding → Text → Prop
  | lf, t => '\r' ∉ t
  | crlf, t => ∀ before after, t = before ++ '\n' :: after → before.getLast? = some '\r'

namespace LineEnding.Only

variable {ending : LineEnding} {a b t : Text}

/-- What has no breaks is fine with either ending. -/
theorem of_unbroken (hreturn : '\r' ∉ t) (hfeed : '\n' ∉ t) : ending.Only t := by
  cases ending with
  | lf => exact hreturn
  | crlf =>
      rintro before after rfl
      simp at hfeed

theorem text (ending : LineEnding) : ending.Only ending.text := by
  cases ending with
  | lf => simp [Only, LineEnding.text]
  | crlf =>
      intro before after h
      cases before with
      | nil => simp [LineEnding.text] at h
      | cons c before =>
          simp only [LineEnding.text, List.cons_append, List.cons.injEq] at h
          obtain ⟨rfl, hbefore⟩ := h
          -- the line feed comes right behind the `\r`
          cases before with
          | nil => rfl
          | cons c before => simp at hbefore

theorem append (ha : ending.Only a) (hb : ending.Only b) : ending.Only (a ++ b) := by
  cases ending with
  | lf =>
      intro hmem
      exact (List.mem_append.mp hmem).elim ha hb
  | crlf =>
      intro before after h
      rcases List.append_eq_append_iff.mp h with ⟨middle, hbefore, hb'⟩ | ⟨middle, ha', hafter⟩
      · -- the line feed lies in the second text
        rw [hbefore, List.getLast?_append, hb middle after hb', Option.some_or]
      · cases middle with
        | nil => simpa using hb [] after hafter.symm
        | cons c middle =>
            obtain ⟨rfl, -⟩ := List.cons.inj hafter
            exact ha before middle ha'

theorem left (h : ending.Only (a ++ b)) : ending.Only a := by
  cases ending with
  | lf => exact fun hmem => h (List.mem_append_left b hmem)
  | crlf =>
      rintro before after rfl
      exact h before (after ++ b) (by simp)

/-- What follows a cut that parts no carriage return from its line feed. -/
theorem right (h : ending.Only (a ++ b)) (hcut : a.getLast? ≠ some '\r' ∨ b.head? ≠ some '\n') :
    ending.Only b := by
  cases ending with
  | lf => exact fun hmem => h (List.mem_append_right a hmem)
  | crlf =>
      rintro before after rfl
      have hlast := h (a ++ before) after (by simp)
      cases before with
      | nil =>
          rw [List.append_nil] at hlast
          rcases hcut with hcut | hcut
          · exact (hcut hlast).elim
          · simp at hcut
      | cons c before => simpa [List.getLast?_append] using hlast

theorem trimEnd (h : ending.Only t) (p : Char → Bool) : ending.Only (t.trimEnd p) := by
  rw [← trimEnd_append_takeWhile t p] at h
  exact h.left

/-- Spaces and tabs at the front of a text part no ending. -/
theorem trimStart (h : ending.Only t) : ending.Only (t.trimStart isIndent) := by
  rw [← takeWhile_append_trimStart t isIndent] at h
  refine h.right (.inl fun hlast => ?_)
  have hblank := List.all_eq_true.mp List.all_takeWhile '\r' (List.mem_of_getLast? hlast)
  simp [isIndent] at hblank

theorem of_all_isIndent (h : t.all isIndent = true) : ending.Only t := by
  refine of_unbroken (fun hmem => ?_) (fun hmem => ?_)
  · simpa [isIndent] using List.all_eq_true.mp h '\r' hmem
  · simpa [isIndent] using List.all_eq_true.mp h '\n' hmem

theorem joined {lines : List Text} (h : ∀ line ∈ lines, ending.Only line) :
    ending.Only (Text.joined ending.text lines) := by
  fun_induction Text.joined ending.text lines with
  | case1 => exact of_unbroken List.not_mem_nil List.not_mem_nil
  | case2 last => exact h last List.mem_cons_self
  | case3 first next others ih =>
      have hothers := ih fun line hline => h line (List.mem_cons_of_mem _ hline)
      exact ((h first List.mem_cons_self).append (text ending)).append hothers

/-! ## The ending that a text is seen to have -/

theorem detect_eq_lf (h : lf.Only t) : detect t = .lf := by
  fun_induction detect t with
  | case1 => rfl
  | case2 rest => rfl
  | case3 rest => exact (h List.mem_cons_self).elim
  | case4 c rest _ _ ih => exact ih fun hmem => h (List.mem_cons_of_mem _ hmem)

theorem detect_eq_crlf (h : crlf.Only t) (hfeed : '\n' ∈ t) : detect t = .crlf := by
  fun_induction detect t with
  | case1 => cases hfeed
  | case2 rest => simpa using h [] rest rfl
  | case3 rest => rfl
  | case4 c rest hlf hcrlf ih =>
      have hrest : '\n' ∈ rest := by
        refine (List.mem_cons.mp hfeed).resolve_left ?_
        rintro rfl
        exact hlf rfl
      -- the character is no carriage return, or no line feed follows it
      refine ih (right (a := [c]) h ?_) hrest
      by_cases hreturn : c = '\r'
      · refine .inr fun hhead => ?_
        obtain ⟨tail, rfl⟩ := List.head?_eq_some_iff.mp hhead
        exact hcrlf tail hreturn rfl
      · exact .inl (by simpa using hreturn)

end LineEnding.Only

/-! ## Splicing -/

/-- No line of the fragment has a break in it. -/
def Spec.IsUnbroken (spec : Spec) : Prop :=
  ∀ line ∈ spec.fragment, '\r' ∉ line ∧ '\n' ∉ line

variable {ending : LineEnding} {t : Text} {fragment : List Text}

theorem only_renderFragment {indent : Text} (hindent : indent.all isIndent = true)
    (hfragment : ∀ line ∈ fragment, ending.Only line) :
    ending.Only (renderFragment fragment indent ending) := by
  refine LineEnding.Only.joined fun rendered hrendered => ?_
  obtain ⟨line, hline, rfl⟩ := List.mem_map.mp hrendered
  split
  · exact .of_unbroken List.not_mem_nil List.not_mem_nil
  · exact (LineEnding.Only.of_all_isIndent hindent).append (hfragment line hline)

/-- A line that is broken elsewhere than in its ending keeps it. -/
theorem only_splice_midLine {before after indent resume : Text}
    (h : ending.Only (before ++ after)) (hdetect : LineEnding.detect (before ++ after) = ending)
    (hcut : before.getLast? ≠ some '\r' ∨ after.head? ≠ some '\n')
    (hindent : indent.all isIndent = true) (hresume : resume.all isIndent = true)
    (hfragment : ∀ line ∈ fragment, ending.Only line) :
    ending.Only (splice (before ++ after)
      { offset := byteSize before, indent, placement := .midLine resume } fragment) := by
  rw [splice_midLine, hdetect]
  have hfront := h.left.trimEnd isIndent
  have hback := (h.right hcut).trimStart
  have hrendered := only_renderFragment hindent hfragment
  have htext := LineEnding.Only.text ending
  exact ((((hfront.append htext).append hrendered).append htext).append
    (.of_all_isIndent hresume)).append hback

/-- **No cut of an anchor parts a carriage return from its line feed**, so splicing there keeps the
ending of the text. -/
theorem Cut.only_splice {anchor : Anchor} {point : Point} (hcut : Cut t anchor point)
    (h : ending.Only t) (hdetect : LineEnding.detect t = ending)
    (hfragment : ∀ line ∈ fragment, ending.Only line) :
    ending.Only (splice t point fragment) := by
  have htext := LineEnding.Only.text ending
  cases hcut with
  | @lineStart before after indent hsplit hstart hindent =>
      subst hsplit
      have hback : ending.Only after := by
        refine h.right (.inl ?_)
        rcases hstart with rfl | hlast
        · simp
        · simp [hlast]
      rw [splice_lineStart, hdetect]
      exact ((h.left.append (only_renderFragment hindent hfragment)).append htext).append hback
  | @endOfText indent hindent =>
      have hkept (n : Nat) : ending.Only (renderFragment (fragment.drop n) indent ending) :=
        only_renderFragment hindent fun line hline => hfragment line (List.mem_of_mem_drop hline)
      simp only [splice, hdetect]
      split
      · exact (h.append (hkept _)).append htext
      · exact ((h.append htext).append (hkept _)).append htext
  | @afterOpener d before after indent resume hd hsplit hindent hresume =>
      have hsize : byteSize before + 1 = byteSize (before ++ [d.opener]) := by
        simp [utf8Size_opener]
      rw [hsplit, List.append_cons] at h hdetect ⊢
      rw [hsize]
      refine only_splice_midLine h hdetect (.inl ?_) hindent hresume hfragment
      cases d <;> simp [Delimiter.opener]
  | @beforeCloser d before after indent resume hd hsplit hindent hresume =>
      subst hsplit
      refine only_splice_midLine h hdetect (.inr ?_) hindent hresume hfragment
      cases d <;> simp [Delimiter.closer]

/-! ## Weaving -/

theorem LineEnding.Only.textFrom_weave {spec : Spec} (h : ending.Only t)
    (hdetect : LineEnding.detect t = ending) (hspec : spec.IsUnbroken) :
    ending.Only ((weave t spec).textFrom t) := by
  cases hweave : weave t spec with
  | applied r =>
      obtain ⟨-, strategy, point, -, hpoint, rfl⟩ := exists_of_weave_eq_applied hweave
      obtain ⟨anchor, -, hresolve⟩ := exists_of_firstPoint? hpoint
      exact (cut_of_resolve? hresolve).only_splice h hdetect fun line hline =>
        .of_unbroken (hspec line hline).1 (hspec line hline).2
  | alreadyPresent => exact h
  | anchorNotFound => exact h

/-- A text keeps its line feeds. -/
theorem feed_mem_textFrom_weave {spec : Spec} (h : '\n' ∈ t) :
    '\n' ∈ (weave t spec).textFrom t := by
  cases hweave : weave t spec with
  | applied r =>
      obtain ⟨-, strategy, point, -, hpoint, rfl⟩ := exists_of_weave_eq_applied hweave
      obtain ⟨anchor, -, hresolve⟩ := exists_of_firstPoint? hpoint
      obtain ⟨layout⟩ := (cut_of_resolve? hresolve).layout spec.fragment
      have hkept := layout.filter_sublist.subset (List.mem_filter.mpr ⟨h, by simp [isIndent]⟩)
      exact List.mem_of_mem_filter hkept
  | alreadyPresent => exact h
  | anchorNotFound => exact h

/-- **Line endings are preserved.**  Fragments whose lines have no breaks in them may be woven into
a text one after another, at any anchors: if a carriage return stands before each line feed of the
text, of which there is one, it does so afterwards, and a text without carriage returns gets
none. -/
theorem weave_keeps_ending :
    (∀ (t : Text) (spec : Spec) (r : Text), spec.IsUnbroken → weave t spec = .applied r →
      ('\n' ∈ t → LineEnding.crlf.Only t → LineEnding.crlf.Only r) ∧
        (LineEnding.lf.Only t → LineEnding.lf.Only r)) ∧
    ∀ (t : Text) (specs : List Spec), (∀ spec ∈ specs, spec.IsUnbroken) →
      ('\n' ∈ t → LineEnding.crlf.Only t → LineEnding.crlf.Only (weaveAll t specs).2) ∧
        (LineEnding.lf.Only t → LineEnding.lf.Only (weaveAll t specs).2) := by
  constructor
  · intro t spec r hspec hweave
    have hr : (weave t spec).textFrom t = r := by rw [hweave]; rfl
    rw [← hr]
    exact ⟨fun hfeed h => h.textFrom_weave (h.detect_eq_crlf hfeed) hspec,
      fun h => h.textFrom_weave h.detect_eq_lf hspec⟩
  · intro t specs hspecs
    induction specs generalizing t with
    | nil => exact ⟨fun _ h => h, fun h => h⟩
    | cons spec others ih =>
        have hspec := hspecs spec List.mem_cons_self
        obtain ⟨hcrlf, hlf⟩ := ih ((weave t spec).textFrom t)
          fun other hother => hspecs other (List.mem_cons_of_mem _ hother)
        exact ⟨fun hfeed h => hcrlf (feed_mem_textFrom_weave hfeed)
            (h.textFrom_weave (h.detect_eq_crlf hfeed) hspec),
          fun h => hlf (h.textFrom_weave h.detect_eq_lf hspec)⟩

/-- A list on one line is broken by the entry that comes last and by the one that comes first, with
the ending that it has, or with line feeds where it has none. -/
theorem entries_keep_ending :
    (∀ spec ∈ [lastEntry, firstEntry], spec.IsUnbroken) ∧
      weave "list = []\r\n" lastEntry = .applied "list = [\r\n    last,\r\n]\r\n" ∧
      '\n' ∈ ("list = []\r\n" : Text) ∧ LineEnding.crlf.Only "list = []\r\n" ∧
      LineEnding.crlf.Only "list = [\r\n    last,\r\n]\r\n" ∧
      LineEnding.crlf.Only (weaveAll "list = []\r\n" [lastEntry, firstEntry]).2 ∧
      LineEnding.lf.Only "list = []" ∧
      LineEnding.lf.Only (weaveAll "list = []" [lastEntry, firstEntry]).2 := by
  have hspecs : ∀ spec ∈ [lastEntry, firstEntry], spec.IsUnbroken := by
    simp [Spec.IsUnbroken, lastEntry, firstEntry]
  have happlied : weave "list = []\r\n" lastEntry =
      .applied "list = [\r\n    last,\r\n]\r\n" := by cbv
  have hfeed : '\n' ∈ ("list = []\r\n" : Text) := by decide
  have hcrlf : LineEnding.crlf.Only "list = []\r\n" :=
    LineEnding.Only.append (a := "list = []") (.of_unbroken (by decide) (by decide)) (.text .crlf)
  have hlf : LineEnding.lf.Only "list = []" := .of_unbroken (by decide) (by decide)
  exact ⟨hspecs, happlied, hfeed, hcrlf,
    (weave_keeps_ending.1 _ _ _ (hspecs lastEntry List.mem_cons_self) happlied).1 hfeed hcrlf,
    (weave_keeps_ending.2 _ _ hspecs).1 hfeed hcrlf, hlf,
    (weave_keeps_ending.2 _ _ hspecs).2 hlf⟩

end Graft
