import Mathlib
import Graft.Proofs.Plan.Valid
import Graft.Proofs.Splice.Contents
import Graft.Proofs.Weave.Outcome

/-!
# Weaving twice

A fragment that was woven in is found again by every key that lies in one of its
lines, wherever it went and however it was indented there. A key that spans
lines is looked for as the fragment writes it, with line feeds between the
lines, while the text has the lines indented and with its own ending between
them; so a second weaving leaves the text alone exactly when the result happens
to hold those keys (`weave_again_eq_alreadyPresent_iff`).
-/

namespace Graft

/-- A key that lies in no single line of the fragment. -/
def Spec.Spans (spec : Spec) (key : Text) : Prop :=
  ∀ line ∈ spec.fragment, ¬key <:+: line

/-- A key that lies in one line of the fragment stands in the text it is woven into. -/
theorem infix_splice_of_not_spans {spec : Spec} {key : Text} (t : Text) (point : Point)
    (h : ¬spec.Spans key) : key <:+: splice t point spec.fragment := by
  simp only [Spec.Spans, Classical.not_forall, Classical.not_not] at h
  obtain ⟨line, hline, hkey⟩ := h
  by_cases hne : key = []
  · rw [hne]
    exact List.nil_infix
  · exact infix_splice_of_mem t point hline hkey hne

/-- **Weaving a patch of a valid plan a second time.** The second weaving finds the fragment exactly
when the first one's result holds the keys that span lines of the fragment. It does where the text
ends its lines with line feeds, the point does not indent, and no empty line leads the fragment. -/
theorem weave_again_eq_alreadyPresent_iff {plan : Plan} {patch : Patch} {t r : Text}
    (hvalid : plan.isValid = true) (hpatch : patch ∈ plan.patches)
    (happlied : weave t patch.spec = .applied r) :
    (weave r patch.spec = .alreadyPresent ↔
      ∀ key ∈ patch.spec.identity.keys, patch.spec.Spans key → key <:+: r) ∧
    ∀ strategy point, decision t patch.spec = .insert strategy point →
      LineEnding.detect t = .lf → point.indent = [] → patch.spec.fragment.head? ≠ some [] →
      weave r patch.spec = .alreadyPresent := by
  obtain ⟨hkey, hfragment⟩ := Plan.keys_of_isValid hvalid hpatch
  obtain ⟨-, chosen, point, hdecision, -, rfl⟩ := exists_of_weave_eq_applied happlied
  constructor
  · rw [weave_eq_alreadyPresent_iff, isApplied_iff]
    constructor
    · intro h key hmem _
      exact h.2 key hmem
    · intro h
      -- only a key that spans lines can be missing from what the fragment became
      refine ⟨hkey, fun key hmem => ?_⟩
      by_cases hspans : patch.spec.Spans key
      · exact h key hmem hspans
      · exact infix_splice_of_not_spans t point hspans
  · intro strategy point' hinsert hending hindent hlead
    rw [hdecision, Decision.insert.injEq] at hinsert
    obtain ⟨-, rfl⟩ := hinsert
    rw [weave_eq_alreadyPresent_iff, isApplied_iff]
    refine ⟨hkey, fun key hmem => (hfragment key hmem).trans ?_⟩
    exact fragmentText_infix_splice hending hindent hlead

/-- Two entries of a list that are their own identity. -/
def entriesPatch : Patch :=
  { id := "entries"
    file := "list.php"
    spec :=
      { fragment := ["first,", "second,"]
        identity := .contains "first,\nsecond,"
        anchors := [.blockBodyEnd "list" .bracket, .endOfDocument] } }

/-- At the end of a text with line feeds, the two entries are found again. -/
theorem weave_again_entries_at_end :
    ({ patches := [entriesPatch] } : Plan).isValid = true ∧
      entriesPatch ∈ ({ patches := [entriesPatch] } : Plan).patches ∧
      weave "zeroth,\n" entriesPatch.spec = .applied "zeroth,\nfirst,\nsecond,\n" ∧
      weave "zeroth,\nfirst,\nsecond,\n" entriesPatch.spec = .alreadyPresent := by
  have hvalid : ({ patches := [entriesPatch] } : Plan).isValid = true := by cbv
  have hmem : entriesPatch ∈ ({ patches := [entriesPatch] } : Plan).patches :=
    List.mem_singleton_self _
  have happlied : weave "zeroth,\n" entriesPatch.spec =
      .applied "zeroth,\nfirst,\nsecond,\n" := by cbv
  refine ⟨hvalid, hmem, happlied, ?_⟩
  have hinsert : decision "zeroth,\n" entriesPatch.spec =
      .insert 1 { offset := 8, indent := [], placement := .endOfText } := by cbv
  have hlead : entriesPatch.spec.fragment.head? ≠ some [] := by
    cbv
    simp
  exact (weave_again_eq_alreadyPresent_iff hvalid hmem happlied).2 1 _ hinsert (by cbv) rfl hlead

/-- **A patch of a valid plan can be woven in twice**: in the body of a block the two entries are
indented, so the key that spans them is not in the text. -/
theorem weave_again_entries_in_block :
    ¬∀ (plan : Plan) (patch : Patch) (t r : Text), plan.isValid = true → patch ∈ plan.patches →
      weave t patch.spec = .applied r → weave r patch.spec = .alreadyPresent := by
  intro h
  have hvalid : ({ patches := [entriesPatch] } : Plan).isValid = true := by cbv
  have hfirst : weave "list = [\n]\n" entriesPatch.spec =
      .applied "list = [\n    first,\n    second,\n]\n" := by cbv
  have hsecond : weave "list = [\n    first,\n    second,\n]\n" entriesPatch.spec =
      .applied "list = [\n    first,\n    second,\n    first,\n    second,\n]\n" := by cbv
  have hpresent := h _ _ _ _ hvalid (List.mem_singleton_self _) hfirst
  rw [hsecond] at hpresent
  cases hpresent

end Graft
