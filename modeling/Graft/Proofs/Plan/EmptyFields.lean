import Graft.Proofs.Plan.Acceptance
import Mathlib.Data.List.Count

/-!
# Which empty fields of an anchor are reported

The check of an anchor stops at the first field that is empty, so an anchor is reported
once whatever else is wrong with it, with the plan, or with the patch
(`count_missingField_issues`). A second empty field goes unreported until the first one
is filled in, unless another anchor of the patch has it as its first
(`emptyField_mem_issues_iff`).
-/

namespace Graft

/-! ## The first empty field -/

namespace Anchor

/-- The fields that anchors have. -/
def fields : List Field := [.marker, .bound, .terminator, .header]

theorem mem_fields_of_mem_parts {anchor : Anchor} {field : Field} {text : Text}
    (h : (field, text) ∈ anchor.parts) : field ∈ fields := by
  have hfields : ∀ part ∈ anchor.parts, part.1 ∈ fields := by
    cases anchor with
    | literalAfter marker bound terminator =>
        cases bound <;> cases terminator <;> simp [parts, fields]
    | literalBefore marker bound => cases bound <;> simp [parts, fields]
    | lastLiteralAfter marker terminator => cases terminator <;> simp [parts, fields]
    | blockBodyStart header _ => simp [parts, fields]
    | blockBodyEnd header _ => simp [parts, fields]
    | endOfDocument => simp [parts]
  exact hfields _ h

/-- A field is empty, and those ahead of it are not. -/
def IsFirstEmpty (anchor : Anchor) (field : Field) : Prop :=
  ∃ front back, anchor.parts = front ++ (field, []) :: back ∧ ∀ part ∈ front, part.2 ≠ []

theorem emptyField?_eq_some_iff {anchor : Anchor} {field : Field} :
    anchor.emptyField? = some field ↔ anchor.IsFirstEmpty field := by
  rw [emptyField?_eq, Option.map_eq_some_iff]
  constructor
  · rintro ⟨⟨_, text⟩, hfind, rfl⟩
    obtain ⟨hempty, front, back, hparts, hfront⟩ := List.find?_eq_some_iff_append.mp hfind
    obtain rfl : text = [] := by simpa using hempty
    exact ⟨front, back, hparts, fun part hpart => by simpa using hfront part hpart⟩
  · rintro ⟨front, back, hparts, hfront⟩
    refine ⟨(field, []), List.find?_eq_some_iff_append.mpr ⟨rfl, front, back, hparts, ?_⟩, rfl⟩
    exact fun part hpart => by simpa using hfront part hpart

/-- An anchor with an empty field has a first one. -/
theorem exists_isFirstEmpty {anchor : Anchor} {field : Field}
    (h : (field, []) ∈ anchor.parts) : ∃ first, anchor.IsFirstEmpty first := by
  cases hfirst : anchor.emptyField? with
  | some first => exact ⟨first, emptyField?_eq_some_iff.mp hfirst⟩
  | none => exact absurd rfl (emptyField?_eq_none_iff.mp hfirst _ h)

end Anchor

/-! ## How often a field is reported -/

namespace Patch

variable {patch : Patch} {earlier : List Text} {label : Option Text} {field : Field}

/-! The checks ahead of those of the anchors report no field of an anchor. -/

theorem missingField_notMem_missing {part : Field} (hfield : field ∈ Anchor.fields)
    (hpart : part ∉ Anchor.fields) (isMissing : Bool) :
    Issue.missingField label field ∉ patch.missing part isMissing := by
  have hne : field ≠ part := fun h => hpart (h ▸ hfield)
  cases isMissing <;> simp [missing, hne]

theorem missingField_notMem_idIssues (hfield : field ∈ Anchor.fields) :
    Issue.missingField label field ∉ patch.idIssues earlier := by
  have hne : field ≠ .id := fun h => absurd (h ▸ hfield) (by decide)
  simp only [idIssues]
  split
  · simp [hne]
  · split <;> simp

theorem missingField_notMem_identityIssues (hfield : field ∈ Anchor.fields) :
    Issue.missingField label field ∉ patch.identityIssues := by
  have hne : field ≠ .identity := fun h => absurd (h ▸ hfield) (by decide)
  simp only [identityIssues]
  split <;> simp [hne]

theorem count_missingField_anchorIssues (hfield : field ∈ Anchor.fields) :
    patch.anchorIssues.count (.missingField label field) =
      if patch.label = label then
        patch.spec.anchors.countP (·.emptyField? == some field)
      else 0 := by
  rw [anchorIssues, List.count_append, List.count_eq_zero.mpr
    (missingField_notMem_missing hfield (by decide) _), Nat.zero_add]
  by_cases hlabel : patch.label = label
  · have hinj : Function.Injective (Issue.missingField label) :=
      fun _ _ h => (Issue.missingField.inj h).2
    rw [if_pos hlabel, hlabel, List.count_map_of_injective _ _ hinj, List.count_filterMap]
  · rw [if_neg hlabel, List.count_eq_zero]
    simp [hlabel]

theorem count_missingField_issues (hfield : field ∈ Anchor.fields) :
    (patch.issues earlier).count (.missingField label field) =
      if patch.label = label then
        patch.spec.anchors.countP (·.emptyField? == some field)
      else 0 := by
  simp only [issues, List.count_append, count_missingField_anchorIssues hfield,
    List.count_eq_zero.mpr (missingField_notMem_idIssues hfield),
    List.count_eq_zero.mpr (missingField_notMem_identityIssues hfield),
    List.count_eq_zero.mpr (missingField_notMem_missing hfield (by decide : Field.file ∉ _) _),
    List.count_eq_zero.mpr (missingField_notMem_missing hfield (by decide : Field.fragment ∉ _) _),
    Nat.zero_add]

end Patch

namespace Plan

/-- The anchors of the patches that issues name so. -/
def anchorsOf (label : Option Text) (patches : List Patch) : List Anchor :=
  (patches.filter (·.label = label)).flatMap (·.spec.anchors)

/-- Each anchor is reported once, by its first empty field, whatever the other issues are. -/
theorem count_missingField_patchIssues {field : Field} (hfield : field ∈ Anchor.fields)
    (label : Option Text) (earlier : List Text) (patches : List Patch) :
    (patchIssues earlier patches).count (.missingField label field) =
      (anchorsOf label patches).countP (·.emptyField? == some field) := by
  induction patches generalizing earlier with
  | nil => rfl
  | cons patch others ih =>
      rw [patchIssues, List.count_append, ih, Patch.count_missingField_issues hfield, anchorsOf,
        anchorsOf]
      by_cases hlabel : patch.label = label
      · simp [hlabel]
      · simp [hlabel]

theorem count_missingField_issues {field : Field} (hfield : field ∈ Anchor.fields)
    (plan : Plan) (label : Option Text) :
    plan.issues.count (.missingField label field) =
      (anchorsOf label plan.patches).countP (·.emptyField? == some field) := by
  have hplan : (if plan.patches = [] then [Issue.emptyPlan] else []).count
      (.missingField label field) = 0 := by
    split <;> rfl
  rw [issues, List.count_append, hplan, Nat.zero_add, count_missingField_patchIssues hfield]

theorem mem_anchorsOf {label : Option Text} {patches : List Patch} {anchor : Anchor} :
    anchor ∈ anchorsOf label patches ↔
      ∃ patch ∈ patches, patch.label = label ∧ anchor ∈ patch.spec.anchors := by
  simp [anchorsOf, and_assoc]

/-- **An empty field of an anchor is reported exactly if it is the first empty one of the anchor, or
of another anchor that issues name the same way.** -/
theorem emptyField_mem_issues_iff {plan : Plan} {patch : Patch} {anchor : Anchor} {field : Field}
    (hpatch : patch ∈ plan.patches) (hanchor : anchor ∈ patch.spec.anchors)
    (hempty : (field, []) ∈ anchor.parts) :
    (∃ first, anchor.IsFirstEmpty first ∧ .missingField patch.label first ∈ plan.issues) ∧
    (.missingField patch.label field ∈ plan.issues ↔
      ∃ other ∈ plan.patches, other.label = patch.label ∧
        ∃ sibling ∈ other.spec.anchors, sibling.IsFirstEmpty field) := by
  have hissue : ∀ {field}, field ∈ Anchor.fields →
      (.missingField patch.label field ∈ plan.issues ↔
        ∃ other ∈ plan.patches, other.label = patch.label ∧
          ∃ sibling ∈ other.spec.anchors, sibling.IsFirstEmpty field) := by
    intro field hfield
    rw [← List.count_pos_iff, count_missingField_issues hfield, List.countP_pos_iff]
    simp only [mem_anchorsOf, beq_iff_eq, Anchor.emptyField?_eq_some_iff]
    exact ⟨fun ⟨sibling, ⟨other, hother, hlabel, hmem⟩, hfirst⟩ =>
        ⟨other, hother, hlabel, sibling, hmem, hfirst⟩,
      fun ⟨other, hother, hlabel, sibling, hmem, hfirst⟩ =>
        ⟨sibling, ⟨other, hother, hlabel, hmem⟩, hfirst⟩⟩
  refine ⟨?_, hissue (Anchor.mem_fields_of_mem_parts hempty)⟩
  obtain ⟨first, hfirst⟩ := Anchor.exists_isFirstEmpty hempty
  obtain ⟨front, back, hparts, hfront⟩ := hfirst
  have hmem : (first, []) ∈ anchor.parts := by simp [hparts]
  exact ⟨first, ⟨front, back, hparts, hfront⟩, (hissue (Anchor.mem_fields_of_mem_parts hmem)).mpr
    ⟨patch, hpatch, rfl, anchor, hanchor, front, back, hparts, hfront⟩⟩

/-- Two patches without an id, one of them without a file. The first anchor has no marker and an
empty bound; that of the other patch has an empty bound as well, behind a marker. -/
def unboundPlan : Plan where
  patches :=
    [ { id := " ", file := [],
        spec :=
          { fragment := ["x"], identity := .contains "y",
            anchors := [.literalAfter [] (some []) (some []), .blockBodyEnd [] .brace] } },
      { id := [], file := "list",
        spec :=
          { fragment := [], identity := .contains [],
            anchors := [.literalBefore "x" (some [])] } } ]

/-- The bound of the first anchor is reported, for the sake of the other one; its terminator is
not. -/
theorem unboundPlan_reports_bound :
    .missingField none .bound ∈ unboundPlan.issues ∧
      .missingField none .terminator ∉ unboundPlan.issues := by
  have hpatch : unboundPlan.patches[0] ∈ unboundPlan.patches := by decide
  have hanchor : .literalAfter [] (some []) (some []) ∈ unboundPlan.patches[0].spec.anchors := by
    decide
  have hbound := emptyField_mem_issues_iff hpatch hanchor (by decide : (.bound, []) ∈ _)
  have hterminator := emptyField_mem_issues_iff hpatch hanchor (by decide : (.terminator, []) ∈ _)
  refine ⟨hbound.2.mpr ?_, ?_⟩
  · exact ⟨unboundPlan.patches[1], by decide, by decide, .literalBefore "x" (some []), by decide,
      [(.marker, "x")], [], rfl, by decide⟩
  · rw [show (none : Option Text) = unboundPlan.patches[0].label by decide, hterminator.2]
    simp only [← Anchor.emptyField?_eq_some_iff]
    decide

/-- An empty bound behind an empty marker goes unreported. -/
theorem bound_behind_marker_unreported :
    ¬ ∀ (plan : Plan), ∀ patch ∈ plan.patches, ∀ anchor ∈ patch.spec.anchors, ∀ field,
      (field, []) ∈ anchor.parts → .missingField patch.label field ∈ plan.issues := by
  intro h
  let patch : Patch :=
    { id := "p", file := "f",
      spec :=
        { fragment := ["x"], identity := .contains "x",
          anchors := [.literalAfter [] (some []) none] } }
  exact absurd (h { patches := [patch] } patch (by decide) (.literalAfter [] (some []) none)
    (by decide) .bound (by decide)) (by decide)

end Plan
end Graft
