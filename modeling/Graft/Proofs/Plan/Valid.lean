import Graft.Plan.Issue

/-!
# Patches of a valid plan

A plan is valid when it has patches, no two of one id, and each of them is fit on its
own (`isValid_iff`): the checks of a patch look at the patches before it for their ids
alone. A fit patch has a key to look for, and its fragment holds all of its keys
(`keys_of_isValid`).
-/

namespace Graft

/-- A patch that no check has anything against, whatever plan it stands in. -/
structure Patch.IsFit (patch : Patch) : Prop where
  id : patch.id.isBlank = false
  file : patch.file.isBlank = false
  fragment : patch.spec.fragment.all Text.isBlank = false
  identity : patch.spec.identity.isEmpty = false
  keys : ∀ key ∈ patch.spec.identity.keys, key <:+: patch.spec.fragmentText
  anchors : patch.spec.anchors ≠ []
  fields : ∀ anchor ∈ patch.spec.anchors, anchor.emptyField? = none

namespace Patch

variable {patch : Patch}

theorem missing_eq_nil_iff {field : Field} {isMissing : Bool} :
    patch.missing field isMissing = [] ↔ isMissing = false := by
  cases isMissing <;> simp [missing]

theorem idIssues_eq_nil_iff {earlier : List Text} :
    patch.idIssues earlier = [] ↔ patch.id.isBlank = false ∧ patch.id ∉ earlier := by
  simp only [idIssues]
  split
  · rename_i hblank
    simp [hblank]
  · rename_i hshown
    rw [Bool.not_eq_true] at hshown
    split
    · rename_i hmem
      simp [hmem]
    · rename_i hmem
      simp [hshown, hmem]

/-- An empty key is passed over, so of the others each has to be in the fragment. -/
theorem identityIssues_eq_nil_iff :
    patch.identityIssues = [] ↔ patch.spec.identity.isEmpty = false ∧
      ∀ key ∈ patch.spec.identity.keys, key <:+: patch.spec.fragmentText := by
  simp only [identityIssues]
  split
  · rename_i hempty
    simp [hempty]
  · rename_i hkey
    rw [Bool.not_eq_true] at hkey
    rw [List.map_eq_nil_iff, List.filter_eq_nil_iff]
    refine ⟨fun h => ⟨hkey, fun key hmem => ?_⟩, fun h key hmem => ?_⟩
    · have hfound := h key hmem
      simp only [Bool.and_eq_true, Bool.not_eq_true', not_and, Bool.not_eq_false,
        Text.holds_iff] at hfound
      by_cases hnil : key = []
      · rw [hnil]
        exact List.nil_infix
      · exact hfound (by simpa using hnil)
    · have hfound := (Text.holds_iff _ _).mpr (h.2 key hmem)
      simp [hfound]

theorem anchorIssues_eq_nil_iff :
    patch.anchorIssues = [] ↔ patch.spec.anchors ≠ [] ∧
      ∀ anchor ∈ patch.spec.anchors, anchor.emptyField? = none := by
  rw [anchorIssues, List.append_eq_nil_iff, missing_eq_nil_iff, List.map_eq_nil_iff,
    List.filterMap_eq_nil_iff]
  exact and_congr_left fun _ => by simp

/-- **A patch has no issue when it is fit and no patch before it has its id.** -/
theorem issues_eq_nil_iff {earlier : List Text} :
    patch.issues earlier = [] ↔ patch.IsFit ∧ patch.id ∉ earlier := by
  simp only [issues, List.append_eq_nil_iff, idIssues_eq_nil_iff, missing_eq_nil_iff,
    identityIssues_eq_nil_iff, anchorIssues_eq_nil_iff]
  constructor
  · rintro ⟨⟨⟨⟨⟨hid, hnew⟩, hfile⟩, hfragment⟩, hidentity, hkeys⟩, hanchors, hfields⟩
    exact ⟨⟨hid, hfile, hfragment, hidentity, hkeys, hanchors, hfields⟩, hnew⟩
  · rintro ⟨hfit, hnew⟩
    exact ⟨⟨⟨⟨⟨hfit.id, hnew⟩, hfit.file⟩, hfit.fragment⟩, hfit.identity, hfit.keys⟩,
      hfit.anchors, hfit.fields⟩

end Patch

namespace Plan

/-- The patches of a list have no issues when each is fit and its id is none of those before. -/
theorem patchIssues_eq_nil_iff {earlier : List Text} {patches : List Patch} :
    patchIssues earlier patches = [] ↔ (∀ patch ∈ patches, patch.IsFit) ∧
      (patches.map Patch.id).Nodup ∧ ∀ patch ∈ patches, patch.id ∉ earlier := by
  induction patches generalizing earlier with
  | nil => simp [patchIssues]
  | cons patch others ih =>
      rw [patchIssues, List.append_eq_nil_iff, Patch.issues_eq_nil_iff, ih]
      constructor
      · rintro ⟨⟨hfit, hnew⟩, hothers, hnodup, hlater⟩
        refine ⟨List.forall_mem_cons.mpr ⟨hfit, hothers⟩, ?_, List.forall_mem_cons.mpr ⟨hnew, ?_⟩⟩
        · rw [List.map_cons, List.nodup_cons]
          refine ⟨fun hmem => ?_, hnodup⟩
          obtain ⟨other, hother, hid⟩ := List.mem_map.mp hmem
          exact hlater other hother (hid ▸ List.mem_cons_self)
        · intro other hother hmem
          exact hlater other hother (List.mem_cons_of_mem _ hmem)
      · rintro ⟨hfit, hnodup, hnew⟩
        rw [List.map_cons, List.nodup_cons] at hnodup
        refine ⟨⟨hfit patch List.mem_cons_self, hnew patch List.mem_cons_self⟩,
          fun other hother => hfit other (List.mem_cons_of_mem _ hother), hnodup.2, ?_⟩
        intro other hother hmem
        rcases List.mem_cons.mp hmem with hid | hmem
        · exact hnodup.1 (hid ▸ List.mem_map_of_mem hother)
        · exact hnew other (List.mem_cons_of_mem _ hother) hmem

/-- **A plan is valid when it has patches, of different ids, and each of them is fit.** -/
theorem isValid_iff {plan : Plan} :
    plan.isValid = true ↔ plan.patches ≠ [] ∧ (plan.patches.map Patch.id).Nodup ∧
      ∀ patch ∈ plan.patches, patch.IsFit := by
  rw [isValid, List.isEmpty_iff, issues, List.append_eq_nil_iff, patchIssues_eq_nil_iff]
  constructor
  · rintro ⟨hpatches, hfit, hnodup, -⟩
    refine ⟨fun hnil => ?_, hnodup, hfit⟩
    rw [if_pos hnil] at hpatches
    cases hpatches
  · rintro ⟨hpatches, hnodup, hfit⟩
    exact ⟨if_neg hpatches, hfit, hnodup, fun _ _ => List.not_mem_nil⟩

/-- A patch of a valid plan has a key, and its fragment holds every key that it has. -/
theorem keys_of_isValid {plan : Plan} {patch : Patch} (h : plan.isValid = true)
    (hmem : patch ∈ plan.patches) :
    patch.spec.identity.isEmpty = false ∧
      ∀ key ∈ patch.spec.identity.keys, key <:+: patch.spec.fragmentText := by
  have hfit := (isValid_iff.mp h).2.2 patch hmem
  exact ⟨hfit.identity, hfit.keys⟩

end Plan
end Graft
