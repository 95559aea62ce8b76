import Graft.Proofs.Plan.Valid

/-!
# Which plans are accepted

The checks of a plan amount to a list of conditions that name no check: on the ids, and
patch by patch on the file, the fragment, the keys and the texts of the anchors. Where
ids repeat, an id is reported once for every patch that has it but the first; a blank
id is no duplicate of another one (`isValid_iff_and_count_duplicateId`).
-/

namespace Graft

/-! ## The texts of an anchor -/

/-- What an anchor looks for, field by field. A bound or a terminator that is left out is no part. -/
def Anchor.parts : Anchor → List (Field × Text)
  | literalAfter marker bound terminator =>
    [(.marker, marker)] ++ (bound.map (.bound, ·)).toList ++
      (terminator.map (.terminator, ·)).toList
  | literalBefore marker bound => [(.marker, marker)] ++ (bound.map (.bound, ·)).toList
  | lastLiteralAfter marker terminator =>
    [(.marker, marker)] ++ (terminator.map (.terminator, ·)).toList
  | blockBodyStart header _ => [(.header, header)]
  | blockBodyEnd header _ => [(.header, header)]
  | endOfDocument => []

namespace Anchor

/-- The field that is reported is that of the first empty part. -/
theorem emptyField?_eq (anchor : Anchor) :
    anchor.emptyField? = (anchor.parts.find? (·.2.isEmpty)).map (·.1) := by
  cases anchor with
  | literalAfter marker bound terminator =>
      cases marker <;> rcases bound with _ | (_ | _) <;> rcases terminator with _ | (_ | _) <;> rfl
  | literalBefore marker bound => cases marker <;> rcases bound with _ | (_ | _) <;> rfl
  | lastLiteralAfter marker terminator =>
      cases marker <;> rcases terminator with _ | (_ | _) <;> rfl
  | blockBodyStart header _ => cases header <;> rfl
  | blockBodyEnd header _ => cases header <;> rfl
  | endOfDocument => rfl

theorem emptyField?_eq_none_iff {anchor : Anchor} :
    anchor.emptyField? = none ↔ ∀ part ∈ anchor.parts, part.2 ≠ [] := by
  simp [emptyField?_eq]

end Anchor

/-! ## Identities -/

theorem Identity.isEmpty_eq_false_iff {identity : Identity} :
    identity.isEmpty = false ↔ ∃ key ∈ identity.keys, key ≠ [] := by
  simp [Identity.isEmpty]

/-! ## Duplicates -/

namespace Patch

variable {patch : Patch} {earlier : List Text} {id : Text}

theorem duplicateId_notMem_missing (field : Field) (isMissing : Bool) :
    Issue.duplicateId id ∉ patch.missing field isMissing := by
  cases isMissing <;> simp [missing]

theorem duplicateId_notMem_identityIssues : Issue.duplicateId id ∉ patch.identityIssues := by
  simp only [identityIssues]
  split <;> simp

theorem duplicateId_notMem_anchorIssues : Issue.duplicateId id ∉ patch.anchorIssues := by
  simp [anchorIssues, duplicateId_notMem_missing]

/-- Only the check of the id reports a duplicate, once at most. -/
theorem count_duplicateId_issues :
    (patch.issues earlier).count (.duplicateId id) =
      if patch.id = id ∧ id.isBlank = false ∧ id ∈ earlier then 1 else 0 := by
  have hid : (patch.idIssues earlier).count (.duplicateId id) =
      if patch.id = id ∧ id.isBlank = false ∧ id ∈ earlier then 1 else 0 := by
    simp only [idIssues]
    by_cases heq : patch.id = id
    · subst heq
      cases patch.id.isBlank <;> by_cases hmem : patch.id ∈ earlier <;> simp [hmem]
    · cases patch.id.isBlank <;> by_cases hmem : patch.id ∈ earlier <;> simp [heq, hmem]
  simp only [issues, List.count_append, hid,
    List.count_eq_zero.mpr (duplicateId_notMem_missing _ _),
    List.count_eq_zero.mpr duplicateId_notMem_identityIssues,
    List.count_eq_zero.mpr duplicateId_notMem_anchorIssues, Nat.add_zero]

end Patch

namespace Plan

/-- An id is reported by every patch that has it, unless it is the first one to have it. -/
theorem count_duplicateId_patchIssues {earlier : List Text} {id : Text} (hid : id.isBlank = false)
    (patches : List Patch) :
    (patchIssues earlier patches).count (.duplicateId id) =
      (patches.map Patch.id).count id - if id ∈ earlier then 0 else 1 := by
  induction patches generalizing earlier with
  | nil => simp [patchIssues]
  | cons patch others ih =>
      rw [patchIssues, List.count_append, Patch.count_duplicateId_issues, ih, List.map_cons]
      by_cases heq : patch.id = id
      · subst heq
        rw [List.count_cons_self, if_pos List.mem_cons_self]
        by_cases hmem : patch.id ∈ earlier
        · rw [if_pos ⟨rfl, hid, hmem⟩, if_pos hmem]
          omega
        · rw [if_neg fun h => hmem h.2.2, if_neg hmem]
          omega
      · have hearlier : id ∈ patch.id :: earlier ↔ id ∈ earlier := by
          rw [List.mem_cons, or_iff_right (Ne.symm heq)]
        rw [List.count_cons_of_ne heq, if_neg fun h => heq h.1, Nat.zero_add]
        simp only [hearlier]

/-- A blank id is reported as missing, never as a duplicate. -/
theorem duplicateId_notMem_patchIssues {earlier : List Text} {id : Text} (hid : id.isBlank = true)
    (patches : List Patch) : Issue.duplicateId id ∉ patchIssues earlier patches := by
  rw [← List.count_eq_zero]
  induction patches generalizing earlier with
  | nil => rfl
  | cons patch others ih =>
      rw [patchIssues, List.count_append, ih, Patch.count_duplicateId_issues]
      simp [hid]

/-- **A plan is accepted when it is well formed, and the others name each duplicate as often as it
repeats.**  Well formed means: there are patches, their ids are different and none is blank, and each
patch has a file, a line to insert, a key to look for and an anchor, its fragment holds all its
keys, and no part of an anchor is empty. -/
theorem isValid_iff_and_count_duplicateId (plan : Plan) :
    (plan.isValid = true ↔
      plan.patches ≠ [] ∧ (plan.patches.map Patch.id).Nodup ∧ ∀ patch ∈ plan.patches,
        patch.id.isBlank = false ∧ patch.file.isBlank = false ∧
        (∃ line ∈ patch.spec.fragment, Text.isBlank line = false) ∧
        (∃ key ∈ patch.spec.identity.keys, key ≠ []) ∧
        (∀ key ∈ patch.spec.identity.keys, key ≠ [] → key <:+: patch.spec.fragmentText) ∧
        patch.spec.anchors ≠ [] ∧
        ∀ anchor ∈ patch.spec.anchors, ∀ part ∈ anchor.parts, part.2 ≠ []) ∧
    ∀ id, plan.issues.count (.duplicateId id) =
      if id.isBlank then 0 else (plan.patches.map Patch.id).count id - 1 := by
  constructor
  · rw [isValid_iff]
    refine and_congr_right fun _ => and_congr_right fun _ => forall₂_congr fun patch _ => ?_
    have hfragment : patch.spec.fragment.all Text.isBlank = false ↔
        ∃ line ∈ patch.spec.fragment, Text.isBlank line = false := by
      simp
    have hkeys : (∀ key ∈ patch.spec.identity.keys, key <:+: patch.spec.fragmentText) ↔
        ∀ key ∈ patch.spec.identity.keys, key ≠ [] → key <:+: patch.spec.fragmentText := by
      refine forall₂_congr fun key _ => ⟨fun h _ => h, fun h => ?_⟩
      by_cases hnil : key = []
      · exact hnil ▸ List.nil_infix
      · exact h hnil
    have hfields : (∀ anchor ∈ patch.spec.anchors, anchor.emptyField? = none) ↔
        ∀ anchor ∈ patch.spec.anchors, ∀ part ∈ anchor.parts, part.2 ≠ [] :=
      forall₂_congr fun _ _ => Anchor.emptyField?_eq_none_iff
    rw [← hfragment, ← hkeys, ← hfields, ← Identity.isEmpty_eq_false_iff]
    exact ⟨fun h => ⟨h.id, h.file, h.fragment, h.identity, h.keys, h.anchors, h.fields⟩,
      fun ⟨hid, hfile, hfragment, hidentity, hkeys, hanchors, hfields⟩ =>
        ⟨hid, hfile, hfragment, hidentity, hkeys, hanchors, hfields⟩⟩
  · intro id
    have hplan : (if plan.patches = [] then [Issue.emptyPlan] else []).count
        (.duplicateId id) = 0 := by
      split <;> rfl
    rw [issues, List.count_append, hplan, Nat.zero_add]
    cases hid : id.isBlank with
    | true =>
        rw [if_pos rfl]
        exact List.count_eq_zero.mpr (duplicateId_notMem_patchIssues hid _)
    | false => simp [count_duplicateId_patchIssues hid]

end Plan
end Graft
