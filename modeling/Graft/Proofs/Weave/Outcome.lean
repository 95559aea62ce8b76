import Graft.Proofs.Resolve.Cut

/-!
# When weaving does what

A fragment counts as present exactly when its identity has a key to look for and
the text holds every key (`isApplied_iff`). Each outcome of weaving is tied to
what it comes from: `weave_eq_alreadyPresent_iff`, `exists_of_weave_eq_applied`.
-/

namespace Graft

open Text

/-- An identity applies to a text when it has a key to look for and the text holds them all. -/
theorem isApplied_iff {t : Text} {identity : Identity} :
    isApplied t identity = true ↔
      identity.isEmpty = false ∧ ∀ key ∈ identity.keys, key <:+: t := by
  simp only [isApplied, Bool.and_eq_true, Bool.not_eq_true', List.all_filter, List.all_eq_true,
    Bool.or_eq_true, Bool.not_not, List.isEmpty_iff, holds_iff]
  refine and_congr_right fun _ => forall₂_congr fun key _ => ?_
  constructor
  · rintro (rfl | h)
    · exact List.nil_infix
    · exact h
  · exact .inr

/-- Nothing is woven exactly where the identity applies. -/
theorem weave_eq_alreadyPresent_iff {t : Text} {spec : Spec} :
    weave t spec = .alreadyPresent ↔ isApplied t spec.identity = true := by
  simp only [weave, decision]
  split
  · rename_i happlied
    exact ⟨fun _ => happlied, fun _ => rfl⟩
  · rename_i happlied
    refine ⟨fun h => ?_, fun h => absurd h happlied⟩
    split at h <;> cases h

/-- A fragment is woven in at the first point that its anchors resolve to. -/
theorem exists_of_weave_eq_applied {t r : Text} {spec : Spec} (h : weave t spec = .applied r) :
    isApplied t spec.identity = false ∧ ∃ strategy point,
      decision t spec = .insert strategy point ∧
        firstPoint? t spec.anchors = some (strategy, point) ∧
        r = splice t point spec.fragment := by
  simp only [weave, decision] at h ⊢
  split at h
  · cases h
  · rename_i happlied
    rw [Bool.not_eq_true] at happlied
    split at h
    · rename_i strategy point hpoint
      cases h
      refine ⟨happlied, strategy, point, ?_, hpoint, rfl⟩
      rw [if_neg (by simp [happlied])]
    · cases h

end Graft
