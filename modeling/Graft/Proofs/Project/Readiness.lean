import Mathlib
import Graft.Proofs.Project.Refinement
import Graft.Proofs.Weave.Outcome

/-!
# When every patch applies

A specification is ready for a text when a key of it is not there and an anchor of it
resolves; it is then woven in. To apply a whole chain, each specification has to leave
the later ones ready (`weaveAll_applied`). So a run applies every patch of a plan whose
patches are all ready for their files at first, and leave those behind them for the same
file ready (`Plan.run_applied`).
-/

namespace Graft

open Text

/-! ## Ready specifications -/

/-- The key that an identity lists last. -/
def Identity.mark (identity : Identity) : Text :=
  identity.keys.getLast?.getD []

theorem Identity.mark_mem_keys {identity : Identity} (h : identity.keys ≠ []) :
    identity.mark ∈ identity.keys := by
  rw [mark, List.getLast?_eq_some_getLast h]
  exact List.getLast_mem h

/-- The fragment is not in the text, which its last key shows, and has a place there. -/
structure Spec.IsReady (spec : Spec) (t : Text) : Prop where
  absent : ¬spec.identity.mark <:+: t
  resolves : ∃ anchor ∈ spec.anchors, (resolve? t anchor).isSome = true

/-- Weaving the first specification into a text leaves the second one ready. -/
def Spec.Leaves (first second : Spec) : Prop :=
  ∀ t r, weave t first = .applied r → second.IsReady t → second.IsReady r

theorem exists_firstPoint?_of_isSome {t : Text} {anchors : List Anchor}
    (h : ∃ anchor ∈ anchors, (resolve? t anchor).isSome = true) :
    ∃ strategy point, firstPoint? t anchors = some (strategy, point) := by
  induction anchors with
  | nil => simp at h
  | cons anchor others ih =>
      rw [firstPoint?]
      cases hresolve : resolve? t anchor with
      | some point => exact ⟨0, point, rfl⟩
      | none =>
          obtain ⟨found, hfound, hsome⟩ := h
          rcases List.mem_cons.mp hfound with rfl | hfound
          · rw [hresolve] at hsome
            cases hsome
          · obtain ⟨strategy, point, hpoint⟩ := ih ⟨found, hfound, hsome⟩
            exact ⟨strategy + 1, point, by rw [hpoint]; rfl⟩

theorem Spec.IsReady.exists_weave {spec : Spec} {t : Text} (h : spec.IsReady t) :
    ∃ r, weave t spec = .applied r := by
  have hkeys : spec.identity.keys ≠ [] := by
    intro hnil
    refine h.absent ?_
    rw [Identity.mark, hnil]
    exact List.nil_infix
  have hnot : isApplied t spec.identity = false := by
    rw [← Bool.not_eq_true, isApplied_iff]
    exact fun happlied => h.absent (happlied.2 _ (Identity.mark_mem_keys hkeys))
  obtain ⟨strategy, point, hpoint⟩ := exists_firstPoint?_of_isSome h.resolves
  refine ⟨splice t point spec.fragment, ?_⟩
  rw [weave, decision, hnot, hpoint]
  rfl

/-- **A chain of specifications that leave each other ready is woven in whole.** -/
theorem weaveAll_applied {specs : List Spec} {t : Text} (hready : ∀ spec ∈ specs, spec.IsReady t)
    (hleaves : specs.Pairwise Spec.Leaves) :
    ∀ outcome ∈ (weaveAll t specs).1, ∃ r, outcome = .applied r := by
  induction specs generalizing t with
  | nil => simp [weaveAll]
  | cons spec others ih =>
      obtain ⟨hfirst, hothers⟩ := List.pairwise_cons.mp hleaves
      obtain ⟨r, hweave⟩ := (hready spec List.mem_cons_self).exists_weave
      simp only [weaveAll, hweave, Outcome.textFrom]
      refine List.forall_mem_cons.mpr ⟨⟨r, rfl⟩, ih (fun other hother => ?_) hothers⟩
      exact hfirst other hother t r hweave (hready other (List.mem_cons_of_mem _ hother))

/-! ## Runs -/

theorem mem_reports_applied {target : Target} {t : Text} {pairs : List (Spec × Outcome)}
    (h : ∀ pair ∈ pairs, ∃ r, pair.2 = .applied r) {result : PatchResult}
    (hresult : result ∈ reports target t pairs) : ∃ diff, result = .applied target diff := by
  induction pairs generalizing t with
  | nil => cases hresult
  | cons pair others ih =>
      obtain ⟨r, hr⟩ := h pair List.mem_cons_self
      rcases List.mem_cons.mp hresult with rfl | hresult
      · rw [hr]
        exact ⟨_, rfl⟩
      · exact ih (fun other hother => h other (List.mem_cons_of_mem _ hother)) hresult

/-- The file of a patch is a text that may be written, for which the patch is ready. -/
def Patch.IsReadyIn (patch : Patch) (tree : Tree) (root : Path) : Prop :=
  ∃ file content t, patch.target? tree root = some file ∧
    tree.node? file = some (.file .full content) ∧
    tree.readText (.located file) = .ok t ∧ patch.spec.IsReady t

section Plan

variable {plan : Plan} {tree : Tree} {root : Path} {file : Location} {t : Text}
  (hready : ∀ patch ∈ plan.patches, patch.IsReadyIn tree root)
include hready

theorem Plan.targetsWritable_of_isReadyIn : plan.TargetsWritable tree root := by
  intro patch hpatch file access content htarget hfile
  obtain ⟨file', content', t, htarget', hfile', -⟩ := hready patch hpatch
  rw [htarget, Option.some.injEq] at htarget'
  subst htarget'
  rw [hfile, Option.some.injEq, Node.file.injEq] at hfile'
  exact hfile'.1

theorem Plan.isReady_of_mem_specsFor (hread : tree.readText (.located file) = .ok t) :
    ∀ spec ∈ plan.specsFor tree root file, spec.IsReady t := by
  intro spec hspec
  obtain ⟨patch, hpatch, rfl⟩ := List.mem_map.mp hspec
  obtain ⟨hpatch, hleads⟩ := List.mem_filter.mp hpatch
  obtain ⟨file', content, t', htarget, -, hread', hspec⟩ := hready patch hpatch
  rw [of_decide_eq_true hleads, Option.some.injEq] at htarget
  subst htarget
  rw [hread, Except.ok.injEq] at hread'
  exact hread' ▸ hspec

/-- **A run applies every patch** when all of them are ready at first and each leaves those behind
it for the same file ready. -/
theorem Plan.run_applied (hrelative : plan.info.workspaceRelative = true)
    (hleaves : plan.patches.Pairwise fun first second =>
      first.target? tree root = second.target? tree root → first.spec.Leaves second.spec) :
    ∀ entry ∈ (plan.run tree root .write).entries, ∃ file diff,
      entry.patch.target? tree root = some file ∧
        entry.result = .ok (.applied (.located file) diff) := by
  intro entry hentry
  cases hguard : Guard.ofRoot tree root with
  | error cause =>
      rw [run_of_noProject hrelative hguard] at hentry
      obtain ⟨patch, hpatch, -⟩ := List.mem_map.mp hentry
      obtain ⟨file, content, t, htarget, -⟩ := hready patch hpatch
      rw [Patch.target?_of_noProject hguard] at htarget
      cases htarget
  | ok guard =>
      rw [run_of_guard hrelative hguard] at hentry
      have hpatch : entry.patch ∈ plan.patches := by
        rw [← RunState.map_patch_applyAll { tree } (some guard) .write plan.patches]
        exact List.mem_map_of_mem hentry
      obtain ⟨file, content, t, htarget, -, hread, -⟩ := hready entry.patch hpatch
      have hspecs : plan.specsFor tree root file = (plan.patches.filter fun patch =>
          guard.target? tree patch = some file).map Patch.spec := by
        simp only [specsFor, Patch.target?_of_guard hguard]
      have hmayWrite : ∀ patch ∈ plan.patches, guard.MayWrite tree patch := by
        intro patch hmem file access content hleads
        exact targetsWritable_of_isReadyIn hready patch hmem file access content
          ((Patch.target?_of_guard hguard patch).trans hleads)
      have hpairwise : (plan.specsFor tree root file).Pairwise Spec.Leaves := by
        rw [specsFor, List.pairwise_map]
        refine (hleaves.filter _).imp_of_mem fun {first second} hfirst hsecond hleave => hleave ?_
        rw [of_decide_eq_true (List.mem_filter.mp hfirst).2,
          of_decide_eq_true (List.mem_filter.mp hsecond).2]
      -- the patches of the file are woven into its text one after another
      have happlied := weaveAll_applied (isReady_of_mem_specsFor hready hread) hpairwise
      obtain ⟨hresults, -⟩ := RunState.applyAll_of_readText (RunState.tracks_start tree .write)
        hmayWrite hread _ hspecs
      have hleads : decide (guard.target? tree entry.patch = some file) = true :=
        decide_eq_true ((Patch.target?_of_guard hguard entry.patch).symm.trans htarget)
      have hmem : entry.result ∈ ((RunState.applyAll { tree } (some guard) .write
          plan.patches).1.filter fun entry =>
            guard.target? tree entry.patch = some file).map Entry.result :=
        List.mem_map_of_mem (List.mem_filter.mpr ⟨hentry, hleads⟩)
      rw [hresults] at hmem
      obtain ⟨result, hresult, heq⟩ := List.mem_map.mp hmem
      obtain ⟨diff, rfl⟩ := mem_reports_applied
        (fun pair hpair => happlied pair.2 (List.of_mem_zip hpair).2) hresult
      exact ⟨file, diff, htarget, heq.symm⟩

end Plan
end Graft
