import Mathlib
import Graft.Proofs.Project.Step

/-!
# Patches that do not apply

A patch that fails, that finds its fragment there, or that finds no place for it hands
on the state it was given: the tree and the drafts (`RunState.apply_state_eq`). So it
makes no difference to the rest of the plan. Without it, all other patches come to what
they came to with it, and the run leaves the same tree (`Plan.run_eraseIdx`). That holds
with a guard and without, and in both modes.
-/

namespace Graft
namespace RunState

variable {guard : Option Guard} {mode : RunMode} {state : RunState} {patch : Patch}

/-! ## One patch -/

/-- Only a step that applies its patch changes the state. -/
theorem Step.state_eq {target : Target} {outcome : Entry × RunState}
    (hstep : Step state mode patch target outcome)
    (hresult : ∀ file diff, outcome.1.result ≠ .ok (.applied file diff)) : outcome.2 = state := by
  cases hstep with
  | unreadable _ => rfl
  | unwritable _ _ _ => rfl
  | unchanged _ _ => rfl
  | @applied t patched _ _ hweave _ =>
      refine (hresult target (Diff.unified target.path t patched) ?_).elim
      rw [Patch.entryOn, hweave]
      rfl

/-- **A patch that is not applied leaves the tree and the drafts as they are.** -/
theorem apply_state_eq
    (hresult : ∀ file diff, (state.apply guard mode patch).1.result ≠ .ok (.applied file diff)) :
    (state.apply guard mode patch).2 = state := by
  unfold apply at hresult ⊢
  cases htarget : targetOf guard state.tree patch with
  | error cause => rfl
  | ok target =>
      simp only [htarget] at hresult ⊢
      exact (step_applyTo state mode patch target).state_eq hresult

/-! ## All patches -/

/-- Without a patch that is not applied, the other patches do what they did. -/
theorem applyAll_eraseIdx {patches : List Patch} {i : Nat} {entry : Entry}
    (hentry : (state.applyAll guard mode patches).1[i]? = some entry)
    (hresult : ∀ file diff, entry.result ≠ .ok (.applied file diff)) :
    state.applyAll guard mode (patches.eraseIdx i) =
      ((state.applyAll guard mode patches).1.eraseIdx i,
        (state.applyAll guard mode patches).2) := by
  induction patches generalizing state i with
  | nil => rfl
  | cons patch others ih =>
      rw [applyAll_cons] at hentry ⊢
      cases i with
      | zero =>
          -- the others start from the state that the patch was given
          rw [List.getElem?_cons_zero, Option.some.injEq] at hentry
          subst hentry
          rw [List.eraseIdx_cons_zero, List.eraseIdx_cons_zero, apply_state_eq hresult]
      | succ i =>
          rw [List.getElem?_cons_succ] at hentry
          rw [List.eraseIdx_cons_succ, List.eraseIdx_cons_succ, applyAll_cons, ih hentry]

end RunState

/-! ## A plan -/

/-- A plan without the patch at an index. -/
def Plan.eraseIdx (plan : Plan) (i : Nat) : Plan :=
  { plan with patches := plan.patches.eraseIdx i }

theorem Plan.guard?_eraseIdx (plan : Plan) (i : Nat) (tree : Tree) (root : Path) :
    (plan.eraseIdx i).guard? tree root = plan.guard? tree root :=
  rfl

/-- **Patches that do not apply are invisible.**  A run reports on each patch in order, and when the
patch at an index was not applied, the plan without it gives the same reports on all others, the
same verdict on the project and the same tree. -/
theorem Plan.run_eraseIdx {plan : Plan} {tree : Tree} {root : Path} {mode : RunMode} {i : Nat}
    {entry : Entry} (hentry : (plan.run tree root mode).entries[i]? = some entry)
    (hresult : ∀ file diff, entry.result ≠ .ok (.applied file diff)) :
    (plan.run tree root mode).entries.map Entry.patch = plan.patches ∧
      ((plan.eraseIdx i).run tree root mode).entries =
        (plan.run tree root mode).entries.eraseIdx i ∧
      ((plan.eraseIdx i).run tree root mode).tree = (plan.run tree root mode).tree ∧
      ((plan.eraseIdx i).run tree root mode).rejected = (plan.run tree root mode).rejected := by
  unfold Plan.run at hentry ⊢
  rw [guard?_eraseIdx]
  cases hguard : plan.guard? tree root with
  | error cause =>
      -- without a project every patch fails alike
      refine ⟨by simp [Function.comp_def], ?_, rfl, rfl⟩
      simp only [eraseIdx, List.eraseIdx_map]
  | ok guard =>
      simp only [hguard] at hentry
      have hothers := RunState.applyAll_eraseIdx hentry hresult
      refine ⟨RunState.map_patch_applyAll _ guard mode plan.patches, ?_, ?_, rfl⟩
      · exact congrArg Prod.fst hothers
      · exact congrArg (fun done => done.2.tree) hothers

/-- A tree with one list. -/
def listTree : Tree where
  nodes := [(["list"], .file .full (Text.encode "a\n"))]
  home := []

/-- A line for the end of a file. -/
def endPatch (id file line : Text) : Patch where
  id
  file
  spec := { fragment := [line], identity := .contains line, anchors := [.endOfDocument] }

/-- A plan with a line that is there already, between one that is put at the end of the list and one
for a file that is not there. -/
def listPlan : Plan where
  patches :=
    [endPatch "first" "list" "b", endPatch "again" "./list" "b", endPatch "lost" "gone" "c"]

/-- The line that is there already makes no difference to the two other patches. -/
theorem listPlan_without_again :
    ∃ entry, (listPlan.run listTree "/" .write).entries[1]? = some entry ∧
      (∀ file diff, entry.result ≠ .ok (.applied file diff)) ∧
      ((listPlan.eraseIdx 1).run listTree "/" .write).entries =
        (listPlan.run listTree "/" .write).entries.eraseIdx 1 ∧
      ((listPlan.eraseIdx 1).run listTree "/" .write).tree =
        (listPlan.run listTree "/" .write).tree := by
  have hagain : (listPlan.run listTree "/" .write).entries[1]?.map Entry.result =
      some (.ok (.alreadyPresent (.named "./list"))) := by cbv
  obtain ⟨entry, hentry, hpresent⟩ := Option.map_eq_some_iff.mp hagain
  have hresult : ∀ file diff, entry.result ≠ .ok (.applied file diff) := by
    intro file diff
    rw [hpresent]
    simp
  obtain ⟨-, hentries, htree, -⟩ := Plan.run_eraseIdx hentry hresult
  exact ⟨entry, hentry, hresult, hentries, htree⟩

end Graft
