import Mathlib
import Graft.Proofs.Project.Step
import Graft.Proofs.Weave.Permanence

/-!
# Running a plan again

A plan may be run on a project again and again, each time on the tree that the run
before it left. What a run keeps is the shape of the tree, so every patch leads where it
led the first time (`Plan.tracks_treeAfter`), and the keys that all anchors of the plan
spare, in whatever file they are (`RunState.Holds.applyAll`). So a patch that is found by
such keys is put into its file once at most: after a run that put it there or found it
there, each later run finds it (`Plan.IsPermanent.rerun`).
-/

namespace Graft

open Text

/-- Whether a fragment is in its file now, because it was put there or because it was found
there. -/
def PatchResult.isPresent : PatchResult → Bool
  | applied _ _ => true
  | alreadyPresent _ => true
  | anchorNotFound _ _ => false

theorem Outcome.file_report (outcome : Outcome) (target : Target) (t : Text) (spec : Spec) :
    (outcome.report target t spec).file = target := by
  cases outcome <;> rfl

/-! ## What a step keeps -/

/-- Every anchor of the specification spares every key. -/
def Spec.Spares (spec : Spec) (keys : List Text) : Prop :=
  ∀ anchor ∈ spec.anchors, ∀ key ∈ keys, key ≠ [] → anchor.Spares key

theorem Spec.Spares.infix_textFrom {spec : Spec} {keys : List Text} {t : Text}
    (h : spec.Spares keys) (hkeys : ∀ key ∈ keys, key <:+: t) :
    ∀ key ∈ keys, key <:+: (weave t spec).textFrom t := by
  intro key hkey
  by_cases hne : key = []
  · rw [hne]
    exact List.nil_infix
  · exact infix_textFrom_weave (fun anchor hanchor => h anchor hanchor key hkey hne)
      (hkeys key hkey)

namespace RunState

/-- The run sees all keys in a file. -/
def Holds (state : RunState) (file : Location) (keys : List Text) : Prop :=
  ∃ t, state.readText (.located file) = .ok t ∧ ∀ key ∈ keys, key <:+: t

variable {origin : Tree} {guard : Guard} {mode : RunMode} {state : RunState} {patch : Patch}
  {patches : List Patch} {file : Location} {keys : List Text} {outcome : Entry × RunState}
  {result : PatchResult}

/-- What a step leaves in its own file: the text that was there, or that text with the fragment. -/
theorem Step.readText_cases {t : Text} (hstep : Step state mode patch (.located file) outcome)
    (htracks : Tracks origin mode state) (hread : state.readText (.located file) = .ok t) :
    outcome.2.readText (.located file) = .ok t ∨
      outcome.2.readText (.located file) = .ok ((weave t patch.spec).textFrom t) := by
  cases hstep with
  | unreadable _ => exact .inl hread
  | unwritable _ _ _ => exact .inl hread
  | unchanged _ _ => exact .inl hread
  | applied hread' hweave hwrite =>
      rw [hread] at hread'
      cases hread'
      rw [hweave]
      exact .inr (htracks.writeText_eq_ok hwrite).2.self

/-- A step that does not fail weaves its fragment into the text that the run sees. -/
theorem Step.of_result_eq_ok (hstep : Step state mode patch (.located file) outcome)
    (htracks : Tracks origin mode state) (hresult : outcome.1.result = .ok result) :
    ∃ t, result = (weave t patch.spec).report (.located file) t patch.spec ∧
      outcome.2.readText (.located file) = .ok ((weave t patch.spec).textFrom t) := by
  cases hstep with
  | unreadable _ => cases hresult
  | unwritable _ _ _ => cases hresult
  | @applied t patched next hread hweave hwrite =>
      cases hresult
      refine ⟨t, rfl, ?_⟩
      rw [hweave]
      exact (htracks.writeText_eq_ok hwrite).2.self
  | @unchanged t hread hweave =>
      cases hresult
      refine ⟨t, rfl, ?_⟩
      cases houtcome : weave t patch.spec with
      | applied patched => exact (hweave patched houtcome).elim
      | alreadyPresent => exact hread
      | anchorNotFound => exact hread

/-- A step on a text that has the fragment reports so. -/
theorem Step.of_alreadyPresent {target : Target} {t : Text}
    (hstep : Step state mode patch target outcome) (hread : state.readText target = .ok t)
    (hpresent : weave t patch.spec = .alreadyPresent) :
    outcome.1.result = .ok (.alreadyPresent target) := by
  cases hstep with
  | unreadable hread' =>
      rw [hread] at hread'
      cases hread'
  | unwritable hread' hweave _ =>
      rw [hread] at hread'
      cases hread'
      rw [hpresent] at hweave
      cases hweave
  | applied hread' hweave _ =>
      rw [hread] at hread'
      cases hread'
      rw [hpresent] at hweave
      cases hweave
  | unchanged hread' _ =>
      rw [hread] at hread'
      cases hread'
      rw [Patch.entryOn, hpresent]
      rfl

/-- **A patch keeps what its anchors spare**, in its own file and in every other one. -/
theorem Holds.apply (h : state.Holds file keys) (htracks : Tracks origin mode state)
    (hspares : patch.spec.Spares keys) :
    (state.apply (some guard) mode patch).2.Holds file keys := by
  obtain ⟨t, hread, hkeys⟩ := h
  rcases apply_cases htracks.shape guard mode patch with ⟨-, cause, heq⟩ | ⟨location, -, hstep⟩
  · rw [heq]
    exact ⟨t, hread, hkeys⟩
  · by_cases heq : file = location
    · subst heq
      rcases hstep.readText_cases htracks hread with hnext | hnext
      · exact ⟨t, hnext, hkeys⟩
      · exact ⟨_, hnext, hspares.infix_textFrom hkeys⟩
    · exact ⟨t, (hstep.readText_of_ne htracks heq).trans hread, hkeys⟩

theorem Holds.applyAll (h : state.Holds file keys) (htracks : Tracks origin mode state)
    (hspares : ∀ patch ∈ patches, patch.spec.Spares keys) :
    (state.applyAll (some guard) mode patches).2.Holds file keys := by
  induction patches generalizing state with
  | nil => exact h
  | cons patch others ih =>
      rw [applyAll_cons]
      exact ih (h.apply htracks (hspares patch List.mem_cons_self))
        (apply_spec htracks guard patch).2
        fun other hother => hspares other (List.mem_cons_of_mem _ hother)

/-! ## What a step finds -/

/-- Behind a patch that is in its file, the file holds all keys of the patch. -/
theorem holds_of_isPresent (htracks : Tracks origin mode state)
    (hfragment : ∀ key ∈ patch.spec.identity.keys, key <:+: patch.spec.fragmentText)
    (hspares : patch.spec.Spares patch.spec.identity.keys)
    (hresult : (state.apply (some guard) mode patch).1.result = .ok result)
    (hpresent : result.isPresent = true) :
    ∃ file, guard.target? origin patch = some file ∧ result.file = .located file ∧
      (state.apply (some guard) mode patch).2.Holds file patch.spec.identity.keys := by
  rcases apply_cases htracks.shape guard mode patch with ⟨-, cause, heq⟩ | ⟨file, htarget, hstep⟩
  · rw [heq] at hresult
    cases hresult
  · obtain ⟨t, rfl, hnext⟩ := hstep.of_result_eq_ok htracks hresult
    refine ⟨file, htarget, Outcome.file_report _ _ _ _, _, hnext, keys_infix_textFrom ?_ ?_⟩
    · intro key hkey hne
      exact ⟨hfragment key hkey, fun anchor hanchor => hspares anchor hanchor key hkey hne⟩
    · intro hweave
      rw [hweave] at hpresent
      cases hpresent

/-- A patch is found where the file holds all of its keys. -/
theorem apply_of_holds (htracks : Tracks origin mode state)
    (hidentity : patch.spec.identity.isEmpty = false)
    (htarget : guard.target? origin patch = some file)
    (h : state.Holds file patch.spec.identity.keys) :
    (state.apply (some guard) mode patch).1.result = .ok (.alreadyPresent (.located file)) := by
  obtain ⟨t, hread, hkeys⟩ := h
  have hpresent : weave t patch.spec = .alreadyPresent :=
    weave_eq_alreadyPresent_iff.mpr (isApplied_iff.mpr ⟨hidentity, hkeys⟩)
  rcases apply_cases htracks.shape guard mode patch with ⟨hnone, -⟩ | ⟨location, hleads, hstep⟩
  · rw [hnone] at htarget
    cases htarget
  · rw [htarget, Option.some.injEq] at hleads
    subst hleads
    exact hstep.of_alreadyPresent hread hpresent

/-! ## What a run keeps -/

/-- After a run with a patch that is in its file, the file holds all keys of the patch, if the plan
spares them. -/
theorem holds_applyAll_of_isPresent (htracks : Tracks origin mode state) {i : Nat} {entry : Entry}
    (hentry : (state.applyAll (some guard) mode patches).1[i]? = some entry)
    (hpatch : patches[i]? = some patch)
    (hfragment : ∀ key ∈ patch.spec.identity.keys, key <:+: patch.spec.fragmentText)
    (hspares : ∀ other ∈ patches, other.spec.Spares patch.spec.identity.keys)
    (hresult : entry.result = .ok result) (hpresent : result.isPresent = true) :
    ∃ file, guard.target? origin patch = some file ∧ result.file = .located file ∧
      (state.applyAll (some guard) mode patches).2.Holds file patch.spec.identity.keys := by
  induction patches generalizing state i with
  | nil => cases hpatch
  | cons first others ih =>
      obtain ⟨-, htracks'⟩ := apply_spec htracks guard first
      have hothers : ∀ other ∈ others, other.spec.Spares patch.spec.identity.keys :=
        fun other hother => hspares other (List.mem_cons_of_mem _ hother)
      rw [applyAll_cons] at hentry ⊢
      cases i with
      | zero =>
          cases hpatch
          cases hentry
          obtain ⟨file, htarget, hfile, hholds⟩ :=
            holds_of_isPresent htracks hfragment (hspares patch List.mem_cons_self) hresult hpresent
          exact ⟨file, htarget, hfile, hholds.applyAll htracks' hothers⟩
      | succ i => exact ih htracks' hentry hpatch hothers

/-- A run finds a patch whose keys it sees in the file from the start on. -/
theorem applyAll_of_holds (htracks : Tracks origin mode state) {i : Nat} {entry : Entry}
    (hentry : (state.applyAll (some guard) mode patches).1[i]? = some entry)
    (hpatch : patches[i]? = some patch) (hidentity : patch.spec.identity.isEmpty = false)
    (hspares : ∀ other ∈ patches, other.spec.Spares patch.spec.identity.keys)
    (htarget : guard.target? origin patch = some file)
    (h : state.Holds file patch.spec.identity.keys) :
    entry.result = .ok (.alreadyPresent (.located file)) := by
  induction patches generalizing state i with
  | nil => cases hpatch
  | cons first others ih =>
      rw [applyAll_cons] at hentry
      cases i with
      | zero =>
          cases hpatch
          cases hentry
          exact apply_of_holds htracks hidentity htarget h
      | succ i =>
          exact ih (apply_spec htracks guard first).2 hentry hpatch
            (fun other hother => hspares other (List.mem_cons_of_mem _ hother))
            (h.apply htracks (hspares first List.mem_cons_self))

end RunState

/-! ## One run after the other -/

/-- The tree after a plan has been run on it `n` times. -/
def Plan.treeAfter (plan : Plan) (tree : Tree) (root : Path) : Nat → Tree
  | 0 => tree
  | n + 1 => (plan.run (plan.treeAfter tree root n) root .write).tree

/-- What a plan reports when it has been run `n` times before. -/
def Plan.entriesAfter (plan : Plan) (tree : Tree) (root : Path) (n : Nat) : List Entry :=
  (plan.run (plan.treeAfter tree root n) root .write).entries

/-- What a plan comes to for the patch at an index when it has been run `n` times before. -/
def Plan.resultAfter (plan : Plan) (tree : Tree) (root : Path) (n i : Nat) :
    Option (Except RunError PatchResult) :=
  (plan.entriesAfter tree root n)[i]?.map Entry.result

/-- A plan that is run under a guard and spares what its patches are found by. -/
structure Plan.IsPermanent (plan : Plan) : Prop where
  relative : plan.info.workspaceRelative = true
  identity : ∀ patch ∈ plan.patches, patch.spec.identity.isEmpty = false
  fragment : ∀ patch ∈ plan.patches, ∀ key ∈ patch.spec.identity.keys,
    key <:+: patch.spec.fragmentText
  spares : ∀ patch ∈ plan.patches, ∀ other ∈ plan.patches,
    other.spec.Spares patch.spec.identity.keys

theorem Guard.ofRoot_eq {origin tree : Tree} (h : origin.SameShape tree) (root : Path) :
    Guard.ofRoot tree root = Guard.ofRoot origin root := by
  unfold Guard.ofRoot Tree.locate
  simp only [h.place_eq, h.locateFrom_eq]

namespace Plan

variable {plan : Plan} {tree : Tree} {root : Path}

/-- **No run changes the shape of the tree.** -/
theorem tracks_treeAfter (hrelative : plan.info.workspaceRelative = true) (tree : Tree)
    (root : Path) (n : Nat) :
    RunState.Tracks tree .write { tree := plan.treeAfter tree root n } := by
  induction n with
  | zero => exact RunState.tracks_start tree .write
  | succ n ih =>
      unfold treeAfter
      cases hguard : Guard.ofRoot (plan.treeAfter tree root n) root with
      | error cause =>
          rw [run_of_noProject hrelative hguard]
          exact ih
      | ok guard =>
          rw [run_of_guard hrelative hguard]
          have hlast := (RunState.applyAll_spec ih guard plan.patches).2
          exact ⟨hlast.shape, fun _ => rfl, nofun⟩

variable {guard : Guard}

theorem run_treeAfter (hrelative : plan.info.workspaceRelative = true)
    (hguard : Guard.ofRoot tree root = .ok guard) (n : Nat) :
    plan.run (plan.treeAfter tree root n) root .write =
      let (entries, state) :=
        RunState.applyAll { tree := plan.treeAfter tree root n } (some guard) .write plan.patches
      { rejected := none, entries, tree := state.tree } := by
  have hshape := (tracks_treeAfter hrelative tree root n).shape
  exact run_of_guard hrelative ((Guard.ofRoot_eq hshape root).trans hguard)

/-- What a run leaves in the files is what the run after it starts from. -/
theorem holds_treeAfter_succ (hrelative : plan.info.workspaceRelative = true)
    (hguard : Guard.ofRoot tree root = .ok guard) {n : Nat} {file : Location} {keys : List Text}
    (h : (RunState.applyAll { tree := plan.treeAfter tree root n } (some guard) .write
      plan.patches).2.Holds file keys) :
    RunState.Holds { tree := plan.treeAfter tree root (n + 1) } file keys := by
  obtain ⟨t, hread, hkeys⟩ := h
  have hlast := (RunState.applyAll_spec (tracks_treeAfter hrelative tree root n) guard
    plan.patches).2
  refine ⟨t, ?_, hkeys⟩
  rw [treeAfter, run_treeAfter hrelative hguard]
  rw [RunState.readText_of_drafts_eq_nil (hlast.drafts rfl)] at hread
  exact hread

theorem holds_treeAfter (hrelative : plan.info.workspaceRelative = true)
    (hguard : Guard.ofRoot tree root = .ok guard) {m n : Nat} {file : Location} {keys : List Text}
    (hspares : ∀ patch ∈ plan.patches, patch.spec.Spares keys) (hle : m ≤ n)
    (h : RunState.Holds { tree := plan.treeAfter tree root m } file keys) :
    RunState.Holds { tree := plan.treeAfter tree root n } file keys := by
  induction n, hle using Nat.le_induction with
  | base => exact h
  | succ n _ ih =>
      exact holds_treeAfter_succ hrelative hguard
        (ih.applyAll (tracks_treeAfter hrelative tree root n) hspares)

/-- A run reports on each patch, in the order of the plan, however often it was run before. -/
theorem map_patch_entriesAfter (plan : Plan) (tree : Tree) (root : Path) (n : Nat) :
    (plan.entriesAfter tree root n).map Entry.patch = plan.patches := by
  unfold entriesAfter run
  cases plan.guard? (plan.treeAfter tree root n) root with
  | error cause => simp [Function.comp_def]
  | ok guard => exact RunState.map_patch_applyAll _ guard .write plan.patches

/-- A result is due to a patch of the plan, and every run has a result on that patch. -/
theorem exists_of_resultAfter {m i : Nat} {result : Except RunError PatchResult}
    (h : plan.resultAfter tree root m i = some result) :
    ∃ entry, (plan.entriesAfter tree root m)[i]? = some entry ∧ entry.result = result ∧
      plan.patches[i]? = some entry.patch ∧
      ∀ n, ∃ later, (plan.entriesAfter tree root n)[i]? = some later := by
  obtain ⟨entry, hentry, hresult⟩ := Option.map_eq_some_iff.mp h
  have hpatch : plan.patches[i]? = some entry.patch := by
    rw [← map_patch_entriesAfter plan tree root m, List.getElem?_map, hentry]
    rfl
  refine ⟨entry, hentry, hresult, hpatch, fun n => ?_⟩
  rw [← map_patch_entriesAfter plan tree root n, List.getElem?_map] at hpatch
  obtain ⟨later, hlater, -⟩ := Option.map_eq_some_iff.mp hpatch
  exact ⟨later, hlater⟩

/-- **What a run put into a file or found there, every later run finds there.** -/
theorem IsPermanent.rerun (h : plan.IsPermanent) {i m n : Nat} (hlt : m < n)
    {result : PatchResult} (hresult : plan.resultAfter tree root m i = some (.ok result))
    (hpresent : result.isPresent = true) :
    plan.resultAfter tree root n i = some (.ok (.alreadyPresent result.file)) := by
  obtain ⟨entry, hentry, hresult, hpatch, hothers⟩ := exists_of_resultAfter hresult
  obtain ⟨later, hlater⟩ := hothers n
  have hmem := List.mem_of_getElem? hpatch
  cases hguard : Guard.ofRoot tree root with
  | error cause =>
      -- without a project every patch fails
      have hshape := (tracks_treeAfter h.relative tree root m).shape
      rw [entriesAfter, run_of_noProject h.relative ((Guard.ofRoot_eq hshape root).trans hguard),
        List.getElem?_map] at hentry
      obtain ⟨patch, -, rfl⟩ := Option.map_eq_some_iff.mp hentry
      cases hresult
  | ok guard =>
      rw [resultAfter, hlater, Option.map_some, Option.some.injEq]
      rw [entriesAfter, run_treeAfter h.relative hguard] at hentry hlater
      obtain ⟨file, htarget, hfile, hholds⟩ := RunState.holds_applyAll_of_isPresent
        (tracks_treeAfter h.relative tree root m) hentry hpatch (h.fragment _ hmem)
        (h.spares _ hmem) hresult hpresent
      have hstart := holds_treeAfter h.relative hguard (h.spares _ hmem) hlt
        (holds_treeAfter_succ h.relative hguard hholds)
      rw [hfile]
      exact RunState.applyAll_of_holds (tracks_treeAfter h.relative tree root n) hlater hpatch
        (h.identity _ hmem) (h.spares _ hmem) htarget hstart

/-- A patch is applied in one run at most. -/
theorem IsPermanent.applied_once (h : plan.IsPermanent) {i m n : Nat} {file other : Target}
    {diff change : Text} (hfirst : plan.resultAfter tree root m i = some (.ok (.applied file diff)))
    (hagain : plan.resultAfter tree root n i = some (.ok (.applied other change))) : m = n := by
  rcases Nat.lt_trichotomy m n with hlt | heq | hlt
  · rw [h.rerun hlt hfirst rfl] at hagain
    cases hagain
  · exact heq
  · rw [h.rerun hlt hagain rfl] at hfirst
    cases hfirst

end Plan
end Graft
