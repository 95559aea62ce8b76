import Mathlib
import Graft.Proofs.Project.PatchFile
import Graft.Proofs.Project.Step

/-!
# A run refines weaving

Three things chain fragments into the text of a file: a run that writes, a run that
keeps drafts, and plain weaving. `Plan.run_refines_weaveAll` says that they agree,
file by file, for a plan that is run under the guard of its project: whatever other
files the plan patches in between and whatever fails there, the patches that lead
to a file come to what weaving their fragments into its text one after another
comes to.

One step is compared with one weaving (`RunState.applyAll_of_readText`), and the
steps of the two modes with each other (`RunState.applyAll_agree`).
-/

namespace Graft

/-! ## The patches of a file -/

/-- The file that a patch leads to when its plan is run on the project at `root`. -/
def Patch.target? (patch : Patch) (tree : Tree) (root : Path) : Option Location :=
  match Guard.ofRoot tree root with
  | .error _ => none
  | .ok guard => guard.target? tree patch

/-- The specifications of the patches that lead to a file, in the order of the plan. -/
def Plan.specsFor (plan : Plan) (tree : Tree) (root : Path) (file : Location) : List Spec :=
  (plan.patches.filter fun patch => patch.target? tree root = some file).map Patch.spec

/-- Whether every file that a patch of the plan leads to may be written. -/
def Plan.TargetsWritable (plan : Plan) (tree : Tree) (root : Path) : Prop :=
  ∀ patch ∈ plan.patches, ∀ file access content, patch.target? tree root = some file →
    tree.node? file = some (.file access content) → access = .full

/-- The reports on specifications with their outcomes, each on the text that the one before it
left. -/
def reports (target : Target) : Text → List (Spec × Outcome) → List PatchResult
  | _, [] => []
  | t, (spec, outcome) :: others =>
    outcome.report target t spec :: reports target (outcome.textFrom t) others

variable {guard : Guard} {origin : Tree} {patch : Patch} {patches : List Patch} {file : Location}
  {t : Text}

/-- Whether the file that a patch leads to may be written. -/
def Guard.MayWrite (guard : Guard) (tree : Tree) (patch : Patch) : Prop :=
  ∀ file access content, guard.target? tree patch = some file →
    tree.node? file = some (.file access content) → access = .full

namespace RunState

variable {mode : RunMode} {state : RunState}

/-! ## One patch -/

/-- A patch that does not lead to a file leaves it as the run saw it. -/
theorem readText_apply_of_ne (htracks : Tracks origin mode state)
    (h : guard.target? origin patch ≠ some file) :
    (state.apply (some guard) mode patch).2.readText (.located file) =
      state.readText (.located file) := by
  rcases apply_cases htracks.shape guard mode patch with ⟨-, _, heq⟩ | ⟨location, htarget, hstep⟩
  · rw [heq]
  · have hne : file ≠ location := by
      rintro rfl
      exact h htarget
    exact hstep.readText_of_ne htracks hne

/-- A patch that leads to a file weaves its fragment into the text that a writing run sees. -/
theorem apply_of_readText (htracks : Tracks origin .write state)
    (hleads : guard.target? origin patch = some file) (hwritable : guard.MayWrite origin patch)
    (hread : state.readText (.located file) = .ok t) :
    (state.apply (some guard) .write patch).1 = patch.entryOn (.located file) t ∧
      (state.apply (some guard) .write patch).2.readText (.located file) =
        .ok ((weave t patch.spec).textFrom t) := by
  obtain ⟨access, content, hfile⟩ := htracks.exists_file hread
  obtain rfl := hwritable file access content hleads hfile
  rcases apply_cases htracks.shape guard .write patch with ⟨hnone, -⟩ | ⟨location, htarget, hstep⟩
  · rw [hnone] at hleads
    cases hleads
  · rw [htarget] at hleads
    cases hleads
    exact hstep.of_readText htracks hread hfile

/-- The two modes report the same on a patch, and go on seeing the same. -/
theorem apply_agree {dry : RunState} (htracks : Tracks origin .write state)
    (hdry : Tracks origin .dryRun dry)
    (hsees : ∀ file, dry.readText (.located file) = state.readText (.located file))
    (hwritable : guard.MayWrite origin patch) :
    (dry.apply (some guard) .dryRun patch).1 = (state.apply (some guard) .write patch).1 ∧
      ∀ file, (dry.apply (some guard) .dryRun patch).2.readText (.located file) =
        (state.apply (some guard) .write patch).2.readText (.located file) := by
  cases htarget : targetOf (some guard) origin patch with
  | error cause =>
      rw [apply_of_error htracks.shape htarget, apply_of_error hdry.shape htarget]
      exact ⟨rfl, hsees⟩
  | ok target =>
      obtain ⟨location, rfl, -⟩ := targetOf_eq_ok htarget
      have hstep : Step state .write patch _ _ := step_apply htracks.shape htarget
      have hstep' : Step dry .dryRun patch _ _ := step_apply hdry.shape htarget
      cases hread : state.readText (.located location) with
      | error cause =>
          rw [hstep.of_readText_error hread,
            hstep'.of_readText_error ((hsees location).trans hread)]
          exact ⟨rfl, hsees⟩
      | ok t =>
          obtain ⟨access, content, hfile⟩ := htracks.exists_file hread
          obtain rfl := hwritable location access content (Guard.target?_of_located htarget) hfile
          obtain ⟨hentry, hself⟩ := hstep.of_readText htracks hread hfile
          obtain ⟨hentry', hself'⟩ :=
            hstep'.of_readText hdry ((hsees location).trans hread) hfile
          refine ⟨hentry'.trans hentry.symm, fun file => ?_⟩
          -- the file of the patch is woven into in both modes, every other file is left alone
          by_cases heq : file = location
          · rw [heq, hself, hself']
          · rw [hstep.readText_of_ne htracks heq, hstep'.readText_of_ne hdry heq, hsees]

/-! ## All patches -/

/-- **The patches that lead to a file are chained like weavings into its text**, whatever the
patches between them lead to. -/
theorem applyAll_of_readText (htracks : Tracks origin .write state)
    (hwritable : ∀ patch ∈ patches, guard.MayWrite origin patch)
    (hread : state.readText (.located file) = .ok t) (specs : List Spec)
    (hspecs : specs =
      (patches.filter fun patch => guard.target? origin patch = some file).map Patch.spec) :
    (((state.applyAll (some guard) .write patches).1.filter fun entry =>
        guard.target? origin entry.patch = some file).map Entry.result =
      (reports (.located file) t (specs.zip (weaveAll t specs).1)).map .ok) ∧
      (state.applyAll (some guard) .write patches).2.readText (.located file) =
        .ok (weaveAll t specs).2 := by
  induction patches generalizing state t specs with
  | nil =>
      subst hspecs
      exact ⟨rfl, hread⟩
  | cons patch others ih =>
      -- the text that the run sees in the file is the text that weaving has come to
      have hothers : ∀ patch ∈ others, guard.MayWrite origin patch :=
        fun patch hmem => hwritable patch (List.mem_cons_of_mem _ hmem)
      obtain ⟨hpatch, htracks'⟩ := apply_spec htracks guard patch
      rw [applyAll_cons]
      by_cases hleads : guard.target? origin patch = some file
      · rw [List.filter_cons_of_pos (by simpa using hleads), List.map_cons] at hspecs
        obtain ⟨hentry, hread'⟩ :=
          apply_of_readText htracks hleads (hwritable patch List.mem_cons_self) hread
        obtain ⟨hresults, hlast⟩ := ih htracks' hothers hread' _ rfl
        subst hspecs
        rw [List.filter_cons_of_pos (by simpa [hpatch] using hleads), List.map_cons, hresults,
          hentry]
        exact ⟨rfl, hlast⟩
      · rw [List.filter_cons_of_neg (by simpa using hleads)] at hspecs
        have hread' : (state.apply (some guard) .write patch).2.readText (.located file) = .ok t :=
          (readText_apply_of_ne htracks hleads).trans hread
        rw [List.filter_cons_of_neg (by simpa [hpatch] using hleads)]
        exact ih htracks' hothers hread' specs hspecs

/-- **A dry run reports what a run that writes reports.** -/
theorem applyAll_agree {dry : RunState} (htracks : Tracks origin .write state)
    (hdry : Tracks origin .dryRun dry)
    (hsees : ∀ file, dry.readText (.located file) = state.readText (.located file))
    (hwritable : ∀ patch ∈ patches, guard.MayWrite origin patch) :
    (dry.applyAll (some guard) .dryRun patches).1 =
      (state.applyAll (some guard) .write patches).1 := by
  induction patches generalizing state dry with
  | nil => rfl
  | cons patch others ih =>
      obtain ⟨hentry, hsees'⟩ :=
        apply_agree htracks hdry hsees (hwritable patch List.mem_cons_self)
      rw [applyAll_cons, applyAll_cons, hentry, ih (apply_spec htracks guard patch).2
        (apply_spec hdry guard patch).2 hsees'
        fun patch hmem => hwritable patch (List.mem_cons_of_mem _ hmem)]

end RunState

/-! ## A plan -/

section Plan

variable {plan : Plan} {tree : Tree} {root : Path} {mode : RunMode}

theorem Patch.target?_of_guard (hguard : Guard.ofRoot tree root = .ok guard) (patch : Patch) :
    patch.target? tree root = guard.target? tree patch := by
  unfold Patch.target?
  rw [hguard]

theorem Patch.target?_of_noProject {cause : GuardError}
    (hguard : Guard.ofRoot tree root = .error cause) (patch : Patch) :
    patch.target? tree root = none := by
  unfold Patch.target?
  rw [hguard]

/-- Patching a file with the specifications of the patches that lead to it, by any path. -/
theorem Plan.patchFileAll_specsFor (hwritable : plan.TargetsWritable tree root)
    (hread : tree.readText (.located file) = .ok t) {path : Path}
    (hpath : tree.place .use path = .ok (.found file)) :
    let specs := plan.specsFor tree root file
    (tree.patchFileAll path specs).1.map FilePatch.result = (weaveAll t specs).1.map .ok ∧
      (tree.patchFileAll path specs).2.readText (.located file) = .ok (weaveAll t specs).2 := by
  obtain ⟨access, content, hfile⟩ := Tree.exists_file_of_readText hread
  cases hspecs : plan.specsFor tree root file with
  | nil => exact ⟨rfl, hread⟩
  | cons spec others =>
      -- some patch leads to the file, so it may be written
      have hmem : spec ∈ plan.specsFor tree root file := hspecs ▸ List.mem_cons_self
      obtain ⟨patch, hpatch, -⟩ := List.mem_map.mp hmem
      obtain ⟨hpatch, hleads⟩ := List.mem_filter.mp hpatch
      obtain rfl := hwritable patch hpatch file access content (by simpa using hleads) hfile
      exact Tree.patchFileAll_of_readText _ hpath hfile hread

end Plan

/-- **A run under the guard of a project refines weaving, file by file and in both modes.**  The
modes report the same, a dry run leaves the tree as it is, and of every file with a text, the
patches that lead to it come to what weaving their fragments into the text comes to, as does
patching the file by any path. -/
theorem Plan.run_refines_weaveAll {plan : Plan} {tree : Tree} {root : Path}
    (hrelative : plan.info.workspaceRelative = true)
    (hwritable : plan.TargetsWritable tree root) :
    (plan.run tree root .dryRun).rejected = (plan.run tree root .write).rejected ∧
    (plan.run tree root .dryRun).entries = (plan.run tree root .write).entries ∧
    (plan.run tree root .dryRun).tree = tree ∧
    (plan.run tree root .write).entries.map Entry.patch = plan.patches ∧
    ∀ file t, tree.readText (.located file) = .ok t →
      let specs := plan.specsFor tree root file
      ((plan.run tree root .write).entries.filter fun entry =>
          entry.patch.target? tree root = some file).map Entry.result =
        (reports (.located file) t (specs.zip (weaveAll t specs).1)).map .ok ∧
      (plan.run tree root .write).tree.readText (.located file) = .ok (weaveAll t specs).2 ∧
      ∀ path, tree.place .use path = .ok (.found file) →
        (tree.patchFileAll path specs).1.map FilePatch.result = (weaveAll t specs).1.map .ok ∧
        (tree.patchFileAll path specs).2.readText (.located file) = .ok (weaveAll t specs).2 := by
  cases hguard : Guard.ofRoot tree root with
  | error cause =>
      -- without a project no patch leads anywhere
      have hnone : plan.specsFor tree root = fun _ => [] := by
        funext file
        simp [specsFor, Patch.target?_of_noProject hguard]
      simp only [run_of_noProject hrelative hguard, Patch.target?_of_noProject hguard, hnone]
      refine ⟨trivial, trivial, trivial, by simp [Function.comp_def], fun file t hread => ?_⟩
      exact ⟨by simp [weaveAll, reports], hread, fun _ _ => ⟨rfl, hread⟩⟩
  | ok guard =>
      have hmayWrite : ∀ patch ∈ plan.patches, guard.MayWrite tree patch := by
        intro patch hmem file access content hleads
        exact hwritable patch hmem file access content
          ((Patch.target?_of_guard hguard patch).trans hleads)
      have hwrite := RunState.tracks_start tree .write
      have hdry := RunState.tracks_start tree .dryRun
      obtain ⟨hpatches, hlast⟩ := RunState.applyAll_spec hwrite guard plan.patches
      rw [run_of_guard hrelative hguard, run_of_guard hrelative hguard]
      refine ⟨rfl, RunState.applyAll_agree hwrite hdry (fun _ => rfl) hmayWrite,
        (RunState.applyAll_spec hdry guard plan.patches).2.tree rfl, hpatches,
        fun file t hread => ?_⟩
      have hspecs : plan.specsFor tree root file = (plan.patches.filter fun patch =>
          guard.target? tree patch = some file).map Patch.spec := by
        simp only [specsFor, Patch.target?_of_guard hguard]
      obtain ⟨hresults, hfinal⟩ := RunState.applyAll_of_readText hwrite hmayWrite hread _ hspecs
      rw [RunState.readText_of_drafts_eq_nil (hlast.drafts rfl)] at hfinal
      simp only [Patch.target?_of_guard hguard]
      exact ⟨hresults, hfinal, fun path hpath => patchFileAll_specsFor hwritable hread hpath⟩

/-- A project with one list and a link to it. -/
def linkedTree : Tree where
  nodes :=
    [(["app"], .folder .full),
      (["app", "list"], .file .full (Text.encode "a\n")),
      (["app", "alias"], .link "./list")]
  home := []

/-- A line for the end of a file. -/
def linePatch (file line : Text) : Patch where
  id := line
  file
  spec := { fragment := [line], identity := .contains line, anchors := [.endOfDocument] }

/-- A plan that reaches the list by its name and by the link, with a file that is not there in
between. -/
def linkedPlan : Plan where
  info := { workspaceRelative := true }
  patches := [linePatch "list" "b", linePatch "gone" "b", linePatch "alias" "c"]

theorem linkedPlan_targetsWritable : linkedPlan.TargetsWritable linkedTree "/app" := by
  intro patch _ file access content _ hfile
  have hmem := Tree.mem_nodes_of_file hfile
  simp [linkedTree] at hmem
  exact hmem.2.1

/-- The list gets both lines, the second through the link, as it does when it is patched alone. -/
theorem linkedPlan_writes_through_link :
    linkedPlan.info.workspaceRelative = true ∧ linkedPlan.TargetsWritable linkedTree "/app" ∧
      linkedTree.readText (.located ["app", "list"]) = .ok "a\n" ∧
      linkedTree.place .use "/app/alias" = .ok (.found ["app", "list"]) ∧
      (linkedPlan.run linkedTree "/app" .dryRun).entries =
        (linkedPlan.run linkedTree "/app" .write).entries ∧
      (linkedPlan.run linkedTree "/app" .write).tree.readText (.located ["app", "list"]) =
        .ok "a\nb\nc\n" ∧
      (linkedTree.patchFileAll "/app/alias"
          (linkedPlan.specsFor linkedTree "/app" ["app", "list"])).2.readText
        (.located ["app", "list"]) = .ok "a\nb\nc\n" := by
  have hread : linkedTree.readText (.located ["app", "list"]) = .ok "a\n" := by cbv
  have hpath : linkedTree.place .use "/app/alias" = .ok (.found ["app", "list"]) := by cbv
  have hlast : (weaveAll "a\n" (linkedPlan.specsFor linkedTree "/app" ["app", "list"])).2 =
      ("a\nb\nc\n" : Text) := by cbv
  obtain ⟨-, hentries, -, -, hfiles⟩ :=
    @Plan.run_refines_weaveAll linkedPlan linkedTree "/app" rfl linkedPlan_targetsWritable
  obtain ⟨-, hrun, hpatched⟩ := hfiles _ _ hread
  refine ⟨rfl, linkedPlan_targetsWritable, hread, hpath, hentries, ?_, ?_⟩
  · rw [hrun, hlast]
  · rw [(hpatched _ hpath).2, hlast]

end Graft
