import Mathlib
import Graft.Proofs.Project.Step

/-!
# Writes stay inside the project

A plan that is run under the guard of its project may name any files at all: by
absolute paths, through `..` or through links. `Plan.run_confined` says that what
differs in the tree afterwards is a file inside the project, in none of the folders
that belong to others, and that the run reports it as patched.
-/

namespace Graft

variable {guard : Guard} {tree origin : Tree} {root : Path} {mode : RunMode} {patch : Patch}
  {file location : Location}

/-! ## What a guard lets through -/

/-- The forbidden folders of a guard are those that the project has. -/
theorem Guard.mem_forbidden (h : Guard.ofRoot tree root = .ok guard) {name : Text}
    (hname : name ∈ forbiddenNames) {folder : Location}
    (hfolder : tree.locateFrom guard.root name = .ok folder) : folder ∈ guard.forbidden := by
  unfold Guard.ofRoot at h
  split at h
  · cases h
  · cases h
    refine List.mem_filterMap.mpr ⟨name, hname, ?_⟩
    rw [hfolder]
    rfl

theorem Guard.locate_eq_root (h : Guard.ofRoot tree root = .ok guard) :
    tree.locate root = .ok guard.root := by
  unfold Guard.ofRoot at h
  split at h
  · cases h
  · rename_i project hproject
    cases h
    exact hproject

/-- What a path leads to when the guard lets it through. -/
theorem Guard.validate_eq_ok {path : Path} (h : guard.validate tree path = .ok location) :
    tree.locateFrom guard.root path = .ok location ∧ guard.root <+: location ∧
      ∀ folder ∈ guard.forbidden, ¬folder <+: location := by
  unfold Guard.validate at h
  split at h
  · cases h
  · rename_i place hplace
    obtain ⟨rfl, hinside, hclear⟩ := Guard.check_eq_ok h
    exact ⟨hplace, hinside, hclear⟩

/-! ## What a run changes -/

namespace RunState

variable {state : RunState}

/-- A step changes the tree at its own file at most, and then says so. -/
theorem Step.of_node?_ne {outcome : Entry × RunState}
    (hstep : Step state mode patch (.located file) outcome)
    (hchanged : outcome.2.tree.node? location ≠ state.tree.node? location) :
    location = file ∧ ∃ diff, outcome.1.result = .ok (.applied (.located location) diff) := by
  cases hstep with
  | unreadable _ => exact (hchanged rfl).elim
  | unwritable _ _ _ => exact (hchanged rfl).elim
  | unchanged _ _ => exact (hchanged rfl).elim
  | @applied t patched next _ hweave hwrite =>
      cases mode with
      | dryRun =>
          cases hwrite
          exact (hchanged rfl).elim
      | write =>
          unfold writeText at hwrite
          simp only at hwrite
          split at hwrite
          · cases hwrite
          · rename_i tree htree
            cases hwrite
            obtain ⟨-, rfl⟩ := Tree.writeText_located_eq_ok htree
            have hself : location = file :=
              Decidable.byContradiction fun hne => hchanged (Tree.node?_put_of_ne _ _ hne)
            subst hself
            refine ⟨rfl, Diff.unified (Location.path location) t patched, ?_⟩
            rw [Patch.entryOn, hweave]
            rfl

/-- **What a run changes is the file of a patch that it reports as applied.** -/
theorem exists_of_applyAll_node?_ne {patches : List Patch} (htracks : Tracks origin mode state)
    (hchanged : (state.applyAll (some guard) mode patches).2.tree.node? location ≠
      state.tree.node? location) :
    ∃ entry ∈ (state.applyAll (some guard) mode patches).1,
      guard.target? origin entry.patch = some location ∧
        ∃ diff, entry.result = .ok (.applied (.located location) diff) := by
  induction patches generalizing state with
  | nil => exact (hchanged rfl).elim
  | cons patch others ih =>
      obtain ⟨hpatch, htracks'⟩ := apply_spec htracks guard patch
      rw [applyAll_cons] at hchanged ⊢
      by_cases hnow : (state.apply (some guard) mode patch).2.tree.node? location =
          state.tree.node? location
      · rw [← hnow] at hchanged
        obtain ⟨entry, hmem, hreported⟩ := ih htracks' hchanged
        exact ⟨entry, List.mem_cons_of_mem _ hmem, hreported⟩
      · -- the patch at hand changed it, whatever the others did to it afterwards
        rcases apply_cases htracks.shape guard mode patch with ⟨-, _, heq⟩ | ⟨file, htarget, hstep⟩
        · rw [heq] at hnow
          exact (hnow rfl).elim
        · obtain ⟨rfl, hreported⟩ := hstep.of_node?_ne hnow
          exact ⟨_, List.mem_cons_self, by rw [hpatch, htarget], hreported⟩

end RunState

/-! ## A plan -/

/-- **Writes are confined.**  What a run under the guard of a project changes is a file, and stays
one; it lies inside the project, in no forbidden folder that the project has, and is what the
file of a patch names that the run reports as applied. -/
theorem Plan.run_confined {plan : Plan} {tree : Tree} {root : Path} {mode : RunMode}
    {location : Location} (hrelative : plan.info.workspaceRelative = true)
    (hchanged : (plan.run tree root mode).tree.node? location ≠ tree.node? location) :
    (∃ access content content', tree.node? location = some (.file access content) ∧
      (plan.run tree root mode).tree.node? location = some (.file access content')) ∧
    ∃ project, tree.locate root = .ok project ∧ project <+: location ∧
      (∀ name ∈ forbiddenNames, ∀ folder, tree.locateFrom project name = .ok folder →
        ¬folder <+: location) ∧
      ∃ entry ∈ (plan.run tree root mode).entries,
        tree.locateFrom project entry.patch.file = .ok location ∧
          ∃ diff, entry.result = .ok (.applied (.located location) diff) := by
  cases hguard : Guard.ofRoot tree root with
  | error cause =>
      rw [run_of_noProject hrelative hguard] at hchanged
      exact (hchanged rfl).elim
  | ok guard =>
      rw [run_of_guard hrelative hguard] at hchanged ⊢
      have hstart := RunState.tracks_start tree mode
      have hlast := (RunState.applyAll_spec hstart guard plan.patches).2
      refine ⟨(hlast.shape.node?_eq_or location).resolve_left hchanged, guard.root,
        Guard.locate_eq_root hguard, ?_⟩
      obtain ⟨entry, hmem, htarget, hreported⟩ :=
        RunState.exists_of_applyAll_node?_ne hstart hchanged
      obtain ⟨hnames, hinside, hclear⟩ :=
        Guard.validate_eq_ok (Guard.validate_of_target? htarget)
      exact ⟨hinside, fun name hname folder hfolder =>
        hclear folder (Guard.mem_forbidden hguard hname hfolder), entry, hmem, hnames, hreported⟩

/-- A project beside a file of another's, with a link that leads there. -/
def borderTree : Tree where
  nodes :=
    [(["app"], .folder .full),
      (["app", "list"], .file .full (Text.encode "a\n")),
      (["app", "exit"], .link "../secret"),
      (["secret"], .file .full (Text.encode "s\n"))]
  home := ["app"]

/-- A line for the end of a file. -/
def borderPatch (file : Text) : Patch where
  id := file
  file
  spec := { fragment := ["b"], identity := .contains "b", anchors := [.endOfDocument] }

/-- A plan that tries to leave the project in three ways, and patches its list. -/
def borderPlan : Plan where
  info := { workspaceRelative := true }
  patches := [borderPatch "/secret", borderPatch "../secret", borderPatch "exit",
    borderPatch "exit/../list", borderPatch "./list"]

/-- The list is patched, and lies where it should. -/
theorem borderPlan_changes_list :
    borderPlan.info.workspaceRelative = true ∧
      (borderPlan.run borderTree "." .write).tree.node? ["app", "list"] ≠
        borderTree.node? ["app", "list"] ∧
      ∃ project, borderTree.locate "." = .ok project ∧ project <+: ["app", "list"] := by
  have hchanged : (borderPlan.run borderTree "." .write).tree.node? ["app", "list"] ≠
      borderTree.node? ["app", "list"] := by
    cbv
    simp
  obtain ⟨-, project, hproject, hinside, -⟩ := Plan.run_confined rfl hchanged
  exact ⟨rfl, hchanged, project, hproject, hinside⟩

end Graft
