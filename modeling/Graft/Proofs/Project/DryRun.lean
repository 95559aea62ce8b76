import Mathlib
import Graft.Proofs.Project.Omission
import Graft.Proofs.Tree.Names

/-!
# Dry runs without a guard

Without a guard, what a run writes goes to the file that a path leads to, while what a
dry run keeps goes under the key of the path. Paths of one key lead to one file
(`Tree.found_eq_of_key_eq`), so no draft is taken for another file. But one file may
have names of several keys, and then a draft under one name is not seen under another
(`spelledPlan_differs`). Where no patch comes back to a file in this way
(`Entry.SharesKey`), a dry run reports what a run that writes reports
(`Plan.dryRun_entries_eq`).
-/

namespace Graft

/-! ## Kinds of results -/

/-- The kinds of results of a patch. -/
inductive ResultKind where
  | applied
  | alreadyPresent
  | anchorNotFound
  | failed
  deriving DecidableEq, Repr

/-- The kind of result that an entry reports. -/
def Entry.kind (entry : Entry) : ResultKind :=
  match entry.result with
  | .ok (.applied _ _) => .applied
  | .ok (.alreadyPresent _) => .alreadyPresent
  | .ok (.anchorNotFound _ _) => .anchorNotFound
  | .error _ => .failed

/-- What the two modes are compared by: whose result it is, and of which kind. -/
def Entry.outline (entry : Entry) : Text × ResultKind :=
  (entry.patch.id, entry.kind)

variable {patch : Patch}

theorem Patch.kind_entryOn {target : Target} {t patched : Text}
    (hweave : weave t patch.spec = .applied patched) :
    (patch.entryOn target t).kind = .applied := by
  unfold Entry.kind entryOn
  rw [hweave]
  rfl

/-! ## Names of files -/

/-- Whether the file that a patch names may be written. -/
def Patch.FileWritable (patch : Patch) (tree : Tree) : Prop :=
  ∀ file access content, tree.place .use patch.file = .ok (.found file) →
    tree.node? file = some (.file access content) → access = .full

/-- Whether every file that a patch of the plan names may be written. -/
def Plan.FilesWritable (plan : Plan) (tree : Tree) : Prop :=
  ∀ patch ∈ plan.patches, patch.FileWritable tree

/-- Whether a later patch finds under its own name what an earlier one applied to its file. -/
def Entry.SharesKey (tree : Tree) (entry : Entry) (later : Patch) : Prop :=
  entry.kind = .applied → ∀ file, tree.place .use entry.patch.file = .ok (.found file) →
    tree.place .use later.file = .ok (.found file) →
      Path.key entry.patch.file = Path.key later.file

/-- Whether in a run that writes no patch comes back to an applied file by a name of another key. -/
def Plan.SharesKeys (plan : Plan) (tree : Tree) (root : Path) : Prop :=
  (plan.run tree root .write).entries.Pairwise fun entry later =>
    entry.SharesKey tree later.patch

namespace RunState

variable {origin : Tree} {mode : RunMode} {state dry : RunState} {patches others : List Patch}
  {file : Location}

/-! ## Where patches lead -/

theorem apply_of_found (hshape : origin.SameShape state.tree)
    (hpath : origin.place .use patch.file = .ok (.found file)) :
    state.apply none mode patch = state.applyTo mode patch (.named patch.file) := by
  have hpath' := (hshape.place_eq .use patch.file).trans hpath
  unfold apply targetOf
  simp only [hpath', Tree.holds, if_true]

theorem apply_of_not_found (hshape : origin.SameShape state.tree)
    (hpath : ∀ file, origin.place .use patch.file ≠ .ok (.found file)) :
    state.apply none mode patch =
      ({ patch, strategy := none, result := .error (.patch (.missingFile patch.file)) },
        state) := by
  have hholds : Tree.holds (origin.place .use patch.file) = false := by
    unfold Tree.holds
    split
    · rename_i location hfound
      exact (hpath location hfound).elim
    · rfl
  unfold apply targetOf
  simp only [hshape.place_eq, hholds, Bool.false_eq_true, if_false]

/-! ## The two modes side by side -/

/-- The two runs are at the same patch: `dry` sees in the files of all patches to come what `state`
sees there. -/
structure Mirrors (origin : Tree) (patches : List Patch) (dry state : RunState) : Prop where
  write : Tracks origin .write state
  dryRun : Tracks origin .dryRun dry
  sees : ∀ patch ∈ patches, ∀ file, origin.place .use patch.file = .ok (.found file) →
    dry.readText (.named patch.file) = state.readText (.named patch.file)

theorem mirrors_start (origin : Tree) (patches : List Patch) :
    Mirrors origin patches { tree := origin } { tree := origin } :=
  ⟨tracks_start origin .write, tracks_start origin .dryRun, fun _ _ _ _ => rfl⟩

theorem Mirrors.tail (hmirrors : Mirrors origin (patch :: others) dry state) :
    Mirrors origin others dry state :=
  ⟨hmirrors.write, hmirrors.dryRun,
    fun later hmem => hmirrors.sees later (List.mem_cons_of_mem _ hmem)⟩

theorem Tracks.writeText_named (htracks : Tracks origin .write state) {path : Path}
    {old : ByteArray} (hpath : origin.place .use path = .ok (.found file))
    (hfile : origin.node? file = some (.file .full old)) (t : Text) :
    state.writeText .write (.named path) t =
      .ok { state with tree := state.tree.put file (.file .full t.encode) } := by
  obtain ⟨content, hnow⟩ := htracks.shape.file hfile
  have hpath' := (htracks.shape.place_eq .use path).trans hpath
  unfold writeText
  simp only [Tree.writeText_named hpath' hnow]

/-- A text that one run writes and the other keeps is seen by both, provided that the patches to
come name its file by one key. -/
theorem Mirrors.writeText (hmirrors : Mirrors origin others dry state) {path : Path}
    {old : ByteArray} (hpath : origin.place .use path = .ok (.found file))
    (hfile : origin.node? file = some (.file .full old)) (t : Text)
    (hkeys : ∀ later ∈ others, origin.place .use later.file = .ok (.found file) →
      Path.key path = Path.key later.file) :
    Mirrors origin others { dry with drafts := (Path.key path, t) :: dry.drafts }
      { state with tree := state.tree.put file (.file .full t.encode) } := by
  obtain ⟨content, hnow⟩ := hmirrors.write.shape.file hfile
  have hput := hmirrors.write.put hnow t.encode
  refine ⟨hput, hmirrors.dryRun.draft _, ?_⟩
  intro later hmem place hlater
  rw [readText_of_drafts_eq_nil (hput.drafts rfl)]
  by_cases hsame : place = file
  · -- the name of the later patch has the key of the draft
    subst hsame
    have hkey : Target.key (.named later.file) = Path.key path := (hkeys later hmem hlater).symm
    have hpath' := (hput.shape.place_eq .use later.file).trans hlater
    rw [readText_draft_of_eq hkey]
    exact ((Tree.readText_named_iff hpath').mpr
      (Tree.readText_put_self (Tree.ne_nil_of_file hnow) t)).symm
  · -- the later patch leads elsewhere, so its name has another key
    have hkey : Target.key (.named later.file) ≠ Path.key path := by
      intro heq
      exact hsame (Tree.found_eq_of_key_eq heq.symm hpath hlater)
    have hpath' := (hmirrors.write.shape.place_eq .use later.file).trans hlater
    rw [readText_draft_of_ne hkey, hmirrors.sees later hmem place hlater,
      readText_of_drafts_eq_nil (hmirrors.write.drafts rfl),
      Tree.readText_named_put_of_ne hpath' hnow _ hsame]

/-- What a run that writes can read by a path is a file. -/
theorem Tracks.exists_file_named (htracks : Tracks origin .write state) {path : Path} {t : Text}
    (hpath : origin.place .use path = .ok (.found file))
    (hread : state.readText (.named path) = .ok t) :
    ∃ access content, origin.node? file = some (.file access content) := by
  have hpath' := (htracks.shape.place_eq .use path).trans hpath
  have hlocated : state.readText (.located file) = .ok t := by
    rw [readText_of_drafts_eq_nil (htracks.drafts rfl)] at hread ⊢
    exact (Tree.readText_named_iff hpath').mp hread
  exact htracks.exists_file hlocated

/-- **The two modes report the same on a patch, and go on side by side.** -/
theorem Mirrors.apply (hmirrors : Mirrors origin (patch :: others) dry state)
    (hwritable : patch.FileWritable origin)
    (hkeys : ∀ later ∈ others, (state.apply none .write patch).1.SharesKey origin later) :
    (dry.apply none .dryRun patch).1 = (state.apply none .write patch).1 ∧
      Mirrors origin others (dry.apply none .dryRun patch).2
        (state.apply none .write patch).2 := by
  by_cases hleads : ∃ file, origin.place .use patch.file = .ok (.found file)
  · obtain ⟨file, hpath⟩ := hleads
    have hsees := hmirrors.sees patch List.mem_cons_self file hpath
    rw [apply_of_found hmirrors.write.shape hpath] at hkeys ⊢
    rw [apply_of_found hmirrors.dryRun.shape hpath]
    have hstep := step_applyTo state .write patch (.named patch.file)
    have hstep' := step_applyTo dry .dryRun patch (.named patch.file)
    cases hread : state.readText (.named patch.file) with
    | error cause =>
        rw [hstep.of_readText_error hread, hstep'.of_readText_error (hsees.trans hread)]
        exact ⟨rfl, hmirrors.tail⟩
    | ok t =>
        obtain ⟨access, old, hfile⟩ := hmirrors.write.exists_file_named hpath hread
        obtain rfl := hwritable file access old hpath hfile
        have hwrites := hmirrors.write.writeText_named hpath hfile
        obtain ⟨hentry, hnext⟩ := hstep.of_writeText hread fun t => ⟨_, hwrites t⟩
        obtain ⟨hentry', hnext'⟩ :=
          hstep'.of_writeText (hsees.trans hread) fun _ => ⟨_, rfl⟩
        refine ⟨hentry'.trans hentry.symm, ?_⟩
        cases hweave : weave t patch.spec with
        | applied patched =>
            rw [hentry] at hkeys
            simp only [hweave, hwrites, Except.ok.injEq] at hnext
            simp only [hweave, RunState.writeText, Except.ok.injEq] at hnext'
            rw [← hnext, ← hnext']
            exact hmirrors.tail.writeText hpath hfile patched fun later hmem hlater =>
              hkeys later hmem (Patch.kind_entryOn hweave) file hpath hlater
        | alreadyPresent =>
            simp only [hweave] at hnext hnext'
            rw [hnext, hnext']
            exact hmirrors.tail
        | anchorNotFound =>
            simp only [hweave] at hnext hnext'
            rw [hnext, hnext']
            exact hmirrors.tail
  · -- a name that leads nowhere fails alike
    have hpath : ∀ file, origin.place .use patch.file ≠ .ok (.found file) :=
      fun file hfound => hleads ⟨file, hfound⟩
    rw [apply_of_not_found hmirrors.write.shape hpath,
      apply_of_not_found hmirrors.dryRun.shape hpath]
    exact ⟨rfl, hmirrors.tail⟩

theorem Mirrors.applyAll (hmirrors : Mirrors origin patches dry state)
    (hwritable : ∀ patch ∈ patches, patch.FileWritable origin)
    (hkeys : (state.applyAll none .write patches).1.Pairwise fun entry later =>
      entry.SharesKey origin later.patch) :
    (dry.applyAll none .dryRun patches).1 = (state.applyAll none .write patches).1 ∧
      (dry.applyAll none .dryRun patches).2.tree = origin := by
  induction patches generalizing state dry with
  | nil => exact ⟨rfl, hmirrors.dryRun.tree rfl⟩
  | cons patch others ih =>
      rw [applyAll_cons, List.pairwise_cons] at hkeys
      obtain ⟨hfirst, hrest⟩ := hkeys
      have hlater : ∀ later ∈ others,
          (state.apply none .write patch).1.SharesKey origin later := by
        intro later hmem
        rw [← map_patch_applyAll (state.apply none .write patch).2 none .write others] at hmem
        obtain ⟨entry, hentry, rfl⟩ := List.mem_map.mp hmem
        exact hfirst entry hentry
      obtain ⟨hentry, hmirrors'⟩ := hmirrors.apply (hwritable patch List.mem_cons_self) hlater
      obtain ⟨hentries, htree⟩ :=
        ih hmirrors' (fun later hmem => hwritable later (List.mem_cons_of_mem _ hmem)) hrest
      rw [applyAll_cons, applyAll_cons, hentry, hentries]
      exact ⟨rfl, htree⟩

end RunState

/-! ## A plan -/

/-- **A dry run without a guard reports what a run that writes reports**, patch by patch, provided
that no patch comes back to an applied file by a name of another key. -/
theorem Plan.dryRun_entries_eq {plan : Plan} {tree : Tree} {root : Path}
    (hrelative : plan.info.workspaceRelative = false) (hwritable : plan.FilesWritable tree)
    (hkeys : plan.SharesKeys tree root) :
    (plan.run tree root .dryRun).entries = (plan.run tree root .write).entries ∧
      (plan.run tree root .dryRun).entries.map Entry.patch = plan.patches ∧
      (plan.run tree root .dryRun).tree = tree := by
  have hguard : plan.guard? tree root = .ok none := by
    unfold guard?
    simp only [hrelative, Bool.false_eq_true, if_false]
  unfold SharesKeys at hkeys
  unfold run at hkeys ⊢
  simp only [hguard] at hkeys ⊢
  obtain ⟨hentries, htree⟩ :=
    (RunState.mirrors_start tree plan.patches).applyAll hwritable hkeys
  exact ⟨hentries, RunState.map_patch_applyAll _ none .dryRun plan.patches, htree⟩

/-- A list and a link to it. -/
def aliasedTree : Tree where
  nodes :=
    [(["app"], .folder .full),
      (["app", "list"], .file .full (Text.encode "a\n")),
      (["app", "alias"], .link "list")]
  home := []

/-- A plan that only reads by the link, and goes back to the list by another spelling. -/
def aliasedPlan : Plan where
  patches :=
    [endPatch "known" "app/alias" "a", endPatch "new" "app//list" "b",
      endPatch "again" "app/./list" "b"]

theorem aliasedPlan_filesWritable : aliasedPlan.FilesWritable aliasedTree := by
  intro patch _ file access content _ hfile
  have hmem := Tree.mem_nodes_of_file hfile
  simp [aliasedTree] at hmem
  exact hmem.2.1

theorem aliasedPlan_sharesKeys : aliasedPlan.SharesKeys aliasedTree "/" := by
  have hkinds : (aliasedPlan.run aliasedTree "/" .write).entries.map
      (fun entry => (entry.kind, entry.patch.file)) =
        ([(.alreadyPresent, "app/alias"), (.applied, "app//list"),
          (.alreadyPresent, "app/./list")] : List (ResultKind × Path)) := by cbv
  -- one entry is applied, and one patch comes after it
  have hpairs : ([(.alreadyPresent, "app/alias"), (.applied, "app//list"),
      (.alreadyPresent, "app/./list")] : List (ResultKind × Path)).Pairwise fun entry later =>
        entry.1 = .applied → Path.key entry.2 = Path.key later.2 := by decide
  rw [← hkinds, List.pairwise_map] at hpairs
  exact hpairs.imp fun hkey happlied _ _ _ => hkey happlied

/-- Both runs see that the line is there when they come back to the list. -/
theorem aliasedPlan_dryRun :
    aliasedPlan.info.workspaceRelative = false ∧ aliasedPlan.FilesWritable aliasedTree ∧
      aliasedPlan.SharesKeys aliasedTree "/" ∧
      (aliasedPlan.run aliasedTree "/" .dryRun).entries.map Entry.kind =
        [.alreadyPresent, .applied, .alreadyPresent] := by
  have hkinds : (aliasedPlan.run aliasedTree "/" .write).entries.map Entry.kind =
      [.alreadyPresent, .applied, .alreadyPresent] := by cbv
  obtain ⟨hentries, -, -⟩ :=
    Plan.dryRun_entries_eq rfl aliasedPlan_filesWritable aliasedPlan_sharesKeys
  exact ⟨rfl, aliasedPlan_filesWritable, aliasedPlan_sharesKeys, by rw [hentries, hkinds]⟩

/-- A plan that comes back to the list by a spelling of another key. -/
def spelledPlan : Plan where
  patches := [endPatch "first" "list" "b", endPatch "second" "./list" "b"]

/-- Where a plan comes back to a file by a spelling of another key, the dry run may apply what the
run that writes finds there. -/
theorem spelledPlan_differs :
    ¬∀ (plan : Plan) (tree : Tree) (root : Path), plan.info.workspaceRelative = false →
      plan.FilesWritable tree →
        (plan.run tree root .dryRun).entries.map Entry.outline =
          (plan.run tree root .write).entries.map Entry.outline := by
  intro h
  have hwritable : spelledPlan.FilesWritable listTree := by
    intro patch _ file access content _ hfile
    have hmem := Tree.mem_nodes_of_file hfile
    simp [listTree] at hmem
    exact hmem.2.1
  have hdry : (spelledPlan.run listTree "/" .dryRun).entries.map Entry.outline =
      ([("first", .applied), ("second", .applied)] : List (Text × ResultKind)) := by cbv
  have hwrite : (spelledPlan.run listTree "/" .write).entries.map Entry.outline =
      ([("first", .applied), ("second", .alreadyPresent)] : List (Text × ResultKind)) := by cbv
  have heq := h spelledPlan listTree "/" rfl hwritable
  rw [hdry, hwrite] at heq
  simp at heq

end Graft
