import Graft.Project.Run
import Graft.Proofs.Project.Texts

/-!
# The steps of a run

A run takes one step for each patch. `RunState.Step` says once what a step can do to
a target, and `RunState.Tracks` what every state of a run keeps: the shape of the
tree that the run started from, so that every patch leads where it led at first
(`targetOf_eq`), and, in a dry run, the tree itself. A step changes the text of its
own file at most (`RunState.Becomes`), and a whole run keeps what a step keeps
(`RunState.applyAll_spec`).
-/

namespace Graft

/-! ## What a step does -/

/-- What a run reports on an outcome: the file, with the change or a hint for it. -/
def Outcome.report (target : Target) (before : Text) (spec : Spec) : Outcome → PatchResult
  | applied patched => .applied target (Diff.unified target.path before patched)
  | alreadyPresent => .alreadyPresent target
  | anchorNotFound => .anchorNotFound target ((nearMiss? before spec).map NearMiss.describe)

/-- The entry for a patch whose fragment is woven into the text of its target. -/
def Patch.entryOn (patch : Patch) (target : Target) (t : Text) : Entry where
  patch
  strategy := (decision t patch.spec).strategy?
  result := .ok ((weave t patch.spec).report target t patch.spec)

namespace RunState

/-- What applying a patch to a target comes to: an entry and the next state. -/
inductive Step (state : RunState) (mode : RunMode) (patch : Patch) (target : Target) :
    Entry × RunState → Prop
  | unreadable {cause : PatchError} : state.readText target = .error cause →
      Step state mode patch target
        ({ patch, strategy := none, result := .error (.patch cause) }, state)
  | unwritable {t patched : Text} {strategy : Option Nat} {cause : PatchError} :
      state.readText target = .ok t → weave t patch.spec = .applied patched →
      state.writeText mode target patched = .error cause →
      Step state mode patch target ({ patch, strategy, result := .error (.patch cause) }, state)
  | applied {t patched : Text} {next : RunState} :
      state.readText target = .ok t → weave t patch.spec = .applied patched →
      state.writeText mode target patched = .ok next →
      Step state mode patch target (patch.entryOn target t, next)
  | unchanged {t : Text} : state.readText target = .ok t →
      (∀ patched, weave t patch.spec ≠ .applied patched) →
      Step state mode patch target (patch.entryOn target t, state)

theorem step_applyTo (state : RunState) (mode : RunMode) (patch : Patch) (target : Target) :
    Step state mode patch target (state.applyTo mode patch target) := by
  unfold applyTo
  cases hread : state.readText target with
  | error cause => exact .unreadable hread
  | ok t =>
      have hweave : weave t patch.spec =
        (decision t patch.spec).outcome t patch.spec.fragment := rfl
      simp only
      cases houtcome : (decision t patch.spec).outcome t patch.spec.fragment with
      | applied patched =>
          cases hwrite : state.writeText mode target patched with
          | error cause =>
              simp only [hwrite]
              exact .unwritable hread (hweave.trans houtcome) hwrite
          | ok next =>
              have hstep := Step.applied hread (hweave.trans houtcome) hwrite
              simpa only [hwrite, Patch.entryOn, hweave, houtcome, Outcome.report] using hstep
      | alreadyPresent =>
          have hstep : Step state mode patch target _ := .unchanged hread fun patched h => by
            rw [hweave, houtcome] at h
            cases h
          simpa only [Patch.entryOn, hweave, houtcome, Outcome.report] using hstep
      | anchorNotFound =>
          have hstep : Step state mode patch target _ := .unchanged hread fun patched h => by
            rw [hweave, houtcome] at h
            cases h
          simpa only [Patch.entryOn, hweave, houtcome, Outcome.report] using hstep

/-! ## What every state keeps -/

/-- What holds of every state of a run in `mode` that started from `origin`. -/
structure Tracks (origin : Tree) (mode : RunMode) (state : RunState) : Prop where
  shape : origin.SameShape state.tree
  drafts : mode = .write → state.drafts = []
  tree : mode = .dryRun → state.tree = origin

/-- `next` sees `t` in `file`, and in the other files what `state` sees. -/
structure Becomes (state next : RunState) (file : Location) (t : Text) : Prop where
  self : next.readText (.located file) = .ok t
  others : ∀ other, other ≠ file → next.readText (.located other) = state.readText (.located other)

variable {origin : Tree} {mode : RunMode} {state next : RunState} {target : Target}
  {file : Location} {t : Text}

theorem tracks_start (origin : Tree) (mode : RunMode) : Tracks origin mode { tree := origin } :=
  ⟨.refl origin, fun _ => rfl, fun _ => rfl⟩

theorem Tracks.put (htracks : Tracks origin .write state) {access : Access} {old : ByteArray}
    (hfile : state.tree.node? file = some (.file access old)) (content : ByteArray) :
    Tracks origin .write { state with tree := state.tree.put file (.file access content) } :=
  ⟨htracks.shape.trans (Tree.sameShape_put hfile content), fun _ => htracks.drafts rfl, nofun⟩

theorem Tracks.draft (htracks : Tracks origin .dryRun state) (drafts : List (Path.Key × Text)) :
    Tracks origin .dryRun { state with drafts } :=
  ⟨htracks.shape, nofun, htracks.tree⟩

/-- Without drafts, a run sees the files as they are. -/
theorem readText_of_drafts_eq_nil (h : state.drafts = []) (target : Target) :
    state.readText target = state.tree.readText target := by
  unfold readText
  rw [h]
  rfl

/-- A draft is seen by every name of its key. -/
theorem readText_draft_of_eq {key : Path.Key} (h : target.key = key) (state : RunState) (t : Text) :
    readText { state with drafts := (key, t) :: state.drafts } target = .ok t := by
  subst h
  simp only [readText, List.lookup_cons_self]

theorem readText_draft_of_ne {key : Path.Key} (h : target.key ≠ key) (state : RunState) (t : Text) :
    readText { state with drafts := (key, t) :: state.drafts } target = state.readText target := by
  have hkey : (target.key == key) = false := by simpa using h
  simp only [readText, List.lookup_cons, hkey]

/-- A write to a file changes its text alone and keeps what every state keeps. -/
theorem Tracks.writeText_eq_ok (htracks : Tracks origin mode state)
    (h : state.writeText mode (.located file) t = .ok next) :
    Tracks origin mode next ∧ Becomes state next file t := by
  cases mode with
  | write =>
      unfold writeText at h
      simp only at h
      split at h
      · cases h
      · rename_i tree hwrite
        cases h
        obtain ⟨⟨old, hfile⟩, rfl⟩ := Tree.writeText_located_eq_ok hwrite
        have hput := htracks.put hfile (Text.encode t)
        refine ⟨hput, ?_, ?_⟩
        · rw [readText_of_drafts_eq_nil (hput.drafts rfl)]
          exact Tree.readText_put_self (Tree.ne_nil_of_file hfile) t
        · intro other hother
          rw [readText_of_drafts_eq_nil (hput.drafts rfl),
            readText_of_drafts_eq_nil (htracks.drafts rfl)]
          exact Tree.readText_put_of_ne _ hother
  | dryRun =>
      -- the draft goes in front of the others, under a key that only this file has
      cases h
      refine ⟨htracks.draft _, readText_draft_of_eq rfl state t, ?_⟩
      intro other hother
      exact readText_draft_of_ne (by simpa [Target.key, Location.key] using hother) state t

/-- What a run that writes can read is a file. -/
theorem Tracks.exists_file (htracks : Tracks origin .write state)
    (hread : state.readText (.located file) = .ok t) :
    ∃ access content, origin.node? file = some (.file access content) := by
  rw [readText_of_drafts_eq_nil (htracks.drafts rfl)] at hread
  obtain ⟨access, content, hfile⟩ := Tree.exists_file_of_readText hread
  obtain ⟨content', hfile'⟩ := htracks.shape.symm.file hfile
  exact ⟨access, content', hfile'⟩

/-- A file that may be written at first may be written at every step. -/
theorem Tracks.exists_writeText (htracks : Tracks origin mode state) {old : ByteArray}
    (hfile : origin.node? file = some (.file .full old)) (t : Text) :
    ∃ next, state.writeText mode (.located file) t = .ok next := by
  cases mode with
  | write =>
      obtain ⟨content, hnow⟩ := htracks.shape.file hfile
      unfold writeText
      rw [Tree.writeText_located_of_file hnow]
      exact ⟨_, rfl⟩
  | dryRun => exact ⟨_, rfl⟩

/-! ## Steps keep it -/

variable {patch : Patch} {outcome : Entry × RunState}

theorem Step.tracks (hstep : Step state mode patch (.located file) outcome)
    (htracks : Tracks origin mode state) : Tracks origin mode outcome.2 := by
  cases hstep with
  | unreadable _ => exact htracks
  | unwritable _ _ _ => exact htracks
  | applied _ _ hwrite => exact (htracks.writeText_eq_ok hwrite).1
  | unchanged _ _ => exact htracks

/-- A step leaves every file but its own as the run saw it. -/
theorem Step.readText_of_ne (hstep : Step state mode patch (.located file) outcome)
    (htracks : Tracks origin mode state) {other : Location} (hother : other ≠ file) :
    outcome.2.readText (.located other) = state.readText (.located other) := by
  cases hstep with
  | unreadable _ => rfl
  | unwritable _ _ _ => rfl
  | applied _ _ hwrite => exact (htracks.writeText_eq_ok hwrite).2.others other hother
  | unchanged _ _ => rfl

/-- **A step weaves its fragment into the text that the run sees**, where what is woven can be
written. -/
theorem Step.of_writeText (hstep : Step state mode patch target outcome)
    (hread : state.readText target = .ok t)
    (hwrite : ∀ patched, ∃ next, state.writeText mode target patched = .ok next) :
    outcome.1 = patch.entryOn target t ∧
      match weave t patch.spec with
      | .applied patched => state.writeText mode target patched = .ok outcome.2
      | _ => outcome.2 = state := by
  cases hstep with
  | unreadable hread' =>
      rw [hread] at hread'
      cases hread'
  | unwritable hread' _ hfail =>
      obtain ⟨next, hnext⟩ := hwrite _
      rw [hnext] at hfail
      cases hfail
  | applied hread' hweave hdone =>
      rw [hread] at hread'
      cases hread'
      exact ⟨rfl, by rw [hweave]; exact hdone⟩
  | unchanged hread' hweave =>
      rw [hread] at hread'
      cases hread'
      refine ⟨rfl, ?_⟩
      cases houtcome : weave t patch.spec with
      | applied patched => exact (hweave patched houtcome).elim
      | alreadyPresent => rfl
      | anchorNotFound => rfl

theorem Step.of_readText (hstep : Step state mode patch (.located file) outcome)
    (htracks : Tracks origin mode state) (hread : state.readText (.located file) = .ok t)
    {old : ByteArray} (hfile : origin.node? file = some (.file .full old)) :
    outcome.1 = patch.entryOn (.located file) t ∧
      outcome.2.readText (.located file) = .ok ((weave t patch.spec).textFrom t) := by
  obtain ⟨hentry, hnext⟩ := hstep.of_writeText hread (htracks.exists_writeText hfile)
  refine ⟨hentry, ?_⟩
  cases houtcome : weave t patch.spec with
  | applied patched =>
      rw [houtcome] at hnext
      exact (htracks.writeText_eq_ok hnext).2.self
  | alreadyPresent =>
      rw [houtcome] at hnext
      exact hnext ▸ hread
  | anchorNotFound =>
      rw [houtcome] at hnext
      exact hnext ▸ hread

/-- A file that cannot be read is left alone, and the entry says why. -/
theorem Step.of_readText_error (hstep : Step state mode patch target outcome)
    {cause : PatchError} (hread : state.readText target = .error cause) :
    outcome = ({ patch, strategy := none, result := .error (.patch cause) }, state) := by
  cases hstep with
  | unreadable hread' =>
      rw [hread] at hread'
      cases hread'
      rfl
  | unwritable hread' _ _ =>
      rw [hread] at hread'
      cases hread'
  | applied hread' _ _ =>
      rw [hread] at hread'
      cases hread'
  | unchanged hread' _ =>
      rw [hread] at hread'
      cases hread'

end RunState

/-! ## Where patches lead -/

/-- The file that a patch leads to under a guard. -/
def Guard.target? (guard : Guard) (tree : Tree) (patch : Patch) : Option Location :=
  match targetOf (some guard) tree patch with
  | .ok (.located location) => some location
  | _ => none

/-- Under a guard, every target is what the file of the patch names from the project. -/
theorem targetOf_eq_ok {guard : Guard} {tree : Tree} {patch : Patch} {target : Target}
    (h : targetOf (some guard) tree patch = .ok target) :
    ∃ location, target = .located location ∧ guard.validate tree patch.file = .ok location := by
  unfold targetOf at h
  simp only at h
  split at h
  · split at h
    · cases h
    · rename_i location hvalidate
      cases h
      exact ⟨location, rfl, hvalidate⟩
  · cases h

/-- A patch leads where it led at first for as long as the shape of the tree is the same. -/
theorem targetOf_eq {origin tree : Tree} (h : origin.SameShape tree) (guard : Guard)
    (patch : Patch) : targetOf (some guard) tree patch = targetOf (some guard) origin patch := by
  unfold targetOf Guard.validate
  simp only [h.placeFrom_eq, h.locateFrom_eq]

variable {guard : Guard} {origin : Tree} {patch : Patch} {file : Location}

theorem Guard.target?_of_located (h : targetOf (some guard) origin patch = .ok (.located file)) :
    guard.target? origin patch = some file := by
  unfold Guard.target?
  rw [h]

theorem Guard.target?_of_error {cause : RunError}
    (h : targetOf (some guard) origin patch = .error cause) :
    guard.target? origin patch = none := by
  unfold Guard.target?
  rw [h]

/-- A guard lets every file through that a patch leads to under it. -/
theorem Guard.validate_of_target? (h : guard.target? origin patch = some file) :
    guard.validate origin patch.file = .ok file := by
  unfold Guard.target? at h
  split at h
  · rename_i location htarget
    cases h
    obtain ⟨_, heq, hvalidate⟩ := targetOf_eq_ok htarget
    cases heq
    exact hvalidate
  · cases h

namespace RunState

variable {mode : RunMode} {state : RunState}

/-! ## One patch -/

/-- A patch that leads nowhere fails and changes nothing. -/
theorem apply_of_error (hshape : origin.SameShape state.tree) {cause : RunError}
    (h : targetOf (some guard) origin patch = .error cause) :
    state.apply (some guard) mode patch =
      ({ patch, strategy := none, result := .error cause }, state) := by
  unfold apply
  rw [targetOf_eq hshape, h]

/-- A patch that leads to a file is a step on it. -/
theorem step_apply (hshape : origin.SameShape state.tree)
    (h : targetOf (some guard) origin patch = .ok (.located file)) :
    Step state mode patch (.located file) (state.apply (some guard) mode patch) := by
  unfold apply
  rw [targetOf_eq hshape, h]
  exact step_applyTo state mode patch _

/-- A patch leads nowhere and fails, or leads to a file and is a step on it. -/
theorem apply_cases (hshape : origin.SameShape state.tree) (guard : Guard) (mode : RunMode)
    (patch : Patch) :
    (guard.target? origin patch = none ∧ ∃ cause, state.apply (some guard) mode patch =
        ({ patch, strategy := none, result := .error cause }, state)) ∨
      ∃ file, guard.target? origin patch = some file ∧
        Step state mode patch (.located file) (state.apply (some guard) mode patch) := by
  cases htarget : targetOf (some guard) origin patch with
  | error cause =>
      exact .inl ⟨Guard.target?_of_error htarget, cause, apply_of_error hshape htarget⟩
  | ok target =>
      obtain ⟨location, rfl, -⟩ := targetOf_eq_ok htarget
      exact .inr ⟨location, Guard.target?_of_located htarget, step_apply hshape htarget⟩

theorem Step.patch_eq {target : Target} {outcome : Entry × RunState}
    (hstep : Step state mode patch target outcome) : outcome.1.patch = patch := by
  cases hstep with
  | unreadable _ => rfl
  | unwritable _ _ _ => rfl
  | applied _ _ _ => rfl
  | unchanged _ _ => rfl

theorem apply_patch_eq (state : RunState) (guard : Option Guard) (mode : RunMode) (patch : Patch) :
    (state.apply guard mode patch).1.patch = patch := by
  unfold apply
  cases targetOf guard state.tree patch with
  | error cause => rfl
  | ok target => exact (step_applyTo state mode patch target).patch_eq

theorem apply_spec (htracks : Tracks origin mode state) (guard : Guard) (patch : Patch) :
    (state.apply (some guard) mode patch).1.patch = patch ∧
      Tracks origin mode (state.apply (some guard) mode patch).2 := by
  refine ⟨apply_patch_eq state (some guard) mode patch, ?_⟩
  rcases apply_cases htracks.shape guard mode patch with ⟨-, cause, heq⟩ | ⟨location, -, hstep⟩
  · rw [heq]
    exact htracks
  · exact hstep.tracks htracks

/-! ## All patches -/

theorem applyAll_cons (state : RunState) (guard : Option Guard) (mode : RunMode) (patch : Patch)
    (others : List Patch) :
    state.applyAll guard mode (patch :: others) =
      ((state.apply guard mode patch).1 ::
          ((state.apply guard mode patch).2.applyAll guard mode others).1,
        ((state.apply guard mode patch).2.applyAll guard mode others).2) :=
  rfl

/-- A run reports on each patch, in the order of the plan. -/
theorem map_patch_applyAll (state : RunState) (guard : Option Guard) (mode : RunMode)
    (patches : List Patch) :
    (state.applyAll guard mode patches).1.map Entry.patch = patches := by
  induction patches generalizing state with
  | nil => rfl
  | cons patch others ih => rw [applyAll_cons, List.map_cons, apply_patch_eq, ih]

theorem applyAll_spec (htracks : Tracks origin mode state) (guard : Guard)
    (patches : List Patch) :
    (state.applyAll (some guard) mode patches).1.map Entry.patch = patches ∧
      Tracks origin mode (state.applyAll (some guard) mode patches).2 := by
  refine ⟨map_patch_applyAll state (some guard) mode patches, ?_⟩
  induction patches generalizing state with
  | nil => exact htracks
  | cons patch others ih =>
      rw [applyAll_cons]
      exact ih (apply_spec htracks guard patch).2

end RunState

/-! ## A plan -/

variable {plan : Plan} {tree : Tree} {root : Path} {mode : RunMode}

theorem Plan.run_of_guard (hrelative : plan.info.workspaceRelative = true)
    (hguard : Guard.ofRoot tree root = .ok guard) :
    plan.run tree root mode =
      let (entries, state) := RunState.applyAll { tree } (some guard) mode plan.patches
      { rejected := none, entries, tree := state.tree } := by
  unfold Plan.run Plan.guard?
  rw [if_pos hrelative, hguard]

theorem Plan.run_of_noProject (hrelative : plan.info.workspaceRelative = true)
    {cause : GuardError} (hguard : Guard.ofRoot tree root = .error cause) :
    plan.run tree root mode =
      { rejected := some cause
        entries := plan.patches.map fun patch =>
          { patch, strategy := none, result := .error (.noProject root cause) }
        tree } := by
  unfold Plan.run Plan.guard?
  rw [if_pos hrelative, hguard]

end Graft
