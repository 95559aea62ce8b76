import Mathlib
import Graft.Proofs.Project.Readiness
import Graft.Proofs.Recipe.Rerun
import Graft.Proofs.Splice.OwnLine

/-!
# Registering a feature in one run

Of the patches of a feature, some go into one file: imports first, then one that needs
them. An import goes in on a line of its own. No other patch of that file is looked for
in such a line, since an import is part of no other import
(`eq_of_infix_importLine`) and other code has characters that an import does not have,
as the delimiters and headers of blocks do. So an import leaves what comes behind it
ready (`leaves_importSpec`), and a plan whose patches all have a place in their files at
first is applied in whole by one run (`Feature.plan_applies`).
-/

namespace Graft

open Text

/-! ## Lines of imports -/

theorem Text.IsKey.unbroken {key : Text} (h : key.IsKey) : Unbroken key := by
  intro c hc
  rw [← Bool.not_eq_true]
  intro hbreak
  simp only [isBreak, Bool.or_eq_true, beq_iff_eq] at hbreak
  rcases hbreak with rfl | rfl
  · exact notMem_of_all_isKeyChar h.keyChars rfl hc
  · exact notMem_of_all_isKeyChar h.keyChars rfl hc

theorem Text.IsKey.head_isIndent {key : Text} (h : key.IsKey) :
    ∀ c, key.head? = some c → isIndent c = false :=
  fun c hc => isIndent_eq_false (h.head c hc)

/-- A character that an import may have. -/
def isImportChar (c : Char) : Bool :=
  isClassChar c || c == ' ' || c == ';'

theorem withstands_importAnchors (className : Text) :
    ∀ anchor ∈ importAnchors, anchor.Withstands (importLine className) := by
  have hend : ";" <:+: importLine className := (List.suffix_append _ _).isInfix
  simp only [importAnchors, List.forall_mem_cons]
  refine ⟨?_, ?_, ?_, List.forall_mem_nil _⟩
  · have hword : Unbroken "use " := unbroken_of_any_eq_false rfl
    exact .lastLiteralAfter hword (by decide) (by decide) hend
  · exact .literalAfter_through (unbroken_of_any_eq_false rfl) (by decide) (by decide) hend
  · exact .literalAfter (unbroken_of_any_eq_false rfl) (by decide)

/-- All anchors of an import stand for the place behind a line. -/
theorem exists_line_of_importPoint {t : Text} {strategy : Nat} {point : Point}
    (h : firstPoint? t importAnchors = some (strategy, point)) :
    ∃ (i : Nat) (line : Line), (lines t)[i]? = some line ∧ point = pointAfter t line := by
  obtain ⟨anchor, hanchor, hresolve⟩ := exists_of_firstPoint? h
  obtain ⟨start, marker, terminator, hmatch⟩ :
      ∃ start marker terminator, pointAfterMatch? t start marker terminator = some point := by
    simp only [importAnchors, List.mem_cons, List.not_mem_nil, or_false] at hanchor
    rcases hanchor with rfl | rfl | rfl
    all_goals
      obtain ⟨start, -, hmatch⟩ := Option.bind_eq_some_iff.mp hresolve
      exact ⟨start, _, _, hmatch⟩
  exact exists_line_of_pointAfterMatch? hmatch

section Import

variable {className : Text} (hclass : ∀ c ∈ className, isClassChar c = true)
include hclass

theorem notMem_className {c : Char} (hc : isClassChar c = false) : c ∉ className := by
  intro hmem
  rw [hclass c hmem] at hc
  cases hc

theorem notMem_importLine {c : Char} (hc : isImportChar c = false) : c ∉ importLine className := by
  have hwords : ("use ;" : Text).all isImportChar = true := rfl
  have hchar : isClassChar c = false := (Bool.or_eq_false_iff.mp (Bool.or_eq_false_iff.mp hc).1).1
  refine notMem_importLine_of_notMem (notMem_className hclass hchar) fun hmem => ?_
  rw [List.all_eq_true.mp hwords c hmem] at hc
  cases hc

/-- Other code is no part of an import. -/
theorem not_infix_importLine {needle : Text} {c : Char} (hmem : c ∈ needle)
    (hc : isImportChar c = false) : ¬needle <:+: importLine className :=
  fun hwithin => notMem_importLine hclass hc (hwithin.subset hmem)

/-- An import is no part of another one. -/
theorem eq_of_infix_importLine {other : Text} (h : importLine other <:+: importLine className) :
    other = className := by
  obtain ⟨front, back, heq⟩ := h
  -- an import has one blank, and one semicolon behind it
  have hblank : ("use" : Text) ++ ' ' :: (className ++ [';']) =
      (front ++ "use") ++ ' ' :: (other ++ ";" ++ back) := by
    have hlines : front ++ ("use " ++ other ++ ";") ++ back =
        ("use " ++ className ++ ";" : Text) := heq
    simpa using hlines.symm
  have hnotMem : ' ' ∉ className ++ [';'] := by
    simp [notMem_className hclass (show isClassChar ' ' = false from rfl)]
  obtain ⟨-, -, hrest⟩ := (List.append_cons_inj_of_notMem (by decide) hnotMem).mp hblank
  have hend : className ++ ';' :: [] = other ++ ';' :: back := by simpa using hrest
  have hsemicolon : ';' ∉ className := notMem_className hclass rfl
  exact ((List.append_cons_inj_of_notMem hsemicolon List.not_mem_nil).mp hend).1.symm

theorem filter_marks_importLine (d : Delimiter) : (importLine className).filter d.marks = [] := by
  rw [List.filter_eq_nil_iff]
  intro c hc hmark
  simp only [Delimiter.marks, Bool.or_eq_true, beq_iff_eq] at hmark
  rcases hmark with rfl | rfl
  · exact notMem_importLine hclass (by cases d <;> rfl) hc
  · exact notMem_importLine hclass (by cases d <;> rfl) hc

/-! ## What an import leaves ready -/

theorem importSpec_eq_of_isClassChar :
    importSpec className = .ofLine (importLine className) (importLine className) importAnchors :=
  importSpec_eq (notMem_className hclass rfl)

/-- **An import goes on a line of its own.** -/
theorem gainsLine_of_weave_importSpec {t r : Text}
    (h : weave t (importSpec className) = .applied r) : GainsLine (importLine className) t r := by
  rw [importSpec_eq_of_isClassChar hclass] at h
  obtain ⟨-, strategy, point, -, hpoint, rfl⟩ := exists_of_weave_eq_applied h
  obtain ⟨i, line, hline, rfl⟩ := exists_line_of_importPoint hpoint
  exact gainsLine_pointAfter hline (isKey_importLine hclass).ne_nil

/-- An import leaves ready what is not looked for in imports. -/
theorem leaves_importSpec {second : Spec} (hkey : second.identity.mark.IsKey)
    (hnot : ¬second.identity.mark <:+: importLine className)
    (hanchors : ∀ anchor ∈ second.anchors, anchor.Withstands (importLine className)) :
    (importSpec className).Leaves second := by
  intro t r hweave hready
  have hgains := gainsLine_of_weave_importSpec hclass hweave
  refine ⟨fun hwithin => ?_, ?_⟩
  · rcases hgains.infix_or_infix hkey.unbroken hkey.ne_nil hkey.head_isIndent hwithin with
      hbefore | hline
    · exact hready.absent hbefore
    · exact hnot hline
  · obtain ⟨anchor, hanchor, hresolve⟩ := hready.resolves
    have hline := (isKey_importLine hclass).unbroken
    exact ⟨anchor, hanchor, (hanchors anchor hanchor).isSome_resolve? hline hgains hresolve⟩

/-- An import leaves another one ready. -/
theorem leaves_importSpec_importSpec {other : Text} (hother : ∀ c ∈ other, isClassChar c = true)
    (hne : other ≠ className) : (importSpec className).Leaves (importSpec other) := by
  rw [importSpec_eq_of_isClassChar hother]
  have hnot : ¬importLine other <:+: importLine className :=
    fun hwithin => hne (eq_of_infix_importLine hclass hwithin)
  exact leaves_importSpec hclass (isKey_importLine hother) hnot (withstands_importAnchors className)

/-- A block whose header is other code stays where it is when an import goes in. -/
theorem withstands_block {header : Text} {first c : Char} (d : Delimiter)
    (hbreak : header.any isBreak = false) (hfirst : header.head? = some first)
    (hindent : isIndent first = false) (hmem : c ∈ header) (hc : isImportChar c = false) :
    (Anchor.blockBodyStart header d).Withstands (importLine className) ∧
      (Anchor.blockBodyEnd header d).Withstands (importLine className) := by
  have hunbroken := unbroken_of_any_eq_false hbreak
  have hne := List.ne_nil_of_mem hmem
  have hhead : ∀ x, header.head? = some x → isIndent x = false := by
    intro x hx
    rw [hfirst, Option.some.injEq] at hx
    exact hx ▸ hindent
  have hnot := not_infix_importLine hclass hmem hc
  have hmarks := filter_marks_importLine hclass d
  exact ⟨.blockBodyStart hunbroken hne hhead hnot hmarks,
    .blockBodyEnd hunbroken hne hhead hnot hmarks⟩

end Import

/-- A fragment that goes in behind imports and is other code, at places that imports leave. -/
structure Spec.FollowsImports (spec : Spec) : Prop where
  mark : ∃ c ∈ spec.identity.mark, isImportChar c = false
  anchors : ∀ anchor ∈ spec.anchors, ∀ className : Text,
    (∀ c ∈ className, isClassChar c = true) → anchor.Withstands (importLine className)

theorem Spec.FollowsImports.leaves {spec : Spec} (h : spec.FollowsImports) {className : Text}
    (hclass : ∀ c ∈ className, isClassChar c = true) (hkey : spec.identity.mark.IsKey) :
    (importSpec className).Leaves spec := by
  obtain ⟨c, hmem, hc⟩ := h.mark
  exact leaves_importSpec hclass hkey (not_infix_importLine hclass hmem hc)
    fun anchor hanchor => h.anchors anchor hanchor className hclass

/-- Two imports and what follows them leave each other ready. -/
theorem pairwise_imports {first second : Text} (hfirst : ∀ c ∈ first, isClassChar c = true)
    (hsecond : ∀ c ∈ second, isClassChar c = true) (hne : first ≠ second) {last : Spec}
    (hlast : last.FollowsImports) :
    [importSpec first, importSpec second, last].Pairwise fun former latter =>
      latter.identity.mark.IsKey → former.Leaves latter := by
  simp only [List.pairwise_cons, List.forall_mem_cons]
  refine ⟨⟨fun _ => ?_, hlast.leaves hfirst, List.forall_mem_nil _⟩,
    ⟨hlast.leaves hsecond, List.forall_mem_nil _⟩, List.forall_mem_nil _, List.Pairwise.nil⟩
  exact leaves_importSpec_importSpec hfirst hsecond hne.symm

namespace Feature

variable {feature : Feature}

/-! ## The patches of a feature -/

theorem serviceInterface_ne_serviceClass (feature : Feature) :
    feature.serviceInterface ≠ feature.serviceClass := by
  delta serviceInterface serviceClass
  intro heq
  have hlength := congrArg List.length heq
  simp at hlength
  omega

theorem modelClass_ne_policyClass (feature : Feature) :
    feature.modelClass ≠ feature.policyClass := by
  delta modelClass policyClass
  intro heq
  have hlength := congrArg List.length heq
  simp at hlength

theorem followsImports_binding (feature : Feature) :
    (Spec.ofLine feature.bindingLine feature.bindingLine
      [.blockBodyStart registerMethod .brace]).FollowsImports where
  mark := by
    refine ⟨'$', ?_, rfl⟩
    change '$' ∈ feature.bindingLine
    delta bindingLine
    simp
  anchors := by
    have hparen : '(' ∈ registerMethod := by decide
    refine List.forall_mem_singleton.mpr fun className hclass => ?_
    exact (withstands_block hclass .brace rfl rfl rfl hparen rfl).1

theorem followsImports_mapping (feature : Feature) :
    (Spec.ofLine (feature.policyMapping ++ ",") feature.policyMapping
      [.blockBodyStart policiesProperty .bracket]).FollowsImports where
  mark := by
    refine ⟨':', ?_, rfl⟩
    change ':' ∈ feature.policyMapping
    delta policyMapping
    simp
  anchors := by
    have hdollar : '$' ∈ policiesProperty := by decide
    refine List.forall_mem_singleton.mpr fun className hclass => ?_
    exact (withstands_block hclass .bracket rfl rfl rfl hdollar rfl).1

theorem followsImports_route {path : Text} {fragment : List Text} {anchors : List Anchor}
    (hanchors : ∀ anchor ∈ anchors, anchor = .blockBodyEnd sanctumGroup .brace ∨
      anchor = .endOfDocument) :
    Spec.FollowsImports { fragment, identity := feature.routeIdentity path, anchors } where
  mark := by
    refine ⟨':', ?_, rfl⟩
    change ':' ∈ feature.controller ++ ("::class" : Text)
    simp
  anchors anchor hanchor className hclass := by
    have hcolon : ':' ∈ sanctumGroup := by decide
    rcases hanchors anchor hanchor with rfl | rfl
    · exact (withstands_block hclass .brace rfl rfl rfl hcolon rfl).2
    · exact .endOfDocument

/-- Patches of separate files do not meet. -/
theorem pairwise_append_of_files {relation : Patch → Patch → Prop} {front back : List Patch}
    (hfiles : (front.map Patch.file).all (fun file => !(back.map Patch.file).contains file) = true)
    (hfront : front.Pairwise fun first second => first.file = second.file → relation first second)
    (hback : back.Pairwise fun first second => first.file = second.file → relation first second) :
    (front ++ back).Pairwise fun first second =>
      first.file = second.file → relation first second := by
  refine List.pairwise_append.mpr ⟨hfront, hback, fun first hfirst second hsecond heq => ?_⟩
  have hnot := List.all_eq_true.mp hfiles first.file (List.mem_map_of_mem hfirst)
  rw [heq, List.contains_iff_mem.mpr (List.mem_map_of_mem hsecond)] at hnot
  cases hnot

namespace WellNamed

variable (h : feature.WellNamed)
include h

theorem keys_ne_nil {patch : Patch} (hpatch : patch ∈ feature.everyPatch) :
    patch.spec.identity.keys ≠ [] := by
  intro hnil
  have hidentity := (h.onOneLine.isFit patch hpatch).identity
  rw [Identity.isEmpty, hnil] at hidentity
  cases hidentity

theorem isKey_mark {patch : Patch} (hpatch : patch ∈ feature.everyPatch) :
    patch.spec.identity.mark.IsKey :=
  h.isKey patch hpatch _ (Identity.mark_mem_keys (h.keys_ne_nil hpatch))

/-- **Each patch of a feature leaves those behind it in its file ready.** -/
theorem pairwise_leaves : feature.everyPatch.Pairwise fun first second =>
    first.file = second.file → first.spec.Leaves second.spec := by
  have hkeys : feature.everyPatch.Pairwise fun first second =>
      first.file = second.file → second.spec.identity.mark.IsKey →
        first.spec.Leaves second.spec := by
    refine pairwise_append_of_files rfl ?seeder (pairwise_append_of_files rfl ?serviceBinding
      (pairwise_append_of_files rfl ?webRoutes (pairwise_append_of_files rfl ?apiRoutes ?policy)))
    case seeder =>
      rw [seederPatches_eq h.onOneLine]
      exact List.pairwise_singleton _ _
    case serviceBinding =>
      have himports := pairwise_imports h.serviceInterface h.serviceClass
        feature.serviceInterface_ne_serviceClass feature.followsImports_binding
      rw [serviceBindingPatches_eq h.onOneLine]
      exact .of_map Patch.spec (fun _ _ hleaves _ => hleaves) himports
    case webRoutes =>
      rw [webRoutePatches_eq]
      exact List.pairwise_pair.mpr fun _ =>
        (followsImports_route (by simp)).leaves h.controllerClass
    case apiRoutes =>
      rw [apiRoutePatches_eq]
      exact List.pairwise_pair.mpr fun _ =>
        (followsImports_route (by simp)).leaves h.controllerClass
    case policy =>
      have himports := pairwise_imports h.modelClass h.policyClass
        feature.modelClass_ne_policyClass feature.followsImports_mapping
      rw [policyPatches_eq h.onOneLine]
      exact .of_map Patch.spec (fun _ _ hleaves _ => hleaves) himports
  exact hkeys.imp_of_mem fun _ hsecond hleaves hfile => hleaves hfile (h.isKey_mark hsecond)

end WellNamed

end Feature

/-! ## Runs -/

/-- A project awaits a plan: the patches go into distinct files of text that may be written, which
have none of their keys but a place for each. -/
structure Plan.IsAwaitedIn (plan : Plan) (tree : Tree) (root : Path) : Prop where
  files : ∀ patch ∈ plan.patches, ∃ file content t, patch.target? tree root = some file ∧
    tree.node? file = some (.file .full content) ∧ tree.readText (.located file) = .ok t ∧
    (∀ key ∈ patch.spec.identity.keys, t.holds key = false) ∧
    ∃ anchor ∈ patch.spec.anchors, (resolve? t anchor).isSome = true
  distinct : ∀ first ∈ plan.patches, ∀ second ∈ plan.patches,
    first.target? tree root = second.target? tree root → first.file = second.file

namespace Feature

variable {feature : Feature}

theorem WellNamed.run_applied (h : feature.WellNamed) {tree : Tree} {root : Path}
    (hawaited : feature.plan.IsAwaitedIn tree root) :
    ∀ entry ∈ (feature.plan.run tree root .write).entries, ∃ file diff,
      entry.patch.target? tree root = some file ∧
        entry.result = .ok (.applied (.located file) diff) := by
  have hsublist := feature.patches_plan_sublist
  refine Plan.run_applied (fun patch hpatch => ?_) rfl ?_
  · obtain ⟨file, content, t, htarget, hfile, hread, habsent, hresolves⟩ :=
      hawaited.files patch hpatch
    refine ⟨file, content, t, htarget, hfile, hread, fun hwithin => ?_, hresolves⟩
    have hmark := Identity.mark_mem_keys (h.keys_ne_nil (hsublist.subset hpatch))
    rw [← holds_iff, habsent _ hmark] at hwithin
    cases hwithin
  · refine (h.pairwise_leaves.sublist hsublist).imp_of_mem ?_
    exact fun hfirst hsecond hleaves heq => hleaves (hawaited.distinct _ hfirst _ hsecond heq)

/-- **Registering a feature takes one run.**  For each accepted name, kind and choice of weavings,
and for any project that awaits the plan: one run reports on each patch, and applies it. -/
theorem plan_applies {raw : Text} (hname : ofName raw = .ok feature) (kind : ControllerKind)
    (weavings : Weavings) {tree : Tree} {root : Path}
    (hawaited : ({ feature with kind, weavings } : Feature).plan.IsAwaitedIn tree root) :
    let plan := ({ feature with kind, weavings } : Feature).plan
    (plan.run tree root .write).entries.map Entry.patch = plan.patches ∧
      ∀ entry ∈ (plan.run tree root .write).entries, ∃ file diff,
        entry.patch.target? tree root = some file ∧
          entry.result = .ok (.applied (.located file) diff) := by
  have hnamed : ({ feature with kind, weavings } : Feature).WellNamed :=
    (wellNamed_of_ofName hname).of_names rfl rfl rfl
  exact ⟨Plan.map_patch_entriesAfter _ tree root 0, hnamed.run_applied hawaited⟩

/-- A provider that maps no policies yet. -/
def providerText : Text :=
  "<?php\nnamespace App\\Providers;\nprotected $policies = [\n];\n"

/-- Where the provider is. -/
def providerFile : Location :=
  ["app", "Providers", "AuthServiceProvider.php"]

/-- A project with such a provider. -/
def providerTree : Tree where
  nodes :=
    [(["app"], .folder .full),
      (["app", "Providers"], .folder .full),
      (providerFile, .file .full (Text.encode providerText))]
  home := []

/-- Nothing but the policy of a feature. -/
def policyOnly : Weavings where
  webRoutes := false

theorem policyPatches_order :
    order.policyPatches = [{
      id := "policy-model-import"
      file := authServiceProvider
      spec := .ofLine "use App\\Models\\Order;" "use App\\Models\\Order;" importAnchors }, {
      id := "policy-import"
      file := authServiceProvider
      spec := .ofLine "use App\\Policies\\OrderPolicy;" "use App\\Policies\\OrderPolicy;"
        importAnchors }, {
      id := "policy-mapping"
      file := authServiceProvider
      spec := .ofLine "Order::class => OrderPolicy::class," "Order::class => OrderPolicy::class"
        [.blockBodyStart policiesProperty .bracket] }] := by
  have hname : ofName "order" = .ok order := rfl
  have hmodel : importSpec order.modelClass =
      .ofLine "use App\\Models\\Order;" "use App\\Models\\Order;" importAnchors :=
    importSpec_eq (by decide)
  have hpolicy : importSpec order.policyClass =
      .ofLine "use App\\Policies\\OrderPolicy;" "use App\\Policies\\OrderPolicy;" importAnchors :=
    importSpec_eq (by decide)
  have hmapping : order.policyMapping = ("Order::class => OrderPolicy::class" : Text) := rfl
  rw [policyPatches_eq (wellNamed_of_ofName hname).onOneLine, hmodel, hpolicy, hmapping]
  rfl

theorem target?_providerTree {patch : Patch} (hfile : patch.file = authServiceProvider) :
    patch.target? providerTree "/" = some providerFile := by
  obtain ⟨id, file, spec⟩ := patch
  change file = authServiceProvider at hfile
  subst hfile
  cbv

/-- The project has a place for each of the three patches, which all go into its provider. -/
theorem order_isAwaitedIn :
    ({ order with weavings := policyOnly } : Feature).plan.IsAwaitedIn providerTree "/" := by
  have hpatches : ({ order with weavings := policyOnly } : Feature).plan.patches =
      order.policyPatches := by
    rw [patches_plan]
    rfl
  rw [policyPatches_order] at hpatches
  have hfiles : ∀ patch ∈ ({ order with weavings := policyOnly } : Feature).plan.patches,
      patch.file = authServiceProvider := by
    rw [hpatches]
    simp
  have hnode : providerTree.node? providerFile = some (.file .full (Text.encode providerText)) := by
    cbv
  have hread : providerTree.readText (.located providerFile) = .ok providerText := by cbv
  have hnamespace : (resolve? providerText (.literalAfter "\nnamespace " none (some ";"))).isSome =
      true := by cbv
  have hlist : (resolve? providerText (.blockBodyStart policiesProperty .bracket)).isSome =
      true := by cbv
  refine ⟨fun patch hpatch => ?_, fun first hfirst second hsecond _ => ?_⟩
  · refine ⟨providerFile, _, providerText, target?_providerTree (hfiles patch hpatch), hnode,
      hread, ?_⟩
    revert patch
    rw [hpatches]
    simp only [List.forall_mem_cons]
    refine ⟨⟨?_, _, .tail _ (.head _), hnamespace⟩, ⟨?_, _, .tail _ (.head _), hnamespace⟩,
      ⟨?_, _, .head _, hlist⟩, List.forall_mem_nil _⟩
    all_goals
      refine List.forall_mem_singleton.mpr ?_
      cbv
  · rw [hfiles first hfirst, hfiles second hsecond]

/-- One run imports the model and its policy and maps one to the other. -/
theorem order_plan_applied :
    let plan := ({ order with weavings := policyOnly } : Feature).plan
    ofName "order" = .ok order ∧ plan.IsAwaitedIn providerTree "/" ∧
      (plan.run providerTree "/" .write).entries.length = 3 ∧
      ∀ entry ∈ (plan.run providerTree "/" .write).entries, ∃ file diff,
        entry.patch.target? providerTree "/" = some file ∧
          entry.result = .ok (.applied (.located file) diff) := by
  have hname : ofName "order" = .ok order := rfl
  obtain ⟨hpatches, hresults⟩ := plan_applies hname .resource policyOnly order_isAwaitedIn
  have hlength := congrArg List.length hpatches
  rw [List.length_map] at hlength
  exact ⟨hname, order_isAwaitedIn, hlength, hresults⟩

end Feature
end Graft
