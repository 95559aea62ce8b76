import Mathlib
import Graft.Proofs.Project.Rerun
import Graft.Proofs.Recipe.Valid

/-!
# Registering a feature again

The keys of a feature's patches are pieces of code on one line, without blanks at their
ends and without braces or brackets (`Feature.WellNamed.isKey`), and its anchors look for
blocks of braces and brackets at most. So the anchors spare all keys, whatever the name
of the feature is, and its plan may be run on a project again and again: each
registration is woven in once at most, and what is there stays there
(`Feature.rerun_harmless`).
-/

namespace Graft

open Text

/-! ## Keys -/

/-- A character that neither breaks a line nor opens or closes a block of braces or brackets. -/
def isKeyChar (c : Char) : Bool :=
  c != '\n' && c != '\r' && c != '{' && c != '}' && c != '[' && c != ']'

/-- A piece of code that a text can be searched for. -/
structure Text.IsKey (t : Text) : Prop extends IsTight t where
  keyChars : t.all isKeyChar = true

theorem notMem_of_all_isKeyChar {t : Text} (h : t.all isKeyChar = true) {c : Char}
    (hc : isKeyChar c = false) : c ∉ t := by
  intro hmem
  rw [List.all_eq_true.mp h c hmem] at hc
  cases hc

theorem isIndent_eq_false {c : Char} (h : isSpace c = false) : isIndent c = false := by
  rw [← Bool.not_eq_true] at h ⊢
  exact fun hindent => h (isSpace_of_isIndent hindent)

/-- An anchor spares a key unless it breaks blocks of parentheses. -/
theorem Text.IsKey.spares {key : Text} (h : key.IsKey) {anchor : Anchor}
    (hanchor : anchor.delimiter? ≠ some .paren) : anchor.Spares key where
  ne_nil := h.ne_nil
  oneLine := h.oneLine
  head c hc := isIndent_eq_false (h.head c hc)
  last c hc := isIndent_eq_false (h.last c hc)
  delimiter d hd := by
    have hnot {c : Char} (hc : isKeyChar c = false) : c ∉ key :=
      notMem_of_all_isKeyChar h.keyChars hc
    cases d with
    | brace => exact ⟨hnot rfl, hnot rfl⟩
    | bracket => exact ⟨hnot rfl, hnot rfl⟩
    | paren => exact absurd hd hanchor

theorem isKeyChar_of_isClassChar {c : Char} (h : isClassChar c = true) : isKeyChar c = true :=
  ascii_cases (p := fun c => isClassChar c = true → isKeyChar c = true) (by decide)
    (toNat_lt_of_isClassChar h) h

theorem toNat_lt_of_isRouteChar {c : Char} (h : isRouteChar c = true) : c.toNat < 128 := by
  rcases Bool.or_eq_true_iff.mp h with h | h
  · exact toNat_lt_of_isAlphanum h
  · rw [beq_iff_eq.mp h]
    decide

theorem of_isRouteChar {c : Char} (h : isRouteChar c = true) :
    isKeyChar c = true ∧ isSpace c = false :=
  ascii_cases (p := fun c => isRouteChar c = true → isKeyChar c = true ∧ isSpace c = false)
    (by decide) (toNat_lt_of_isRouteChar h) h

theorem Text.isKey_of_isRouteChar {path : Text} (hne : path ≠ [])
    (h : ∀ c ∈ path, isRouteChar c = true) : path.IsKey where
  ne_nil := hne
  oneLine hmem := absurd (h _ hmem) (by decide)
  head c hc := (of_isRouteChar (h c (List.mem_of_head? hc))).2
  last c hc := (of_isRouteChar (h c (List.mem_of_getLast? hc))).2
  keyChars := List.all_eq_true.mpr fun c hc => (of_isRouteChar (h c hc)).1

theorem all_isKeyChar_of_isClassChar {t : Text} (h : ∀ c ∈ t, isClassChar c = true) :
    t.all isKeyChar = true :=
  List.all_eq_true.mpr fun c hc => isKeyChar_of_isClassChar (h c hc)

theorem isKey_importLine {className : Text} (h : ∀ c ∈ className, isClassChar c = true) :
    (importLine className).IsKey where
  toIsTight := isTight_importLine fun hmem => absurd (h _ hmem) (by decide)
  keyChars := by
    delta importLine
    rw [List.all_append, List.all_append, all_isKeyChar_of_isClassChar h]
    rfl

theorem isKey_importSpec {className : Text} (h : ∀ c ∈ className, isClassChar c = true) :
    ∀ key ∈ (importSpec className).identity.keys, key.IsKey := by
  rw [importSpec_eq fun hmem => absurd (h _ hmem) (by decide)]
  exact List.forall_mem_singleton.mpr (isKey_importLine h)

namespace Feature

variable {feature : Feature}

/-- The anchors of a feature's patches break blocks of braces and brackets at most. -/
theorem delimiters_everyPatch (feature : Feature) :
    feature.everyPatch.map (fun patch => patch.spec.anchors.map Anchor.delimiter?) =
      [[none, some .brace], [none, none, none], [none, none, none], [some .brace],
        [none, none, none], [none], [none, none, none], [some .brace, none], [none, none, none],
        [none, none, none], [some .bracket]] :=
  rfl

theorem delimiter?_ne_paren {patch : Patch} (hpatch : patch ∈ feature.everyPatch)
    {anchor : Anchor} (hanchor : anchor ∈ patch.spec.anchors) :
    anchor.delimiter? ≠ some .paren := by
  intro heq
  have hmem := List.mem_map_of_mem (f := fun patch => patch.spec.anchors.map Anchor.delimiter?)
    hpatch
  rw [delimiters_everyPatch] at hmem
  have hparen : some .paren ∈ patch.spec.anchors.map Anchor.delimiter? :=
    heq ▸ List.mem_map_of_mem hanchor
  revert hparen
  generalize patch.spec.anchors.map Anchor.delimiter? = delimiters at hmem
  revert delimiters
  decide

namespace WellNamed

variable (h : feature.WellNamed)
include h

/-- What starts with the name of a feature is a key, if its last part is code. -/
theorem isKey_append {front back : Text} {final : Char} (hfront : feature.name <+: front)
    (hfinal : back.getLast? = some final) (hfinal' : isSpace final = false)
    (hchars : (front ++ back).all isKeyChar = true) : IsKey (front ++ back) where
  toIsTight := h.onOneLine.isTight hfront hfinal hfinal' (notMem_of_all_isKeyChar hchars rfl)
  keyChars := hchars

theorem isKey_bindingLine : feature.bindingLine.IsKey := by
  refine ⟨h.onOneLine.isTight_bindingLine, ?_⟩
  delta bindingLine
  simp only [List.all_append, all_isKeyChar_of_isClassChar h.isClassChar_of_mem_name]
  rfl

theorem isKey_policyMapping : feature.policyMapping.IsKey := by
  refine ⟨h.onOneLine.isTight_policyMapping, ?_⟩
  delta policyMapping
  simp only [List.all_append, all_isKeyChar_of_isClassChar h.isClassChar_of_mem_name]
  rfl

/-- The name of a class that is called after the feature, as code refers to it. -/
theorem isKey_classReference {suffix : Text} (hsuffix : suffix.all isKeyChar = true) :
    IsKey (feature.name ++ suffix ++ "::class") := by
  refine h.isKey_append (List.prefix_append _ _) rfl rfl ?_
  rw [List.all_append, List.all_append, hsuffix,
    all_isKeyChar_of_isClassChar h.isClassChar_of_mem_name]
  rfl

theorem isKey_routeIdentity {path : Text} (hne : path ≠ [])
    (hpath : ∀ c ∈ path, isRouteChar c = true) :
    ∀ key ∈ (feature.routeIdentity path).keys, key.IsKey :=
  List.forall_mem_cons.mpr ⟨isKey_of_isRouteChar hne hpath,
    List.forall_mem_singleton.mpr (h.isKey_classReference rfl)⟩

/-- **Every key of a feature's patches is a piece of code.** -/
theorem isKey : ∀ patch ∈ feature.everyPatch, ∀ key ∈ patch.spec.identity.keys, key.IsKey := by
  simp only [everyPatch, List.forall_mem_append]
  refine ⟨?seeder, ?serviceBinding, ?webRoutes, ?apiRoutes, ?policy⟩
  case seeder =>
    rw [seederPatches_eq h.onOneLine]
    exact List.forall_mem_singleton.mpr
      (List.forall_mem_singleton.mpr (h.isKey_classReference rfl))
  case serviceBinding =>
    rw [serviceBindingPatches_eq h.onOneLine]
    refine List.forall_mem_cons.mpr ⟨isKey_importSpec h.serviceInterface, ?_⟩
    refine List.forall_mem_cons.mpr ⟨isKey_importSpec h.serviceClass, ?_⟩
    exact List.forall_mem_singleton.mpr (List.forall_mem_singleton.mpr h.isKey_bindingLine)
  case webRoutes =>
    rw [webRoutePatches_eq]
    exact List.forall_mem_cons.mpr ⟨isKey_importSpec h.controllerClass,
      List.forall_mem_singleton.mpr (h.isKey_routeIdentity h.webRoutePath_ne_nil h.webRoutePath)⟩
  case apiRoutes =>
    rw [apiRoutePatches_eq]
    exact List.forall_mem_cons.mpr ⟨isKey_importSpec h.controllerClass,
      List.forall_mem_singleton.mpr (h.isKey_routeIdentity (plural_ne_nil _) h.plural_kebabName)⟩
  case policy =>
    rw [policyPatches_eq h.onOneLine]
    refine List.forall_mem_cons.mpr ⟨isKey_importSpec h.modelClass, ?_⟩
    refine List.forall_mem_cons.mpr ⟨isKey_importSpec h.policyClass, ?_⟩
    exact List.forall_mem_singleton.mpr (List.forall_mem_singleton.mpr h.isKey_policyMapping)

/-- **The plan of a feature spares what its patches are found by.** -/
theorem isPermanent_plan : feature.plan.IsPermanent where
  relative := rfl
  identity patch hpatch :=
    (h.onOneLine.isFit patch (feature.patches_plan_sublist.subset hpatch)).identity
  fragment patch hpatch :=
    (h.onOneLine.isFit patch (feature.patches_plan_sublist.subset hpatch)).keys
  spares patch hpatch other hother := by
    intro anchor hanchor key hkey _
    have hpatch := feature.patches_plan_sublist.subset hpatch
    have hother := feature.patches_plan_sublist.subset hother
    exact (h.isKey patch hpatch key hkey).spares (delimiter?_ne_paren hother hanchor)

end WellNamed

/-- The kind and the weavings of a feature have no part in its names. -/
theorem WellNamed.of_names {other : Feature} (h : feature.WellNamed)
    (hname : other.name = feature.name)
    (hcontrollerNamespace : other.controllerNamespace = feature.controllerNamespace)
    (hwebRoutePath : other.webRoutePath = feature.webRoutePath) : other.WellNamed where
  name_ne_nil := hname ▸ h.name_ne_nil
  name := hname ▸ h.name
  controllerNamespace := hcontrollerNamespace ▸ h.controllerNamespace
  webRoutePath_ne_nil := hwebRoutePath ▸ h.webRoutePath_ne_nil
  webRoutePath := hwebRoutePath ▸ h.webRoutePath

/-- **Registering a feature again is harmless.**  For each accepted name, kind and choice of
weavings, and for any project, let the plan be run any number of times.  Each run reports on each
patch.  No patch is applied in two runs, and when a patch was applied or found in one run, every
later run finds it in that file. -/
theorem rerun_harmless {raw : Text} (hname : ofName raw = .ok feature) (kind : ControllerKind)
    (weavings : Weavings) (tree : Tree) (root : Path) :
    let plan := ({ feature with kind, weavings } : Feature).plan
    (∀ n, (plan.entriesAfter tree root n).map Entry.patch = plan.patches) ∧
    (∀ i m n file other diff change,
      plan.resultAfter tree root m i = some (.ok (.applied file diff)) →
      plan.resultAfter tree root n i = some (.ok (.applied other change)) → m = n) ∧
    ∀ i m n result, m < n → plan.resultAfter tree root m i = some (.ok result) →
      result.isPresent = true →
      plan.resultAfter tree root n i = some (.ok (.alreadyPresent result.file)) := by
  have hnamed : ({ feature with kind, weavings } : Feature).WellNamed :=
    (wellNamed_of_ofName hname).of_names rfl rfl rfl
  have hplan := hnamed.isPermanent_plan
  exact ⟨Plan.map_patch_entriesAfter _ tree root,
    fun _ _ _ _ _ _ _ hfirst hagain => hplan.applied_once hfirst hagain,
    fun _ _ _ _ hlt hresult hpresent => hplan.rerun hlt hresult hpresent⟩

/-- The orders of a shop. -/
def order : Feature where
  name := "Order"
  subNamespace := []
  controllerNamespace := controllerRoot
  webRoutePath := "orders"

/-- A project with an empty seeder of its database. -/
def seederTree : Tree where
  nodes :=
    [(["database"], .folder .full),
      (["database", "seeders"], .folder .full),
      (["database", "seeders", "DatabaseSeeder.php"],
        .file .full (Text.encode "public function run()
{
}
"))]
  home := []

/-- The seeder of the database. -/
def seederFile : Target :=
  .located ["database", "seeders", "DatabaseSeeder.php"]

/-- What the first run changes in the seeder. -/
def seederDiff : Text :=
  "--- /database/seeders/DatabaseSeeder.php (original)\n" ++
    "+++ /database/seeders/DatabaseSeeder.php (patched)\n" ++
    "@@ -1,3 +1,4 @@\n public function run()\n \x7b\n+    $this->call(OrderSeeder::class);\n \x7d\n"

/-- The plan that calls the seeder of the orders. -/
def orderPlan : Plan where
  info :=
    { name := "order-feature"
      description := some "Registration points for the Order feature"
      workspaceRelative := true }
  patches := [{
    id := "seeder-call"
    file := databaseSeeder
    spec := .ofLine "$this->call(OrderSeeder::class);" "OrderSeeder::class"
      [.literalBefore exampleUserFactory (some runMethod), .blockBodyEnd runMethod .brace] }]

/-- The first run puts the call of the seeder in, and every other one finds it. -/
theorem order_rerun :
    let plan := ({ order with weavings := ⟨true, false, false, false, false⟩ } : Feature).plan
    ofName "order" = .ok order ∧
      plan.resultAfter seederTree "/" 0 0 = some (.ok (.applied seederFile seederDiff)) ∧
      ∀ n, plan.resultAfter seederTree "/" (n + 1) 0 = some (.ok (.alreadyPresent seederFile)) := by
  have hname : ofName "order" = .ok order := rfl
  have hplan : ({ order with weavings := ⟨true, false, false, false, false⟩ } : Feature).plan =
      orderPlan := rfl
  have hfirst : orderPlan.resultAfter seederTree "/" 0 0 =
      some (.ok (.applied seederFile seederDiff)) := by cbv
  rw [← hplan] at hfirst
  obtain ⟨-, -, hagain⟩ := rerun_harmless hname .resource ⟨true, false, false, false, false⟩
    seederTree "/"
  exact ⟨hname, hfirst, fun n => hagain 0 0 (n + 1) _ (Nat.succ_pos n) hfirst rfl⟩

end Feature
end Graft
