import Mathlib.Data.List.Infix
import Graft.Proofs.Recipe.Names
import Graft.Proofs.Text.Cut
import Graft.Proofs.Text.Fragment
import Graft.Recipe.Patches

/-!
# The patches of a feature

The patches of a plan are some of the eleven that a feature can have, in their order
(`Feature.patches_plan_sublist`). All texts of theirs lie on one line, provided that the
names of the feature do (`Feature.OnOneLine`), so a fragment that is written as one
text is one line (`importSpec_eq`, `Feature.seederPatches_eq` and its neighbours).
-/

namespace Graft

open Text

/-! ## Texts on one line -/

/-- A text on one line, without blanks at its ends. -/
structure Text.IsTight (t : Text) : Prop where
  ne_nil : t ≠ []
  oneLine : '\n' ∉ t
  head : ∀ c, t.head? = some c → isSpace c = false
  last : ∀ c, t.getLast? = some c → isSpace c = false

namespace Text.IsTight

variable {t : Text}

/-- The ends of a text decide whether it has blanks there. -/
theorem of_ends {front back : Text} {first final : Char} (hfirst : front.head? = some first)
    (hfinal : back.getLast? = some final) (hfirst' : isSpace first = false)
    (hfinal' : isSpace final = false) (hfeed : '\n' ∉ front ++ back) : IsTight (front ++ back) where
  ne_nil := by
    intro hnil
    rw [List.append_eq_nil_iff] at hnil
    rw [hnil.1] at hfirst
    cases hfirst
  oneLine := hfeed
  head := by
    intro c hc
    rw [List.head?_append, hfirst, Option.some_or, Option.some.injEq] at hc
    exact hc ▸ hfirst'
  last := by
    intro c hc
    rw [List.getLast?_append, hfinal, Option.some_or, Option.some.injEq] at hc
    exact hc ▸ hfinal'

theorem trimStart_eq (h : IsTight t) : t.trimStart isSpace = t := by
  obtain ⟨c, rest, rfl⟩ := List.exists_cons_of_ne_nil h.ne_nil
  exact trimStart_cons_of_neg rest (h.head c rfl)

theorem trim_eq (h : IsTight t) : t.trim = t := by
  rw [trim, h.trimStart_eq, ← List.dropLast_append_getLast h.ne_nil]
  exact trimEnd_append_of_neg _ (h.last _ (List.getLast?_eq_some_getLast h.ne_nil))

theorem isBlank_eq (h : IsTight t) : t.isBlank = false := by
  rw [← Bool.not_eq_true, ← trim_eq_nil_iff, h.trim_eq]
  exact h.ne_nil

theorem isLine (h : IsTight t) : IsLine t where
  oneLine := h.oneLine
  last := by
    intro hlast
    have hspace := h.last _ hlast
    cases hspace

/-- A text on one line is a fragment of one line. -/
theorem splitFragment_eq (h : IsTight t) : Spec.splitFragment t = [t] := by
  have hopen : t.getLast? ≠ some '\n' := fun hlast => h.oneLine (List.mem_of_getLast? hlast)
  have hlines : ∀ line ∈ [t], IsLine line := fun line hline => List.mem_singleton.mp hline ▸ h.isLine
  exact (Spec.WrittenAs.last t).splitFragment_eq hlines hopen

end Text.IsTight

/-! ## Fragments of one line -/

/-- A specification whose fragment is one line. -/
def Spec.ofLine (line key : Text) (anchors : List Anchor) : Spec :=
  { fragment := [line], identity := .contains key, anchors }

namespace Spec

variable {line : Text}

theorem ofText_eq (h : line.IsTight) (key : Text) :
    ofText line (.contains key) = ofLine line key [] := by
  rw [ofText, h.splitFragment_eq, ofLine]

theorem selfIdentified_eq (h : line.IsTight) : selfIdentified line = ofLine line line [] := by
  rw [selfIdentified, h.trim_eq, ofText_eq h]

theorem anchoredAt_ofLine (line key : Text) (anchors : List Anchor) (anchor : Anchor) :
    (ofLine line key anchors).anchoredAt anchor = ofLine line key (anchors ++ [anchor]) :=
  rfl

end Spec

/-! ## Imports -/

/-- The statement that imports a class. -/
def importLine (className : Text) : Text :=
  "use " ++ className ++ ";"

/-- Where an import may go. -/
def importAnchors : List Anchor :=
  [.lastLiteralAfter "\nuse " (some ";"), .literalAfter "\nnamespace " none (some ";"),
    .literalAfter "<?php" none none]

theorem notMem_importLine_of_notMem {className : Text} {c : Char} (h : c ∉ className)
    (hwords : c ∉ ("use ;" : Text)) : c ∉ importLine className := by
  delta importLine
  simp only [List.mem_append, not_or]
  exact ⟨⟨fun hmem => hwords (List.mem_append_left [';'] hmem), h⟩,
    fun hmem => hwords (List.mem_append_right "use ".toList hmem)⟩

theorem isTight_importLine {className : Text} (h : '\n' ∉ className) :
    (importLine className).IsTight :=
  .of_ends rfl rfl rfl rfl (by simp [h])

theorem importSpec_eq {className : Text} (h : '\n' ∉ className) :
    importSpec className = .ofLine (importLine className) (importLine className) importAnchors := by
  have hline : Spec.selfIdentified ("use " ++ className ++ ";") =
      .ofLine (importLine className) (importLine className) [] :=
    Spec.selfIdentified_eq (isTight_importLine h)
  delta importSpec
  simp only [hline, Spec.anchoredAt_ofLine, List.nil_append, List.cons_append, importAnchors]

namespace Feature

variable {feature : Feature}

/-! ## Names on one line -/

/-- What the texts of a feature's patches need to lie on one line. -/
structure OnOneLine (feature : Feature) : Prop where
  name_ne_nil : feature.name ≠ []
  name : ∀ c ∈ feature.name, c.isAlphanum = true
  controllerNamespace : '\n' ∉ feature.controllerNamespace
  webRoutePath : '\n' ∉ feature.webRoutePath

theorem WellNamed.onOneLine (h : feature.WellNamed) : feature.OnOneLine where
  name_ne_nil := h.name_ne_nil
  name := h.name
  controllerNamespace hmem := absurd (h.controllerNamespace _ hmem) (by decide)
  webRoutePath hmem := absurd (h.webRoutePath _ hmem) (by decide)

theorem isSpace_eq_false_of_isAlphanum {c : Char} (h : c.isAlphanum = true) : isSpace c = false :=
  ascii_cases (p := fun c => c.isAlphanum = true → isSpace c = false) (by decide)
    (toNat_lt_of_isAlphanum h) h

namespace OnOneLine

variable (h : feature.OnOneLine)
include h

theorem feed_notMem_name : '\n' ∉ feature.name :=
  fun hmem => absurd (h.name _ hmem) (by decide)

/-- What starts with the name of a feature has no blank there. -/
theorem isTight {front back : Text} {final : Char} (hfront : feature.name <+: front)
    (hfinal : back.getLast? = some final) (hfinal' : isSpace final = false)
    (hfeed : '\n' ∉ front ++ back) : IsTight (front ++ back) := by
  obtain ⟨c, rest, hname⟩ := List.exists_cons_of_ne_nil h.name_ne_nil
  have hc : c ∈ feature.name := hname ▸ List.mem_cons_self
  obtain ⟨tail, rfl⟩ := hfront
  have hfirst : (feature.name ++ tail).head? = some c := by
    rw [hname]
    rfl
  exact .of_ends hfirst hfinal (isSpace_eq_false_of_isAlphanum (h.name c hc)) hfinal' hfeed

end OnOneLine

/-! ## The classes of a feature -/

/-- The interface of a feature's service. -/
def serviceInterface (feature : Feature) : Text :=
  feature.serviceNamespace ++ "\\Contracts\\" ++ (feature.name ++ "Service" ++ "Interface")

/-- The class of a feature's service. -/
def serviceClass (feature : Feature) : Text :=
  feature.serviceNamespace ++ "\\" ++ (feature.name ++ "Service")

/-- The class of a feature's controller. -/
def controllerClass (feature : Feature) : Text :=
  feature.controllerNamespace ++ "\\" ++ feature.controller

/-- The class of a feature's model. -/
def modelClass (feature : Feature) : Text :=
  "App\\Models\\" ++ feature.name

/-- The class of a feature's policy. -/
def policyClass (feature : Feature) : Text :=
  "App\\Policies\\" ++ feature.name ++ "Policy"

namespace OnOneLine

variable (h : feature.OnOneLine)
include h

theorem feed_notMem_serviceInterface : '\n' ∉ feature.serviceInterface := by
  delta serviceInterface
  simp [h.feed_notMem_name, feed_notMem_serviceNamespace h.controllerNamespace]

theorem feed_notMem_serviceClass : '\n' ∉ feature.serviceClass := by
  delta serviceClass
  simp [h.feed_notMem_name, feed_notMem_serviceNamespace h.controllerNamespace]

theorem feed_notMem_controllerClass : '\n' ∉ feature.controllerClass := by
  delta controllerClass controller
  simp [h.feed_notMem_name, h.controllerNamespace]

theorem feed_notMem_modelClass : '\n' ∉ feature.modelClass := by
  delta modelClass
  simp [h.feed_notMem_name]

theorem feed_notMem_policyClass : '\n' ∉ feature.policyClass := by
  delta policyClass
  simp [h.feed_notMem_name]

end OnOneLine

namespace WellNamed

variable (h : feature.WellNamed)
include h

theorem isClassChar_of_mem_name : ∀ c ∈ feature.name, isClassChar c = true :=
  fun c hc => isClassChar_of_isAlphanum (h.name c hc)

theorem serviceInterface : ∀ c ∈ feature.serviceInterface, isClassChar c = true := by
  delta Feature.serviceInterface
  simp only [List.forall_mem_append]
  exact ⟨⟨h.serviceNamespace, List.all_eq_true.mp rfl⟩,
    ⟨h.isClassChar_of_mem_name, List.all_eq_true.mp rfl⟩, List.all_eq_true.mp rfl⟩

theorem serviceClass : ∀ c ∈ feature.serviceClass, isClassChar c = true := by
  delta Feature.serviceClass
  simp only [List.forall_mem_append]
  exact ⟨⟨h.serviceNamespace, List.all_eq_true.mp rfl⟩, h.isClassChar_of_mem_name,
    List.all_eq_true.mp rfl⟩

theorem controllerClass : ∀ c ∈ feature.controllerClass, isClassChar c = true := by
  delta Feature.controllerClass controller
  simp only [List.forall_mem_append]
  exact ⟨⟨h.controllerNamespace, List.all_eq_true.mp rfl⟩, h.isClassChar_of_mem_name,
    List.all_eq_true.mp rfl⟩

theorem modelClass : ∀ c ∈ feature.modelClass, isClassChar c = true := by
  delta Feature.modelClass
  simp only [List.forall_mem_append]
  exact ⟨List.all_eq_true.mp rfl, h.isClassChar_of_mem_name⟩

theorem policyClass : ∀ c ∈ feature.policyClass, isClassChar c = true := by
  delta Feature.policyClass
  simp only [List.forall_mem_append]
  exact ⟨⟨List.all_eq_true.mp rfl, h.isClassChar_of_mem_name⟩, List.all_eq_true.mp rfl⟩

end WellNamed

/-! ## The patches by their lines -/

/-- The call of a feature's seeder. -/
def seederLine (feature : Feature) : Text :=
  "$this->call(" ++ (feature.name ++ "Seeder") ++ "::class);"

/-- The statement that binds a feature's service. -/
def bindingLine (feature : Feature) : Text :=
  "$this->app->bind(" ++ (feature.name ++ "Service" ++ "Interface") ++ "::class, " ++
    (feature.name ++ "Service") ++ "::class);"

/-- The entry of a feature's policy. -/
def policyMapping (feature : Feature) : Text :=
  feature.name ++ "::class => " ++ feature.name ++ "Policy::class"

namespace OnOneLine

variable (h : feature.OnOneLine)
include h

theorem isTight_seederLine : feature.seederLine.IsTight :=
  .of_ends rfl rfl rfl rfl (by simp [h.feed_notMem_name])

theorem isTight_bindingLine : feature.bindingLine.IsTight :=
  .of_ends rfl rfl rfl rfl (by simp [h.feed_notMem_name])

theorem isTight_policyMapping : feature.policyMapping.IsTight :=
  h.isTight ((List.prefix_append _ _).trans (List.prefix_append _ _)) rfl rfl
    (by simp [h.feed_notMem_name])

theorem isTight_policyEntry : IsTight (feature.policyMapping ++ ",") :=
  have hmapping : feature.name <+: feature.policyMapping :=
    ((List.prefix_append _ _).trans (List.prefix_append _ _)).trans (List.prefix_append _ _)
  h.isTight hmapping rfl rfl (by simp [h.isTight_policyMapping.oneLine])

end OnOneLine

theorem seederPatches_eq (h : feature.OnOneLine) :
    feature.seederPatches = [{
      id := "seeder-call"
      file := databaseSeeder
      spec := .ofLine feature.seederLine (feature.name ++ "Seeder" ++ "::class")
        [.literalBefore exampleUserFactory (some runMethod), .blockBodyEnd runMethod .brace]
    }] := by
  have hspec : Spec.ofText ("$this->call(" ++ (feature.name ++ "Seeder") ++ "::class);")
      (.contains (feature.name ++ "Seeder" ++ "::class")) = .ofLine feature.seederLine _ [] :=
    Spec.ofText_eq h.isTight_seederLine _
  delta seederPatches
  simp only [hspec, Spec.anchoredAt_ofLine, List.nil_append, List.cons_append]

theorem serviceBindingPatches_eq (h : feature.OnOneLine) :
    feature.serviceBindingPatches = [{
      id := "service-interface-import"
      file := appServiceProvider
      spec := importSpec feature.serviceInterface }, {
      id := "service-class-import"
      file := appServiceProvider
      spec := importSpec feature.serviceClass }, {
      id := "service-binding"
      file := appServiceProvider
      spec := .ofLine feature.bindingLine feature.bindingLine
        [.blockBodyStart registerMethod .brace] }] := by
  have hspec : Spec.selfIdentified ("$this->app->bind(" ++
      (feature.name ++ "Service" ++ "Interface") ++ "::class, " ++ (feature.name ++ "Service") ++
        "::class);") = .ofLine feature.bindingLine feature.bindingLine [] :=
    Spec.selfIdentified_eq h.isTight_bindingLine
  delta serviceBindingPatches serviceInterface serviceClass
  simp only [hspec, Spec.anchoredAt_ofLine, List.nil_append]

theorem webRoutePatches_eq (feature : Feature) :
    feature.webRoutePatches = [{
      id := "web-controller-import"
      file := webRoutesFile
      spec := importSpec feature.controllerClass }, {
      id := "web-route"
      file := webRoutesFile
      spec := {
        fragment := [[], feature.routeDeclaration feature.webRoutePath .web]
        identity := feature.routeIdentity feature.webRoutePath
        anchors := [.endOfDocument] } }] :=
  rfl

theorem apiRoutePatches_eq (feature : Feature) :
    feature.apiRoutePatches = [{
      id := "api-controller-import"
      file := apiRoutesFile
      spec := importSpec feature.controllerClass }, {
      id := "api-route"
      file := apiRoutesFile
      spec := {
        fragment := [feature.routeDeclaration feature.kebabName.plural .api]
        identity := feature.routeIdentity feature.kebabName.plural
        anchors := [.blockBodyEnd sanctumGroup .brace, .endOfDocument] } }] :=
  rfl

theorem policyPatches_eq (h : feature.OnOneLine) :
    feature.policyPatches = [{
      id := "policy-model-import"
      file := authServiceProvider
      spec := importSpec feature.modelClass }, {
      id := "policy-import"
      file := authServiceProvider
      spec := importSpec feature.policyClass }, {
      id := "policy-mapping"
      file := authServiceProvider
      spec := .ofLine (feature.policyMapping ++ ",") feature.policyMapping
        [.blockBodyStart policiesProperty .bracket] }] := by
  have hspec : Spec.ofText (feature.name ++ "::class => " ++ feature.name ++ "Policy::class" ++ ",")
      (.contains (feature.name ++ "::class => " ++ feature.name ++ "Policy::class")) =
        .ofLine (feature.policyMapping ++ ",") feature.policyMapping [] :=
    Spec.ofText_eq h.isTight_policyEntry _
  delta policyPatches modelClass policyClass
  simp only [hspec, Spec.anchoredAt_ofLine, List.nil_append]

/-! ## Routes -/

/-- A declaration of a route of any kind has the path, and the controller behind it. -/
theorem exists_routeDeclaration_eq (feature : Feature) (path : Text) (file : RouteFile) :
    ∃ front middle back, feature.routeDeclaration path file =
      front ++ path ++ middle ++ (feature.controller ++ "::class") ++ back := by
  delta routeDeclaration
  cases feature.kind with
  | resource =>
      cases file with
      | web => exact ⟨"Route::resource('", "', ", ");", by simp⟩
      | api => exact ⟨"Route::apiResource('", "', ", ");", by simp⟩
  | invokable =>
      exact ⟨"Route::get('/", "', ", ")->name('" ++ feature.routeName file ++ "');", by simp⟩
  | basic =>
      exact ⟨"Route::get('/", "', [",
        ", 'index'])->name('" ++ feature.routeName file ++ ".index');", by simp⟩

theorem keys_infix_routeDeclaration (feature : Feature) (path : Text) (file : RouteFile) :
    ∀ key ∈ (feature.routeIdentity path).keys, key <:+: feature.routeDeclaration path file := by
  obtain ⟨front, middle, back, heq⟩ := feature.exists_routeDeclaration_eq path file
  intro key hkey
  rw [heq]
  rcases List.mem_cons.mp hkey with rfl | hkey
  · simp only [List.append_assoc]
    exact List.infix_append_of_infix_right (List.prefix_append _ _).isInfix
  · obtain rfl := List.mem_singleton.mp hkey
    exact List.infix_append _ _ _

/-! ## A plan -/

/-- The patches of a feature that is woven in everywhere. -/
def everyPatch (feature : Feature) : List Patch :=
  feature.seederPatches ++ (feature.serviceBindingPatches ++ (feature.webRoutePatches ++
    (feature.apiRoutePatches ++ feature.policyPatches)))

theorem patches_plan (feature : Feature) :
    feature.plan.patches = (if feature.weavings.seeder then feature.seederPatches else []) ++
      ((if feature.weavings.serviceBinding then feature.serviceBindingPatches else []) ++
        ((if feature.weavings.webRoutes then feature.webRoutePatches else []) ++
          ((if feature.weavings.apiRoutes then feature.apiRoutePatches else []) ++
            ((if feature.weavings.policy then feature.policyPatches else []) ++ [])))) :=
  rfl

/-- **A plan has some of a feature's patches, in their order.** -/
theorem patches_plan_sublist (feature : Feature) :
    feature.plan.patches.Sublist feature.everyPatch := by
  have hwanted (wanted : Bool) (patches : List Patch) :
      (if wanted then patches else []).Sublist patches := by
    cases wanted
    · exact List.nil_sublist _
    · exact List.Sublist.refl _
  rw [patches_plan, List.append_nil]
  exact (hwanted _ _).append ((hwanted _ _).append ((hwanted _ _).append
    ((hwanted _ _).append (hwanted _ _))))

end Feature
end Graft
