import Mathlib.Data.List.Infix
import Graft.Proofs.Plan.Valid
import Graft.Proofs.Recipe.Patches

/-!
# The plans of features are valid

Whatever its names are, as long as they lie on one line, each patch of a feature is fit
to run: its fragment shows something and holds the keys that it is looked for by
(`Feature.OnOneLine.isFit`). So a plan is valid when there is any place to weave the
feature into, also where another namespace or another path was chosen in place of the
ones that come from its name (`Feature.plan_isValid_eq`).
-/

namespace Graft

open Text

/-! ## Fit patches -/

theorem Spec.isFit_ofLine {id file line key : Text} {anchors : List Anchor}
    (hid : id.isBlank = false) (hfile : file.isBlank = false) (hline : line.isBlank = false)
    (hkey : key ≠ []) (hwithin : key <:+: line) (hanchors : anchors ≠ [])
    (hfields : ∀ anchor ∈ anchors, anchor.emptyField? = none) :
    Patch.IsFit { id, file, spec := ofLine line key anchors } where
  id := hid
  file := hfile
  fragment := by simp [ofLine, hline]
  identity := by simp [ofLine, Identity.isEmpty, Identity.keys, hkey]
  keys found hfound := by
    obtain rfl := List.mem_singleton.mp hfound
    exact hwithin
  anchors := hanchors
  fields := hfields

theorem isFit_importSpec {id file className : Text} (hid : id.isBlank = false)
    (hfile : file.isBlank = false) (h : '\n' ∉ className) :
    Patch.IsFit { id, file, spec := importSpec className } := by
  have htight := isTight_importLine h
  rw [importSpec_eq h]
  exact Spec.isFit_ofLine hid hfile htight.isBlank_eq htight.ne_nil (List.infix_refl _)
    (List.cons_ne_nil _ _) (by decide)

namespace Feature

variable {feature : Feature}

theorem isFit_route (lead : List Text) {id file path : Text} {route : RouteFile}
    {anchors : List Anchor} (hid : id.isBlank = false) (hfile : file.isBlank = false)
    (hanchors : anchors ≠ []) (hfields : ∀ anchor ∈ anchors, anchor.emptyField? = none) :
    Patch.IsFit { id, file, spec := {
      fragment := lead ++ [feature.routeDeclaration path route]
      identity := feature.routeIdentity path
      anchors } } where
  id := hid
  file := hfile
  fragment := by
    have hkeys := feature.keys_infix_routeDeclaration path route
    -- the controller's class shows, whatever the path is
    have hcolon : ':' ∈ feature.routeDeclaration path route :=
      (hkeys _ (List.mem_cons_of_mem _ (List.mem_singleton_self _))).subset (by simp)
    rw [List.all_append, Bool.and_eq_false_iff]
    refine .inr ?_
    rw [List.all_cons, Bool.and_eq_false_iff, isBlank, List.all_eq_false]
    exact .inl ⟨':', hcolon, by decide⟩
  identity := by simp [routeIdentity, Identity.isEmpty, Identity.keys]
  keys key hkey := (keys_infix_routeDeclaration feature path route key hkey).trans
    (infix_joined (List.mem_append_right _ (List.mem_singleton_self _)))
  anchors := hanchors
  fields := hfields

/-- **Every patch of a feature is fit**, when the names of the feature lie on one line. -/
theorem OnOneLine.isFit (h : feature.OnOneLine) : ∀ patch ∈ feature.everyPatch, patch.IsFit := by
  simp only [everyPatch, List.forall_mem_append]
  refine ⟨?seeder, ?serviceBinding, ?webRoutes, ?apiRoutes, ?policy⟩
  case seeder =>
    rw [seederPatches_eq h, List.forall_mem_singleton]
    have hkey : (feature.name ++ "Seeder" ++ "::class" : Text) <:+: feature.seederLine :=
      ⟨("$this->call(" : Text), (");" : Text), by delta seederLine; simp⟩
    exact Spec.isFit_ofLine (by decide) (by decide) h.isTight_seederLine.isBlank_eq (by simp) hkey
      (by simp) (by decide)
  case serviceBinding =>
    simp only [serviceBindingPatches_eq h, List.forall_mem_cons]
    refine ⟨?_, ?_, ?_, List.forall_mem_nil _⟩
    · exact isFit_importSpec (by decide) (by decide) h.feed_notMem_serviceInterface
    · exact isFit_importSpec (by decide) (by decide) h.feed_notMem_serviceClass
    · exact Spec.isFit_ofLine (by decide) (by decide) h.isTight_bindingLine.isBlank_eq
        h.isTight_bindingLine.ne_nil (List.infix_refl _) (by simp) (by decide)
  case webRoutes =>
    simp only [webRoutePatches_eq, List.forall_mem_cons]
    refine ⟨?_, ?_, List.forall_mem_nil _⟩
    · exact isFit_importSpec (by decide) (by decide) h.feed_notMem_controllerClass
    · exact isFit_route [[]] (by decide) (by decide) (by simp) (by decide)
  case apiRoutes =>
    simp only [apiRoutePatches_eq, List.forall_mem_cons]
    refine ⟨?_, ?_, List.forall_mem_nil _⟩
    · exact isFit_importSpec (by decide) (by decide) h.feed_notMem_controllerClass
    · exact isFit_route [] (by decide) (by decide) (by simp) (by decide)
  case policy =>
    simp only [policyPatches_eq h, List.forall_mem_cons]
    refine ⟨?_, ?_, ?_, List.forall_mem_nil _⟩
    · exact isFit_importSpec (by decide) (by decide) h.feed_notMem_modelClass
    · exact isFit_importSpec (by decide) (by decide) h.feed_notMem_policyClass
    · exact Spec.isFit_ofLine (by decide) (by decide) h.isTight_policyEntry.isBlank_eq
        h.isTight_policyMapping.ne_nil (List.prefix_append _ _).isInfix (by simp) (by decide)

end Feature

/-! ## Valid plans -/

/-- Whether there is any place to weave a feature into. -/
def Weavings.wantsAny (weavings : Weavings) : Bool :=
  weavings.seeder || weavings.serviceBinding || weavings.webRoutes || weavings.apiRoutes ||
    weavings.policy

namespace Feature

variable {feature : Feature}

theorem patches_plan_eq_nil_iff :
    feature.plan.patches = [] ↔ feature.weavings.wantsAny = false := by
  have hwanted (wanted : Bool) (patch : Patch) (others : List Patch) :
      (if wanted then patch :: others else []) = [] ↔ wanted = false := by
    cases wanted <;> simp
  rw [patches_plan]
  simp only [List.append_eq_nil_iff, Weavings.wantsAny, Bool.or_eq_false_iff]
  delta seederPatches serviceBindingPatches webRoutePatches apiRoutePatches policyPatches
  simp only [hwanted, and_true, and_assoc]

theorem nodup_ids_everyPatch (feature : Feature) : (feature.everyPatch.map Patch.id).Nodup := by
  have hids : feature.everyPatch.map Patch.id = ["seeder-call", "service-interface-import",
    "service-class-import", "service-binding", "web-controller-import", "web-route",
    "api-controller-import", "api-route", "policy-model-import", "policy-import",
    "policy-mapping"] := rfl
  rw [hids]
  decide

/-- A plan is valid when there is any place to weave the feature into. -/
theorem OnOneLine.isValid_plan (h : feature.OnOneLine) :
    feature.plan.isValid = feature.weavings.wantsAny := by
  rw [Bool.eq_iff_iff, Plan.isValid_iff, ne_eq, patches_plan_eq_nil_iff, Bool.not_eq_false]
  refine ⟨fun hvalid => hvalid.1, fun hwanted => ⟨hwanted, ?_, fun patch hpatch => ?_⟩⟩
  · exact (feature.patches_plan_sublist.map Patch.id).nodup feature.nodup_ids_everyPatch
  · exact h.isFit patch (feature.patches_plan_sublist.subset hpatch)

/-- The feature as it is planned: of a kind, with its weavings, and with another namespace for its
controller or another path for its pages where one is chosen. -/
def adapted (feature : Feature) (kind : ControllerKind) (weavings : Weavings)
    (home path : Option Text) : Feature :=
  { home.elim feature feature.inNamespace with
    kind, weavings, webRoutePath := path.getD feature.webRoutePath }

theorem feed_notMem_replaceChar {t : Text} (h : '\n' ∉ t) : '\n' ∉ t.replaceChar '/' '\\' := by
  intro hmem
  obtain ⟨c, hc, heq⟩ := List.mem_map.mp hmem
  split at heq
  · cases heq
  · exact h (heq ▸ hc)

theorem OnOneLine.adapted (h : feature.OnOneLine) (kind : ControllerKind) (weavings : Weavings)
    {home path : Option Text} (hhome : ∀ t ∈ home, '\n' ∉ t) (hpath : ∀ t ∈ path, '\n' ∉ t) :
    (feature.adapted kind weavings home path).OnOneLine where
  name_ne_nil := by
    cases home with
    | none => exact h.name_ne_nil
    | some home => exact h.name_ne_nil
  name := by
    cases home with
    | none => exact h.name
    | some home => exact h.name
  controllerNamespace := by
    cases home with
    | none => exact h.controllerNamespace
    | some home => exact feed_notMem_replaceChar (hhome home rfl)
  webRoutePath := by
    cases path with
    | none => exact h.webRoutePath
    | some path => exact hpath path rfl

/-- **Every plan of a feature is valid.**  For each accepted name, kind and choice of weavings, and
for any other namespace and path on one line, also empty ones: the plan is valid when anything is
woven in.  No two patches have one id, and each is fit, so all of its anchors look for something
and its fragment holds all of its keys. -/
theorem plan_isValid_eq {raw : Text} (hname : ofName raw = .ok feature) (kind : ControllerKind)
    (weavings : Weavings) {home path : Option Text} (hhome : ∀ t ∈ home, '\n' ∉ t)
    (hpath : ∀ t ∈ path, '\n' ∉ t) :
    let plan := (feature.adapted kind weavings home path).plan
    plan.isValid = weavings.wantsAny ∧ (plan.patches.map Patch.id).Nodup ∧
      ∀ patch ∈ plan.patches, patch.IsFit := by
  have hlines := (wellNamed_of_ofName hname).onOneLine.adapted kind weavings hhome hpath
  have hpatches := (feature.adapted kind weavings home path).patches_plan_sublist
  refine ⟨?_, ?_, fun patch hpatch => hlines.isFit patch (hpatches.subset hpatch)⟩
  · rw [hlines.isValid_plan]
    rfl
  · exact (hpatches.map Patch.id).nodup (nodup_ids_everyPatch _)

/-- The order items of an administration. -/
def orderItem : Feature where
  name := "OrderItem"
  subNamespace := ["Admin"]
  controllerNamespace := "App\\Http\\Controllers\\Admin"
  webRoutePath := "order-items"

/-- With a folder of controllers in place of its namespace and the root in place of its path, the
feature has a valid plan of all eleven patches. -/
theorem orderItem_plan_isValid :
    ofName " Admin/order_item " = .ok orderItem ∧
      (orderItem.adapted .invokable ⟨true, true, true, true, true⟩
        (some "App/Http/Controllers/Billing") (some [])).controllerNamespace =
          "App\\Http\\Controllers\\Billing" ∧
      (orderItem.adapted .invokable ⟨true, true, true, true, true⟩
        (some "App/Http/Controllers/Billing") (some [])).plan.patches.length = 11 ∧
      (orderItem.adapted .invokable ⟨true, true, true, true, true⟩
        (some "App/Http/Controllers/Billing") (some [])).plan.isValid = true := by
  have hname : ofName " Admin/order_item " = .ok orderItem := rfl
  have hhome : ∀ t ∈ some ("App/Http/Controllers/Billing" : Text), '\n' ∉ t := by
    rintro t ⟨⟩
    decide
  have hpath : ∀ t ∈ some ([] : Text), '\n' ∉ t := by
    rintro t ⟨⟩
    decide
  obtain ⟨hvalid, -⟩ := plan_isValid_eq hname .invokable ⟨true, true, true, true, true⟩ hhome hpath
  refine ⟨hname, by decide, rfl, ?_⟩
  rw [hvalid]
  rfl

end Feature
end Graft
