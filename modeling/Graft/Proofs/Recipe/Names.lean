import Mathlib.Data.List.Infix
import Graft.Proofs.Text.Case
import Graft.Recipe.Feature

/-!
# What the names of a feature are made of

A text that names a feature is checked as a whole, and the names that come from it are
spelled piece by piece. `Feature.WellNamed` says what they are made of afterwards: the
class stem and the folders of ASCII letters and digits, the namespaces of those and
backslashes, the paths of routes of those and hyphens. The feature of every name that
is accepted is `WellNamed` (`Feature.wellNamed_of_ofName`).
-/

namespace Graft

open Text

/-- A character of a class with its namespace. -/
def isClassChar (c : Char) : Bool :=
  c.isAlphanum || c == '\\'

/-- A character of the path of a route. -/
def isRouteChar (c : Char) : Bool :=
  c.isAlphanum || c == '-'

theorem isClassChar_of_isAlphanum {c : Char} (h : c.isAlphanum = true) : isClassChar c = true := by
  rw [isClassChar, h, Bool.true_or]

theorem toNat_lt_of_isClassChar {c : Char} (h : isClassChar c = true) : c.toNat < 128 := by
  rcases Bool.or_eq_true_iff.mp h with h | h
  · exact toNat_lt_of_isAlphanum h
  · rw [beq_iff_eq.mp h]
    decide

theorem isRouteChar_of_mem_kebab {t : Text} (ht : ∀ c ∈ t, c.toNat < 128) {x : Char}
    (hx : x ∈ kebab t) : isRouteChar x = true := by
  rcases isAlphanum_of_mem_kebab ht hx with rfl | h
  · rfl
  · rw [isRouteChar, h, Bool.true_or]

/-! ## Plurals -/

/-- A plural adds letters at most. -/
theorem mem_of_mem_plural {word : Text} {x : Char} (hx : x ∈ plural word) :
    x ∈ word ∨ x.isAlphanum = true := by
  have hending {stem ending : Text} (hstem : ∀ c ∈ stem, c ∈ word)
      (hending : ending.all Char.isAlphanum = true) (hx : x ∈ stem ++ ending) :
      x ∈ word ∨ x.isAlphanum = true :=
    (List.mem_append.mp hx).imp (hstem x) (List.all_eq_true.mp hending x)
  unfold plural at hx
  split at hx
  · exact hending (fun _ => List.mem_of_mem_dropLast) (by decide) hx
  · split at hx
    · exact hending (fun _ h => h) (by decide) hx
    · exact hending (fun _ h => h) (by decide) hx

theorem plural_ne_nil (word : Text) : plural word ≠ [] := by
  unfold plural
  split
  · simp
  · split
    · simp
    · simp

theorem isRouteChar_of_mem_plural_kebab {t : Text} (ht : ∀ c ∈ t, c.toNat < 128) {x : Char}
    (hx : x ∈ plural (kebab t)) : isRouteChar x = true := by
  rcases mem_of_mem_plural hx with hx | hx
  · exact isRouteChar_of_mem_kebab ht hx
  · rw [isRouteChar, hx, Bool.true_or]

/-! ## Namespaces -/

/-- Folders of letters and digits under a namespace make a namespace. -/
theorem isClassChar_of_mem_namespaced {components : List Text}
    (h : ∀ component ∈ components, ∀ c ∈ component, isClassChar c = true) {x : Char}
    (hx : x ∈ namespaced components) : isClassChar x = true := by
  rcases mem_of_mem_joined hx with hx | ⟨component, hcomponent, hx⟩
  · rw [List.mem_singleton.mp hx]
    rfl
  · exact h component hcomponent x hx

theorem all_controllerRoot : ∀ c ∈ controllerRoot, isClassChar c = true :=
  List.all_eq_true.mp rfl

theorem all_serviceRoot : ∀ c ∈ serviceRoot, isClassChar c = true :=
  List.all_eq_true.mp rfl

namespace Feature

variable {feature : Feature}

/-- What the namespace of the services adds to its root comes from that of the controllers. -/
theorem serviceNamespace_cases (feature : Feature) :
    feature.serviceNamespace = serviceRoot ∨ ∃ folders, folders <:+ feature.controllerNamespace ∧
      feature.serviceNamespace =
        namespaced (serviceRoot :: (pieces (· == '\\') folders).map upperCamel) := by
  unfold serviceNamespace
  split
  · exact .inl rfl
  · exact .inl rfl
  · rename_i folders _ hfolders
    refine .inr ⟨folders, ?_, rfl⟩
    exact ⟨_, List.append_eq_of_isPrefixOf?_eq_some hfolders⟩

/-- The namespace of the services has no line feed that the one of the controllers does not have. -/
theorem feed_notMem_serviceNamespace (h : '\n' ∉ feature.controllerNamespace) :
    '\n' ∉ feature.serviceNamespace := by
  rcases serviceNamespace_cases feature with heq | ⟨folders, hfolders, heq⟩
  · rw [heq]
    decide
  · rw [heq]
    intro hmem
    rcases mem_of_mem_joined hmem with hmem | ⟨component, hcomponent, hmem⟩
    · exact absurd hmem (by decide)
    · rcases List.mem_cons.mp hcomponent with rfl | hcomponent
      · exact absurd hmem (by decide)
      · obtain ⟨piece, hpiece, rfl⟩ := List.mem_map.mp hcomponent
        refine feed_notMem_upperCamel (fun hfeed => h ?_) hmem
        exact hfolders.subset (mem_of_mem_pieces hpiece hfeed).1

/-! ## Accepted names -/

/-- What the names of a feature are made of. -/
structure WellNamed (feature : Feature) : Prop where
  name_ne_nil : feature.name ≠ []
  name : ∀ c ∈ feature.name, c.isAlphanum = true
  controllerNamespace : ∀ c ∈ feature.controllerNamespace, isClassChar c = true
  webRoutePath_ne_nil : feature.webRoutePath ≠ []
  webRoutePath : ∀ c ∈ feature.webRoutePath, isRouteChar c = true

theorem isNameChar_of_checkedName {raw checked : Text} (h : checkedName raw = .ok checked) :
    ∀ c ∈ checked, isNameChar c = true := by
  unfold checkedName at h
  split at h
  · cases h
  · rename_i first rest _
    split at h
    · rename_i hvalid
      cases h
      exact List.forall_mem_cons.mpr ⟨hvalid.1, List.all_eq_true.mp hvalid.2.2⟩
    · cases h

theorem toNat_lt_of_isNameChar {c : Char} (h : isNameChar c = true) : c.toNat < 128 := by
  simp only [isNameChar, Bool.or_eq_true, beq_iff_eq] at h
  rcases h with (h | rfl) | rfl
  · exact toNat_lt_of_isAlphanum h
  · decide
  · decide

theorem eq_trim_of_checkedName {raw checked : Text} (h : checkedName raw = .ok checked) :
    checked = raw.trim := by
  unfold checkedName at h
  split at h
  · cases h
  · rename_i first rest htrim
    split at h
    · cases h
      exact htrim.symm
    · cases h

/-- The segment of a name that the class stem is made from: the last one. -/
def nameSegment (t : Text) : Text :=
  (pieces (· == '/') t).getLast?.getD []

/-- The segments of a name that its folders are made from: those before the last, without the empty
ones. -/
def folderSegments (t : Text) : List Text :=
  (pieces (· == '/') t).dropLast.filter (!·.isEmpty)

theorem mem_of_mem_nameSegment {t : Text} {c : Char} (hc : c ∈ nameSegment t) :
    c ∈ t ∧ c ≠ '/' := by
  rw [nameSegment, List.getLast?_eq_some_getLast (pieces_ne_nil _ _), Option.getD_some] at hc
  simpa using mem_of_mem_pieces (List.getLast_mem _) hc

theorem mem_of_mem_folderSegments {t segment : Text} (hsegment : segment ∈ folderSegments t)
    {c : Char} (hc : c ∈ segment) : c ∈ t ∧ c ≠ '/' := by
  simpa using mem_of_mem_pieces (List.mem_of_mem_dropLast (List.mem_of_mem_filter hsegment)) hc

/-- How the feature of a name that is accepted is made from its segments. -/
theorem ofName_eq_ok {raw : Text} (h : ofName raw = .ok feature) :
    (∀ c ∈ raw.trim, isNameChar c = true) ∧ upperCamel (nameSegment raw.trim) ≠ [] ∧
      feature = {
        name := upperCamel (nameSegment raw.trim)
        subNamespace := (folderSegments raw.trim).map upperCamel
        controllerNamespace :=
          namespaced (controllerRoot :: (folderSegments raw.trim).map upperCamel)
        webRoutePath := (upperCamel (nameSegment raw.trim)).kebab.plural } := by
  unfold ofName at h
  cases hchecked : checkedName raw with
  | error e =>
      rw [hchecked] at h
      cases h
  | ok checked =>
      rw [hchecked] at h
      obtain rfl := eq_trim_of_checkedName hchecked
      by_cases hname : upperCamel (nameSegment raw.trim) = []
      · simp only [Bind.bind, Except.bind, ← nameSegment.eq_1, hname, if_true] at h
        cases h
      · simp only [Bind.bind, Except.bind, ← nameSegment.eq_1, if_neg hname, Pure.pure, Except.pure,
          Except.ok.injEq] at h
        exact ⟨isNameChar_of_checkedName hchecked, hname, h.symm⟩

/-- The segments of a name that is accepted are of ASCII. -/
theorem toNat_lt_of_ofName {raw : Text} (h : ofName raw = .ok feature) :
    (∀ c ∈ nameSegment raw.trim, c.toNat < 128) ∧
      ∀ segment ∈ folderSegments raw.trim, ∀ c ∈ segment, c.toNat < 128 := by
  have hascii (c : Char) (hc : c ∈ raw.trim) : c.toNat < 128 :=
    toNat_lt_of_isNameChar ((ofName_eq_ok h).1 c hc)
  refine ⟨fun c hc => hascii c (mem_of_mem_nameSegment hc).1, fun segment hsegment c hc => ?_⟩
  exact hascii c (mem_of_mem_folderSegments hsegment hc).1

/-- **Every accepted name gives a feature whose names are well made.** -/
theorem wellNamed_of_ofName {raw : Text} (h : ofName raw = .ok feature) : feature.WellNamed := by
  obtain ⟨hlast, hfolders⟩ := toNat_lt_of_ofName h
  obtain ⟨-, hname, rfl⟩ := ofName_eq_ok h
  generalize nameSegment raw.trim = last at hlast hname
  generalize folderSegments raw.trim = folders at hfolders
  have halnum (c : Char) (hc : c ∈ upperCamel last) : c.isAlphanum = true :=
    isAlphanum_of_mem_upperCamel hlast hc
  refine ⟨hname, halnum, fun c hc => ?_, plural_ne_nil _, fun c hc => ?_⟩
  · refine isClassChar_of_mem_namespaced ?_ hc
    intro component hcomponent
    rcases List.mem_cons.mp hcomponent with rfl | hcomponent
    · exact all_controllerRoot
    · obtain ⟨folder, hfolder, rfl⟩ := List.mem_map.mp hcomponent
      intro c hc
      exact isClassChar_of_isAlphanum (isAlphanum_of_mem_upperCamel (hfolders folder hfolder) hc)
  · exact isRouteChar_of_mem_plural_kebab (fun c hc => toNat_lt_of_isAlphanum (halnum c hc)) hc

namespace WellNamed

variable (h : feature.WellNamed)
include h

theorem serviceNamespace : ∀ c ∈ feature.serviceNamespace, isClassChar c = true := by
  rcases serviceNamespace_cases feature with heq | ⟨folders, hfolders, heq⟩
  · rw [heq]
    exact all_serviceRoot
  · rw [heq]
    intro c hc
    refine isClassChar_of_mem_namespaced ?_ hc
    intro component hcomponent
    rcases List.mem_cons.mp hcomponent with rfl | hcomponent
    · exact all_serviceRoot
    · obtain ⟨piece, hpiece, rfl⟩ := List.mem_map.mp hcomponent
      intro c hc
      refine isClassChar_of_isAlphanum (isAlphanum_of_mem_upperCamel (fun c hc => ?_) hc)
      exact toNat_lt_of_isClassChar
        (h.controllerNamespace c (hfolders.subset (mem_of_mem_pieces hpiece hc).1))

theorem plural_kebabName : ∀ c ∈ feature.kebabName.plural, isRouteChar c = true := fun _ hc =>
  isRouteChar_of_mem_plural_kebab (fun c hc => toNat_lt_of_isAlphanum (h.name c hc)) hc

end WellNamed

end Feature
end Graft
