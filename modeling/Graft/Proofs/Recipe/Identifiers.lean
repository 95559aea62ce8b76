import Graft.Proofs.Recipe.Patches
import Graft.Proofs.Recipe.ServiceNamespace

/-!
# Names that are identifiers

A name is checked as a whole, but its identifiers are made segment by segment, without the
underscores. So a segment may come out as no identifier: with a digit in front where its
first letter or digit is one, and with no character at all where it has underscores alone.
The names of a feature are identifiers, and its namespaces and imports have no component
without a name, exactly if the segments rule that out (`Feature.isIdentifier_iff`).
-/

namespace Graft

open Text

/-! ## Identifiers -/

/-- A legal name of a class or of a folder. -/
structure IsIdentifier (t : Text) : Prop where
  ne_nil : t ≠ []
  chars : ∀ c ∈ t, c.isAlphanum = true ∨ c = '_'
  head : ∀ c, t.head? = some c → c.isDigit = false

/-- The first letter or digit of a segment is a letter. -/
def LeadsWithLetter (segment : Text) : Prop :=
  ∃ c, segment.find? Char.isAlphanum = some c ∧ c.isAlpha = true

/-- No component of a class or of a namespace is without a name. -/
def IsFullyNamed (className : Text) : Prop :=
  [] ∉ pieces (· == '\\') className

theorem isDigit_toUpper {c : Char} (h : c.isAlphanum = true) : c.toUpper.isDigit = !c.isAlpha :=
  ascii_cases (p := fun c => c.isAlphanum = true → c.toUpper.isDigit = !c.isAlpha) (by decide)
    (toNat_lt_of_isAlphanum h) h

/-- A segment is spelled as an identifier exactly if its first letter or digit is a letter. -/
theorem isIdentifier_upperCamel_iff {segment : Text} (hascii : ∀ c ∈ segment, c.toNat < 128) :
    IsIdentifier (upperCamel segment) ↔ LeadsWithLetter segment := by
  have hhead := head?_upperCamel hascii
  constructor
  · intro h
    obtain ⟨d, rest, hspelled⟩ := List.exists_cons_of_ne_nil h.ne_nil
    rw [hspelled, List.head?_cons, eq_comm, Option.map_eq_some_iff] at hhead
    obtain ⟨c, hfind, rfl⟩ := hhead
    have hdigit := h.head c.toUpper (by rw [hspelled, List.head?_cons])
    rw [isDigit_toUpper (List.find?_some hfind), Bool.not_eq_false'] at hdigit
    exact ⟨c, hfind, hdigit⟩
  · rintro ⟨c, hfind, halpha⟩
    rw [hfind, Option.map_some] at hhead
    refine ⟨?_, fun d hd => .inl (isAlphanum_of_mem_upperCamel hascii hd), fun d hd => ?_⟩
    · rintro hnil
      rw [hnil] at hhead
      cases hhead
    · rw [hhead, Option.some.injEq] at hd
      rw [← hd, isDigit_toUpper (List.find?_some hfind), halpha, Bool.not_true]

/-! ## Fully named classes -/

section

variable {home stem : Text} {folders : List Text}

/-- What stands behind a backslash adds its components. -/
theorem isFullyNamed_append_iff :
    IsFullyNamed (home ++ "\\" ++ stem) ↔ IsFullyNamed home ∧ IsFullyNamed stem := by
  have hpieces : pieces (· == '\\') (home ++ "\\" ++ stem) =
      pieces (· == '\\') home ++ pieces (· == '\\') stem := by
    rw [List.append_assoc]
    exact pieces_append_cons rfl home stem
  rw [IsFullyNamed, hpieces, List.mem_append, not_or]
  rfl

/-- A name of letters and digits is one component. -/
theorem isFullyNamed_of_isAlphanum (hne : stem ≠ []) (h : ∀ c ∈ stem, c.isAlphanum = true) :
    IsFullyNamed stem := by
  rw [IsFullyNamed, pieces_of_notMem (backslash_notMem_of_isAlphanum h), List.mem_singleton]
  exact hne.symm

/-- A namespace is fully named where its root and its folders are. -/
theorem isFullyNamed_namespaced_iff (hfolders : ∀ folder ∈ folders, '\\' ∉ folder)
    (hroot : IsFullyNamed home) : IsFullyNamed (namespaced (home :: folders)) ↔ [] ∉ folders := by
  rw [IsFullyNamed, pieces_namespaced hfolders, List.mem_append, not_or]
  exact and_iff_right hroot

end

theorem isFullyNamed_controllerRoot : IsFullyNamed controllerRoot := by
  unfold IsFullyNamed
  decide

theorem isFullyNamed_serviceRoot : IsFullyNamed serviceRoot := by
  unfold IsFullyNamed
  decide

/-! ## The class that an import is of -/

theorem identity_importSpec (className : Text) :
    (importSpec className).identity = .contains (importLine className) := by
  have htrim : trim ("use " ++ className ++ ";") = importLine className := by
    have hstart : trimStart ("use " ++ className ++ ";") isSpace = "use " ++ className ++ ";" :=
      trimStart_cons_of_neg _ rfl
    rw [trim, hstart]
    exact trimEnd_append_of_neg ("use " ++ className) rfl
  rw [← htrim]
  rfl

/-- An import is of one class. -/
theorem importSpec_inj {className other : Text} :
    importSpec className = importSpec other ↔ className = other := by
  refine ⟨fun h => ?_, fun h => by rw [h]⟩
  have hidentity := congrArg Spec.identity h
  rw [identity_importSpec, identity_importSpec] at hidentity
  injection hidentity with hline
  exact List.append_cancel_left (List.append_cancel_right hline)

namespace Feature

variable {feature : Feature}

/-- The classes that are imported for a feature that is woven in everywhere. -/
def importedClasses (feature : Feature) : List Text :=
  [feature.serviceInterface, feature.serviceClass, feature.controllerClass, feature.modelClass,
    feature.policyClass]

theorem mem_importedClasses {patch : Patch} {className : Text} (h : feature.OnOneLine)
    (hpatch : patch ∈ feature.everyPatch) (himport : patch.spec = importSpec className) :
    className ∈ feature.importedClasses := by
  have hanchors : patch.spec.anchors = importAnchors := congrArg Spec.anchors himport
  have hclass {known : Text} (hknown : known ∈ feature.importedClasses)
      (heq : importSpec known = importSpec className) : className ∈ feature.importedClasses :=
    importSpec_inj.mp heq ▸ hknown
  simp only [everyPatch, seederPatches_eq h, serviceBindingPatches_eq h, webRoutePatches_eq,
    apiRoutePatches_eq, policyPatches_eq h, List.mem_append, List.mem_cons, List.not_mem_nil,
    or_false] at hpatch
  -- the patches that import no class are told by where they go
  rcases hpatch with rfl | ⟨rfl | rfl | rfl⟩ | ⟨rfl | rfl⟩ | ⟨rfl | rfl⟩ | rfl | rfl | rfl
  · cases hanchors
  · exact hclass (by simp [importedClasses]) himport
  · exact hclass (by simp [importedClasses]) himport
  · cases hanchors
  · exact hclass (by simp [importedClasses]) himport
  · cases hanchors
  · exact hclass (by simp [importedClasses]) himport
  · cases hanchors
  · exact hclass (by simp [importedClasses]) himport
  · exact hclass (by simp [importedClasses]) himport
  · cases hanchors

/-- The classes that are imported are fully named where the namespaces are. -/
theorem isFullyNamed_of_mem_importedClasses {className : Text} (h : feature.WellNamed)
    (hcontrollers : IsFullyNamed feature.controllerNamespace)
    (hservices : IsFullyNamed feature.serviceNamespace)
    (hclass : className ∈ feature.importedClasses) : IsFullyNamed className := by
  have hstem (ending : Text) (hending : ending.all Char.isAlphanum = true) :
      IsFullyNamed (feature.name ++ ending) :=
    isFullyNamed_of_isAlphanum (List.append_ne_nil_of_left_ne_nil h.name_ne_nil _)
      (List.forall_mem_append.mpr ⟨h.name, List.all_eq_true.mp hending⟩)
  have happ (folder : Text) (hne : folder ≠ []) (hfolder : folder.all Char.isAlphanum = true) :
      IsFullyNamed ("App" ++ "\\" ++ folder) :=
    isFullyNamed_append_iff.mpr
      ⟨isFullyNamed_of_isAlphanum (by decide) (List.all_eq_true.mp rfl),
        isFullyNamed_of_isAlphanum hne (List.all_eq_true.mp hfolder)⟩
  have hcontracts : IsFullyNamed (feature.serviceNamespace ++ "\\" ++ "Contracts") :=
    isFullyNamed_append_iff.mpr
      ⟨hservices, isFullyNamed_of_isAlphanum (by decide) (List.all_eq_true.mp rfl)⟩
  simp only [importedClasses, List.mem_cons, List.not_mem_nil, or_false] at hclass
  rcases hclass with rfl | rfl | rfl | rfl | rfl
  · have hfolder : ("\\Contracts\\" : Text) = "\\" ++ "Contracts" ++ "\\" := by decide
    delta serviceInterface
    rw [hfolder, List.append_assoc feature.name, ← List.append_assoc feature.serviceNamespace,
      ← List.append_assoc feature.serviceNamespace]
    exact isFullyNamed_append_iff.mpr ⟨hcontracts, hstem _ rfl⟩
  · exact isFullyNamed_append_iff.mpr ⟨hservices, hstem _ rfl⟩
  · exact isFullyNamed_append_iff.mpr ⟨hcontrollers, hstem _ rfl⟩
  · have hroot : ("App\\Models\\" : Text) = "App" ++ "\\" ++ "Models" ++ "\\" := by decide
    delta modelClass
    rw [hroot]
    exact isFullyNamed_append_iff.mpr ⟨happ "Models" (by decide) rfl,
      isFullyNamed_of_isAlphanum h.name_ne_nil h.name⟩
  · have hroot : ("App\\Policies\\" : Text) = "App" ++ "\\" ++ "Policies" ++ "\\" := by decide
    delta policyClass
    rw [List.append_assoc, hroot]
    exact isFullyNamed_append_iff.mpr ⟨happ "Policies" (by decide) rfl, hstem _ rfl⟩

/-! ## Accepted names -/

/-- A folder of an accepted name is spelled as nothing exactly if it is underscores alone. -/
theorem upperCamel_eq_nil_iff_of_ofName {raw : Text} (h : ofName raw = .ok feature) {segment : Text}
    (hsegment : segment ∈ folderSegments raw.trim) :
    upperCamel segment = [] ↔ ∀ c ∈ segment, c = '_' := by
  rw [upperCamel_eq_nil_iff ((toNat_lt_of_ofName h).2 segment hsegment)]
  refine forall₂_congr fun c hc => ?_
  obtain ⟨hmem, hslash⟩ := mem_of_mem_folderSegments hsegment hc
  have hchar := (ofName_eq_ok h).1 c hmem
  rw [isNameChar, beq_false_of_ne hslash, Bool.or_false] at hchar
  constructor
  · intro hnone
    rwa [hnone, Bool.false_or, beq_iff_eq] at hchar
  · rintro rfl
    rfl

/-- The namespaces of an accepted name are fully named exactly if no folder came out empty. -/
theorem isFullyNamed_namespaces_iff {raw : Text} (h : ofName raw = .ok feature) :
    (IsFullyNamed feature.controllerNamespace ↔ [] ∉ feature.subNamespace) ∧
      ([] ∉ feature.subNamespace → IsFullyNamed feature.serviceNamespace) := by
  obtain ⟨-, hsegments⟩ := toNat_lt_of_ofName h
  obtain ⟨-, -, rfl⟩ := ofName_eq_ok h
  generalize folderSegments raw.trim = segments at hsegments
  have hfolders : ∀ folder ∈ segments.map upperCamel, ∀ c ∈ folder, c.isAlphanum = true := by
    rw [List.forall_mem_map]
    exact fun segment hsegment c hc => isAlphanum_of_mem_upperCamel (hsegments segment hsegment) hc
  generalize segments.map upperCamel = folders at hfolders
  have hplain := fun folder hfolder => backslash_notMem_of_isAlphanum (hfolders folder hfolder)
  refine ⟨isFullyNamed_namespaced_iff hplain isFullyNamed_controllerRoot, fun hnamed => ?_⟩
  rw [serviceNamespace_of_folders hplain rfl]
  split
  · exact isFullyNamed_serviceRoot
  · have hascii (folder : Text) (hfolder : folder ∈ folders) (c : Char) (hc : c ∈ folder) :
        c.toNat < 128 :=
      toNat_lt_of_isAlphanum (hfolders folder hfolder c hc)
    refine (isFullyNamed_namespaced_iff ?_ isFullyNamed_serviceRoot).mpr ?_
    · rw [List.forall_mem_map]
      exact fun folder hfolder => backslash_notMem_of_isAlphanum fun c hc =>
        isAlphanum_of_mem_upperCamel (hascii folder hfolder) hc
    · intro hmem
      obtain ⟨folder, hfolder, hspelled⟩ := List.mem_map.mp hmem
      obtain ⟨c, rest, rfl⟩ :=
        List.exists_cons_of_ne_nil (ne_of_mem_of_not_mem hfolder hnamed)
      have hc := (upperCamel_eq_nil_iff (hascii _ hfolder)).mp hspelled c List.mem_cons_self
      rw [hfolders _ hfolder c List.mem_cons_self] at hc
      cases hc

/-- **The names of a feature are identifiers exactly if its segments lead with letters**, and its
namespaces and imports have no component without a name exactly if no folder is made of underscores
alone. -/
theorem isIdentifier_iff {raw : Text} (h : ofName raw = .ok feature) :
    (IsIdentifier feature.name ↔ LeadsWithLetter (nameSegment raw.trim)) ∧
      ((∀ folder ∈ feature.subNamespace, IsIdentifier folder) ↔
        ∀ segment ∈ folderSegments raw.trim, LeadsWithLetter segment) ∧
      ((IsFullyNamed feature.controllerNamespace ∧ IsFullyNamed feature.serviceNamespace ∧
          ∀ kind weavings, ∀ patch ∈ (plan { feature with kind, weavings }).patches, ∀ className,
            patch.spec = importSpec className → IsFullyNamed className) ↔
        ∀ segment ∈ folderSegments raw.trim, ∃ c ∈ segment, c ≠ '_') := by
  have hfeature := (ofName_eq_ok h).2.2
  have hsub : feature.subNamespace = (folderSegments raw.trim).map upperCamel := by rw [hfeature]
  refine ⟨?_, ?_, ?_⟩
  · rw [hfeature]
    exact isIdentifier_upperCamel_iff (toNat_lt_of_ofName h).1
  · rw [hsub, List.forall_mem_map]
    exact forall₂_congr fun segment hsegment =>
      isIdentifier_upperCamel_iff ((toNat_lt_of_ofName h).2 segment hsegment)
  · have hwell := wellNamed_of_ofName h
    obtain ⟨hcontrollers, hservices⟩ := isFullyNamed_namespaces_iff h
    have hnamed : [] ∉ feature.subNamespace ↔
        ∀ segment ∈ folderSegments raw.trim, ∃ c ∈ segment, c ≠ '_' := by
      simp only [hsub, List.mem_map, not_exists, not_and]
      refine forall₂_congr fun segment hsegment => ?_
      rw [upperCamel_eq_nil_iff_of_ofName h hsegment]
      push Not
      rfl
    rw [← hnamed]
    refine ⟨fun hall => hcontrollers.mp hall.1, fun hall => ?_⟩
    refine ⟨hcontrollers.mpr hall, hservices hall,
      fun kind weavings patch hpatch className heq => ?_⟩
    have hevery := (patches_plan_sublist { feature with kind, weavings }).subset hpatch
    have hline : OnOneLine { feature with kind, weavings } := { hwell.onOneLine with }
    have hclass := mem_importedClasses hline hevery heq
    exact isFullyNamed_of_mem_importedClasses hwell (hcontrollers.mpr hall) (hservices hall) hclass

/-- The entries of a ledger, under one folder. -/
def ledgerEntry : Feature where
  name := "LedgerEntry"
  subNamespace := ["Books"]
  controllerNamespace := "App\\Http\\Controllers\\Books"
  webRoutePath := "ledger-entries"

/-- Both segments lead with a letter. -/
theorem ledgerEntry_isIdentifier :
    ofName "books/ledger_entry" = .ok ledgerEntry ∧ IsIdentifier ledgerEntry.name ∧
      ∀ folder ∈ ledgerEntry.subNamespace, IsIdentifier folder := by
  have hname : ofName "books/ledger_entry" = .ok ledgerEntry := by decide
  have hletters := isIdentifier_iff hname
  have hsegments : folderSegments (trim "books/ledger_entry") = [("books" : Text)] := by decide
  refine ⟨hname, hletters.1.mpr ⟨'l', by decide, by decide⟩, hletters.2.1.mpr ?_⟩
  rw [hsegments, List.forall_mem_singleton]
  exact ⟨'b', by decide, by decide⟩

/-- A name that leads with a digit behind a slash, and a folder of an underscore alone. -/
theorem names_without_identifiers :
    (∃ lives, ofName "Admin/9lives" = .ok lives ∧ lives.name = "9lives" ∧
      ¬IsIdentifier lives.name) ∧
    ∃ order, ofName "Admin/_/Order" = .ok order ∧ order.subNamespace = [("Admin" : Text), []] ∧
      order.controllerNamespace = "App\\Http\\Controllers\\Admin\\" ∧
      ¬IsFullyNamed order.controllerNamespace := by
  refine ⟨⟨_, rfl, by decide, fun h => ?_⟩, ⟨_, rfl, by decide, by decide, ?_⟩⟩
  · exact absurd (h.head '9' (by decide)) (by decide)
  · unfold IsFullyNamed
    decide

end Feature
end Graft
