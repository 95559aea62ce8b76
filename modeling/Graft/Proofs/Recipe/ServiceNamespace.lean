import Graft.Proofs.Recipe.Names
import Graft.Proofs.Text.CamelCase

/-!
# The namespace of the services

The folders of a feature are under the root of its controllers, and those of its services
are read back from there and spelled once more. They come out as they went in where that
spelling leaves them alone, so the services lie in the folders of the controllers exactly
if no folder hides a capital (`Feature.serviceNamespace_eq_iff`). A single folder without
a name is lost on the way.
-/

namespace Graft

open Text

/-! ## Components -/

theorem backslash_notMem_of_isAlphanum {t : Text} (h : ∀ c ∈ t, c.isAlphanum = true) : '\\' ∉ t :=
  fun hmem => absurd (h _ hmem) (by decide)

/-- The components of a namespace are those of its root and then its folders. -/
theorem pieces_namespaced {folders : List Text} (hfolders : ∀ folder ∈ folders, '\\' ∉ folder)
    (root : Text) :
    pieces (· == '\\') (namespaced (root :: folders)) = pieces (· == '\\') root ++ folders := by
  have hall : folders.flatMap (pieces (· == '\\')) = folders := by
    rw [List.flatMap_def, List.map_congr_left fun folder hfolder =>
      pieces_of_notMem (hfolders folder hfolder), ← List.flatMap_def]
    exact List.flatMap_singleton' folders
  have hmark : namespaced (root :: folders) = joined ['\\'] (root :: folders) := rfl
  rw [hmark, pieces_joined (List.cons_ne_nil _ _), List.flatMap_cons, hall]

/-- Namespaces under one root are the same only with the same folders. -/
theorem namespaced_inj {folders others : List Text} (hfolders : ∀ folder ∈ folders, '\\' ∉ folder)
    (hothers : ∀ folder ∈ others, '\\' ∉ folder) (root : Text) :
    namespaced (root :: folders) = namespaced (root :: others) ↔ folders = others := by
  refine ⟨fun h => ?_, fun h => by rw [h]⟩
  have hpieces := congrArg (pieces (· == '\\')) h
  rwa [pieces_namespaced hfolders, pieces_namespaced hothers, List.append_right_inj] at hpieces

namespace Feature

variable {feature : Feature}

/-! ## From controllers to services -/

/-- What stands behind the root of a namespace. -/
theorem namespaced_cons (root folder : Text) (others : List Text) :
    namespaced (root :: folder :: others) = root ++ "\\" ++ namespaced (folder :: others) := by
  simp only [namespaced, joined]

theorem namespaced_eq_nil_iff (folder : Text) (others : List Text) :
    namespaced (folder :: others) = [] ↔ folder :: others = [[]] := by
  cases others with
  | nil => simp [namespaced, joined]
  | cons next others => simp [namespaced, joined]

/-- The services are under the folders of the controllers, each spelled again. -/
theorem serviceNamespace_of_folders {folders : List Text}
    (hfolders : ∀ folder ∈ folders, '\\' ∉ folder)
    (h : feature.controllerNamespace = namespaced (controllerRoot :: folders)) :
    feature.serviceNamespace =
      if folders = [] ∨ folders = [[]] then serviceRoot
      else namespaced (serviceRoot :: folders.map upperCamel) := by
  cases folders with
  | nil =>
      have hnone : (controllerRoot ++ "\\").isPrefixOf? feature.controllerNamespace = none := by
        rw [h]
        decide
      rw [serviceNamespace, hnone]
      rfl
  | cons folder others =>
      have hrest : (controllerRoot ++ "\\").isPrefixOf? feature.controllerNamespace =
          some (namespaced (folder :: others)) := by
        rw [h, namespaced_cons, List.isPrefixOf?_eq_some_iff_append_eq]
      by_cases hnil : folder :: others = [[]]
      · rw [serviceNamespace, hrest, (namespaced_eq_nil_iff folder others).mpr hnil,
          if_pos (.inr hnil)]
      · have hne := mt (namespaced_eq_nil_iff folder others).mp hnil
        rw [if_neg (by simp [hnil])]
        rw [List.forall_mem_cons] at hfolders
        have hpieces := pieces_namespaced hfolders.2 folder
        rw [pieces_of_notMem hfolders.1, List.singleton_append] at hpieces
        unfold serviceNamespace
        rw [hrest]
        split
        · rename_i heq
          cases heq
        · rename_i heq
          exact absurd (Option.some.inj heq) hne
        · rename_i heq
          cases heq
          rw [hpieces]

/-- **The services lie in the folders of the controllers exactly if spelling leaves the folders
alone**: no folder has a capital that is hidden, and the folders are not a single one without a
name. -/
theorem serviceNamespace_eq_iff {raw : Text} (h : ofName raw = .ok feature) :
    feature.controllerNamespace = namespaced (controllerRoot :: feature.subNamespace) ∧
      (feature.serviceNamespace = namespaced (serviceRoot :: feature.subNamespace) ↔
        feature.subNamespace ≠ [[]] ∧ ∀ folder ∈ feature.subNamespace, ¬HidesCapital folder) := by
  obtain ⟨-, hsegments⟩ := toNat_lt_of_ofName h
  obtain ⟨-, -, rfl⟩ := ofName_eq_ok h
  generalize folderSegments raw.trim = segments at hsegments
  have hfolders : ∀ folder ∈ segments.map upperCamel, '\\' ∉ folder := by
    rw [List.forall_mem_map]
    exact fun segment hsegment => backslash_notMem_of_isAlphanum fun c hc =>
      isAlphanum_of_mem_upperCamel (hsegments segment hsegment) hc
  have hagain : ∀ folder ∈ (segments.map upperCamel).map upperCamel, '\\' ∉ folder := by
    rw [List.map_map, List.forall_mem_map]
    refine fun segment hsegment => backslash_notMem_of_isAlphanum fun c hc => ?_
    refine isAlphanum_of_mem_upperCamel (fun d hd => toNat_lt_of_isAlphanum ?_) hc
    exact isAlphanum_of_mem_upperCamel (hsegments segment hsegment) hd
  have hspelled : (segments.map upperCamel).map upperCamel = segments.map upperCamel ↔
      ∀ folder ∈ segments.map upperCamel, ¬HidesCapital folder := by
    rw [List.map_map, List.map_inj_left, List.forall_mem_map]
    exact forall₂_congr fun segment hsegment =>
      upperCamel_upperCamel_iff (hsegments segment hsegment)
  refine ⟨rfl, ?_⟩
  rw [serviceNamespace_of_folders hfolders rfl]
  generalize segments.map upperCamel = folders at hfolders hagain hspelled
  by_cases hnil : folders = []
  · subst hnil
    exact iff_of_true rfl ⟨by simp, by simp⟩
  by_cases hone : folders = [[]]
  · subst hone
    have hroot : serviceRoot ≠ namespaced [serviceRoot, []] := by decide
    rw [if_pos (.inr rfl)]
    exact iff_of_false hroot fun hne => hne.1 rfl
  rw [if_neg (not_or_intro hnil hone), namespaced_inj hagain hfolders, hspelled, and_iff_right hone]

/-- The entries of a folder that was two words, each of one letter. -/
def entry : Feature where
  name := "Entry"
  subNamespace := ["Api", "V2"]
  controllerNamespace := "App\\Http\\Controllers\\Api\\V2"
  webRoutePath := "entries"

/-- No capital of the folders `Api` and `V2` is hidden, and the services lie in them too. -/
theorem entry_services_in_folders :
    ofName "api/v2/entry" = .ok entry ∧
      entry.serviceNamespace = namespaced (serviceRoot :: entry.subNamespace) := by
  have hname : ofName "api/v2/entry" = .ok entry := by decide
  refine ⟨hname, (serviceNamespace_eq_iff hname).2.mpr ⟨by decide, by decide⟩⟩

/-- A folder of two words with one letter each is spelled as one word for the services. -/
theorem order_services_beside_folder :
    ∃ order, ofName "a_b/order" = .ok order ∧ order.subNamespace = [("AB" : Text)] ∧
      order.controllerNamespace = "App\\Http\\Controllers\\AB" ∧
      order.serviceNamespace = "App\\Services\\Ab" ∧
      order.serviceNamespace ≠ namespaced (serviceRoot :: order.subNamespace) :=
  ⟨_, rfl, by decide⟩

end Feature
end Graft
