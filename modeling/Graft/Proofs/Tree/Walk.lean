import Graft.Tree.Walk

/-!
# Walks that end at a file

A path may be followed to read a file and once more to write it. Both walks end at
the same file (`place_write_of_use`): the one thing that only a walk for writing
refuses is a slash at the end, and after a slash no walk ends at a file.
-/

namespace Graft
namespace Tree

variable {tree : Tree} {purpose : Purpose} {links : Nat} {location file : Location}
  {parts : List Text}

/-! ## One name -/

section Enter

variable {part : Text} {rest : List Text} {access : Access}
  (hnode : tree.node? location = some (.folder access)) (hpart : ¬part = [])
  (hdot : ¬(part = ['.'] ∧ (access = .full ∨ purpose = .name)))
  (hdots : ¬(part = ['.', '.'] ∧ (access = .full ∨ purpose = .name)))
  (hfull : ¬access ≠ .full)
  (hslash : ¬(purpose = .write ∧ rest ≠ [] ∧ rest.all (·.isEmpty)))
  (hlimit : ¬nameLimit < part.byteSize)

include hnode hpart hdot hdots hfull hslash hlimit

theorem walk_absent (hnext : tree.node? (location ++ [part]) = none) :
    tree.walk purpose links location (part :: rest) =
      if rest = [] then .ok (.absent location part) else .error .notFound := by
  rw [walk.eq_def]
  simp only [hnode, if_neg hpart, if_neg hdot, if_neg hdots, if_neg hfull, if_neg hslash,
    if_neg hlimit, hnext]

theorem walk_link_zero {target : Path}
    (hnext : tree.node? (location ++ [part]) = some (.link target)) :
    tree.walk purpose 0 location (part :: rest) = .error .tooManyLinks := by
  rw [walk.eq_def]
  simp only [hnode, if_neg hpart, if_neg hdot, if_neg hdots, if_neg hfull, if_neg hslash,
    if_neg hlimit, hnext]

theorem walk_link_succ {target : Path}
    (hnext : tree.node? (location ++ [part]) = some (.link target)) :
    tree.walk purpose (links + 1) location (part :: rest) =
      tree.walk purpose links (if Path.isAbsolute target then [] else location)
        (Path.parts target ++ rest) := by
  rw [walk.eq_def]
  simp only [hnode, if_neg hpart, if_neg hdot, if_neg hdots, if_neg hfull, if_neg hslash,
    if_neg hlimit, hnext]

theorem walk_down {node : Node} (hnext : tree.node? (location ++ [part]) = some node)
    (hlink : ∀ target, node ≠ .link target) :
    tree.walk purpose links location (part :: rest) =
      tree.walk purpose links (location ++ [part]) rest := by
  rw [walk.eq_def]
  cases node with
  | folder _ =>
      simp only [hnode, if_neg hpart, if_neg hdot, if_neg hdots, if_neg hfull, if_neg hslash,
        if_neg hlimit, hnext]
  | file _ _ =>
      simp only [hnode, if_neg hpart, if_neg hdot, if_neg hdots, if_neg hfull, if_neg hslash,
        if_neg hlimit, hnext]
  | link target => exact (hlink target rfl).elim

end Enter

/-- A node after which a walk goes on without following a link is none. -/
theorem ne_link_of_walk {node : Node} (hlast : ∀ target, links = 0 → node = .link target → False)
    (hlinks : ∀ target more, links = Nat.succ more → node = .link target → False) (target : Path) :
    node ≠ .link target := by
  intro heq
  cases links with
  | zero => exact hlast target rfl heq
  | succ links => exact hlinks target links rfl heq

/-! ## Slashes at the end -/

/-- A path with a slash at its end leads to folders only. -/
theorem exists_folder_of_slash (hslash : parts.getLast? = some [])
    (h : tree.walk purpose links location parts = .ok (.found file)) :
    ∃ access, tree.node? file = some (.folder access) := by
  fun_induction tree.walk purpose links location parts with
  | case1 => cases hslash
  | case2 links location rest access hnode ih =>
      cases rest with
      | nil =>
          rw [walk] at h
          cases h
          exact ⟨access, hnode⟩
      | cons next rest => exact ih (by rwa [List.getLast?_cons_cons] at hslash) h
  | case3 links location part rest access hnode hpart hdot ih =>
      cases rest with
      | nil => exact absurd (by simpa using hslash) hpart
      | cons next rest => exact ih (by rwa [List.getLast?_cons_cons] at hslash) h
  | case4 links location part rest access hnode hpart hdot hdots ih =>
      cases rest with
      | nil => exact absurd (by simpa using hslash) hpart
      | cons next rest => exact ih (by rwa [List.getLast?_cons_cons] at hslash) h
  | case5 => cases h
  | case6 => cases h
  | case7 => cases h
  | case8 => cases h
  | case9 => cases h
  | case10 => cases h
  | case11 location part rest access hnode hpart _ _ _ _ _ target links hnext ih =>
      cases rest with
      | nil => exact absurd (by simpa using hslash) hpart
      | cons next rest =>
          refine ih ?_ h
          rw [List.getLast?_append, ← List.getLast?_cons_cons (a := part), hslash]
          rfl
  | case12 location part rest access hnode hpart _ _ _ _ _ node links _ _ hnext ih =>
      cases rest with
      | nil => exact absurd (by simpa using hslash) hpart
      | cons next rest => exact ih (by rwa [List.getLast?_cons_cons] at hslash) h
  | case13 => cases h
  | case14 => cases h

theorem getLast?_of_all_isEmpty {rest : List Text} (hrest : rest ≠ [])
    (hall : rest.all (·.isEmpty)) : rest.getLast? = some [] := by
  have hlast := List.all_eq_true.1 hall _ (List.getLast_mem hrest)
  rw [List.isEmpty_iff] at hlast
  rw [List.getLast?_eq_some_getLast hrest, hlast]

/-- Where a walk goes on to a file, what is left of the path is no mere slash. -/
theorem not_slash {access : Access} {content : ByteArray} {rest : List Text} (before : List Text)
    (hfile : tree.node? file = some (.file access content))
    (h : tree.walk purpose links location (before ++ rest) = .ok (.found file)) :
    ¬(rest ≠ [] ∧ rest.all (·.isEmpty)) := by
  rintro ⟨hrest, hall⟩
  have hslash : (before ++ rest).getLast? = some [] := by
    rw [List.getLast?_append, getLast?_of_all_isEmpty hrest hall]
    rfl
  obtain ⟨_, hfolder⟩ := exists_folder_of_slash hslash h
  rw [hfile] at hfolder
  cases hfolder

/-! ## Reading and writing -/

/-- **A walk for use that ends at a file ends there as a walk for writing too.** -/
theorem walk_write_of_use {access : Access} {content : ByteArray}
    (hfile : tree.node? file = some (.file access content))
    (h : tree.walk .use links location parts = .ok (.found file)) :
    tree.walk .write links location parts = .ok (.found file) := by
  fun_induction tree.walk .use links location parts with
  | case1 => rwa [walk]
  | case2 _ _ _ _ hnode ih =>
      rw [walk.eq_def]
      simp only [hnode, if_true]
      exact ih h
  | case3 _ _ _ _ _ hnode h1 h2 ih =>
      rw [walk.eq_def]
      simp only [reduceCtorEq, or_false] at h2
      simp only [hnode, if_neg h1, reduceCtorEq, or_false, if_pos h2]
      exact ih h
  | case4 _ _ _ _ _ hnode h1 h2 h3 ih =>
      rw [walk.eq_def]
      simp only [reduceCtorEq, or_false] at h2 h3
      simp only [hnode, if_neg h1, reduceCtorEq, or_false, if_neg h2, if_pos h3]
      exact ih h
  | case5 => cases h
  | case6 => cases h
  | case7 => cases h
  | case8 => cases h
  | case9 => cases h
  | case10 => cases h
  | case11 location part rest access hnode h1 h2 h3 h4 _ h6 target links hnext ih =>
      -- the target of the link has the rest of the path behind it, and with it its slash
      have hslash := not_slash _ hfile h
      rw [walk_link_succ hnode h1 (by simpa using h2) (by simpa using h3) h4
        (by simpa using hslash) h6 hnext]
      exact ih h
  | case12 location part rest access hnode h1 h2 h3 h4 _ h6 node links hlast hlinks hnext ih =>
      have hslash := not_slash [] hfile h
      rw [walk_down hnode h1 (by simpa using h2) (by simpa using h3) h4
        (by simpa using hslash) h6 hnext (ne_link_of_walk hlast hlinks)]
      exact ih h
  | case13 => cases h
  | case14 => cases h

theorem place_write_of_use {path : Path} {access : Access} {content : ByteArray}
    (hfile : tree.node? file = some (.file access content))
    (h : tree.place .use path = .ok (.found file)) :
    tree.place .write path = .ok (.found file) := by
  unfold place placeFrom at h ⊢
  split at h
  · cases h
  · rename_i hpath
    rw [if_neg hpath]
    split at h
    · cases h
    · rename_i hnul
      rw [if_neg hnul]
      split at h
      · cases h
      · rename_i hlimit
        rw [if_neg (by simpa using hlimit)]
        exact walk_write_of_use hfile h

end Tree
end Graft
