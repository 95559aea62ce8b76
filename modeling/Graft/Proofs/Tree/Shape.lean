import Graft.Proofs.Tree.Walk
import Graft.Tree.Content

/-!
# The shape of a tree

The shape of a tree is everything but the contents of its files. Walks depend on
nothing else (`SameShape.walk_eq`), and a write to a file that is there leaves the
shape as it was (`sameShape_put`): whatever is written during a run, every path
leads to the same place before and after.
-/

namespace Graft

/-- A node without the content that a file has. -/
def Node.shape : Node → Node
  | .folder access => .folder access
  | .file access _ => .file access .empty
  | .link target => .link target

namespace Tree

/-- Trees that differ in the contents of their files at most. -/
structure SameShape (tree other : Tree) : Prop where
  home : tree.home = other.home
  nodes : ∀ location, (tree.node? location).map Node.shape = (other.node? location).map Node.shape

variable {tree other : Tree}

theorem SameShape.refl (tree : Tree) : tree.SameShape tree :=
  ⟨rfl, fun _ => rfl⟩

theorem SameShape.trans {third : Tree} (h : tree.SameShape other) (h' : other.SameShape third) :
    tree.SameShape third :=
  ⟨h.home.trans h'.home, fun location => (h.nodes location).trans (h'.nodes location)⟩

/-- Where the shape is the same, the nodes are, except for files of one access. -/
theorem SameShape.node?_eq_or (h : tree.SameShape other) (location : Location) :
    other.node? location = tree.node? location ∨ ∃ access content content',
      tree.node? location = some (.file access content) ∧
        other.node? location = some (.file access content') := by
  have hshape := h.nodes location
  cases hnode : tree.node? location with
  | none =>
      rw [hnode, Option.map_none, eq_comm, Option.map_eq_none_iff] at hshape
      exact .inl hshape
  | some node =>
      rw [hnode, Option.map_some, eq_comm, Option.map_eq_some_iff] at hshape
      obtain ⟨node', hnode', hsame⟩ := hshape
      cases node with
      | folder access =>
          cases node' <;> simp only [Node.shape, reduceCtorEq, Node.folder.injEq] at hsame
          exact .inl (by rw [hnode', hsame])
      | file access content =>
          cases node' <;> simp only [Node.shape, reduceCtorEq, Node.file.injEq, and_true] at hsame
          exact .inr ⟨access, content, _, rfl, by rw [hnode', hsame]⟩
      | link target =>
          cases node' <;> simp only [Node.shape, reduceCtorEq, Node.link.injEq] at hsame
          exact .inl (by rw [hnode', hsame])

theorem SameShape.symm (h : tree.SameShape other) : other.SameShape tree :=
  ⟨h.home.symm, fun location => (h.nodes location).symm⟩

variable {location : Location}

theorem SameShape.none (h : tree.SameShape other) (hnode : tree.node? location = .none) :
    other.node? location = .none := by
  rcases h.node?_eq_or location with heq | ⟨_, _, _, hfile, _⟩
  · exact heq.trans hnode
  · rw [hfile] at hnode
    cases hnode

theorem SameShape.folder (h : tree.SameShape other) {access : Access}
    (hnode : tree.node? location = some (.folder access)) :
    other.node? location = some (.folder access) := by
  rcases h.node?_eq_or location with heq | ⟨_, _, _, hfile, _⟩
  · exact heq.trans hnode
  · rw [hfile] at hnode
    cases hnode

theorem SameShape.link (h : tree.SameShape other) {target : Path}
    (hnode : tree.node? location = some (.link target)) :
    other.node? location = some (.link target) := by
  rcases h.node?_eq_or location with heq | ⟨_, _, _, hfile, _⟩
  · exact heq.trans hnode
  · rw [hfile] at hnode
    cases hnode

/-- A file keeps its access. -/
theorem SameShape.file (h : tree.SameShape other) {access : Access} {content : ByteArray}
    (hnode : tree.node? location = some (.file access content)) :
    ∃ content', other.node? location = some (.file access content') := by
  rcases h.node?_eq_or location with heq | ⟨_, _, content', hfile, hother⟩
  · exact ⟨content, heq.trans hnode⟩
  · rw [hfile, Option.some.injEq, Node.file.injEq] at hnode
    exact ⟨content', by rw [hother, hnode.1]⟩

/-! ## Walks -/

/-- **A walk depends on the shape of the tree alone.** -/
theorem SameShape.walk_eq (h : tree.SameShape other) (purpose : Purpose) (links : Nat)
    (location : Location) (parts : List Text) :
    other.walk purpose links location parts = tree.walk purpose links location parts := by
  -- both walks take the same branch at each part: a folder, a link or nothing is the same in the
  -- other tree, and of a file no branch looks at the content
  fun_induction tree.walk purpose links location parts with
  | case1 => rw [walk.eq_def]
  | case2 _ _ _ _ hnode ih =>
      rw [walk.eq_def]
      simp only [h.folder hnode, if_true, ih]
  | case3 _ _ _ _ _ hnode h1 h2 ih =>
      rw [walk.eq_def]
      simp only [h.folder hnode, if_neg h1, if_pos h2, ih]
  | case4 _ _ _ _ _ hnode h1 h2 h3 ih =>
      rw [walk.eq_def]
      simp only [h.folder hnode, if_neg h1, if_neg h2, if_pos h3, ih]
  | case5 _ _ _ _ _ hnode h1 h2 h3 h4 =>
      rw [walk.eq_def]
      simp only [h.folder hnode, if_neg h1, if_neg h2, if_neg h3, if_pos h4]
  | case6 _ _ _ _ _ hnode h1 h2 h3 h4 h5 =>
      rw [walk.eq_def]
      simp only [h.folder hnode, if_neg h1, if_neg h2, if_neg h3, if_neg h4, if_pos h5]
  | case7 _ _ _ _ _ hnode h1 h2 h3 h4 h5 h6 =>
      rw [walk.eq_def]
      simp only [h.folder hnode, if_neg h1, if_neg h2, if_neg h3, if_neg h4, if_neg h5, if_pos h6]
  | case8 _ _ _ _ hnode h1 h2 h3 h4 h5 hnext h6 =>
      rw [walk_absent (h.folder hnode) h1 h2 h3 h4 h6 h5 (h.none hnext), if_pos rfl]
  | case9 _ _ _ _ _ hnode h1 h2 h3 h4 h5 h6 hnext hrest =>
      rw [walk_absent (h.folder hnode) h1 h2 h3 h4 h5 h6 (h.none hnext), if_neg hrest]
  | case10 _ _ _ _ hnode h1 h2 h3 h4 h5 h6 _ hnext =>
      rw [walk_link_zero (h.folder hnode) h1 h2 h3 h4 h5 h6 (h.link hnext)]
  | case11 _ _ _ _ hnode h1 h2 h3 h4 h5 h6 _ _ hnext ih =>
      rw [walk_link_succ (h.folder hnode) h1 h2 h3 h4 h5 h6 (h.link hnext)]
      exact ih
  | case12 _ _ _ _ hnode h1 h2 h3 h4 h5 h6 node links hlast hlinks hnext ih =>
      cases node with
      | folder access =>
          rw [walk_down (h.folder hnode) h1 h2 h3 h4 h5 h6 (h.folder hnext) (by simp)]
          exact ih
      | file access content =>
          obtain ⟨content', hfile⟩ := h.file hnext
          rw [walk_down (h.folder hnode) h1 h2 h3 h4 h5 h6 hfile (by simp)]
          exact ih
      | link target => exact (ne_link_of_walk hlast hlinks target rfl).elim
  | case13 _ _ _ _ node hfolder hnode =>
      rw [walk.eq_def]
      cases node with
      | folder access => exact (hfolder access rfl).elim
      | file access content =>
          obtain ⟨content', hfile⟩ := h.file hnode
          simp only [hfile]
      | link target => simp only [h.link hnode]
  | case14 _ _ _ _ hnode =>
      rw [walk.eq_def]
      simp only [h.none hnode]

variable (h : tree.SameShape other)
include h

theorem SameShape.placeFrom_eq (purpose : Purpose) (folder : Location) (path : Path) :
    other.placeFrom purpose folder path = tree.placeFrom purpose folder path := by
  unfold placeFrom
  rw [h.walk_eq]

theorem SameShape.place_eq (purpose : Purpose) (path : Path) :
    other.place purpose path = tree.place purpose path := by
  unfold place
  rw [h.placeFrom_eq, h.home]

theorem SameShape.locateFrom_eq (folder : Location) (path : Path) :
    other.locateFrom folder path = tree.locateFrom folder path := by
  unfold locateFrom
  rw [h.placeFrom_eq]

omit h

/-! ## Writes -/

/-- Another content in a file that is there leaves the shape as it was. -/
theorem sameShape_put {access : Access} {content : ByteArray}
    (hfile : tree.node? location = some (.file access content)) (content' : ByteArray) :
    tree.SameShape (tree.put location (.file access content')) := by
  refine ⟨rfl, fun place => ?_⟩
  by_cases hplace : place = location
  · subst hplace
    have hroot : place ≠ [] := by
      rintro rfl
      simp [node?] at hfile
    rw [hfile, node?_put_self _ _ hroot]
    rfl
  · rw [node?_put_of_ne _ _ hplace]

/-- A file that may be written holds what is written to it, and nothing else changes. -/
theorem writeAt_eq_ok {content : ByteArray} {tree' : Tree}
    (h : tree.writeAt location content = .ok tree') :
    (∃ old, tree.node? location = some (.file .full old)) ∧
      tree' = tree.put location (.file .full content) := by
  unfold writeAt at h
  split at h
  · rename_i access old hfile
    split at h
    · rename_i hfull
      subst hfull
      simp only [Except.ok.injEq] at h
      exact ⟨⟨old, hfile⟩, h.symm⟩
    · cases h
  · cases h
  · cases h
  · cases h

theorem writeAt_of_file {old : ByteArray} (hfile : tree.node? location = some (.file .full old))
    (content : ByteArray) :
    tree.writeAt location content = .ok (tree.put location (.file .full content)) := by
  unfold writeAt
  rw [hfile]
  rfl

theorem readAt_of_file {content : ByteArray}
    (hfile : tree.node? location = some (.file .full content)) :
    tree.readAt location = .ok content := by
  unfold readAt
  rw [hfile]
  rfl

/-- What can be read is a file. -/
theorem exists_of_readAt_eq_ok {content : ByteArray} (h : tree.readAt location = .ok content) :
    ∃ access, tree.node? location = some (.file access content) := by
  unfold readAt at h
  split at h
  · rename_i access content' hfile
    split at h
    · cases h
    · simp only [Except.ok.injEq] at h
      exact ⟨access, h ▸ hfile⟩
  · cases h
  · cases h
  · cases h

end Tree
end Graft
