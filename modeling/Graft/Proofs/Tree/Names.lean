import Graft.Proofs.Tree.Walk

/-!
# Spellings of a path

Repeated slashes and inner dots do not count in the key of a path. They do not count on
the way to a file either: a walk stays where it is at such a part, or fails there
(`walk_of_append_still`). So two paths of one key that both lead somewhere lead to the
same place (`found_eq_of_key_eq`). One of the two may well lead nowhere, as with a slash
behind the name of a file.
-/

namespace Graft

/-- Whether a part of a path counts in its key. -/
def Path.counts (part : Text) : Bool :=
  part ≠ [] ∧ part ≠ ['.']

/-- Paths of one key have the same parts that count. -/
theorem Path.filter_counts_eq {path other : Path} (h : Path.key path = Path.key other) :
    (Path.parts path).filter Path.counts = (Path.parts other).filter Path.counts := by
  -- the dot that leads a key is no part that counts
  have hdot (p : Path) (rest : List Text) : ['.'] :: rest ≠ (Path.parts p).filter Path.counts := by
    intro heq
    have hmem : ['.'] ∈ (Path.parts p).filter Path.counts := heq ▸ List.mem_cons_self
    have hcounts := (List.mem_filter.mp hmem).2
    simp [Path.counts] at hcounts
  have hparts := congrArg Path.Key.parts h
  simp only [Path.key] at hparts
  split at hparts
  · split at hparts
    · exact (List.cons.inj hparts).2
    · exact (hdot other _ hparts).elim
  · split at hparts
    · exact (hdot path _ hparts.symm).elim
    · exact hparts

namespace Tree

variable {tree : Tree} {links : Nat} {location file found : Location} {parts : List Text}

/-! ## Parts that do not count -/

theorem walk_of_still {part : Text} {place : Place} (hpart : Path.counts part = false)
    (h : tree.walk .use links location (part :: parts) = .ok place) :
    tree.walk .use links location parts = .ok place := by
  have hstill : part = [] ∨ part = ['.'] := by
    simp only [Path.counts, decide_eq_false_iff_not] at hpart
    by_cases hnil : part = []
    · exact .inl hnil
    · exact .inr (Decidable.byContradiction fun hdot => hpart ⟨hnil, hdot⟩)
  rw [walk.eq_def] at h
  simp only at h
  split at h
  · rename_i access hnode
    rcases hstill with rfl | rfl
    · simpa using h
    · -- a dot is no step, but only a folder that can be entered has one
      by_cases hfull : access = .full
      · simpa [hfull] using h
      · simp [hfull] at h
  · cases h
  · cases h

/-- A walk that succeeds is none the wiser for parts that do not count. -/
theorem walk_of_append_still {still : List Text} {place : Place}
    (hstill : ∀ part ∈ still, ¬Path.counts part = true)
    (h : tree.walk .use links location (still ++ parts) = .ok place) :
    tree.walk .use links location parts = .ok place := by
  induction still with
  | nil => exact h
  | cons part others ih =>
      have hpart : Path.counts part = false := by simpa using hstill part List.mem_cons_self
      exact ih (fun other hmem => hstill other (List.mem_cons_of_mem _ hmem))
        (walk_of_still hpart h)

/-- A walk that succeeds comes to the first part that counts where it starts. -/
theorem exists_walk_of_filter_eq_cons {part : Text} {counted : List Text} {place : Place}
    (hparts : parts.filter Path.counts = part :: counted)
    (h : tree.walk .use links location parts = .ok place) :
    ∃ later, later.filter Path.counts = counted ∧
      tree.walk .use links location (part :: later) = .ok place := by
  obtain ⟨still, later, rfl, hstill, -, hlater⟩ := List.filter_eq_cons_iff.mp hparts
  exact ⟨later, hlater, walk_of_append_still hstill h⟩

/-- A walk through parts that do not count ends where it starts. -/
theorem eq_of_filter_counts_eq_nil (hparts : parts.filter Path.counts = [])
    (h : tree.walk .use links location parts = .ok (.found found)) : found = location := by
  have hstill := List.filter_eq_nil_iff.mp hparts
  rw [← List.append_nil parts] at h
  have hnil := walk_of_append_still hstill h
  rw [walk] at hnil
  cases hnil
  rfl

/-! ## The same parts, the same place -/

/-- A name that is looked up in a folder counts. -/
theorem counts_of_enter {part : Text} {access : Access} (hpart : ¬part = [])
    (hdot : ¬(part = ['.'] ∧ (access = .full ∨ Purpose.use = .name))) (hfull : ¬access ≠ .full) :
    Path.counts part = true := by
  have hne : part ≠ ['.'] := fun heq => hdot ⟨heq, .inl (Decidable.of_not_not hfull)⟩
  simp only [Path.counts, hpart, hne, ne_eq, not_false_eq_true, and_self, decide_true]

/-- **Walks through the same parts that count end at the same place.** -/
theorem found_eq_of_filter_counts_eq {others : List Text}
    (h : tree.walk .use links location parts = .ok (.found file))
    (h' : tree.walk .use links location others = .ok (.found found))
    (hsame : others.filter Path.counts = parts.filter Path.counts) : found = file := by
  fun_induction tree.walk .use links location parts generalizing others with
  | case1 =>
      cases h
      exact eq_of_filter_counts_eq_nil hsame h'
  | case2 _ _ _ _ hnode ih =>
      rw [List.filter_cons_of_neg (by simp [Path.counts])] at hsame
      exact ih h h' hsame
  | case3 _ _ _ _ _ hnode h1 h2 ih =>
      rw [List.filter_cons_of_neg (by simp [Path.counts, h2.1])] at hsame
      exact ih h h' hsame
  | case4 _ _ part rest _ hnode h1 h2 h3 ih =>
      rw [List.filter_cons_of_pos (by simp [Path.counts, h3.1])] at hsame
      obtain ⟨later, hrest, hstep⟩ := exists_walk_of_filter_eq_cons hsame h'
      rw [walk.eq_def] at hstep
      simp only [hnode, if_neg h1, if_neg h2, if_pos h3] at hstep
      exact ih h hstep hrest
  | case5 => cases h
  | case6 => cases h
  | case7 => cases h
  | case8 => cases h
  | case9 => cases h
  | case10 => cases h
  | case11 location part rest access hnode h1 h2 h3 h4 _ h6 target links hnext ih =>
      rw [List.filter_cons_of_pos (counts_of_enter h1 h2 h4)] at hsame
      obtain ⟨later, hrest, hstep⟩ := exists_walk_of_filter_eq_cons hsame h'
      rw [walk_link_succ hnode h1 h2 h3 h4 (by simp) h6 hnext] at hstep
      -- the target of the link stands before what is left of either path
      exact ih h hstep (by rw [List.filter_append, List.filter_append, hrest])
  | case12 location part rest access hnode h1 h2 h3 h4 _ h6 node links hlast hlinks hnext ih =>
      rw [List.filter_cons_of_pos (counts_of_enter h1 h2 h4)] at hsame
      obtain ⟨later, hrest, hstep⟩ := exists_walk_of_filter_eq_cons hsame h'
      rw [walk_down hnode h1 h2 h3 h4 (by simp) h6 hnext (ne_link_of_walk hlast hlinks)] at hstep
      exact ih h hstep hrest
  | case13 => cases h
  | case14 => cases h

theorem walk_of_place {path : Path} {place : Place} (h : tree.place .use path = .ok place) :
    tree.walk .use linkLimit (if Path.isAbsolute path then [] else tree.home) (Path.parts path) =
      .ok place := by
  unfold Tree.place placeFrom at h
  split at h
  · cases h
  · split at h
    · cases h
    · split at h
      · cases h
      · exact h

/-- **Two paths of one key that lead somewhere lead to the same place.** -/
theorem found_eq_of_key_eq {path other : Path} (hkey : Path.key path = Path.key other)
    (h : tree.place .use path = .ok (.found file))
    (h' : tree.place .use other = .ok (.found found)) : found = file := by
  have habsolute : Path.isAbsolute path = Path.isAbsolute other :=
    congrArg Path.Key.isAbsolute hkey
  have hwalk := walk_of_place h
  have hwalk' := walk_of_place h'
  rw [habsolute] at hwalk
  exact found_eq_of_filter_counts_eq hwalk hwalk' (Path.filter_counts_eq hkey).symm

end Tree
end Graft
