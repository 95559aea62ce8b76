import Graft.Project.Patch
import Graft.Proofs.Tree.Shape

/-!
# The texts of files

What a write does to the texts of files: the file that is written holds the new
text (`readText_put_self`), and every other file the text it had
(`readText_put_of_ne`). A path that leads to a file reads and writes what its
location does (`readText_named_iff`, `writeText_named`).
-/

namespace Graft
namespace Tree

variable {tree : Tree} {file : Location} {t : Text}

/-- Only files have a text. -/
theorem exists_file_of_readText (h : tree.readText (.located file) = .ok t) :
    ∃ access content, tree.node? file = some (.file access content) := by
  unfold readText read at h
  split at h
  · cases h
  · cases h
  · rename_i content hread
    obtain ⟨access, hfile⟩ := exists_of_readAt_eq_ok hread
    exact ⟨access, content, hfile⟩

theorem ne_nil_of_file {access : Access} {content : ByteArray}
    (hfile : tree.node? file = some (.file access content)) : file ≠ [] := by
  rintro rfl
  simp [node?] at hfile

theorem mem_nodes_of_file {access : Access} {content : ByteArray}
    (hfile : tree.node? file = some (.file access content)) :
    (file, .file access content) ∈ tree.nodes := by
  have hroot := ne_nil_of_file hfile
  unfold node? at hfile
  rw [if_neg hroot] at hfile
  obtain ⟨front, back, hnodes, -⟩ := List.lookup_eq_some_iff.mp hfile
  simp [hnodes]

/-! ## Located files -/

theorem writeText_located_of_file {old : ByteArray}
    (hfile : tree.node? file = some (.file .full old)) (t : Text) :
    tree.writeText (.located file) t = .ok (tree.put file (.file .full t.encode)) := by
  have hwrite : tree.write t.encode (.located file) = _ := writeAt_of_file hfile t.encode
  unfold writeText
  rw [hwrite]

/-- What a write that succeeds needs and does. -/
theorem writeText_located_eq_ok {tree' : Tree}
    (h : tree.writeText (.located file) t = .ok tree') :
    (∃ old, tree.node? file = some (.file .full old)) ∧
      tree' = tree.put file (.file .full t.encode) := by
  unfold writeText write at h
  split at h
  · cases h
  · rename_i written hwrite
    simp only [Except.ok.injEq] at h
    subst h
    exact writeAt_eq_ok hwrite

/-- A file holds the text that is written to it. -/
theorem readText_put_self (hne : file ≠ []) (t : Text) :
    (tree.put file (.file .full t.encode)).readText (.located file) = .ok t := by
  have hread : (tree.put file (.file .full t.encode)).read (.located file) = _ :=
    readAt_of_file (node?_put_self tree (.file .full t.encode) hne)
  unfold readText
  rw [hread]
  simp only [Text.decode?_encode]

theorem readAt_put_of_ne {other : Location} (node : Node) (hne : other ≠ file) :
    (tree.put file node).readAt other = tree.readAt other := by
  unfold readAt
  rw [node?_put_of_ne _ _ hne]

/-- The other files hold what they held. -/
theorem readText_put_of_ne {other : Location} (node : Node) (hne : other ≠ file) :
    (tree.put file node).readText (.located other) = tree.readText (.located other) := by
  unfold readText read
  simp only [readAt_put_of_ne node hne]

/-! ## Files by their paths -/

variable {path : Path}

theorem read_named (hpath : tree.place .use path = .ok (.found file)) :
    tree.read (.named path) = tree.readAt file := by
  show tree.place .use path >>= Place.located >>= tree.readAt = tree.readAt file
  rw [hpath]
  rfl

theorem readText_named_iff (hpath : tree.place .use path = .ok (.found file)) :
    tree.readText (.named path) = .ok t ↔ tree.readText (.located file) = .ok t := by
  have hread : tree.read (.named path) = tree.read (.located file) := read_named hpath
  unfold readText
  rw [hread]
  -- the two differ in the name that an error gives the file
  cases tree.read (.located file) with
  | error cause => cases cause <;> simp
  | ok content => cases hdecode : Text.decode? content <;> simp [hdecode]

/-- A path to another file reads what it read. -/
theorem readText_named_put_of_ne {other : Location} {old : ByteArray}
    (hpath : tree.place .use path = .ok (.found other))
    (hfile : tree.node? file = some (.file .full old)) (content : ByteArray) (hne : other ≠ file) :
    (tree.put file (.file .full content)).readText (.named path) =
      tree.readText (.named path) := by
  have hpath' := ((sameShape_put hfile content).place_eq .use path).trans hpath
  unfold readText
  rw [read_named hpath', read_named hpath, readAt_put_of_ne _ hne]

theorem writeText_named {old : ByteArray} (hpath : tree.place .use path = .ok (.found file))
    (hfile : tree.node? file = some (.file .full old)) (t : Text) :
    tree.writeText (.named path) t = .ok (tree.put file (.file .full t.encode)) := by
  have hwrite : tree.write t.encode (.named path) = tree.writeAt file t.encode := by
    show tree.writePath path t.encode = tree.writeAt file t.encode
    unfold writePath
    rw [place_write_of_use hfile hpath]
    rfl
  unfold writeText
  rw [hwrite, writeAt_of_file hfile]

end Tree
end Graft
