import Graft.Proofs.Project.Texts

/-!
# Patching one file

Patching a file, by any path that leads to it, is weaving into its text
(`patchFileAll_of_readText`). Each step follows the path anew; the writes before it
keep the shape of the tree, so it ends at the same file.
-/

namespace Graft
namespace Tree

variable {tree : Tree} {path : Path} {file : Location} {t : Text}

theorem patchFile_of_readText (spec : Spec) {old : ByteArray}
    (hpath : tree.place .use path = .ok (.found file))
    (hfile : tree.node? file = some (.file .full old))
    (hread : tree.readText (.located file) = .ok t) :
    (tree.patchFile path spec).1.result = .ok (weave t spec) ∧
      tree.SameShape (tree.patchFile path spec).2 ∧
      (tree.patchFile path spec).2.readText (.located file) =
        .ok ((weave t spec).textFrom t) := by
  have hweave : weave t spec = (decision t spec).outcome t spec.fragment := rfl
  unfold patchFile
  rw [(readText_named_iff hpath).mpr hread, hweave]
  simp only
  cases (decision t spec).outcome t spec.fragment with
  | applied patched =>
      simp only [writeText_named hpath hfile]
      exact ⟨trivial, sameShape_put hfile _, readText_put_self (ne_nil_of_file hfile) patched⟩
  | alreadyPresent => exact ⟨rfl, .refl tree, hread⟩
  | anchorNotFound => exact ⟨rfl, .refl tree, hread⟩

/-- **Patching a file again and again is weaving again and again into its text.** -/
theorem patchFileAll_of_readText (specs : List Spec) {old : ByteArray}
    (hpath : tree.place .use path = .ok (.found file))
    (hfile : tree.node? file = some (.file .full old))
    (hread : tree.readText (.located file) = .ok t) :
    (tree.patchFileAll path specs).1.map FilePatch.result = (weaveAll t specs).1.map .ok ∧
      (tree.patchFileAll path specs).2.readText (.located file) = .ok (weaveAll t specs).2 := by
  induction specs generalizing tree t old with
  | nil => exact ⟨rfl, hread⟩
  | cons spec others ih =>
      obtain ⟨hresult, hshape, hread'⟩ := patchFile_of_readText spec hpath hfile hread
      obtain ⟨old', hfile'⟩ := hshape.file hfile
      obtain ⟨hresults, hlast⟩ := ih ((hshape.place_eq _ _).trans hpath) hfile' hread'
      simp only [patchFileAll, weaveAll, List.map_cons]
      exact ⟨by rw [hresult, hresults], hlast⟩

end Tree
end Graft
