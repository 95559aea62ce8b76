import Mathlib
import Graft.Proofs.Splice.Contents
import Graft.Proofs.Weave.Outcome

/-!
# What later weavings leave in place

A key that every anchor of a chain spares stays in the text once it is there
(`infix_weaveAll`), whatever else the chain weaves in. A fragment that is found
by such keys is therefore woven in once at most
(`spared_keys_stay`); it needs one key to be found by, since an identity without
any never applies (`keyless_spec_woven_again`).
-/

namespace Graft

open Text

/-! ## One step and a whole chain -/

/-- Weaving keeps every key that all anchors of the specification spare. -/
theorem infix_textFrom_weave {t key : Text} {spec : Spec}
    (hspares : ∀ anchor ∈ spec.anchors, anchor.Spares key) (h : key <:+: t) :
    key <:+: (weave t spec).textFrom t := by
  cases hweave : weave t spec with
  | applied r =>
      obtain ⟨-, strategy, point, -, hpoint, rfl⟩ := exists_of_weave_eq_applied hweave
      obtain ⟨anchor, hmem, hresolve⟩ := exists_of_firstPoint? hpoint
      exact (hspares anchor hmem).infix_splice (cut_of_resolve? hresolve) h spec.fragment
  | alreadyPresent => exact h
  | anchorNotFound => exact h

/-- A chain keeps every key that all of its anchors spare. -/
theorem infix_weaveAll {t key : Text} {specs : List Spec}
    (hspares : ∀ spec ∈ specs, ∀ anchor ∈ spec.anchors, anchor.Spares key) (h : key <:+: t) :
    key <:+: (weaveAll t specs).2 := by
  induction specs generalizing t with
  | nil => exact h
  | cons spec others ih =>
      have hstep := infix_textFrom_weave (hspares spec List.mem_cons_self) h
      exact ih (fun other hmem => hspares other (List.mem_cons_of_mem _ hmem)) hstep

/-! ## Places in a chain -/

theorem weaveAll_append (t : Text) (front back : List Spec) :
    (weaveAll t (front ++ back)).2 = (weaveAll (weaveAll t front).2 back).2 := by
  induction front generalizing t with
  | nil => rfl
  | cons spec others ih => exact ih ((weave t spec).textFrom t)

/-- Each specification of a chain is woven into the text that those before it left. -/
theorem getElem?_weaveAll (t : Text) (specs : List Spec) (i : Nat) :
    (weaveAll t specs).1[i]? = specs[i]?.map (weave (weaveAll t (specs.take i)).2) := by
  induction specs generalizing t i with
  | nil => rfl
  | cons spec others ih =>
      cases i with
      | zero => rfl
      | succ i => exact ih ((weave t spec).textFrom t) i

/-- The text at a later place of a chain comes from the outcome at an earlier one. -/
theorem weaveAll_take_of_lt (t : Text) {specs : List Spec} {spec : Spec} {i j : Nat} (hlt : i < j)
    (h : specs[i]? = some spec) :
    (weaveAll t (specs.take j)).2 =
      (weaveAll ((weave (weaveAll t (specs.take i)).2 spec).textFrom (weaveAll t (specs.take i)).2)
        ((specs.drop (i + 1)).take (j - (i + 1)))).2 := by
  obtain ⟨hbound, hget⟩ := List.getElem?_eq_some_iff.mp h
  have hsplit : specs.take j =
      specs.take i ++ spec :: (specs.drop (i + 1)).take (j - (i + 1)) :=
    calc specs.take j = specs.take (i + (j - i)) := by rw [Nat.add_sub_cancel' (Nat.le_of_lt hlt)]
      _ = specs.take i ++ (specs.drop i).take (j - i) := List.take_add
      _ = specs.take i ++ spec :: (specs.drop (i + 1)).take (j - (i + 1)) := by
          rw [List.drop_eq_getElem_cons hbound, hget,
            show j - i = j - (i + 1) + 1 by omega, List.take_succ_cons]
  rw [hsplit, weaveAll_append]
  rfl

/-! ## Woven in once at most -/

/-- After a specification was woven in or found, the text holds all its keys. -/
theorem keys_infix_textFrom {t : Text} {spec : Spec}
    (hkeys : ∀ key ∈ spec.identity.keys, key ≠ [] → key <:+: spec.fragmentText ∧
      ∀ anchor ∈ spec.anchors, anchor.Spares key)
    (hfound : weave t spec ≠ .anchorNotFound) :
    ∀ key ∈ spec.identity.keys, key <:+: (weave t spec).textFrom t := by
  intro key hkey
  by_cases hne : key = []
  · rw [hne]
    exact List.nil_infix
  · obtain ⟨hfragment, hspares⟩ := hkeys key hkey hne
    cases hweave : weave t spec with
    | applied r =>
        obtain ⟨-, strategy, point, -, hpoint, rfl⟩ := exists_of_weave_eq_applied hweave
        obtain ⟨anchor, hmem, -⟩ := exists_of_firstPoint? hpoint
        obtain ⟨line, hline, hinfix⟩ :=
          exists_infix_of_infix_joined hfragment (hspares anchor hmem).oneLine hne
        exact infix_splice_of_mem t point hline hinfix hne
    | alreadyPresent =>
        exact (isApplied_iff.mp (weave_eq_alreadyPresent_iff.mp hweave)).2 key hkey
    | anchorNotFound => exact absurd hweave hfound

/-- **No later weaving erases an earlier one.** Splicing at a point that an anchor resolves to keeps
every key that the anchor spares. So in a chain of any length, a specification with a key to be
found by, whose keys stand in its fragment and are spared by every anchor of the chain, is found at
each place after one where it was woven in or found. -/
theorem spared_keys_stay :
    (∀ (t : Text) (anchor : Anchor) (point : Point) (fragment : List Text) (key : Text),
      resolve? t anchor = some point → anchor.Spares key → t.holds key = true →
      (splice t point fragment).holds key = true) ∧
    ∀ (t : Text) (specs : List Spec) (spec : Spec) (i j : Nat), i < j →
      specs[i]? = some spec → specs[j]? = some spec → spec.identity.isEmpty = false →
      (∀ key ∈ spec.identity.keys, key ≠ [] → spec.fragmentText.holds key = true ∧
        ∀ other ∈ specs, ∀ anchor ∈ other.anchors, anchor.Spares key) →
      (weaveAll t specs).1[i]? ≠ some .anchorNotFound →
      (weaveAll t specs).1[j]? = some .alreadyPresent := by
  constructor
  · intro t anchor point fragment key hresolve hspares hkey
    rw [holds_iff] at hkey ⊢
    exact hspares.infix_splice (cut_of_resolve? hresolve) hkey fragment
  · intro t specs spec i j hlt hi hj hidentity hkeys hfound
    rw [getElem?_weaveAll, hi, Option.map_some, ne_eq, Option.some.injEq] at hfound
    rw [getElem?_weaveAll, hj, Option.map_some, Option.some.injEq,
      weave_eq_alreadyPresent_iff, isApplied_iff]
    refine ⟨hidentity, fun key hkey => ?_⟩
    have hthen := keys_infix_textFrom (fun key hkey hne =>
      ⟨(holds_iff _ _).mp (hkeys key hkey hne).1,
        (hkeys key hkey hne).2 spec (List.mem_of_getElem? hi)⟩) hfound key hkey
    -- the specifications in between are part of the chain, so their anchors spare the key
    rw [weaveAll_take_of_lt t hlt hi]
    by_cases hne : key = []
    · rw [hne]
      exact List.nil_infix
    · refine infix_weaveAll (fun other hother => (hkeys key hkey hne).2 other ?_) hthen
      exact List.mem_of_mem_drop (List.mem_of_mem_take hother)

/-- An entry of a list that is put at the end of it. -/
def lastEntry : Spec :=
  { fragment := ["last,"]
    identity := .containsAll ["last", []]
    anchors := [.blockBodyEnd "list" .bracket] }

/-- An entry of a list that is put at the start of it. -/
def firstEntry : Spec :=
  { fragment := ["first,"]
    identity := .contains "first"
    anchors := [.blockBodyStart "list" .bracket, .endOfDocument] }

theorem spares_last {anchor : Anchor}
    (h : anchor.delimiter? = none ∨ anchor.delimiter? = some .bracket) :
    anchor.Spares "last" where
  ne_nil := by simp
  oneLine := by simp
  head := by simp [isIndent]
  last := by simp [isIndent]
  delimiter := by
    intro d hd
    rcases h with h | h
    · rw [h] at hd
      cases hd
    · rw [h] at hd
      cases hd
      simp [Delimiter.opener, Delimiter.closer]

/-- The last entry of a list written on one line outlives the entry that comes first. -/
theorem last_entry_stays :
    (resolve? "list = [last,]" (.blockBodyStart "list" .bracket) =
        some { offset := 8, indent := "    ", placement := .midLine "    " } ∧
      (splice "list = [last,]" { offset := 8, indent := "    ", placement := .midLine "    " }
        ["first,"]).holds "last" = true) ∧
    (weaveAll "list = []" [lastEntry, firstEntry, lastEntry]).1[0]? ≠ some .anchorNotFound ∧
      (weaveAll "list = []" [lastEntry, firstEntry, lastEntry]).1[2]? = some .alreadyPresent := by
  have hresolve : resolve? "list = [last,]" (.blockBodyStart "list" .bracket) =
      some { offset := 8, indent := "    ", placement := .midLine "    " } := by cbv
  have hfirst : (weaveAll "list = []" [lastEntry, firstEntry, lastEntry]).1[0]? =
      some (.applied "list = [\n    last,\n]") := by cbv
  have hfound : (weaveAll "list = []" [lastEntry, firstEntry, lastEntry]).1[0]? ≠
      some .anchorNotFound := by
    rw [hfirst]
    simp
  refine ⟨⟨hresolve, ?_⟩, hfound, ?_⟩
  · exact spared_keys_stay.1 _ _ _ _ _ hresolve (spares_last (.inr rfl)) (by cbv)
  · refine spared_keys_stay.2 _ _ lastEntry 0 2 (by decide) rfl rfl rfl ?_ hfound
    intro key hkey hne
    obtain rfl : key = "last".toList := by
      simpa [lastEntry, Identity.keys, hne] using hkey
    have hdelimiters : ∀ other ∈ [lastEntry, firstEntry, lastEntry], ∀ anchor ∈ other.anchors,
        anchor.delimiter? = none ∨ anchor.delimiter? = some .bracket := by decide
    exact ⟨by cbv, fun other hother anchor hanchor =>
      spares_last (hdelimiters other hother anchor hanchor)⟩

/-- A specification without a key is never found, and is woven in at each of its places. -/
theorem keyless_spec_woven_again :
    ¬∀ (t : Text) (specs : List Spec) (spec : Spec) (i j : Nat), i < j →
      specs[i]? = some spec → specs[j]? = some spec →
      (∀ key ∈ spec.identity.keys, key ≠ [] → spec.fragmentText.holds key = true ∧
        ∀ other ∈ specs, ∀ anchor ∈ other.anchors, anchor.Spares key) →
      (weaveAll t specs).1[i]? ≠ some .anchorNotFound →
      (weaveAll t specs).1[j]? = some .alreadyPresent := by
  intro h
  let spec : Spec :=
    { fragment := ["a"], identity := .contains [], anchors := [.endOfDocument] }
  have hchain : (weaveAll [] [spec, spec]).1 = [.applied "a\n", .applied "a\na\n"] := by cbv
  have hkeys : ∀ key ∈ spec.identity.keys, key ≠ [] → spec.fragmentText.holds key = true ∧
      ∀ other ∈ [spec, spec], ∀ anchor ∈ other.anchors, anchor.Spares key := by
    intro key hkey hne
    exact absurd (List.mem_singleton.mp hkey) hne
  have hpresent := h [] [spec, spec] spec 0 1 (by decide) rfl rfl hkeys (by rw [hchain]; simp)
  rw [hchain] at hpresent
  cases hpresent

end Graft
