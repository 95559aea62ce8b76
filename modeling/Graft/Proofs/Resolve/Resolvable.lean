import Graft.Proofs.Plan.Acceptance
import Graft.Proofs.Resolve.Literal
import Graft.Proofs.Resolve.Resolves

/-!
# Which anchors can resolve at all

For every anchor without an empty part there is a text that it resolves in: its texts one
behind the other, and for a block the header with an opening delimiter and closing ones to
spare, whatever delimiters the header leaves open. One kind of anchor is an exception. The
terminator behind the last marker cannot hold the marker past its own start, since that
marker would stand behind the last one; no text resolves such an anchor, though no part of
it is empty (`exists_resolve?_iff`).
-/

namespace Graft

open Text

variable {t marker terminator header : Text} {bound ending : Option Text} {d : Delimiter}

/-! ## Literal anchors -/

theorem isFoundAfter_append (hmarker : marker ≠ []) (hbound : bound ≠ some []) (rest : Text) :
    IsFoundAfter (bound.getD [] ++ (marker ++ rest)) marker bound (byteSize (bound.getD [])) := by
  have hfirst := isFirstFrom_of_standsAt (.of_append (bound.getD []) marker rest)
  cases bound with
  | none => exact ⟨hmarker, hfirst⟩
  | some bound =>
      have hstart : StandsAt (bound ++ (marker ++ rest)) bound 0 := .of_append [] bound _
      refine ⟨hmarker, fun hnil => hbound (by rw [hnil]), 0, isFirstFrom_of_standsAt hstart, ?_⟩
      rw [Nat.zero_add]
      exact hfirst

theorem exists_resolve?_literalAfter_iff :
    (∃ t, (resolve? t (.literalAfter marker bound ending)).isSome = true) ↔
      marker ≠ [] ∧ bound ≠ some [] ∧ ending ≠ some [] := by
  simp only [isSome_resolve?_literalAfter_iff]
  constructor
  · rintro ⟨t, found, start, stop, hfound, hstretch⟩
    refine ⟨hfound.ne_nil, ?_, ?_⟩
    · rintro rfl
      exact hfound.2.1 rfl
    · rintro rfl
      exact hstretch.1 rfl
  · rintro ⟨hmarker, hbound, hending⟩
    refine ⟨bound.getD [] ++ (marker ++ ending.getD []), byteSize (bound.getD []), ?_⟩
    have hfound := isFoundAfter_append hmarker hbound (ending.getD [])
    cases ending with
    | none => exact ⟨_, _, hfound, rfl, rfl⟩
    | some terminator =>
        -- the terminator stands behind the marker, so there is a first one from the marker on
        have hplace : StandsAt (bound.getD [] ++ (marker ++ terminator)) terminator
            (byteSize (bound.getD [] ++ marker)) :=
          ⟨bound.getD [] ++ marker, [], by simp, rfl⟩
        have hle : byteSize (bound.getD []) ≤ byteSize (bound.getD [] ++ marker) := by
          rw [byteSize_append]
          exact Nat.le_add_right _ _
        obtain ⟨start, hstart⟩ := exists_isFirstFrom_iff.mpr ⟨_, hle, hplace⟩
        exact ⟨start, _, hfound, fun hnil => hending (by rw [hnil]), hstart, rfl⟩

theorem exists_resolve?_literalBefore_iff :
    (∃ t, (resolve? t (.literalBefore marker bound)).isSome = true) ↔
      marker ≠ [] ∧ bound ≠ some [] := by
  simp only [isSome_resolve?_literalBefore_iff]
  constructor
  · rintro ⟨t, found, hfound⟩
    refine ⟨hfound.ne_nil, ?_⟩
    rintro rfl
    exact hfound.2.1 rfl
  · rintro ⟨hmarker, hbound⟩
    exact ⟨_, _, isFoundAfter_append hmarker hbound []⟩

/-! ## The last marker and a terminator behind it -/

/-- The marker stands in the terminator past its first byte, so where such a terminator begins at a
marker or behind it, another marker stands behind. -/
def Anchor.IsShadowed : Anchor → Prop
  | lastLiteralAfter marker (some terminator) => ∃ place, 0 < place ∧ StandsAt terminator marker place
  | _ => False

theorem exists_resolve?_lastLiteralAfter_none_iff :
    (∃ t, (resolve? t (.lastLiteralAfter marker none)).isSome = true) ↔ marker ≠ [] := by
  simp only [isSome_resolve?_lastLiteralAfter_iff]
  constructor
  · rintro ⟨t, found, start, stop, ⟨hmarker, -⟩, -⟩
    exact hmarker
  · intro hmarker
    obtain ⟨last, -, hlast⟩ := exists_isLast (StandsAt.of_append [] marker [])
    exact ⟨_, last, _, _, ⟨hmarker, hlast⟩, rfl, rfl⟩

/-- **A terminator is found behind the last marker just when it holds none past its start.** -/
theorem exists_resolve?_lastLiteralAfter_some_iff :
    (∃ t, (resolve? t (.lastLiteralAfter marker (some terminator))).isSome = true) ↔
      marker ≠ [] ∧ terminator ≠ [] ∧ ¬∃ place, 0 < place ∧ StandsAt terminator marker place := by
  simp only [isSome_resolve?_lastLiteralAfter_iff]
  constructor
  · rintro ⟨t, found, start, stop, ⟨hmarker, hlast⟩, hterminator, hfirst, -⟩
    refine ⟨hmarker, hterminator, ?_⟩
    rintro ⟨place, hpos, hplace⟩
    have hbehind := hlast.2 (hfirst.standsAt.trans hplace)
    have hle := hfirst.1.1
    omega
  · rintro ⟨hmarker, hterminator, hnone⟩
    -- in the marker with the terminator behind it, no marker starts inside the terminator
    obtain ⟨last, -, hlast⟩ := exists_isLast (StandsAt.of_append [] marker terminator)
    have hle : last ≤ byteSize marker := by
      refine Nat.le_of_not_lt fun hlt => hnone ?_
      obtain ⟨more, rfl⟩ := Nat.exists_eq_add_of_le hlt.le
      exact ⟨more, by omega, (standsAt_append_iff marker terminator more).mp hlast.1⟩
    have hplace : StandsAt ([] ++ (marker ++ terminator)) terminator (byteSize marker) :=
      ⟨marker, [], by simp, rfl⟩
    obtain ⟨start, hstart⟩ := exists_isFirstFrom_iff.mpr ⟨_, hle, hplace⟩
    exact ⟨_, last, start, _, ⟨hmarker, hlast⟩, hterminator, hstart, rfl⟩

/-! ## Block anchors -/

/-- Closing delimiters to spare close every block that a text leaves open. -/
theorem exists_closes (d : Delimiter) (t : Text) (depth : Nat) {n : Nat} (hn : depth + t.length < n) :
    ∃ body after, t ++ List.replicate n d.closer = body ++ d.closer :: after ∧
      d.depth? depth body = some 0 := by
  induction t generalizing depth with
  | nil =>
      rw [List.length_nil, Nat.add_zero] at hn
      obtain ⟨more, rfl⟩ := Nat.exists_eq_add_of_lt hn
      refine ⟨List.replicate depth d.closer, List.replicate more d.closer, ?_, ?_⟩
      · rw [List.nil_append, Nat.add_assoc, List.replicate_add, List.replicate_succ]
      · clear hn
        induction depth with
        | zero => rfl
        | succ depth ih => rw [List.replicate_succ, Delimiter.depth?_closer_succ, ih]
  | cons c t ih =>
      rw [List.length_cons] at hn
      by_cases hopener : c = d.opener
      · obtain ⟨body, after, heq, hbody⟩ := ih (depth + 1) (by omega)
        exact ⟨c :: body, after, by rw [List.cons_append, heq, List.cons_append],
          by rw [hopener, Delimiter.depth?_opener, hbody]⟩
      · by_cases hcloser : c = d.closer
        · cases depth with
          | zero => exact ⟨[], t ++ List.replicate n d.closer, by rw [hcloser]; rfl, rfl⟩
          | succ depth =>
              obtain ⟨body, after, heq, hbody⟩ := ih depth (by omega)
              exact ⟨c :: body, after, by rw [List.cons_append, heq, List.cons_append],
                by rw [hcloser, Delimiter.depth?_closer_succ, hbody]⟩
        · obtain ⟨body, after, heq, hbody⟩ := ih depth (by omega)
          exact ⟨c :: body, after, by rw [List.cons_append, heq, List.cons_append],
            by rw [Delimiter.depth?_cons_of_ne hopener hcloser, hbody]⟩

/-- Any header can be followed up to a block, whatever delimiters it has itself. -/
theorem exists_hasBlock (d : Delimiter) (header : Text) : ∃ rest, d.HasBlock (header ++ rest) := by
  have hopener : d.opener ∈ header ++ [d.opener] := by simp
  obtain ⟨before, back, heq, hbefore⟩ := List.eq_append_cons_of_mem hopener
  obtain ⟨body, after, hrest, hbody⟩ :=
    exists_closes d back 0 (show 0 + back.length < back.length + 1 by omega)
  refine ⟨d.opener :: List.replicate (back.length + 1) d.closer, before, body, after, ?_, hbefore,
    hbody⟩
  rw [List.append_cons, heq, List.append_assoc, List.cons_append, hrest]

theorem exists_find?_iff :
    (∃ t, (Block.find? t header d).isSome = true) ↔ header ≠ [] := by
  constructor
  · rintro ⟨t, h⟩ rfl
    simp [Block.find?, locate?] at h
  · intro hne
    obtain ⟨rest, hblock⟩ := exists_hasBlock d header
    exact ⟨header ++ rest, (isSome_find?_iff hne).mpr
      ⟨_, fromFirst?_eq_self (List.prefix_append header rest), hblock⟩⟩

/-! ## Every anchor -/

/-- **An anchor can resolve just when no part of it is empty and it is not shadowed.** -/
theorem exists_resolve?_iff (anchor : Anchor) :
    (∃ t, (resolve? t anchor).isSome = true) ↔
      anchor.emptyField? = none ∧ ¬anchor.IsShadowed := by
  rw [Anchor.emptyField?_eq_none_iff]
  cases anchor with
  | literalAfter marker bound ending =>
      rw [exists_resolve?_literalAfter_iff]
      cases bound <;> cases ending <;> simp [Anchor.parts, Anchor.IsShadowed]
  | literalBefore marker bound =>
      rw [exists_resolve?_literalBefore_iff]
      cases bound <;> simp [Anchor.parts, Anchor.IsShadowed]
  | lastLiteralAfter marker ending =>
      cases ending with
      | none =>
          rw [exists_resolve?_lastLiteralAfter_none_iff]
          simp [Anchor.parts, Anchor.IsShadowed]
      | some terminator =>
          rw [exists_resolve?_lastLiteralAfter_some_iff]
          simp [Anchor.parts, Anchor.IsShadowed, and_assoc]
  | blockBodyStart header d =>
      simp [resolve?, exists_find?_iff, Anchor.parts, Anchor.IsShadowed]
  | blockBodyEnd header d =>
      simp [resolve?, exists_find?_iff, Anchor.parts, Anchor.IsShadowed]
  | endOfDocument => simp [resolve?, Anchor.parts, Anchor.IsShadowed]

/-- The terminator `ba` holds the marker `a` behind its first byte: no part of the anchor is empty,
and it resolves nowhere. -/
theorem shadowed_anchor_never_resolves :
    (Anchor.lastLiteralAfter "a" (some "ba")).emptyField? = none ∧
      ¬∃ t, (resolve? t (.lastLiteralAfter "a" (some "ba"))).isSome = true := by
  refine ⟨rfl, fun h => ?_⟩
  obtain ⟨-, -, hnone⟩ := exists_resolve?_lastLiteralAfter_some_iff.mp h
  exact hnone ⟨1, Nat.one_pos, ['b'], [], rfl, rfl⟩

end Graft
