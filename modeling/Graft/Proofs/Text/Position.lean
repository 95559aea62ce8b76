import Mathlib.Data.Nat.Find
import Mathlib.Order.Bounds.Basic
import Graft.Proofs.Text.Occurrence

/-!
# Where texts stand

A text stands at an offset of another one when a cut there has it behind the cut
(`StandsAt`). In these terms the searches are extremal: a search from an offset gives the
least place at or past it (`locate?_eq_some_iff`), a search from behind the greatest place
of all (`locateLast?_eq_some_iff`), and a bounded search the least place behind the bound
(`locateAfter?_eq_some_iff`).
-/

namespace Graft.Text

variable {t needle marker : Text} {start offset : Nat}

/-- `needle` stands in the text with its first byte at `offset`. -/
def StandsAt (t needle : Text) (offset : Nat) : Prop :=
  ∃ before after, t = before ++ (needle ++ after) ∧ byteSize before = offset

namespace StandsAt

theorem of_append (before needle after : Text) :
    StandsAt (before ++ (needle ++ after)) needle (byteSize before) :=
  ⟨before, after, rfl, rfl⟩

theorem isBoundary (h : StandsAt t needle offset) : IsBoundary t offset := by
  obtain ⟨before, after, rfl, rfl⟩ := h
  exact ⟨before, needle ++ after, rfl, rfl⟩

theorem isBoundary_add (h : StandsAt t needle offset) :
    IsBoundary t (offset + byteSize needle) := by
  obtain ⟨before, after, rfl, rfl⟩ := h
  exact ⟨before ++ needle, after, by simp, by simp⟩

theorem add_le (h : StandsAt t needle offset) : offset + byteSize needle ≤ byteSize t := by
  obtain ⟨before, after, rfl, rfl⟩ := h
  simp only [byteSize_append]
  omega

/-- What stands in a part of a text stands in the text. -/
theorem trans {part : Text} {place : Nat} (h : StandsAt t part offset)
    (hpart : StandsAt part needle place) : StandsAt t needle (offset + place) := by
  obtain ⟨before, after, rfl, rfl⟩ := h
  obtain ⟨front, back, rfl, rfl⟩ := hpart
  exact ⟨before ++ front, back ++ after, by simp, by simp⟩

theorem mem {c : Char} (h : StandsAt t [c] offset) : c ∈ t := by
  obtain ⟨before, after, rfl, -⟩ := h
  simp

theorem length_le (h : StandsAt t needle offset) : needle.length ≤ t.length := by
  obtain ⟨before, after, rfl, -⟩ := h
  simp only [List.length_append]
  omega

theorem prefix_of_zero (h : StandsAt t needle 0) : needle <+: t := by
  obtain ⟨before, after, rfl, hzero⟩ := h
  have hlength := length_le_byteSize before
  obtain rfl : before = [] := List.eq_nil_of_length_eq_zero (by omega)
  exact List.prefix_append needle after

end StandsAt

theorem byteSize_pos (hne : needle ≠ []) : 0 < byteSize needle :=
  Nat.lt_of_lt_of_le (List.length_pos_iff.mpr hne) (length_le_byteSize needle)

theorem isBoundary_zero (t : Text) : IsBoundary t 0 := ⟨[], t, rfl, rfl⟩

/-- What stands behind a piece of a text stands in the rest of it. -/
theorem standsAt_append_iff (front rest : Text) (offset : Nat) :
    StandsAt (front ++ rest) needle (byteSize front + offset) ↔ StandsAt rest needle offset := by
  constructor
  · rintro ⟨before, after, heq, hsize⟩
    obtain ⟨middle, rfl, hrest⟩ := exists_append_of_byteSize_le heq (by omega)
    rw [byteSize_append] at hsize
    exact ⟨middle, after, hrest, by omega⟩
  · rintro ⟨before, after, rfl, rfl⟩
    exact ⟨front ++ before, after, by simp, by simp⟩

/-! ## Searching forward -/

/-- The first place at or past `start` where `needle` stands. -/
def IsFirstFrom (t needle : Text) (start offset : Nat) : Prop :=
  IsLeast {place | start ≤ place ∧ StandsAt t needle place} offset

theorem IsFirstFrom.standsAt (h : IsFirstFrom t needle start offset) : StandsAt t needle offset :=
  h.1.2

theorem isFirstFrom_of_standsAt (h : StandsAt t needle start) : IsFirstFrom t needle start start :=
  ⟨⟨Nat.le_refl _, h⟩, fun _ hplace => hplace.1⟩

/-- Where there is a place at all, there is a first one. -/
theorem exists_isFirstFrom_iff :
    (∃ offset, IsFirstFrom t needle start offset) ↔
      ∃ place, start ≤ place ∧ StandsAt t needle place := by
  constructor
  · rintro ⟨offset, h⟩
    exact ⟨offset, h.1⟩
  · intro h
    classical
    exact ⟨Nat.find h, Nat.find_spec h, fun _ hplace => Nat.find_min' h hplace⟩

/-- **A search from an offset gives the first place from there on.** -/
theorem locate?_eq_some_iff (hstart : IsBoundary t start) :
    locate? t marker start = some offset ↔ marker ≠ [] ∧ IsFirstFrom t marker start offset := by
  by_cases hne : marker = []
  · simp [locate?, hne]
  obtain ⟨before, rest, rfl, rfl⟩ := hstart
  rw [locate?_append hne]
  -- a place at or past the start is one of the rest, so the rest has the marker
  have hplaces {place : Nat} (hle : byteSize before ≤ place)
      (hplace : StandsAt (before ++ rest) marker place) :
      ∃ front back, rest = front ++ (marker ++ back) ∧ byteSize before + byteSize front = place := by
    obtain ⟨more, rfl⟩ := Nat.exists_eq_add_of_le hle
    obtain ⟨front, back, rfl, rfl⟩ := (standsAt_append_iff _ _ _).mp hplace
    exact ⟨front, back, rfl, rfl⟩
  rcases occurrence?_cases rest marker with
    ⟨hnone, hfrom⟩ | ⟨front, later, rfl, hmarker, hsome, hfrom⟩
  · rw [hnone]
    refine ⟨fun h => by simp at h, fun h => ?_⟩
    obtain ⟨front, back, rfl, -⟩ := hplaces h.2.1.1 h.2.1.2
    have hoccurs : marker <:+: front ++ (marker ++ back) := ⟨front, back, by simp⟩
    obtain ⟨later, hlater⟩ := exists_fromFirst?_iff.mpr hoccurs
    rw [hfrom] at hlater
    cases hlater
  · have hfirst : IsFirstFrom (before ++ (front ++ later)) marker (byteSize before)
        (byteSize before + byteSize front) := by
      obtain ⟨back, rfl⟩ := hmarker
      refine ⟨⟨Nat.le_add_right _ _, before ++ front, back, by simp, by simp⟩, ?_⟩
      rintro place ⟨hle, hplace⟩
      obtain ⟨other, rest, heq, rfl⟩ := hplaces hle hplace
      -- what starts at a place is a suffix of what starts at the first one
      obtain ⟨gap, hgap⟩ :=
        suffix_of_fromFirst? hfrom ⟨other, heq.symm⟩ (List.prefix_append marker rest)
      have hsize := congrArg byteSize heq
      have hgapsize := congrArg byteSize hgap
      simp only [byteSize_append] at hsize hgapsize
      omega
    rw [hsome, Option.map_some, Option.some.injEq]
    exact ⟨fun h => ⟨hne, h ▸ hfirst⟩, fun h => hfirst.unique h.2⟩

/-- The place of the first marker behind the first bound; without a bound, of the first marker. -/
def IsFoundAfter (t marker : Text) : Option Text → Nat → Prop
  | none, found => marker ≠ [] ∧ IsFirstFrom t marker 0 found
  | some bound, found => marker ≠ [] ∧ bound ≠ [] ∧
      ∃ place, IsFirstFrom t bound 0 place ∧ IsFirstFrom t marker (place + byteSize bound) found

theorem locateAfter?_eq_some_iff {bound : Option Text} :
    locateAfter? t marker bound = some offset ↔ IsFoundAfter t marker bound offset := by
  cases bound with
  | none => exact locate?_eq_some_iff (isBoundary_zero t)
  | some bound =>
      simp only [locateAfter?, IsFoundAfter, Option.bind_eq_bind, Option.bind_eq_some_iff,
        locate?_eq_some_iff (isBoundary_zero t)]
      constructor
      · rintro ⟨place, ⟨hbound, hplace⟩, hfound⟩
        obtain ⟨hmarker, hfound⟩ :=
          (locate?_eq_some_iff hplace.standsAt.isBoundary_add).mp hfound
        exact ⟨hmarker, hbound, place, hplace, hfound⟩
      · rintro ⟨hmarker, hbound, place, hplace, hfound⟩
        exact ⟨place, ⟨hbound, hplace⟩,
          (locate?_eq_some_iff hplace.standsAt.isBoundary_add).mpr ⟨hmarker, hfound⟩⟩

theorem IsFoundAfter.standsAt {bound : Option Text} (h : IsFoundAfter t marker bound offset) :
    StandsAt t marker offset := by
  cases bound with
  | none => exact h.2.standsAt
  | some bound =>
      obtain ⟨-, -, place, -, hfound⟩ := h
      exact hfound.standsAt

theorem IsFoundAfter.ne_nil {bound : Option Text} (h : IsFoundAfter t marker bound offset) :
    marker ≠ [] := by
  cases bound with
  | none => exact h.1
  | some bound => exact h.1

/-! ## Searching backward -/

/-- The last place where `needle` stands. -/
def IsLast (t needle : Text) (offset : Nat) : Prop :=
  IsGreatest {place | StandsAt t needle place} offset

theorem isLast_of_lastOccurrence? (h : lastOccurrence? t needle = some offset) :
    IsLast t needle offset := by
  obtain ⟨before, rest, rfl, rfl, ⟨back, rfl⟩, hshortest⟩ := lastOccurrence?_eq_some h
  refine ⟨⟨before, back, rfl, rfl⟩, ?_⟩
  rintro place ⟨front, after, heq, rfl⟩
  -- what starts at the last place is a suffix of what starts at any other
  obtain ⟨gap, hgap⟩ := hshortest (needle ++ after) ⟨front, heq.symm⟩ (List.prefix_append _ _)
  have hsize := congrArg byteSize heq
  have hgapsize := congrArg byteSize hgap
  simp only [byteSize_append] at hsize hgapsize
  omega

/-- Where there is a place at all, there is a last one, and a search from behind gives it. -/
theorem exists_isLast (h : StandsAt t needle offset) :
    ∃ last, lastOccurrence? t needle = some last ∧ IsLast t needle last := by
  obtain ⟨before, after, rfl, rfl⟩ := h
  have hoccurs : needle <:+: before ++ (needle ++ after) := ⟨before, after, by simp⟩
  obtain ⟨last, hlast⟩ := exists_lastOccurrence?_iff.mpr hoccurs
  exact ⟨last, hlast, isLast_of_lastOccurrence? hlast⟩

/-- **A search from behind gives the last place.** -/
theorem locateLast?_eq_some_iff :
    locateLast? t marker = some offset ↔ marker ≠ [] ∧ IsLast t marker offset := by
  by_cases hne : marker = []
  · simp [locateLast?, hne]
  rw [locateLast?, if_neg hne]
  refine ⟨fun h => ⟨hne, isLast_of_lastOccurrence? h⟩, fun ⟨_, h⟩ => ?_⟩
  obtain ⟨last, hlast, hislast⟩ := exists_isLast h.1
  rw [hlast, hislast.unique h]

/-! ## Single characters -/

theorem charAt?_eq_some_iff {c : Char} : charAt? t offset = some c ↔ StandsAt t [c] offset := by
  constructor
  · exact charAt?_eq_some
  · rintro ⟨before, after, rfl, rfl⟩
    exact charAt?_append_cons before after c

/-- A character of two pieces is of one of them. -/
theorem standsAt_or_of_append {c : Char} {front rest : Text}
    (h : StandsAt (front ++ rest) [c] offset) :
    StandsAt front [c] offset ∨ ∃ more, offset = byteSize front + more ∧ StandsAt rest [c] more := by
  by_cases hle : byteSize front ≤ offset
  · obtain ⟨more, rfl⟩ := Nat.exists_eq_add_of_le hle
    exact .inr ⟨more, rfl, (standsAt_append_iff front rest more).mp h⟩
  · left
    obtain ⟨before, after, heq, rfl⟩ := h
    obtain ⟨middle, rfl, hrest⟩ := exists_append_of_byteSize_le heq.symm (by omega)
    cases middle with
    | nil => simp at hle
    | cons d middle =>
        obtain ⟨rfl, -⟩ := List.cons.inj hrest
        exact ⟨before, middle, rfl, rfl⟩

/-- The byte at `offset` is of no break. -/
def IsShown (t : Text) (offset : Nat) : Prop :=
  ¬StandsAt t ['\n'] offset ∧ ¬StandsAt t ['\r'] offset

theorem breakAt_eq_false_iff : breakAt t offset = false ↔ IsShown t offset := by
  simp [breakAt, IsShown, charAt?_eq_some_iff]

end Graft.Text
