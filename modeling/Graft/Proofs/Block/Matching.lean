import Graft.Proofs.Block.Checked
import Mathlib.Data.Nat.Find

/-!
# Matching delimiters

The delimiter that closes a block is told by counting bytes: from the opening delimiter up
to it as many are opened as are closed, and up to any byte before it more. The scan keeps the
difference of the two counts (`closeFrom_eq_pure_iff`), so it finds that delimiter or there
is none. Counted from a delimiter that opens inside, the difference is positive at first and
negative at the end of the outer block; since one byte changes it by one at most, it is zero
on the way, which is where the inner block closes (`Matches.nested`).
-/

namespace Graft

open Text Checked

/-! ## Counting between offsets -/

/-- How often a byte stands at or past `start` and before `stop`. -/
def countBetween (bs : List UInt8) (b : UInt8) (start stop : Nat) : Nat :=
  ((bs.drop start).take (stop - start)).count b

section Counting

variable {bs : List UInt8} {b : UInt8} {start stop : Nat}

@[simp] theorem countBetween_self : countBetween bs b start start = 0 := by
  rw [countBetween, Nat.sub_self, List.take_zero, List.count_nil]

theorem countBetween_split (bs : List UInt8) (b : UInt8) {between : Nat} (hstart : start ≤ between)
    (hstop : between ≤ stop) :
    countBetween bs b start stop =
      countBetween bs b start between + countBetween bs b between stop := by
  obtain ⟨front, rfl⟩ := Nat.exists_eq_add_of_le hstart
  obtain ⟨back, rfl⟩ := Nat.exists_eq_add_of_le hstop
  simp only [countBetween, Nat.add_assoc, Nat.add_sub_cancel_left]
  rw [show start + (front + back) - (start + front) = back by omega, List.take_add,
    List.count_append, List.drop_drop]

theorem countBetween_succ (bs : List UInt8) (b : UInt8) (h : start ≤ stop) :
    countBetween bs b start (stop + 1) =
      countBetween bs b start stop + if bs[stop]? = some b then 1 else 0 := by
  rw [countBetween_split bs b h (Nat.le_add_right stop 1), countBetween, countBetween,
    Nat.add_sub_cancel_left, List.take_one, List.head?_drop]
  cases hbyte : bs[stop]? with
  | none => simp
  | some c => simp [List.count_singleton]

/-- Another byte is not counted. -/
theorem countBetween_singleton_of_ne {c : UInt8} (hc : bs[start]? = some c) (hne : c ≠ b) :
    countBetween bs b start (start + 1) = 0 := by
  rw [countBetween_succ _ _ le_rfl, countBetween_self, hc, if_neg fun h => hne (Option.some.inj h)]

theorem countBetween_singleton_self (h : bs[start]? = some b) :
    countBetween bs b start (start + 1) = 1 := by
  rw [countBetween_succ _ _ le_rfl, countBetween_self, if_pos h]

theorem countBetween_cons (c : UInt8) : countBetween (c :: bs) b 0 (stop + 1) =
    countBetween bs b 0 stop + if c = b then 1 else 0 := by
  simp [countBetween, List.count_cons]

theorem countBetween_drop : countBetween (bs.drop start) b 0 stop =
    countBetween bs b start (start + stop) := by
  simp [countBetween]

end Counting

/-! ## What matches -/

variable {bs : List UInt8} {d : Delimiter} {opens closes : Nat}

/-- The bytes from an opening delimiter to another byte hold as many opening delimiters as closing
ones, and what they start with holds more opening ones. -/
structure Matches (d : Delimiter) (bs : List UInt8) (opens closes : Nat) : Prop where
  opener : bs[opens]? = some (asciiByte d.opener)
  lt : opens < closes
  inside : closes < bs.length
  balanced : countBetween bs (asciiByte d.opener) opens (closes + 1) =
    countBetween bs (asciiByte d.closer) opens (closes + 1)
  ahead : ∀ stop, opens < stop → stop ≤ closes →
    countBetween bs (asciiByte d.closer) opens stop <
      countBetween bs (asciiByte d.opener) opens stop

namespace Matches

/-- The counts are level behind one byte alone. -/
theorem unique {other : Nat} (h : Matches d bs opens closes) (hother : Matches d bs opens other) :
    closes = other := by
  have hle {a b : Nat} (ha : Matches d bs opens a) (hb : Matches d bs opens b) : b ≤ a := by
    rw [← Nat.not_lt]
    intro hlt
    have hahead := hb.ahead (a + 1) (Nat.lt_succ_of_lt ha.lt) hlt
    have hbalanced := ha.balanced
    omega
  exact Nat.le_antisymm (hle hother h) (hle h hother)

/-- Where no more is opened than closed since an opening delimiter, its block has been closed. -/
theorem exists_of_le {stop : Nat} (hopener : bs[opens]? = some (asciiByte d.opener))
    (hlt : opens < stop) (hstop : stop ≤ bs.length)
    (hle : countBetween bs (asciiByte d.opener) opens stop ≤
      countBetween bs (asciiByte d.closer) opens stop) :
    ∃ closes < stop, Matches d bs opens closes := by
  have hexists : ∃ stop, opens < stop ∧ countBetween bs (asciiByte d.opener) opens stop ≤
      countBetween bs (asciiByte d.closer) opens stop := ⟨stop, hlt, hle⟩
  have hleast := fun n (hn : n < Nat.find hexists) => Nat.find_min hexists hn
  have hfirst := Nat.find_min' hexists ⟨hlt, hle⟩
  obtain ⟨hopens, hlevel⟩ := Nat.find_spec hexists
  generalize Nat.find hexists = first at hleast hfirst hopens hlevel
  have hahead : ∀ stop, opens < stop → stop < first →
      countBetween bs (asciiByte d.closer) opens stop <
        countBetween bs (asciiByte d.opener) opens stop :=
    fun stop hopens hstop => Nat.not_le.mp fun hlevel => hleast stop hstop ⟨hopens, hlevel⟩
  have hnext : opens + 1 < first := by
    refine lt_of_le_of_ne hopens ?_
    rintro rfl
    rw [countBetween_singleton_self hopener,
      countBetween_singleton_of_ne hopener (asciiByte_closer_ne_opener d).symm] at hlevel
    omega
  obtain ⟨closes, rfl⟩ : ∃ closes, first = closes + 1 := ⟨first - 1, by omega⟩
  refine ⟨closes, hfirst, hopener, by omega, by omega, ?_, fun stop hopens hstop =>
    hahead stop hopens (Nat.lt_succ_of_le hstop)⟩
  -- one byte closes one block at most
  have hbefore := hahead closes (by omega) (Nat.lt_succ_self _)
  have hcloser : countBetween bs (asciiByte d.closer) opens (closes + 1) ≤
      countBetween bs (asciiByte d.closer) opens closes + 1 := by
    rw [countBetween_succ _ _ (by omega)]
    split <;> omega
  have hopened := countBetween_succ bs (asciiByte d.opener) (show opens ≤ closes by omega)
  omega

/-- **A block that opens inside another one closes inside it.** -/
theorem nested {inner : Nat} (h : Matches d bs opens closes) (hopens : opens < inner)
    (hcloses : inner < closes) (hinner : bs[inner]? = some (asciiByte d.opener)) :
    ∃ innerCloses < closes, Matches d bs inner innerCloses := by
  have hbehind : inner ≤ closes + 1 := Nat.le_add_right_of_le hcloses.le
  have hopened := countBetween_split bs (asciiByte d.opener) hopens.le hbehind
  have hclosed := countBetween_split bs (asciiByte d.closer) hopens.le hbehind
  have hahead := h.ahead inner hopens hcloses.le
  have hbalanced := h.balanced
  -- more is open at `inner` than behind the outer block
  obtain ⟨innerCloses, hlt, hinner⟩ := exists_of_le hinner (Nat.lt_add_right 1 hcloses) h.inside
    (by omega)
  refine ⟨innerCloses, lt_of_le_of_ne (Nat.le_of_lt_succ hlt) ?_, hinner⟩
  rintro rfl
  have hlevel := hinner.balanced
  omega

end Matches

/-! ## The scan -/

/-- With `depth` blocks open before the bytes, the byte behind `size` others closes the last one. -/
structure ClosesAll (d : Delimiter) (bs : List UInt8) (depth size : Nat) : Prop where
  inside : size < bs.length
  balanced : countBetween bs (asciiByte d.closer) 0 (size + 1) =
    depth + countBetween bs (asciiByte d.opener) 0 (size + 1)
  ahead : ∀ stop ≤ size, countBetween bs (asciiByte d.closer) 0 stop <
    depth + countBetween bs (asciiByte d.opener) 0 stop

namespace ClosesAll

variable {depth size after : Nat}

theorem pos (h : ClosesAll d bs depth size) : 0 < depth := by
  have hstart := h.ahead 0 (Nat.zero_le _)
  rw [countBetween_self, countBetween_self] at hstart
  omega

variable {b : UInt8} (hafter : depth + (if b = asciiByte d.opener then 1 else 0) =
  after + if b = asciiByte d.closer then 1 else 0)

include hafter

theorem cons_zero_iff : ClosesAll d (b :: bs) depth 0 ↔ 0 < depth ∧ after = 0 := by
  constructor
  · intro h
    have hbalanced := h.balanced
    rw [countBetween_cons, countBetween_cons, countBetween_self, countBetween_self] at hbalanced
    exact ⟨h.pos, by omega⟩
  · rintro ⟨hpos, rfl⟩
    refine ⟨Nat.succ_pos _, ?_, fun stop hstop => ?_⟩
    · rw [countBetween_cons, countBetween_cons, countBetween_self, countBetween_self]
      omega
    · obtain rfl := Nat.le_zero.mp hstop
      rwa [countBetween_self, countBetween_self]

theorem cons_succ_iff :
    ClosesAll d (b :: bs) depth (size + 1) ↔ 0 < depth ∧ ClosesAll d bs after size := by
  constructor
  · intro h
    refine ⟨h.pos, Nat.lt_of_succ_lt_succ h.inside, ?_, fun stop hstop => ?_⟩
    · have hbalanced := h.balanced
      rw [countBetween_cons, countBetween_cons] at hbalanced
      omega
    · have hahead := h.ahead (stop + 1) (Nat.succ_le_succ hstop)
      rw [countBetween_cons, countBetween_cons] at hahead
      omega
  · rintro ⟨hpos, h⟩
    refine ⟨Nat.succ_lt_succ h.inside, ?_, fun stop hstop => ?_⟩
    · have hbalanced := h.balanced
      rw [countBetween_cons, countBetween_cons]
      omega
    · cases stop with
      | zero => rwa [countBetween_self, countBetween_self]
      | succ stop =>
          have hahead := h.ahead stop (Nat.le_of_succ_le_succ hstop)
          rw [countBetween_cons, countBetween_cons]
          omega

end ClosesAll

namespace Checked

/-- One byte further `after` blocks are open, and the scan stops where none is. -/
theorem closeFrom_cons {b : UInt8} {place inner after : Nat}
    (hafter : inner + 1 + (if b = asciiByte d.opener then 1 else 0) =
      after + if b = asciiByte d.closer then 1 else 0) :
    closeFrom d place (inner + 1) (b :: bs) =
      if after = 0 then pure place else closeFrom d (place + 1) after bs := by
  rw [closeFrom]
  split
  · rename_i hopener
    rw [if_pos hopener, hopener, if_neg (asciiByte_closer_ne_opener d).symm] at hafter
    obtain rfl : after = inner + 1 + 1 := by omega
    rw [if_neg (Nat.succ_ne_zero _)]
  · rename_i hopener
    rw [if_neg hopener] at hafter
    split
    · rename_i hcloser
      rw [if_pos hcloser] at hafter
      obtain rfl : inner = after := by omega
      rw [minus_eq (by omega), pure_bind, Nat.add_sub_cancel]
    · rename_i hcloser
      rw [if_neg hcloser] at hafter
      obtain rfl : after = inner + 1 := by omega
      rw [if_neg (Nat.succ_ne_zero _)]

/-- A scan stops at the byte that closes the last block. -/
theorem closeFrom_eq_pure_iff {place inner : Nat} :
    closeFrom d place (inner + 1) bs = pure closes ↔
      ∃ size, closes = place + size ∧ ClosesAll d bs (inner + 1) size := by
  induction bs generalizing place inner with
  | nil =>
      constructor
      · intro h
        cases h
      · rintro ⟨size, -, h⟩
        exact absurd h.inside (Nat.not_lt_zero size)
  | cons b rest ih =>
      obtain ⟨after, hafter⟩ : ∃ after,
          inner + 1 + (if b = asciiByte d.opener then 1 else 0) =
            after + if b = asciiByte d.closer then 1 else 0 :=
        ⟨inner + 1 + (if b = asciiByte d.opener then 1 else 0) -
          if b = asciiByte d.closer then 1 else 0, by split <;> split <;> omega⟩
      rw [closeFrom_cons hafter]
      cases after with
      | zero =>
          rw [if_pos rfl, ← known_some, ← known_some, known_inj, Option.some.injEq]
          constructor
          · rintro rfl
            exact ⟨0, rfl, (ClosesAll.cons_zero_iff hafter).mpr ⟨Nat.succ_pos _, rfl⟩⟩
          · rintro ⟨size | size, rfl, h⟩
            · rfl
            · exact absurd ((ClosesAll.cons_succ_iff hafter).mp h).2.pos (Nat.lt_irrefl 0)
      | succ after =>
          rw [if_neg (Nat.succ_ne_zero after), ih]
          constructor
          · rintro ⟨size, rfl, h⟩
            exact ⟨size + 1, by omega,
              (ClosesAll.cons_succ_iff hafter).mpr ⟨Nat.succ_pos _, h⟩⟩
          · rintro ⟨size | size, rfl, h⟩
            · exact absurd ((ClosesAll.cons_zero_iff hafter).mp h).2 (Nat.succ_ne_zero after)
            · exact ⟨size, by omega, ((ClosesAll.cons_succ_iff hafter).mp h).2⟩

end Checked

/-- Behind the byte that opens a block, that block is open. -/
theorem matches_iff_closesAll (hopener : bs[opens]? = some (asciiByte d.opener)) :
    Matches d bs opens closes ↔
      ∃ size, closes = opens + 1 + size ∧ ClosesAll d (bs.drop (opens + 1)) 1 size := by
  have hcount (b : UInt8) (stop : Nat) : countBetween bs b opens (opens + 1 + stop) =
      countBetween bs b opens (opens + 1) + countBetween (bs.drop (opens + 1)) b 0 stop := by
    rw [countBetween_drop, ← countBetween_split bs b (Nat.le_add_right opens 1)
      (Nat.le_add_right _ _)]
  have hopened := hcount (asciiByte d.opener)
  have hclosed := hcount (asciiByte d.closer)
  simp only [countBetween_singleton_self hopener] at hopened
  simp only [countBetween_singleton_of_ne hopener (asciiByte_closer_ne_opener d).symm,
    Nat.zero_add] at hclosed
  constructor
  · intro h
    obtain ⟨size, rfl⟩ := Nat.exists_eq_add_of_le h.lt
    refine ⟨size, rfl, ?_, ?_, fun stop hstop => ?_⟩
    · have hinside := h.inside
      rw [List.length_drop]
      omega
    · have hbalanced := h.balanced
      rw [Nat.add_assoc (opens + 1), hopened, hclosed] at hbalanced
      exact hbalanced.symm
    · have hahead := h.ahead (opens + 1 + stop) (by omega) (by omega)
      rwa [hopened, hclosed] at hahead
  · rintro ⟨size, rfl, h⟩
    have hinside := h.inside
    rw [List.length_drop] at hinside
    refine ⟨hopener, by omega, by omega, ?_, fun stop hopens hstop => ?_⟩
    · rw [Nat.add_assoc (opens + 1), hopened, hclosed]
      exact h.balanced.symm
    · obtain ⟨stop, rfl⟩ := Nat.exists_eq_add_of_le hopens
      rw [hopened, hclosed]
      exact h.ahead stop (by omega)

/-- The scan finds the delimiter that matches. -/
theorem findClose?_eq_some_iff {t : Text} :
    findClose? t opens d = some closes ↔ Matches d (bytes t) opens closes := by
  rw [← known_inj, ← findClose_eq, findClose]
  split
  · rename_i hopener
    obtain ⟨hlt, hbyte⟩ := List.getElem?_eq_some_iff.mp hopener
    rw [List.drop_eq_getElem_cons hlt, hbyte, closeFrom, if_pos rfl, known_some,
      closeFrom_eq_pure_iff, matches_iff_closesAll hopener]
  · rename_i hother
    rw [known_inj]
    exact ⟨fun h => absurd h.symm (Option.some_ne_none _), fun h => absurd h.opener hother⟩

/-- **A block is closed where it matches, at one place or at none, and the blocks that open inside
it are closed inside it.** -/
theorem findClose?_matches (t : Text) (d : Delimiter) (opens : Nat) :
    (∀ closes, findClose? t opens d = some closes ↔ Matches d (bytes t) opens closes) ∧
    (findClose? t opens d = none ↔ ¬ ∃ closes, Matches d (bytes t) opens closes) ∧
    (∀ closes other, Matches d (bytes t) opens closes → Matches d (bytes t) opens other →
      closes = other) ∧
    ∀ closes inner, findClose? t opens d = some closes → opens < inner → inner < closes →
      (bytes t)[inner]? = some (asciiByte d.opener) →
      ∃ innerCloses, findClose? t inner d = some innerCloses ∧ inner < innerCloses ∧
        innerCloses < closes := by
  refine ⟨fun closes => findClose?_eq_some_iff, ?_, fun closes other => Matches.unique, ?_⟩
  · simp only [Option.eq_none_iff_forall_ne_some, ne_eq, findClose?_eq_some_iff, not_exists]
  · intro closes inner hfound hopens hcloses hinner
    obtain ⟨innerCloses, hlt, hmatches⟩ :=
      (findClose?_eq_some_iff.mp hfound).nested hopens hcloses hinner
    exact ⟨innerCloses, findClose?_eq_some_iff.mpr hmatches, hmatches.lt, hlt⟩

/-- The inner block of `é[a[]]` opens at 4 and closes ahead of the outer one. -/
theorem findClose?_accented : ∃ closes,
    findClose? "é[a[]]" 4 .bracket = some closes ∧ 4 < closes ∧ closes < 6 :=
  (findClose?_matches "é[a[]]" .bracket 2).2.2.2 6 4 (by cbv) (by decide) (by decide) (by cbv)

end Graft
