import Mathlib.Data.List.Infix
import Graft.Proofs.Text.LineIndex
import Graft.Text.Locate

/-!
# Occurrences as suffixes

A needle stands in a text wherever a suffix of the text starts with it: at its first
occurrence the longest such suffix begins, at its last one the shortest. `fromFirst?`
cuts a text at the first occurrence, and `occurrence?_cases` ties the offset that a
search gives to that cut; `lastOccurrence?_eq_some` does so for the last one. A search
goes on past a break that the needle cannot span (`fromFirst?_append`), and wherever
something is found, the text has lines for it (`exists_matchedLines?`).
-/

namespace Graft.Text

variable {t needle rest : Text}

/-! ## The first occurrence -/

/-- What a text is from the first occurrence of `needle` on. -/
def fromFirst? (t needle : Text) : Option Text :=
  if needle.isPrefixOf t then some t
  else match t with
    | [] => none
    | _ :: rest => fromFirst? rest needle

theorem fromFirst?_eq_self (h : needle <+: t) : fromFirst? t needle = some t := by
  unfold fromFirst?
  rw [if_pos (List.isPrefixOf_iff_prefix.mpr h)]

theorem fromFirst?_cons {c : Char} (h : ¬needle <+: c :: t) :
    fromFirst? (c :: t) needle = fromFirst? t needle := by
  rw [fromFirst?, if_neg (by simpa [List.isPrefixOf_iff_prefix] using h)]

/-- **A search gives the offset of the first occurrence**, when there is one. -/
theorem occurrence?_cases (t needle : Text) :
    (occurrence? t needle = none ∧ fromFirst? t needle = none) ∨
      ∃ before rest, t = before ++ rest ∧ needle <+: rest ∧
        occurrence? t needle = some (byteSize before) ∧ fromFirst? t needle = some rest := by
  induction t with
  | nil =>
      by_cases h : needle <+: []
      · refine .inr ⟨[], [], rfl, h, ?_, fromFirst?_eq_self h⟩
        rw [occurrence?, if_pos (List.isPrefixOf_iff_prefix.mpr h), byteSize_nil]
      · have hnot : ¬needle.isPrefixOf [] = true := by rwa [List.isPrefixOf_iff_prefix]
        refine .inl ⟨?_, ?_⟩
        · rw [occurrence?, if_neg hnot]
        · rw [fromFirst?, if_neg hnot]
  | cons c t ih =>
      by_cases h : needle <+: c :: t
      · refine .inr ⟨[], c :: t, rfl, h, ?_, fromFirst?_eq_self h⟩
        rw [occurrence?, if_pos (List.isPrefixOf_iff_prefix.mpr h), byteSize_nil]
      · have hnot : ¬needle.isPrefixOf (c :: t) = true := by rwa [List.isPrefixOf_iff_prefix]
        rw [fromFirst?_cons h, occurrence?, if_neg hnot]
        rcases ih with ⟨hnone, hfrom⟩ | ⟨before, rest, rfl, hstarts, hsome, hfrom⟩
        · exact .inl ⟨by rw [hnone, Option.map_none], hfrom⟩
        · refine .inr ⟨c :: before, rest, rfl, hstarts, ?_, hfrom⟩
          rw [hsome, Option.map_some, byteSize_cons, Nat.add_comm]

theorem exists_fromFirst?_iff : (∃ rest, fromFirst? t needle = some rest) ↔ needle <:+: t := by
  rw [← holds_iff, holds]
  rcases occurrence?_cases t needle with ⟨hnone, hfrom⟩ | ⟨before, rest, -, -, hsome, hfrom⟩
  · simp [hnone, hfrom]
  · simp [hsome, hfrom]

theorem fromFirst?_eq_none (h : ¬needle <:+: t) : fromFirst? t needle = none := by
  rw [← exists_fromFirst?_iff] at h
  exact Option.eq_none_iff_forall_ne_some.mpr fun rest hrest => h ⟨rest, hrest⟩

/-- Every other occurrence is a later one. -/
theorem suffix_of_fromFirst? (h : fromFirst? t needle = some rest) {other : Text}
    (hother : other <:+ t) (hstarts : needle <+: other) : other <:+ rest := by
  induction t with
  | nil =>
      rw [List.suffix_nil.mp hother]
      exact List.nil_suffix
  | cons c t ih =>
      by_cases hnow : needle <+: c :: t
      · rw [fromFirst?_eq_self hnow, Option.some.injEq] at h
        exact h ▸ hother
      · rw [fromFirst?_cons hnow] at h
        rcases List.suffix_cons_iff.mp hother with rfl | hother
        · exact absurd hstarts hnow
        · exact ih h hother

/-! ## Breaks -/

/-- A character of a line ending. -/
def isBreak (c : Char) : Bool :=
  c == '\n' || c == '\r'

/-- A text without line endings. -/
def Unbroken (t : Text) : Prop :=
  ∀ c ∈ t, isBreak c = false

theorem unbroken_of_any_eq_false (h : t.any isBreak = false) : Unbroken t := by
  intro c hc
  simpa using List.any_eq_false.mp h c hc

theorem Unbroken.notMem_of_isBreak (h : Unbroken t) {c : Char} (hc : isBreak c = true) : c ∉ t := by
  intro hmem
  rw [h c hmem] at hc
  cases hc

/-- What stands behind a line: nothing, or the line ending. -/
def AtBreak (after : Text) : Prop :=
  ∀ c, after.head? = some c → isBreak c = true

variable {a b : Text}

/-- A needle without a break inside ends ahead of the next break. -/
theorem prefix_of_prefix_append (hneedle : Unbroken needle.tail) (hb : AtBreak b) (ha : a ≠ [])
    (h : needle <+: a ++ b) : needle <+: a := by
  rcases List.prefix_or_prefix_of_prefix h (List.prefix_append a b) with h' | ⟨later, rfl⟩
  · exact h'
  · cases later with
    | nil => simp
    | cons c later =>
        obtain ⟨tail, rfl⟩ : c :: later <+: b := (List.prefix_append_right_inj a).mp h
        have hbreak := hb c rfl
        rw [List.tail_append_of_ne_nil ha] at hneedle
        rw [hneedle c (List.mem_append_right _ List.mem_cons_self)] at hbreak
        cases hbreak

theorem infix_append_iff_of_atBreak (hneedle : Unbroken needle.tail) (hb : AtBreak b) :
    needle <:+: a ++ b ↔ needle <:+: a ∨ needle <:+: b := by
  constructor
  · intro h
    refine infix_of_infix_append h fun front back hfront hback hsplit _ hafter => hback ?_
    have hwhole : needle <+: front ++ b := by
      rw [hsplit, List.prefix_append_right_inj]
      exact hafter
    have hlen := (prefix_of_prefix_append hneedle hb hfront hwhole).length_le
    rw [hsplit, List.length_append] at hlen
    exact List.length_eq_zero_iff.mp (by omega)
  · rintro (h | h)
    · exact List.infix_append_of_infix_left h
    · exact List.infix_append_of_infix_right h

/-- **A search goes on past a break that the needle cannot span.** -/
theorem fromFirst?_append (hneedle : Unbroken needle.tail) (hne : needle ≠ []) (hb : AtBreak b)
    (a : Text) :
    fromFirst? (a ++ b) needle = ((fromFirst? a needle).map (· ++ b)).or (fromFirst? b needle) := by
  induction a with
  | nil =>
      have hnil : fromFirst? [] needle = none := fromFirst?_eq_none (by simpa using hne)
      rw [hnil]
      rfl
  | cons c a ih =>
      by_cases h : needle <+: c :: a
      · rw [fromFirst?_eq_self h, fromFirst?_eq_self (h.trans (List.prefix_append _ b))]
        rfl
      · have hwhole : ¬needle <+: c :: (a ++ b) := fun hwhole =>
          h (prefix_of_prefix_append hneedle hb (List.cons_ne_nil c a) hwhole)
        rw [List.cons_append, fromFirst?_cons h, fromFirst?_cons hwhole, ih]

/-! ## The last occurrence -/

theorem exists_lastOccurrence?_iff :
    (∃ offset, lastOccurrence? t needle = some offset) ↔ needle <:+: t := by
  induction t with
  | nil => cases needle <;> simp [lastOccurrence?]
  | cons c t ih =>
      rw [List.infix_cons_iff, ← ih, lastOccurrence?]
      cases hlater : lastOccurrence? t needle with
      | some offset => simp
      | none => simp [List.isPrefixOf_iff_prefix]

/-- **A search from behind gives the offset of the last occurrence.** -/
theorem lastOccurrence?_eq_some {offset : Nat} (h : lastOccurrence? t needle = some offset) :
    ∃ before rest, t = before ++ rest ∧ byteSize before = offset ∧ needle <+: rest ∧
      ∀ other, other <:+ t → needle <+: other → rest <:+ other := by
  induction t generalizing offset with
  | nil =>
      obtain rfl : needle = [] := by
        cases needle with
        | nil => rfl
        | cons c needle => simp [lastOccurrence?] at h
      obtain rfl : 0 = offset := by simpa [lastOccurrence?] using h
      exact ⟨[], [], rfl, rfl, List.nil_prefix, fun _ _ _ => List.nil_suffix⟩
  | cons c t ih =>
      rw [lastOccurrence?] at h
      cases hlater : lastOccurrence? t needle with
      | some found =>
          rw [hlater, Option.some.injEq] at h
          obtain ⟨before, rest, rfl, rfl, hstarts, hshortest⟩ := ih hlater
          refine ⟨c :: before, rest, rfl, ?_, hstarts, fun other hother hneedle => ?_⟩
          · rw [byteSize_cons, ← h, Nat.add_comm]
          · rcases List.suffix_cons_iff.mp hother with rfl | hother
            · exact (List.suffix_append before rest).trans (List.suffix_cons c _)
            · exact hshortest other hother hneedle
      | none =>
          -- nothing is found behind the first character, so the only occurrence is at it
          simp only [hlater, List.isPrefixOf_iff_prefix, Option.ite_none_right_eq_some,
            Option.some.injEq] at h
          obtain ⟨hstarts, rfl⟩ := h
          refine ⟨[], c :: t, rfl, rfl, hstarts, fun other hother hneedle => ?_⟩
          rcases List.suffix_cons_iff.mp hother with rfl | hother
          · exact List.suffix_refl _
          · have hwithin : needle <:+: t := hneedle.isInfix.trans hother.isInfix
            obtain ⟨offset, hsome⟩ := exists_lastOccurrence?_iff.mpr hwithin
            rw [hsome] at hlater
            cases hlater

/-! ## Locating from an offset -/

/-- A marker is located in what stands behind the start. -/
theorem locate?_append {marker : Text} (hne : marker ≠ []) (before rest : Text) :
    locate? (before ++ rest) marker (byteSize before) =
      (occurrence? rest marker).map (byteSize before + ·) := by
  have hboundary : IsBoundary (before ++ rest) (byteSize before) := ⟨before, rest, rfl, rfl⟩
  rw [locate?, if_neg (by simp [hne, hboundary]), dropBytes_append_byteSize]

theorem locate?_zero {marker : Text} (hne : marker ≠ []) (t : Text) :
    locate? t marker 0 = occurrence? t marker := by
  simpa using locate?_append hne [] t

/-! ## Lines at offsets -/

theorem lines_ne_nil (h : t ≠ []) : lines t ≠ [] := by
  intro hnil
  have hjoined := flatMap_lines t
  rw [hnil] at hjoined
  exact h hjoined.symm

/-- An offset of a text that is not empty has a line. -/
theorem exists_lineIndexAt? (h : t ≠ []) (offset : Nat) (hoffset : offset ≤ byteSize t) :
    ∃ i line, lineIndexAt? t offset = some i ∧ (lines t)[i]? = some line := by
  have hpos : 0 < (lines t).length := List.length_pos_iff.mpr (lines_ne_nil h)
  have hinside : ¬(t = [] ∨ byteSize t < offset) := by
    rw [not_or]
    exact ⟨h, Nat.not_lt.mpr hoffset⟩
  rw [lineIndexAt?, if_neg hinside]
  refine ⟨_, _, rfl, List.getElem?_eq_getElem ?_⟩
  omega

theorem leadingBreaks_le (t : Text) (start size : Nat) : leadingBreaks t start size ≤ size := by
  fun_induction leadingBreaks t start size <;> omega

theorem withoutFinalBreaks_le (t : Text) (start size : Nat) :
    withoutFinalBreaks t start size ≤ size := by
  fun_induction withoutFinalBreaks t start size <;> omega

/-- A match in a text that is not empty has a first and a last line. -/
theorem exists_matchedLines? (h : t ≠ []) {start stop : Nat} (hle : start ≤ stop)
    (hstop : stop ≤ byteSize t) :
    ∃ i j first last, matchedLines? t start stop = some (i, j) ∧ (lines t)[i]? = some first ∧
      (lines t)[j]? = some last := by
  have hfirst : start + leadingBreaks t start (stop - start) ≤ stop := by
    have hlead := leadingBreaks_le t start (stop - start)
    omega
  simp only [matchedLines?]
  revert hfirst
  generalize start + leadingBreaks t start (stop - start) = first
  intro hfirst
  have hsize := withoutFinalBreaks_le t first (stop - first)
  split
  · obtain ⟨i, line, hi, hline⟩ := exists_lineIndexAt? h start (by omega)
    exact ⟨i, i, line, line, by rw [hi, Option.map_some], hline, hline⟩
  · obtain ⟨i, firstLine, hi, hfirstLine⟩ := exists_lineIndexAt? h first (by omega)
    obtain ⟨j, lastLine, hj, hlastLine⟩ := exists_lineIndexAt? h
      (first + withoutFinalBreaks t first (stop - first) - 1) (by omega)
    exact ⟨i, j, firstLine, lastLine, by rw [hi, hj]; rfl, hfirstLine, hlastLine⟩

end Graft.Text
