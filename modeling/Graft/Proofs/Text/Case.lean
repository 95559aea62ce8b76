import Mathlib
import Graft.Text.Case

/-!
# The characters of a spelling

Every character of a spelled name is a form of a letter or a number of the name
(`mem_upperCamel`, `mem_kebab`); hyphens apart, nothing else comes in. So a name of
ASCII letters, whatever else stands between them, is spelled with ASCII letters and
digits (`isAlphanum_of_mem_upperCamel`), and no spelling has a line feed in it that
the name does not have (`feed_notMem_upperCamel`).
-/

namespace Graft.Text

/-! ## Pieces and words -/

/-- A piece has the characters between two cuts. -/
theorem mem_of_mem_pieces {p : Char → Bool} {t piece : Text} {x : Char}
    (hpiece : piece ∈ pieces p t) (hx : x ∈ piece) : x ∈ t ∧ p x = false := by
  induction t generalizing piece with
  | nil =>
      obtain rfl : piece = [] := by simpa [pieces] using hpiece
      cases hx
  | cons c rest ih =>
      have later {piece : Text} (hpiece : piece ∈ pieces p rest) (hx : x ∈ piece) :
          x ∈ c :: rest ∧ p x = false :=
        ⟨List.mem_cons_of_mem c (ih hpiece hx).1, (ih hpiece hx).2⟩
      unfold pieces at hpiece
      split at hpiece
      · rcases List.mem_cons.mp hpiece with rfl | hpiece
        · cases hx
        · exact later hpiece hx
      · rename_i hkept
        rw [Bool.not_eq_true] at hkept
        split at hpiece
        · rename_i hnone
          exact (pieces_ne_nil p rest hnone).elim
        · rename_i first others hpieces
          rcases List.mem_cons.mp hpiece with rfl | hpiece
          · -- the first piece has the character at hand in front
            rcases List.mem_cons.mp hx with rfl | hx
            · exact ⟨List.mem_cons_self, hkept⟩
            · exact later (hpieces ▸ List.mem_cons_self) hx
          · exact later (hpieces ▸ List.mem_cons_of_mem first hpiece) hx

/-- A text without a cut is one piece. -/
theorem pieces_eq_singleton {p : Char → Bool} {t : Text} (h : ∀ c ∈ t, p c = false) :
    pieces p t = [t] := by
  induction t with
  | nil => rfl
  | cons c rest ih =>
      have hrest := ih fun d hd => h d (List.mem_cons_of_mem c hd)
      rw [pieces, h c List.mem_cons_self, hrest]
      rfl

theorem mem_of_mem_wordsFrom {run : LetterRun} {word t found : Text} {x : Char}
    (hfound : found ∈ wordsFrom run word t) (hx : x ∈ found) : x ∈ word ∨ x ∈ t := by
  fun_induction wordsFrom run word t with
  | case1 => cases hfound
  | case2 run word c =>
      obtain rfl := List.mem_singleton.mp hfound
      exact List.mem_append.mp hx
  | case3 run word c next rest _ ih =>
      rcases List.mem_cons.mp hfound with rfl | hfound
      · rcases List.mem_append.mp hx with hx | hx
        · exact .inl hx
        · exact .inr (List.mem_singleton.mp hx ▸ List.mem_cons_self)
      · rcases ih hfound with hx | hx
        · cases hx
        · exact .inr (List.mem_cons_of_mem c hx)
  | case4 run word c next rest _ _ ih =>
      rcases List.mem_cons.mp hfound with rfl | hfound
      · exact .inl hx
      · rcases ih hfound with hx | hx
        · exact .inr (List.mem_singleton.mp hx ▸ List.mem_cons_self)
        · exact .inr (List.mem_cons_of_mem c hx)
  | case5 run word c next rest _ _ ih =>
      rcases ih hfound with hx | hx
      · rcases List.mem_append.mp hx with hx | hx
        · exact .inl hx
        · exact .inr (List.mem_singleton.mp hx ▸ List.mem_cons_self)
      · exact .inr (List.mem_cons_of_mem c hx)

theorem mem_of_mem_words {t word : Text} {x : Char} (hword : word ∈ words t) (hx : x ∈ word) :
    x ∈ t ∧ isAlphanumeric x = true := by
  obtain ⟨piece, hpiece, hword⟩ := List.mem_flatMap.mp hword
  have hx := (mem_of_mem_wordsFrom hword hx).resolve_left List.not_mem_nil
  simpa using mem_of_mem_pieces hpiece hx

/-! ## Spellings -/

/-- `x` is what a character becomes in some spelling. -/
def IsForm (c x : Char) : Prop :=
  x ∈ upperForm c ∨ x ∈ lowerForm c ∨ c = 'Σ' ∧ x = 'ς'

theorem exists_of_mem_lowercased {word : Text} {x : Char} (hx : x ∈ lowercased word) :
    ∃ c ∈ word, IsForm c x := by
  fun_induction lowercased word with
  | case1 => cases hx
  | case2 =>
      exact ⟨_, List.mem_singleton_self _, .inr (.inr ⟨rfl, List.mem_singleton.mp hx⟩)⟩
  | case3 c _ => exact ⟨c, List.mem_singleton_self c, .inr (.inl hx)⟩
  | case4 c next rest ih =>
      rcases List.mem_append.mp hx with hx | hx
      · exact ⟨c, List.mem_cons_self, .inr (.inl hx)⟩
      · obtain ⟨d, hd, hform⟩ := ih hx
        exact ⟨d, List.mem_cons_of_mem c hd, hform⟩

theorem exists_of_mem_capitalized {word : Text} {x : Char} (hx : x ∈ capitalized word) :
    ∃ c ∈ word, IsForm c x := by
  cases word with
  | nil => cases hx
  | cons c rest =>
      rcases List.mem_append.mp hx with hx | hx
      · exact ⟨c, List.mem_cons_self, .inl hx⟩
      · obtain ⟨d, hd, hform⟩ := exists_of_mem_lowercased hx
        exact ⟨d, List.mem_cons_of_mem c hd, hform⟩

/-- **The characters of a name in capitalized words are forms of its letters and numbers.** -/
theorem exists_of_mem_upperCamel {t : Text} {x : Char} (hx : x ∈ upperCamel t) :
    ∃ c ∈ t, isAlphanumeric c = true ∧ IsForm c x := by
  obtain ⟨word, hword, hx⟩ := List.mem_flatMap.mp hx
  obtain ⟨c, hc, hform⟩ := exists_of_mem_capitalized hx
  exact ⟨c, (mem_of_mem_words hword hc).1, (mem_of_mem_words hword hc).2, hform⟩

theorem mem_of_mem_joined {mark : Text} {parts : List Text} {x : Char}
    (hx : x ∈ joined mark parts) : x ∈ mark ∨ ∃ part ∈ parts, x ∈ part := by
  fun_induction joined mark parts with
  | case1 => cases hx
  | case2 last => exact .inr ⟨last, List.mem_singleton_self last, hx⟩
  | case3 first next others ih =>
      rcases List.mem_append.mp hx with hx | hx
      · rcases List.mem_append.mp hx with hx | hx
        · exact .inr ⟨first, List.mem_cons_self, hx⟩
        · exact .inl hx
      · rcases ih hx with hx | ⟨part, hpart, hx⟩
        · exact .inl hx
        · exact .inr ⟨part, List.mem_cons_of_mem first hpart, hx⟩

/-- **The characters of a name with hyphens are forms of its letters and numbers, and hyphens.** -/
theorem exists_of_mem_kebab {t : Text} {x : Char} (hx : x ∈ kebab t) :
    x = '-' ∨ ∃ c ∈ t, isAlphanumeric c = true ∧ IsForm c x := by
  rcases mem_of_mem_joined hx with hx | ⟨spelled, hspelled, hx⟩
  · exact .inl (List.mem_singleton.mp hx)
  · obtain ⟨word, hword, rfl⟩ := List.mem_map.mp hspelled
    obtain ⟨c, hc, hform⟩ := exists_of_mem_lowercased hx
    exact .inr ⟨c, (mem_of_mem_words hword hc).1, (mem_of_mem_words hword hc).2, hform⟩

/-! ## ASCII -/

/-- What holds of the first 128 code points holds of every ASCII character. -/
theorem ascii_cases {p : Char → Prop} (h : ∀ n < 128, p (Char.ofNat n)) {c : Char}
    (hc : c.toNat < 128) : p c := by
  rw [← Char.ofNat_toNat c]
  exact h c.toNat hc

theorem toNat_lt_of_isAlphanum {c : Char} (h : c.isAlphanum = true) : c.toNat < 128 := by
  simp only [Char.isAlphanum, Char.isAlpha, Char.isUpper, Char.isLower, Char.isDigit,
    Bool.or_eq_true, Bool.and_eq_true, decide_eq_true_eq, ge_iff_le, UInt32.le_iff_toNat_le] at h
  show c.val.toNat < 128
  rcases h with (⟨-, h⟩ | ⟨-, h⟩) | ⟨-, h⟩
  · exact Nat.lt_of_le_of_lt h (by decide)
  · exact Nat.lt_of_le_of_lt h (by decide)
  · exact Nat.lt_of_le_of_lt h (by decide)

/-- The letters and numbers of ASCII have their forms there. -/
theorem IsForm.isAlphanum {c x : Char} (h : IsForm c x) (hc : c.toNat < 128)
    (halnum : isAlphanumeric c = true) : x.isAlphanum = true := by
  have hascii : c.isAlphanum = true := by
    simp only [isAlphanumeric, Bool.or_eq_true, Bool.and_eq_true, decide_eq_true_eq] at halnum
    exact halnum.resolve_right fun h => absurd h.1 (by omega)
  have hforms : c.isAlphanum = true →
      c.toUpper.isAlphanum = true ∧ c.toLower.isAlphanum = true := by
    refine ascii_cases (p := fun c => c.isAlphanum = true →
      c.toUpper.isAlphanum = true ∧ c.toLower.isAlphanum = true) ?_ hc
    decide
  rcases h with h | h | ⟨rfl, -⟩
  · rw [upperForm, if_pos hc, List.mem_singleton] at h
    exact h ▸ (hforms hascii).1
  · rw [lowerForm, if_pos hc, List.mem_singleton] at h
    exact h ▸ (hforms hascii).2
  · exact absurd hc (by decide)

theorem isAlphanum_of_mem_upperCamel {t : Text} (ht : ∀ c ∈ t, c.toNat < 128) {x : Char}
    (hx : x ∈ upperCamel t) : x.isAlphanum = true := by
  obtain ⟨c, hc, halnum, hform⟩ := exists_of_mem_upperCamel hx
  exact hform.isAlphanum (ht c hc) halnum

theorem isAlphanum_of_mem_kebab {t : Text} (ht : ∀ c ∈ t, c.toNat < 128) {x : Char}
    (hx : x ∈ kebab t) : x = '-' ∨ x.isAlphanum = true := by
  refine (exists_of_mem_kebab hx).imp_right ?_
  rintro ⟨c, hc, halnum, hform⟩
  exact hform.isAlphanum (ht c hc) halnum

/-! ## Line feeds -/

/-- What the tables give for a character is never a line feed. -/
theorem feed_notMem_getD_mapped? {runs : List (Nat × Nat × Nat × Nat)}
    {sequences : List (Nat × List Nat)} (hruns : ∀ run ∈ runs, 10 < run.2.2.2)
    (hsequences : ∀ entry ∈ sequences, ∀ code ∈ entry.2, 10 < code) {c : Char} (hc : c ≠ '\n') :
    '\n' ∉ (mapped? runs sequences c.toNat).getD [c] := by
  -- a code point above that of the line feed stands for another character, or for none at all
  have hcode {code : Nat} (hcode : 10 < code) : Char.ofNat code ≠ '\n' := by
    intro heq
    unfold Char.ofNat at heq
    split at heq
    · have hnat : code = 10 := congrArg Char.toNat heq
      omega
    · cases heq
  intro hmem
  unfold mapped? at hmem
  split at hmem
  · rename_i first codes hfound
    obtain ⟨code, hcodes, heq⟩ := List.mem_map.mp hmem
    exact hcode (hsequences _ (List.mem_of_find?_eq_some hfound) code hcodes) heq
  · generalize hfound : runs.find? _ = found at hmem
    cases found with
    | none => exact hc (List.mem_singleton.mp hmem).symm
    | some run =>
        have himage : 10 < run.2.2.2 := hruns run (List.mem_of_find?_eq_some hfound)
        have hlater : 10 < run.2.2.2 + (c.toNat - run.1) := by omega
        exact hcode hlater (List.mem_singleton.mp hmem).symm

theorem IsForm.ne_feed {c x : Char} (h : IsForm c x) (hc : c ≠ '\n') : x ≠ '\n' := by
  have hascii (hascii : c.toNat < 128) : c ≠ '\n' → c.toUpper ≠ '\n' ∧ c.toLower ≠ '\n' := by
    refine ascii_cases (p := fun c => c ≠ '\n' → c.toUpper ≠ '\n' ∧ c.toLower ≠ '\n') ?_ hascii
    decide
  rintro rfl
  rcases h with h | h | ⟨-, h⟩
  · unfold upperForm at h
    split at h
    · rename_i hlt
      exact (hascii hlt hc).1 (List.mem_singleton.mp h).symm
    · exact feed_notMem_getD_mapped? (by decide +kernel) (by decide +kernel) hc h
  · unfold lowerForm at h
    split at h
    · rename_i hlt
      exact (hascii hlt hc).2 (List.mem_singleton.mp h).symm
    · exact feed_notMem_getD_mapped? (by decide +kernel) (by decide +kernel) hc h
  · cases h

theorem feed_notMem_upperCamel {t : Text} (ht : '\n' ∉ t) : '\n' ∉ upperCamel t := by
  intro hmem
  obtain ⟨c, hc, -, hform⟩ := exists_of_mem_upperCamel hmem
  refine hform.ne_feed ?_ rfl
  rintro rfl
  exact ht hc

end Graft.Text
