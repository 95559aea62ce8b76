import Graft.Proofs.Text.Case

/-!
# What the words of a name keep

Splitting a name into words drops what is neither letter nor number and nothing else
(`flatten_words`), and no word is empty. So the spelling of a name in capitalized words
starts with its first letter or digit, in upper case (`head?_upperCamel`), and is empty
only where the name has neither (`upperCamel_eq_nil_iff`). Pieces that are joined with a
mark are the pieces that the joined text is cut into at that mark (`pieces_joined`).
-/

namespace Graft.Text

/-! ## Pieces -/

theorem pieces_eq_splitOnP (p : Char → Bool) (t : Text) : pieces p t = t.splitOnP p := by
  induction t with
  | nil => rfl
  | cons c rest ih =>
      rw [pieces, List.splitOnP_cons_eq_if_modifyHead, ih]
      split
      · rfl
      · cases hrest : rest.splitOnP p with
        | nil => exact absurd hrest (List.splitOnP_ne_nil p rest)
        | cons first others => rfl

/-- A text without the mark is one piece. -/
theorem pieces_of_notMem {mark : Char} {t : Text} (h : mark ∉ t) : pieces (· == mark) t = [t] :=
  pieces_eq_singleton fun _ hc => beq_false_of_ne (ne_of_mem_of_not_mem hc h)

theorem pieces_append_cons {p : Char → Bool} {mark : Char} (hmark : p mark = true) (a b : Text) :
    pieces p (a ++ mark :: b) = pieces p a ++ pieces p b := by
  simp only [pieces_eq_splitOnP, List.splitOnP_append_cons _ _ hmark]

/-- What is joined with a mark comes apart at the mark. -/
theorem pieces_joined {mark : Char} {parts : List Text} (hne : parts ≠ []) :
    pieces (· == mark) (joined [mark] parts) = parts.flatMap (pieces (· == mark)) := by
  fun_induction joined [mark] parts with
  | case1 => exact (hne rfl).elim
  | case2 last => rw [List.flatMap_singleton]
  | case3 first next others ih =>
      rw [List.append_assoc, List.singleton_append,
        pieces_append_cons (p := (· == mark)) (beq_self_eq_true mark),
        ih (List.cons_ne_nil _ _)]
      rfl

/-- The pieces of a text have all of it but the cuts. -/
theorem flatten_pieces (p : Char → Bool) (t : Text) :
    (pieces p t).flatten = t.filter (!p ·) := by
  induction t with
  | nil => rfl
  | cons c rest ih =>
      rw [pieces]
      split
      · rename_i hcut
        rw [List.filter_cons_of_neg (by simp [hcut]), List.flatten_cons, List.nil_append, ih]
      · rename_i hkept
        rw [List.filter_cons_of_pos (by simp [hkept]), ← ih]
        cases hrest : pieces p rest with
        | nil => exact absurd hrest (pieces_ne_nil p rest)
        | cons first others => rfl

/-! ## Words -/

/-- The words of a piece are the piece, cut. -/
theorem flatten_wordsFrom {run : LetterRun} {word t : Text} (hne : t ≠ [] ∨ word = []) :
    (wordsFrom run word t).flatten = word ++ t := by
  fun_induction wordsFrom run word t with
  | case1 run word => rw [hne.resolve_left (fun h => h rfl), List.flatten_nil, List.append_nil]
  | case2 run word c => rw [List.flatten_cons, List.flatten_nil, List.append_nil]
  | case3 run word c next rest _ ih =>
      rw [List.flatten_cons, ih (.inr rfl), List.nil_append, List.append_assoc,
        List.singleton_append]
  | case4 run word c next rest _ _ ih =>
      rw [List.flatten_cons, ih (.inl (List.cons_ne_nil _ _)), List.singleton_append]
  | case5 run word c next rest _ _ ih =>
      rw [ih (.inl (List.cons_ne_nil _ _)), List.append_assoc, List.singleton_append]

/-- **The words of a name have its letters and numbers, in order.** -/
theorem flatten_words (t : Text) : (words t).flatten = t.filter isAlphanumeric := by
  have hpieces : (words t).flatten =
      ((pieces (fun c => !isAlphanumeric c) t).map fun piece => piece).flatten := by
    rw [words, List.flatMap_def, List.flatten_flatten, List.map_map]
    refine congrArg List.flatten (List.map_congr_left fun piece _ => ?_)
    exact flatten_wordsFrom (.inr rfl)
  rw [hpieces, List.map_id', flatten_pieces]
  simp only [Bool.not_not]

/-- A word is started with the capital that a run is told by. -/
theorem ne_nil_of_mem_wordsFrom {run : LetterRun} {word t found : Text}
    (hrun : run = .upper → word ≠ []) (hfound : found ∈ wordsFrom run word t) : found ≠ [] := by
  fun_induction wordsFrom run word t with
  | case1 => cases hfound
  | case2 run word c =>
      rw [List.mem_singleton.mp hfound]
      exact List.concat_ne_nil c word
  | case3 run word c next rest _ ih =>
      rcases List.mem_cons.mp hfound with rfl | hfound
      · exact List.concat_ne_nil c word
      · exact ih (fun hrun => by cases hrun) hfound
  | case4 run word c next rest _ hsplit ih =>
      rcases List.mem_cons.mp hfound with rfl | hfound
      · exact hrun hsplit.1
      · exact ih (fun hrun => by cases hrun) hfound
  | case5 run word c next rest _ _ ih =>
      exact ih (fun _ => List.concat_ne_nil c word) hfound

theorem ne_nil_of_mem_words {t word : Text} (hword : word ∈ words t) : word ≠ [] := by
  obtain ⟨piece, -, hword⟩ := List.mem_flatMap.mp hword
  have hstart : LetterRun.boundary = .upper → ([] : Text) ≠ [] := nofun
  exact ne_nil_of_mem_wordsFrom hstart hword

/-! ## ASCII -/

section Ascii

variable {c : Char}

theorem isAlphanumeric_eq (hc : c.toNat < 128) : isAlphanumeric c = c.isAlphanum := by
  simp [isAlphanumeric, Nat.not_le_of_lt hc]

theorem isUppercase_eq (hc : c.toNat < 128) : isUppercase c = c.isUpper := by
  simp [isUppercase, Nat.not_le_of_lt hc]

theorem isLowercase_eq (hc : c.toNat < 128) : isLowercase c = c.isLower := by
  simp [isLowercase, Nat.not_le_of_lt hc]

end Ascii

variable {t word : Text}

theorem lowercased_eq (hword : ∀ c ∈ word, c.toNat < 128) :
    lowercased word = word.map Char.toLower := by
  fun_induction lowercased word with
  | case1 => rfl
  | case2 => exact absurd (hword 'Σ' (List.mem_singleton_self _)) (by decide)
  | case3 c _ => rw [lowerForm, if_pos (hword c (List.mem_singleton_self c)), List.map_singleton]
  | case4 c next rest ih =>
      rw [ih fun d hd => hword d (List.mem_cons_of_mem c hd), lowerForm,
        if_pos (hword c List.mem_cons_self), List.singleton_append]
      rfl

theorem capitalized_cons {c : Char} (hword : ∀ d ∈ c :: word, d.toNat < 128) :
    capitalized (c :: word) = c.toUpper :: word.map Char.toLower := by
  rw [capitalized, upperForm, if_pos (hword c List.mem_cons_self),
    lowercased_eq fun d hd => hword d (List.mem_cons_of_mem c hd), List.singleton_append]

/-- **A name in capitalized words starts with the first letter or digit of the name.** -/
theorem head?_upperCamel (ht : ∀ c ∈ t, c.toNat < 128) :
    (upperCamel t).head? = (t.find? Char.isAlphanum).map Char.toUpper := by
  have hfind : t.find? Char.isAlphanum = (words t).flatten.head? := by
    rw [flatten_words, List.head?_filter]
    refine List.find?_congr fun c hc => ?_
    exact (isAlphanumeric_eq (ht c hc)).symm
  rw [hfind, upperCamel]
  cases hwords : words t with
  | nil => rfl
  | cons first others =>
      have hfirst : first ∈ words t := hwords ▸ List.mem_cons_self
      obtain ⟨c, rest, rfl⟩ := List.exists_cons_of_ne_nil (ne_nil_of_mem_words hfirst)
      rw [List.flatMap_cons, capitalized_cons fun d hd => ht d (mem_of_mem_words hfirst hd).1]
      rfl

theorem upperCamel_eq_nil_iff (ht : ∀ c ∈ t, c.toNat < 128) :
    upperCamel t = [] ↔ ∀ c ∈ t, c.isAlphanum = false := by
  rw [← List.head?_eq_none_iff, head?_upperCamel ht, Option.map_eq_none_iff, List.find?_eq_none]
  simp only [Bool.not_eq_true]

end Graft.Text
