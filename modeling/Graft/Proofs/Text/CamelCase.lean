import Graft.Proofs.Text.Words

/-!
# Names that spelling leaves alone

A name spelled in capitalized words is a name again, and can be spelled once more. That
changes it where a capital that starts a word cannot be told from the letters ahead of
it: behind digits alone, or behind another capital while no lower-case letter follows
(`HidesCapital`). `AB` is one word where `a_b` was two. All other names are left as they
are (`upperCamel_eq_self_iff`).
-/

namespace Graft.Text

variable {run : LetterRun} {word t rest : Text} {c : Char}

/-! ## Hidden capitals -/

/-- The case of the last letter of a text, or of what was read ahead of it when it has none. -/
def LetterRun.behind (run : LetterRun) (t : Text) : LetterRun :=
  t.foldl LetterRun.after run

/-- A capital does not show that a word starts with it: no letter stands ahead of it, or the last
one is a capital too and no lower-case letter follows. -/
def IsUnseen (run : LetterRun) (rest : Text) : Prop :=
  run = .boundary ∨ run = .upper ∧ ∀ next, rest.head? = some next → next.isLower = false

/-- A capital of `t` does not show that a word starts with it, where `word` and the case `run` have
been read ahead of `t`. A capital that nothing stands ahead of starts a word in any case. -/
def HidesCapitalBehind (run : LetterRun) (word t : Text) : Prop :=
  ∃ before c rest, t = before ++ c :: rest ∧ word ++ before ≠ [] ∧ c.isUpper = true ∧
    IsUnseen (run.behind before) rest

/-- A capital inside a name does not show that a word starts with it. -/
def HidesCapital (t : Text) : Prop :=
  HidesCapitalBehind .boundary [] t

theorem not_hidesCapitalBehind_nil : ¬HidesCapitalBehind run word [] := by
  rintro ⟨before, c, rest, heq, -⟩
  simp at heq

/-- Reading one character more. -/
theorem hidesCapitalBehind_cons :
    HidesCapitalBehind run word (c :: rest) ↔
      (word ≠ [] ∧ c.isUpper = true ∧ IsUnseen run rest) ∨
        HidesCapitalBehind (run.after c) (word ++ [c]) rest := by
  constructor
  · rintro ⟨before, d, after, heq, hne, hupper, hunseen⟩
    cases before with
    | nil =>
        obtain ⟨rfl, rfl⟩ := List.cons.inj heq
        exact .inl ⟨by simpa using hne, hupper, hunseen⟩
    | cons e before =>
        obtain ⟨rfl, rfl⟩ := List.cons.inj heq
        exact .inr ⟨before, d, after, rfl, by simp, hupper, hunseen⟩
  · rintro (⟨hne, hupper, hunseen⟩ | ⟨before, d, after, rfl, -, hupper, hunseen⟩)
    · exact ⟨[], c, rest, rfl, by simpa using hne, hupper, hunseen⟩
    · exact ⟨c :: before, d, after, rfl, by simp, hupper, hunseen⟩

instance (run : LetterRun) (rest : Text) : Decidable (IsUnseen run rest) :=
  decidable_of_iff (run = .boundary ∨ run = .upper ∧ rest.head?.all (!·.isLower) = true) <| by
    simp only [IsUnseen, Option.all_eq_true, Bool.not_eq_true']

/-- Hidden capitals are found character by character. -/
instance decidableHidesCapitalBehind :
    ∀ (run : LetterRun) (word t : Text), Decidable (HidesCapitalBehind run word t)
  | _, _, [] => .isFalse not_hidesCapitalBehind_nil
  | run, word, c :: rest =>
    have := decidableHidesCapitalBehind (run.after c) (word ++ [c]) rest
    decidable_of_iff _ hidesCapitalBehind_cons.symm

instance (t : Text) : Decidable (HidesCapital t) :=
  inferInstanceAs (Decidable (HidesCapitalBehind .boundary [] t))

/-- Of the word that was read, only whether there is one counts. -/
theorem hidesCapitalBehind_congr {other : Text} (hword : word ≠ []) (hother : other ≠ []) :
    HidesCapitalBehind run word t ↔ HidesCapitalBehind run other t := by
  have hne {read : Text} (hread : read ≠ []) (before : Text) : read ++ before ≠ [] :=
    List.append_ne_nil_of_left_ne_nil hread before
  simp only [HidesCapitalBehind, ne_eq, hne hword, hne hother, not_false_eq_true]

/-! ## Letters of ASCII -/

theorem toLower_eq_self_iff (hc : c.toNat < 128) : c.toLower = c ↔ c.isUpper = false :=
  ascii_cases (p := fun c => c.toLower = c ↔ c.isUpper = false) (by decide) hc

theorem toUpper_eq_self_iff (hc : c.toNat < 128) : c.toUpper = c ↔ c.isLower = false :=
  ascii_cases (p := fun c => c.toUpper = c ↔ c.isLower = false) (by decide) hc

theorem isLower_toUpper (hc : c.toNat < 128) : c.toUpper.isLower = false :=
  ascii_cases (p := fun c => c.toUpper.isLower = false) (by decide) hc

theorem isLower_eq_false_of_isUpper (hc : c.toNat < 128) (hupper : c.isUpper = true) :
    c.isLower = false :=
  ascii_cases (p := fun c => c.isUpper = true → c.isLower = false) (by decide) hc hupper

theorem after_of_isUpper (hc : c.toNat < 128) (hupper : c.isUpper = true) (run : LetterRun) :
    run.after c = .upper := by
  rw [LetterRun.after, isLowercase_eq hc, isUppercase_eq hc, isLower_eq_false_of_isUpper hc hupper,
    hupper]
  rfl

theorem after_of_isLower (hc : c.toNat < 128) (hlower : c.isLower = true) (run : LetterRun) :
    run.after c = .lower := by
  rw [LetterRun.after, isLowercase_eq hc, hlower]
  rfl

theorem capitalized_append (hword : ∀ d ∈ word, d.toNat < 128) (hne : word ≠ [])
    (ht : ∀ d ∈ t, d.toNat < 128) :
    capitalized (word ++ t) = capitalized word ++ t.map Char.toLower := by
  obtain ⟨c, rest, rfl⟩ := List.exists_cons_of_ne_nil hne
  have hall : ∀ d ∈ c :: (rest ++ t), d.toNat < 128 := by
    rw [← List.cons_append, List.forall_mem_append]
    exact ⟨hword, ht⟩
  rw [List.cons_append, capitalized_cons hall, capitalized_cons hword, List.map_append,
    List.cons_append]

/-! ## Spelling again -/

/-- `word` has been read of a word in the case `run`, and is spelled as it stands; what comes next,
`t`, does not start another word. -/
structure IsReadTo (run : LetterRun) (word t : Text) : Prop where
  ascii_word : ∀ c ∈ word, c.toNat < 128
  ascii : ∀ c ∈ t, c.toNat < 128
  spelled : capitalized word = word
  fresh : word = [] → run = .boundary ∧ ∀ c, t.head? = some c → c.isLower = false
  goesOn : word ≠ [] → run = .lower → ∀ c, t.head? = some c → c.isUpper = false

namespace IsReadTo

/-- Only a capital inside a word is not spelled as it stands. -/
theorem capitalized_concat (h : IsReadTo run word (c :: rest))
    (hkept : word = [] ∨ c.isUpper = false) : capitalized (word ++ [c]) = word ++ [c] := by
  have hc := h.ascii c List.mem_cons_self
  by_cases hnil : word = []
  · subst hnil
    rw [List.nil_append, capitalized_cons (by simpa using hc),
      (toUpper_eq_self_iff hc).mpr ((h.fresh rfl).2 c rfl), List.map_nil]
  · rw [capitalized_append h.ascii_word hnil (by simpa using hc), h.spelled, List.map_singleton,
      (toLower_eq_self_iff hc).mpr (hkept.resolve_left hnil)]

theorem ascii_concat (h : IsReadTo run word (c :: rest)) : ∀ d ∈ word ++ [c], d.toNat < 128 := by
  rw [List.forall_mem_append, List.forall_mem_singleton]
  exact ⟨h.ascii_word, h.ascii c List.mem_cons_self⟩

theorem ascii_rest (h : IsReadTo run word (c :: rest)) : ∀ d ∈ rest, d.toNat < 128 :=
  fun d hd => h.ascii d (List.mem_cons_of_mem c hd)

/-- A word that has another capital in it is not spelled as it stands. -/
theorem ne_of_prefix (h : IsReadTo run word (c :: rest)) (hne : word ≠ [])
    (hupper : c.isUpper = true) {spelled : Text} (hfront : capitalized (word ++ [c]) <+: spelled) :
    spelled ≠ word ++ c :: rest := by
  have hc := h.ascii c List.mem_cons_self
  rintro rfl
  rw [capitalized_append h.ascii_word hne (by simpa using hc), h.spelled, List.map_singleton,
    List.prefix_append_right_inj, List.cons_prefix_cons, toLower_eq_self_iff hc, hupper] at hfront
  cases hfront.1

/-- A capital inside a word is hidden, unless a word is told from the letter behind it. -/
theorem hides (h : IsReadTo run word (c :: rest)) (hne : word ≠ []) (hupper : c.isUpper = true)
    (hbehind : run = .upper → ∀ next, rest.head? = some next → next.isLower = false) :
    HidesCapitalBehind run word (c :: rest) := by
  refine hidesCapitalBehind_cons.mpr (.inl ⟨hne, hupper, ?_⟩)
  cases run with
  | boundary => exact .inl rfl
  | lower =>
      have hgoes := h.goesOn hne rfl c rfl
      rw [hupper] at hgoes
      cases hgoes
  | upper => exact .inr ⟨rfl, hbehind rfl⟩

/-- Reading goes on with a character that is spelled as it stands. -/
theorem concat (h : IsReadTo run word (c :: rest)) (hkept : word = [] ∨ c.isUpper = false)
    (hgoes : run.after c = .lower → ∀ next, rest.head? = some next → next.isUpper = false) :
    IsReadTo (run.after c) (word ++ [c]) rest where
  ascii_word := h.ascii_concat
  ascii := h.ascii_rest
  spelled := h.capitalized_concat hkept
  fresh hnil := by simp at hnil
  goesOn _ := hgoes

/-- A word starts with a capital. -/
theorem start (hrest : ∀ d ∈ c :: rest, d.toNat < 128) (hupper : c.isUpper = true) :
    IsReadTo .boundary [] (c :: rest) where
  ascii_word := by simp
  ascii := hrest
  spelled := rfl
  fresh _ := by
    refine ⟨rfl, fun d hd => ?_⟩
    obtain rfl : c = d := by simpa using hd
    exact isLower_eq_false_of_isUpper (hrest c List.mem_cons_self) hupper
  goesOn hne := (hne rfl).elim

end IsReadTo

/-- The word that is being read keeps its front. -/
theorem capitalized_prefix_flatMap (hword : ∀ c ∈ word, c.toNat < 128)
    (ht : ∀ c ∈ t, c.toNat < 128) (hne : word ≠ []) (hrest : t ≠ []) :
    capitalized word <+: (wordsFrom run word t).flatMap capitalized := by
  have grows {word : Text} {c : Char} {rest : Text} (hword : ∀ c ∈ word, c.toNat < 128)
      (ht : ∀ d ∈ c :: rest, d.toNat < 128) (hne : word ≠ []) :
      capitalized word <+: capitalized (word ++ [c]) := by
    rw [capitalized_append hword hne fun d hd =>
      ht d (List.mem_singleton.mp hd ▸ List.mem_cons_self)]
    exact List.prefix_append _ _
  fun_induction wordsFrom run word t with
  | case1 => exact (hrest rfl).elim
  | case2 run word c =>
      rw [List.flatMap_singleton]
      exact grows hword ht hne
  | case3 run word c next rest _ ih =>
      rw [List.flatMap_cons]
      exact (grows hword ht hne).trans (List.prefix_append _ _)
  | case4 run word c next rest _ _ ih =>
      rw [List.flatMap_cons]
      exact List.prefix_append _ _
  | case5 run word c next rest _ _ ih =>
      refine (grows hword ht hne).trans (ih ?_ ?_ (by simp) (by simp))
      · rw [List.forall_mem_append]
        exact ⟨hword, fun d hd => ht d (List.mem_singleton.mp hd ▸ List.mem_cons_self)⟩
      · exact fun d hd => ht d (List.mem_cons_of_mem c hd)

/-- **Spelling the words of a text changes nothing of it, unless a capital is hidden.** -/
theorem flatMap_capitalized_eq_iff (h : IsReadTo run word t) (hne : t ≠ []) :
    (wordsFrom run word t).flatMap capitalized = word ++ t ↔ ¬HidesCapitalBehind run word t := by
  fun_induction wordsFrom run word t with
  | case1 => exact (hne rfl).elim
  | case2 run word c =>
      rw [List.flatMap_singleton]
      by_cases hin : word ≠ [] ∧ c.isUpper = true
      · exact iff_of_false (h.ne_of_prefix hin.1 hin.2 (List.prefix_refl _))
          (not_not_intro (h.hides hin.1 hin.2 fun _ _ hnone => by cases hnone))
      · refine iff_of_true (h.capitalized_concat ?_) ?_
        · rwa [not_and_or, not_ne_iff, Bool.not_eq_true] at hin
        · rw [hidesCapitalBehind_cons, not_or]
          exact ⟨fun hhides => hin ⟨hhides.1, hhides.2.1⟩, not_hidesCapitalBehind_nil⟩
  | case3 run word c next rest hsplit ih =>
      -- the word ends behind a lower-case letter, and the capital behind it starts the next one
      have hnext := h.ascii_rest next List.mem_cons_self
      have hupper : next.isUpper = true := isUppercase_eq hnext ▸ hsplit.2
      have hkept : c.isUpper = false := by
        by_contra hc
        rw [after_of_isUpper (h.ascii c List.mem_cons_self) (by simpa using hc)] at hsplit
        cases hsplit.1
      have hstays : HidesCapitalBehind run word (c :: next :: rest) ↔
          HidesCapitalBehind .boundary [] (next :: rest) := by
        simp only [hidesCapitalBehind_cons, hkept, hsplit.1, after_of_isUpper hnext hupper]
        rw [hidesCapitalBehind_congr (List.concat_ne_nil next _) (List.cons_ne_nil next [])]
        simp [IsUnseen]
      rw [List.flatMap_cons, h.capitalized_concat (.inr hkept), List.append_assoc,
        List.append_right_inj, List.singleton_append, List.cons.injEq, and_iff_right rfl, hstays]
      exact ih (.start h.ascii_rest hupper) (List.cons_ne_nil _ _)
  | case4 run word c next rest _ hsplit ih =>
      -- the capital starts the next word, as the lower-case letter behind it tells
      obtain ⟨rfl, hupper, hlower⟩ := hsplit
      have hc := h.ascii c List.mem_cons_self
      have hnext := h.ascii_rest next List.mem_cons_self
      rw [isUppercase_eq hc] at hupper
      rw [isLowercase_eq hnext] at hlower
      have hkept : next.isUpper = false := by
        by_contra hnextUpper
        rw [isLower_eq_false_of_isUpper hnext (by simpa using hnextUpper)] at hlower
        cases hlower
      have hread : IsReadTo .boundary [c] (next :: rest) :=
        { ascii_word := by simpa using hc
          ascii := h.ascii_rest
          spelled := (IsReadTo.start h.ascii hupper).capitalized_concat (.inl rfl)
          fresh := fun hnil => by cases hnil
          goesOn := fun _ hrun => by cases hrun }
      have hstays : HidesCapitalBehind .upper word (c :: next :: rest) ↔
          HidesCapitalBehind .boundary [c] (next :: rest) := by
        simp only [hidesCapitalBehind_cons, hkept, after_of_isLower hnext hlower]
        rw [hidesCapitalBehind_congr (List.concat_ne_nil next _) (List.concat_ne_nil next [c])]
        simp [IsUnseen, hlower]
      rw [List.flatMap_cons, h.spelled, List.append_right_inj, hstays]
      exact ih hread (List.cons_ne_nil _ _)
  | case5 run word c next rest hbehind hahead ih =>
      have hc := h.ascii c List.mem_cons_self
      have hnext := h.ascii_rest next List.mem_cons_self
      rw [isUppercase_eq hnext] at hbehind
      rw [isUppercase_eq hc, isLowercase_eq hnext] at hahead
      by_cases hin : word ≠ [] ∧ c.isUpper = true
      · -- the capital lies inside a word
        have hlower : run = .upper → ∀ d, (next :: rest).head? = some d → d.isLower = false := by
          rintro hrun d hd
          obtain rfl : next = d := by simpa using hd
          exact Bool.eq_false_iff.mpr fun hlower => hahead ⟨hrun, hin.2, hlower⟩
        have hfront : capitalized (word ++ [c]) <+:
            (wordsFrom (run.after c) (word ++ [c]) (next :: rest)).flatMap capitalized :=
          capitalized_prefix_flatMap h.ascii_concat h.ascii_rest
            (List.concat_ne_nil c word) (List.cons_ne_nil _ _)
        exact iff_of_false (h.ne_of_prefix hin.1 hin.2 hfront)
          (not_not_intro (h.hides hin.1 hin.2 hlower))
      · have hkept : word = [] ∨ c.isUpper = false := by
          rwa [not_and_or, not_ne_iff, Bool.not_eq_true] at hin
        have hgoes : run.after c = .lower → ∀ d, (next :: rest).head? = some d →
            d.isUpper = false := by
          rintro hrun d hd
          obtain rfl : next = d := by simpa using hd
          exact Bool.eq_false_iff.mpr fun hupper => hbehind ⟨hrun, hupper⟩
        have hstays : HidesCapitalBehind run word (c :: next :: rest) ↔
            HidesCapitalBehind (run.after c) (word ++ [c]) (next :: rest) := by
          rw [hidesCapitalBehind_cons, or_iff_right fun hhides => hin ⟨hhides.1, hhides.2.1⟩]
        rw [hstays, ← ih (h.concat hkept hgoes) (List.cons_ne_nil _ _), List.append_assoc,
          List.singleton_append]

/-- **Spelling a name in capitalized words leaves exactly those names as they are that hide no
capital.**  The name is made of letters and digits and does not start in lower case, as a spelled
name does. -/
theorem upperCamel_eq_self_iff (ht : ∀ c ∈ t, c.isAlphanum = true)
    (hhead : ∀ c, t.head? = some c → c.isLower = false) : upperCamel t = t ↔ ¬HidesCapital t := by
  have hascii : ∀ c ∈ t, c.toNat < 128 := fun c hc => toNat_lt_of_isAlphanum (ht c hc)
  by_cases hne : t = []
  · subst hne
    exact iff_of_true rfl not_hidesCapitalBehind_nil
  have hpieces : pieces (fun c => !isAlphanumeric c) t = [t] :=
    pieces_eq_singleton fun c hc => by rw [isAlphanumeric_eq (hascii c hc), ht c hc, Bool.not_true]
  have hread : IsReadTo .boundary [] t :=
    { ascii_word := by simp
      ascii := hascii
      spelled := rfl
      fresh := fun _ => ⟨rfl, hhead⟩
      goesOn := fun h => (h rfl).elim }
  rw [upperCamel, words, hpieces, List.flatMap_singleton]
  exact flatMap_capitalized_eq_iff hread hne

/-- A spelled name is left as it is, if it hides no capital. -/
theorem upperCamel_upperCamel_iff (ht : ∀ c ∈ t, c.toNat < 128) :
    upperCamel (upperCamel t) = upperCamel t ↔ ¬HidesCapital (upperCamel t) := by
  refine upperCamel_eq_self_iff (fun c hc => isAlphanum_of_mem_upperCamel ht hc) fun c hc => ?_
  rw [head?_upperCamel ht, Option.map_eq_some_iff] at hc
  obtain ⟨d, hd, rfl⟩ := hc
  exact isLower_toUpper (ht d (List.mem_of_find?_eq_some hd))

end Graft.Text
