import Graft.Block
import Graft.Splice

/-!
# Cutting texts

What the searches of a text say about the text: where a character or a
delimiter is found, the text falls into what stands before it, the thing found,
and what stands after it, and the offset measures the first part
(`charAt?_eq_some`, `findChar?_eq_some`, `closing?_eq_some`). Also what a cut
does to an occurrence: one that cannot lie across the cut lies on one side of it
(`infix_of_infix_append`), and trimming takes no character of it
(`infix_trimStart`, `infix_trimEnd`).
-/

namespace Graft.Text

/-! ## Offsets as cuts -/

/-- Of two cuts of a text, the earlier one cuts what stands before the later one. -/
theorem exists_append_of_byteSize_le {a b a' b' : Text} (h : a ++ b = a' ++ b')
    (hle : byteSize a ≤ byteSize a') : ∃ middle, a' = a ++ middle ∧ b = middle ++ b' := by
  rcases List.append_eq_append_iff.mp h with ⟨middle, hfront, hback⟩ | ⟨middle, hfront, hback⟩
  · exact ⟨middle, hfront, hback⟩
  · subst hfront
    have hnil : middle = [] := by
      have hlength := length_le_byteSize middle
      rw [byteSize_append] at hle
      exact List.eq_nil_of_length_eq_zero (by omega)
    subst hnil
    exact ⟨[], by simp, by simpa using hback.symm⟩

/-- Two cuts of a text at one offset are the same. -/
theorem append_inj_of_byteSize_eq {a b a' b' : Text} (h : a ++ b = a' ++ b')
    (hsize : byteSize a = byteSize a') : a = a' ∧ b = b' := by
  have hfront := takeBytes_append_byteSize a b
  have hback := dropBytes_append_byteSize a b
  rw [h, hsize] at hfront hback
  rw [takeBytes_append_byteSize] at hfront
  rw [dropBytes_append_byteSize] at hback
  exact ⟨hfront.symm, hback.symm⟩

/-- What stands between two others is the slice from where it starts to where it ends. -/
theorem slice_append_append (before part after : Text) :
    slice (before ++ (part ++ after)) (byteSize before) (byteSize before + byteSize part) =
      part := by
  rw [slice, dropBytes_append_byteSize, Nat.add_sub_cancel_left, takeBytes_append_byteSize]

/-- The character found at an offset cuts the text there. -/
theorem charAt?_eq_some {t : Text} {offset : Nat} {c : Char}
    (h : charAt? t offset = some c) :
    ∃ before after, t = before ++ c :: after ∧ byteSize before = offset := by
  induction t generalizing offset with
  | nil => simp [charAt?] at h
  | cons d rest ih =>
      simp only [charAt?] at h
      split at h
      · rename_i hzero
        cases h
        exact ⟨[], rest, rfl, by simp [hzero]⟩
      · split at h
        · rename_i hfits
          obtain ⟨before, after, rfl, hsize⟩ := ih h
          refine ⟨d :: before, after, rfl, ?_⟩
          simp only [byteSize_cons, hsize]
          omega
        · cases h

/-- The character that a search finds cuts the text at the offset it gives. -/
theorem findChar?_eq_some {p : Char → Bool} {t : Text} {start offset : Nat}
    (h : findChar? p t start = some offset) :
    ∃ before c after, t = before ++ c :: after ∧ byteSize before = offset ∧ p c = true := by
  induction t generalizing start offset with
  | nil => simp [findChar?] at h
  | cons d rest ih =>
      simp only [findChar?] at h
      split at h
      · rename_i hhit
        cases h
        exact ⟨[], d, rest, rfl, rfl, hhit.2⟩
      · obtain ⟨found, hfound, rfl⟩ := Option.map_eq_some_iff.mp h
        obtain ⟨before, c, after, rfl, rfl, hp⟩ := ih hfound
        refine ⟨d :: before, c, after, rfl, ?_, hp⟩
        simp only [byteSize_cons]
        omega

/-- A cut ahead of a character gives the character. -/
theorem charAt?_append_cons (before after : Text) (c : Char) :
    charAt? (before ++ c :: after) (byteSize before) = some c := by
  induction before with
  | nil => simp [charAt?]
  | cons e before ih =>
      have hsize := e.utf8Size_pos
      simp only [List.cons_append, charAt?, byteSize_cons]
      rw [if_neg (by omega), if_pos (by omega), Nat.add_sub_cancel_left, ih]

/-- The offset of what a search finds does not hang on the text behind it. -/
theorem findChar?_append_cons {p : Char → Bool} {before after : Text} {c : Char} {start : Nat}
    (h : findChar? p (before ++ c :: after) start = some (byteSize before)) (other : Text) :
    findChar? p (before ++ c :: other) start = some (byteSize before) := by
  induction before generalizing start with
  | nil =>
      have hsize := c.utf8Size_pos
      simp only [List.nil_append, findChar?, byteSize_nil] at h ⊢
      split at h
      · rename_i hhit
        rw [if_pos hhit]
      · -- what is found behind the character has a later offset
        obtain ⟨found, -, hfound⟩ := Option.map_eq_some_iff.mp h
        omega
  | cons e before ih =>
      have hsize := e.utf8Size_pos
      simp only [List.cons_append, findChar?, byteSize_cons] at h ⊢
      split at h
      · rw [Option.some.injEq] at h
        omega
      · rename_i hmiss
        obtain ⟨found, hrest, hfound⟩ := Option.map_eq_some_iff.mp h
        rw [show found = byteSize before by omega] at hrest
        rw [if_neg hmiss, ih hrest, Option.map_some, Nat.add_comm]

theorem utf8Size_opener (d : Delimiter) : d.opener.utf8Size = 1 := by
  cases d <;> rfl

theorem utf8Size_closer (d : Delimiter) : d.closer.utf8Size = 1 := by
  cases d <;> rfl

/-- The closing delimiter that a scan stops at cuts what it has scanned. -/
theorem closing?_eq_some {d : Delimiter} {offset inner close : Nat} {t : Text}
    (h : closing? d offset inner t = some close) :
    ∃ before after, t = before ++ d.closer :: after ∧ close = offset + byteSize before := by
  induction t generalizing offset inner with
  | nil => simp [closing?] at h
  | cons c rest ih =>
      -- a scan that goes on has the character at hand behind it, whatever the character is
      have step {next : Nat} (hrest : closing? d (offset + c.utf8Size) next rest = some close) :
          ∃ before after, c :: rest = before ++ d.closer :: after ∧
            close = offset + byteSize before := by
        obtain ⟨before, after, rfl, rfl⟩ := ih hrest
        exact ⟨c :: before, after, rfl, by simp [Nat.add_assoc]⟩
      simp only [closing?] at h
      split at h
      · exact step h
      · split at h
        · rename_i hclose
          cases inner with
          | zero =>
              cases h
              exact ⟨[], rest, by rw [hclose]; rfl, rfl⟩
          | succ inner => exact step h
        · exact step h

/-- A block that is found cuts the text at its two delimiters. -/
theorem findBlock?_eq_some {t : Text} {start opens closes : Nat} {d : Delimiter}
    (h : findBlock? t start d = some (opens, closes)) :
    ∃ before body after, t = before ++ d.opener :: body ++ d.closer :: after ∧
      opens = byteSize before ∧ closes = byteSize before + 1 + byteSize body := by
  simp only [findBlock?, Option.bind_eq_bind, Option.bind_eq_some_iff, Option.pure_def,
    Option.some.injEq, Prod.mk.injEq] at h
  obtain ⟨found, hopen, closed, hclose, rfl, rfl⟩ := h
  obtain ⟨before, c, rest, rfl, rfl, hc⟩ := findChar?_eq_some hopen
  obtain rfl : c = d.opener := by simpa using hc
  simp only [findClose?] at hclose
  split at hclose
  · have hsize : byteSize (before ++ [d.opener]) = byteSize before + 1 := by
      simp [utf8Size_opener]
    rw [← hsize, show before ++ d.opener :: rest = (before ++ [d.opener]) ++ rest by simp,
      dropBytes_append_byteSize] at hclose
    obtain ⟨body, after, rfl, rfl⟩ := closing?_eq_some hclose
    exact ⟨before, body, after, by simp, rfl, by rw [hsize]⟩
  · cases hclose

/-! ## Occurrences and cuts -/

/-- An occurrence that cannot lie across a cut lies on one side of it. -/
theorem infix_of_infix_append {key a b : Text} (h : key <:+: a ++ b)
    (hcut : ∀ k₁ k₂ : Text, k₁ ≠ [] → k₂ ≠ [] → key = k₁ ++ k₂ → k₁ <:+ a → ¬k₂ <+: b) :
    key <:+: a ∨ key <:+: b := by
  rcases List.infix_append_iff_ne_nil.mp h with h | h | ⟨k₁, k₂, hne₁, hne₂, hkey, ha, hb⟩
  · exact .inl h
  · exact .inr h
  · exact absurd hb (hcut k₁ k₂ hne₁ hne₂ hkey ha)

/-- What ends in a character that the key lacks is a side of its own. -/
theorem infix_of_infix_append_of_getLast? {key a b : Text} {c : Char} (h : key <:+: a ++ b)
    (hlast : a.getLast? = some c) (hkey : c ∉ key) : key <:+: a ∨ key <:+: b := by
  refine infix_of_infix_append h ?_
  intro k₁ k₂ hne₁ _ hk ha _
  obtain ⟨front, rfl⟩ := ha
  rw [List.getLast?_append, List.getLast?_eq_some_getLast hne₁, Option.some_or,
    Option.some.injEq] at hlast
  have hmem : c ∈ k₁ := hlast ▸ List.getLast_mem hne₁
  exact hkey (hk ▸ List.mem_append_left k₂ hmem)

/-- What starts with a character that the key lacks is a side of its own. -/
theorem infix_of_infix_append_cons {key a b : Text} {c : Char} (h : key <:+: a ++ c :: b)
    (hkey : c ∉ key) : key <:+: a ∨ key <:+: c :: b := by
  refine infix_of_infix_append h ?_
  intro k₁ k₂ _ hne₂ hk _ hb
  obtain ⟨e, rest, rfl⟩ := List.exists_cons_of_ne_nil hne₂
  obtain rfl : e = c := (List.cons_prefix_cons.mp hb).1
  exact hkey (hk ▸ List.mem_append_right k₁ List.mem_cons_self)

/-- What starts with a character that the front lacks is in the back. -/
theorem infix_of_infix_append_of_head? {key a b : Text} {c : Char} (h : key <:+: a ++ b)
    (hhead : key.head? = some c) (ha : c ∉ a) : key <:+: b := by
  have hfirst {front back : Text} (hne : front ≠ []) (hkey : key = front ++ back) : c ∈ front := by
    obtain ⟨e, rest, rfl⟩ := List.exists_cons_of_ne_nil hne
    rw [hkey, List.cons_append, List.head?_cons, Option.some.injEq] at hhead
    exact hhead ▸ List.mem_cons_self
  have hsides := infix_of_infix_append h fun k₁ k₂ hne₁ _ hkey hk₁ _ =>
    ha (hk₁.subset (hfirst hne₁ hkey))
  exact hsides.resolve_left fun hwithin => ha (hwithin.subset (List.mem_of_head? hhead))

/-! ## Trimming -/

theorem takeWhile_append_trimStart (t : Text) (p : Char → Bool) :
    t.takeWhile p ++ t.trimStart p = t :=
  List.takeWhile_append_dropWhile

theorem trimEnd_append_takeWhile (t : Text) (p : Char → Bool) :
    t.trimEnd p ++ (t.reverse.takeWhile p).reverse = t := by
  rw [trimEnd, ← List.reverse_append, List.takeWhile_append_dropWhile, List.reverse_reverse]

/-- Trimming the front of a text loses no occurrence of a key that does not start with what is
trimmed. -/
theorem infix_trimStart {key t : Text} {p : Char → Bool} (h : key <:+: t)
    (hstart : ∀ c, key.head? = some c → p c = false) (hne : key ≠ []) :
    key <:+: t.trimStart p := by
  -- the first character of the key is no character that is trimmed
  have hfront : ∀ k₁ : Text, k₁ ≠ [] → (∃ k₂, key = k₁ ++ k₂) → ¬k₁ <:+: t.takeWhile p := by
    rintro k₁ hne₁ ⟨k₂, rfl⟩ hin
    obtain ⟨c, rest, rfl⟩ := List.exists_cons_of_ne_nil hne₁
    have hmem : c ∈ t.takeWhile p := hin.subset List.mem_cons_self
    have hp : p c = true := List.all_eq_true.mp List.all_takeWhile c hmem
    rw [hstart c rfl] at hp
    cases hp
  rw [← takeWhile_append_trimStart t p] at h
  have hsides := infix_of_infix_append h fun k₁ k₂ hne₁ _ hkey hk₁ _ =>
    hfront k₁ hne₁ ⟨k₂, hkey⟩ hk₁.isInfix
  exact hsides.resolve_left (hfront key hne ⟨[], by simp⟩)

/-- Trimming the end of a text loses no occurrence of a key that does not end in what is
trimmed. -/
theorem infix_trimEnd {key t : Text} {p : Char → Bool} (h : key <:+: t)
    (hend : ∀ c, key.getLast? = some c → p c = false) (hne : key ≠ []) :
    key <:+: t.trimEnd p := by
  -- read backwards, the end is the front
  have hrev : key.reverse <:+: trimStart t.reverse p := by
    refine infix_trimStart (List.reverse_infix.mpr h) ?_ (by simpa using hne)
    intro c hc
    exact hend c (by simpa using hc)
  simpa [trimEnd, trimStart] using List.reverse_infix.mpr hrev

@[simp] theorem trimStart_cons_of_neg {p : Char → Bool} {c : Char} (t : Text) (h : p c = false) :
    trimStart (c :: t) p = c :: t := by
  simp [trimStart, h]

@[simp] theorem trimEnd_append_of_neg {p : Char → Bool} {c : Char} (t : Text) (h : p c = false) :
    trimEnd (t ++ [c]) p = t ++ [c] := by
  simp [trimEnd, h]

/-- Trimming the front of a text stops at the first character that is kept. -/
theorem trimStart_append_cons_of_neg {p : Char → Bool} {c : Char} (a b : Text) (h : p c = false) :
    trimStart (a ++ c :: b) p = trimStart a p ++ c :: b := by
  have hkept : ¬p c = true := by simp [h]
  simp only [trimStart, List.dropWhile_append, List.dropWhile_cons_of_neg hkept]
  split
  · rename_i hnil
    rw [List.isEmpty_iff.mp hnil, List.nil_append]
  · rfl

/-- Trimming the end of a text stops at the last character that is kept. -/
theorem trimEnd_append_cons_of_neg {p : Char → Bool} {c : Char} (a b : Text) (h : p c = false) :
    trimEnd (a ++ c :: b) p = a ++ c :: trimEnd b p := by
  have hreverse : (a ++ c :: b).reverse = b.reverse ++ c :: a.reverse := by simp
  have htrim := trimStart_append_cons_of_neg b.reverse a.reverse h
  simp only [trimStart] at htrim
  rw [trimEnd, hreverse, htrim]
  simp [trimEnd]

/-! ## Joined texts -/

/-- Each of the joined texts is a part of the whole. -/
theorem infix_joined {mark line : Text} {lines : List Text} (h : line ∈ lines) :
    line <:+: joined mark lines := by
  fun_induction joined mark lines with
  | case1 => cases h
  | case2 last =>
      obtain rfl := List.mem_singleton.mp h
      exact List.infix_refl _
  | case3 first next others ih =>
      rcases List.mem_cons.mp h with rfl | h
      · exact (List.prefix_append _ _).isInfix.trans (List.prefix_append _ _).isInfix
      · exact (ih h).trans (List.suffix_append _ _).isInfix

/-- An occurrence without the mark lies in one of the joined texts. -/
theorem exists_infix_of_infix_joined {key : Text} {c : Char} {lines : List Text}
    (h : key <:+: joined [c] lines) (hkey : c ∉ key) (hne : key ≠ []) :
    ∃ line ∈ lines, key <:+: line := by
  fun_induction joined [c] lines with
  | case1 => exact absurd (List.infix_nil.mp h) hne
  | case2 last => exact ⟨last, List.mem_singleton_self last, h⟩
  | case3 first next others ih =>
      rw [List.append_assoc] at h
      rcases infix_of_infix_append_cons h hkey with h | h
      · exact ⟨first, List.mem_cons_self, h⟩
      · rcases infix_of_infix_append_of_getLast? (a := [c]) h rfl hkey with h | h
        · obtain ⟨e, rest, rfl⟩ := List.exists_cons_of_ne_nil hne
          obtain rfl : e = c := List.mem_singleton.mp (h.subset List.mem_cons_self)
          exact absurd List.mem_cons_self hkey
        · obtain ⟨line, hline, h⟩ := ih h
          exact ⟨line, List.mem_cons_of_mem _ hline, h⟩

end Graft.Text
