import Graft.Proofs.Text.Cut

/-!
# Nesting

Read from left to right, a text opens and closes blocks; `Delimiter.depth?` counts
how many are open behind it, and a text is balanced when it closes exactly what it
opens. The depth hangs on the delimiters alone, so blanks and line endings may come
and go. A block is found exactly where a balanced text stands between its two
delimiters (`findBlock?_eq_some_iff`).
-/

namespace Graft

open Text

/-! ## Depth -/

/-- How many blocks are open behind a text when `depth` of them are open before it. None where it
closes a block that nothing opened. -/
def Delimiter.depth? (d : Delimiter) : Nat → Text → Option Nat
  | depth, [] => some depth
  | depth, c :: rest =>
    if c = d.opener then d.depth? (depth + 1) rest
    else if c = d.closer then
      match depth with
      | 0 => none
      | depth + 1 => d.depth? depth rest
    else d.depth? depth rest

/-- The running depth is never negative and ends at zero. -/
def Delimiter.Balances (d : Delimiter) (t : Text) : Prop :=
  d.depth? 0 t = some 0

instance (d : Delimiter) (t : Text) : Decidable (d.Balances t) :=
  inferInstanceAs (Decidable (_ = _))

namespace Delimiter

variable {d : Delimiter} {depth : Nat}

theorem depth?_opener (rest : Text) :
    d.depth? depth (d.opener :: rest) = d.depth? (depth + 1) rest := by
  simp only [depth?, if_true]

theorem depth?_closer_zero (rest : Text) : d.depth? 0 (d.closer :: rest) = none := by
  simp only [depth?, if_neg d.opener_ne_closer.symm, if_true]

theorem depth?_closer_succ (rest : Text) :
    d.depth? (depth + 1) (d.closer :: rest) = d.depth? depth rest := by
  simp only [depth?, if_neg d.opener_ne_closer.symm, if_true]

theorem depth?_cons_of_ne {c : Char} (hopener : c ≠ d.opener) (hcloser : c ≠ d.closer)
    (rest : Text) : d.depth? depth (c :: rest) = d.depth? depth rest := by
  simp only [depth?, if_neg hopener, if_neg hcloser]

theorem depth?_append (a b : Text) :
    d.depth? depth (a ++ b) = (d.depth? depth a).bind (d.depth? · b) := by
  fun_induction d.depth? depth a with
  | case1 => rfl
  | case2 depth rest ih => rw [List.cons_append, depth?_opener, ih]
  | case3 rest => rw [List.cons_append, depth?_closer_zero, Option.bind_none]
  | case4 rest depth _ ih => rw [List.cons_append, depth?_closer_succ, ih]
  | case5 depth c rest hopener hcloser ih =>
      rw [List.cons_append, depth?_cons_of_ne hopener hcloser, ih]

/-- Blocks that are open around a text stay open behind it. -/
theorem depth?_add {t : Text} {after : Nat} (h : d.depth? depth t = some after) (outer : Nat) :
    d.depth? (depth + outer) t = some (after + outer) := by
  fun_induction d.depth? depth t with
  | case1 =>
      cases h
      rfl
  | case2 depth rest ih =>
      rw [depth?_opener, Nat.add_right_comm]
      exact ih h
  | case3 => cases h
  | case4 rest depth _ ih =>
      rw [Nat.succ_add, depth?_closer_succ]
      exact ih h
  | case5 depth c rest hopener hcloser ih =>
      rw [depth?_cons_of_ne hopener hcloser]
      exact ih h

/-! ## Delimiters alone -/

/-- Whether a character opens or closes a block. -/
def marks (d : Delimiter) (c : Char) : Bool :=
  c == d.opener || c == d.closer

/-- The depth hangs on the delimiters of a text alone. -/
theorem depth?_filter_marks (t : Text) : d.depth? depth (t.filter d.marks) = d.depth? depth t := by
  fun_induction d.depth? depth t with
  | case1 => rfl
  | case2 depth rest ih =>
      rw [List.filter_cons_of_pos (by simp [marks]), depth?_opener, ih]
  | case3 rest => rw [List.filter_cons_of_pos (by simp [marks]), depth?_closer_zero]
  | case4 rest depth _ ih =>
      rw [List.filter_cons_of_pos (by simp [marks]), depth?_closer_succ, ih]
  | case5 depth c rest hopener hcloser ih =>
      rw [List.filter_cons_of_neg (by simp [marks, hopener, hcloser]), ih]

theorem balances_iff_of_filter_eq {a b : Text} (h : a.filter d.marks = b.filter d.marks) :
    d.Balances a ↔ d.Balances b := by
  unfold Balances
  rw [← depth?_filter_marks a, h, depth?_filter_marks]

/-- A balanced text that goes into a balanced text leaves it balanced. -/
theorem Balances.insert {a b middle : Text} (h : d.Balances (a ++ b))
    (hmiddle : d.Balances middle) : d.Balances (a ++ middle ++ b) := by
  unfold Balances at h hmiddle ⊢
  rw [depth?_append] at h
  obtain ⟨depth, ha, hb⟩ := Option.bind_eq_some_iff.mp h
  have hback : d.depth? depth middle = some depth := by
    simpa using depth?_add hmiddle depth
  rw [depth?_append, depth?_append, ha, Option.bind_some, hback, Option.bind_some, hb]

end Delimiter

/-! ## A text with a block -/

section Parts

variable (d : Delimiter) (before body after : Text)

theorem byteSize_block : byteSize (before ++ d.opener :: body ++ d.closer :: after) =
    byteSize before + 1 + byteSize body + 1 + byteSize after := by
  simp only [byteSize_append, byteSize_cons, utf8Size_opener, utf8Size_closer]
  omega

theorem takeBytes_block : takeBytes (before ++ d.opener :: body ++ d.closer :: after)
    (byteSize before + 1) = before ++ [d.opener] := by
  have hsize : byteSize before + 1 = byteSize (before ++ [d.opener]) := by
    simp [utf8Size_opener]
  have hcut : before ++ d.opener :: body ++ d.closer :: after =
      before ++ [d.opener] ++ (body ++ d.closer :: after) := by simp
  rw [hsize, hcut, takeBytes_append_byteSize]

theorem dropBytes_block : dropBytes (before ++ d.opener :: body ++ d.closer :: after)
    (byteSize before + 1 + byteSize body) = d.closer :: after := by
  have hsize : byteSize before + 1 + byteSize body = byteSize (before ++ d.opener :: body) := by
    simp [utf8Size_opener, Nat.add_assoc]
  rw [hsize, dropBytes_append_byteSize]

theorem slice_block : slice (before ++ d.opener :: body ++ d.closer :: after)
    (byteSize before + 1) (byteSize before + 1 + byteSize body) = body := by
  have hsize : byteSize before + 1 = byteSize (before ++ [d.opener]) := by
    simp [utf8Size_opener]
  have hcut : before ++ d.opener :: body ++ d.closer :: after =
      before ++ [d.opener] ++ (body ++ d.closer :: after) := by simp
  rw [hsize, hcut, slice_append_append]

end Parts

/-! ## Blocks -/

variable {d : Delimiter} {offset inner : Nat}

/-- A scan for the closing delimiter passes a text and keeps count of its depth. -/
theorem closing?_append {t : Text} {after : Nat} (h : d.depth? inner t = some after) (rest : Text) :
    closing? d offset inner (t ++ rest) = closing? d (offset + byteSize t) after rest := by
  fun_induction d.depth? inner t generalizing offset with
  | case1 =>
      cases h
      rfl
  | case2 inner t ih =>
      simp only [List.cons_append, closing?, if_true]
      rw [ih h, byteSize_cons, Nat.add_assoc]
  | case3 => cases h
  | case4 t inner hopener ih =>
      simp only [List.cons_append, closing?, if_neg hopener, if_true]
      rw [ih h, byteSize_cons, Nat.add_assoc]
  | case5 inner c t hopener hcloser ih =>
      simp only [List.cons_append, closing?, if_neg hopener, if_neg hcloser]
      rw [ih h, byteSize_cons, Nat.add_assoc]

/-- A scan stops at the first closing delimiter before which no block is open any more. -/
theorem closing?_eq_some_iff {t : Text} {closes : Nat} :
    closing? d offset inner t = some closes ↔
      ∃ body after, t = body ++ d.closer :: after ∧ d.depth? inner body = some 0 ∧
        closes = offset + byteSize body := by
  constructor
  · intro h
    fun_induction closing? d offset inner t with
    | case1 => cases h
    | case2 offset inner rest ih =>
        obtain ⟨body, after, rfl, hdepth, rfl⟩ := ih h
        exact ⟨d.opener :: body, after, rfl, by rw [Delimiter.depth?_opener, hdepth],
          by rw [byteSize_cons, Nat.add_assoc]⟩
    | case3 offset rest hopener =>
        cases h
        exact ⟨[], rest, rfl, rfl, rfl⟩
    | case4 offset rest inner hopener ih =>
        obtain ⟨body, after, rfl, hdepth, rfl⟩ := ih h
        exact ⟨d.closer :: body, after, rfl, by rw [Delimiter.depth?_closer_succ, hdepth],
          by rw [byteSize_cons, Nat.add_assoc]⟩
    | case5 offset inner c rest hopener hcloser ih =>
        obtain ⟨body, after, rfl, hdepth, rfl⟩ := ih h
        exact ⟨c :: body, after, rfl, by rw [Delimiter.depth?_cons_of_ne hopener hcloser, hdepth],
          by rw [byteSize_cons, Nat.add_assoc]⟩
  · rintro ⟨body, after, rfl, hdepth, rfl⟩
    rw [closing?_append hdepth]
    simp only [closing?, if_neg d.opener_ne_closer.symm, if_true]

/-- **A block is found where a balanced text stands between the first opening delimiter and a
closing one.** -/
theorem findBlock?_eq_some_iff {t : Text} {start opens closes : Nat} :
    findBlock? t start d = some (opens, closes) ↔
      findOpen? t start d = some opens ∧ ∃ before body after,
        t = before ++ d.opener :: body ++ d.closer :: after ∧ d.Balances body ∧
          opens = byteSize before ∧ closes = byteSize before + 1 + byteSize body := by
  simp only [findBlock?, Option.bind_eq_bind, Option.bind_eq_some_iff, Option.pure_def,
    Option.some.injEq, Prod.mk.injEq]
  -- behind its opening delimiter a block is scanned from depth zero
  have hscan (before rest : Text) : findClose? (before ++ d.opener :: rest) (byteSize before) d =
      closing? d (byteSize before + 1) 0 rest := by
    have hsize : byteSize (before ++ [d.opener]) = byteSize before + 1 := by
      simp [utf8Size_opener]
    have hcut : before ++ d.opener :: rest = before ++ [d.opener] ++ rest := by simp
    rw [findClose?, charAt?_append_cons, if_pos rfl, ← hsize, hcut, dropBytes_append_byteSize]
  constructor
  · rintro ⟨found, hopen, closed, hclose, rfl, rfl⟩
    obtain ⟨before, c, rest, rfl, rfl, hc⟩ := findChar?_eq_some hopen
    obtain rfl : c = d.opener := by simpa using hc
    rw [hscan, closing?_eq_some_iff] at hclose
    obtain ⟨body, after, rfl, hdepth, rfl⟩ := hclose
    exact ⟨hopen, before, body, after, by simp, hdepth, rfl, rfl⟩
  · rintro ⟨hopen, before, body, after, rfl, hbody, rfl, rfl⟩
    refine ⟨_, hopen, _, ?_, rfl, rfl⟩
    rw [List.append_assoc, List.cons_append, hscan, closing?_eq_some_iff]
    exact ⟨body, after, rfl, hbody, rfl⟩

/-- **Another balanced text in place of a block's body leaves the block where it was**, its closing
delimiter moved with the size of the body. -/
theorem findBlock?_body {before body after : Text} {start : Nat}
    (h : findOpen? (before ++ d.opener :: body ++ d.closer :: after) start d =
      some (byteSize before)) {other : Text} (hother : d.Balances other) :
    findBlock? (before ++ d.opener :: other ++ d.closer :: after) start d =
      some (byteSize before, byteSize before + 1 + byteSize other) := by
  rw [findBlock?_eq_some_iff]
  refine ⟨?_, before, other, after, rfl, hother, rfl, rfl⟩
  rw [List.append_assoc, List.cons_append] at h ⊢
  exact findChar?_append_cons h _

end Graft
