import Graft.Proofs.Text.Position

/-!
# The bytes of a text

A character is a lead byte and continuation bytes behind it, and the two kinds are told
apart by the byte alone. So an offset stands between characters exactly where no
continuation byte follows (`isCharBoundary_bytes_iff`), an ASCII character stands
exactly where its byte does (`getElem?_bytes_eq_some_iff`), and a text that is not empty
is found byte by byte exactly where it is found character by character
(`findBytes_bytes`, `findLastBytes_bytes`).
-/

namespace Graft.Text

/-- The bytes of the UTF-8 form of a text. -/
def bytes (t : Text) : List UInt8 :=
  t.flatMap String.utf8EncodeChar

variable {t needle : Text} {c : Char} {offset start : Nat}

@[simp] theorem bytes_nil : bytes [] = [] := rfl

@[simp] theorem bytes_cons (c : Char) (t : Text) :
    bytes (c :: t) = String.utf8EncodeChar c ++ bytes t :=
  List.flatMap_cons

@[simp] theorem bytes_append (a b : Text) : bytes (a ++ b) = bytes a ++ bytes b :=
  List.flatMap_append

@[simp] theorem length_bytes (t : Text) : (bytes t).length = byteSize t := by
  induction t with
  | nil => rfl
  | cons c t ih =>
      rw [bytes_cons, List.length_append, String.length_utf8EncodeChar, ih, byteSize_cons]

/-- They are what is stored of the text. -/
theorem encode_eq (t : Text) : encode t = (bytes t).toByteArray := by
  simp [encode, String.toUTF8, bytes, List.utf8Encode]

/-! ## Lead and continuation bytes -/

/-- Whether a byte continues a character. -/
def isContinuation (b : UInt8) : Bool :=
  0x80 ≤ b.toNat && b.toNat < 0xC0

theorem isContinuation_ofNat {n : Nat} (h : n < 0x100) :
    isContinuation (UInt8.ofNat n) = (0x80 ≤ n && n < 0xC0) := by
  rw [isContinuation, UInt8.toNat_ofNat', Nat.mod_eq_of_lt h]

/-- A character is a lead byte with continuation bytes behind it. -/
theorem exists_utf8EncodeChar_eq (c : Char) :
    ∃ lead others, String.utf8EncodeChar c = lead :: others ∧ isContinuation lead = false ∧
      (0x80 ≤ c.toNat → 0xC0 ≤ lead.toNat) ∧ ∀ b ∈ others, isContinuation b = true := by
  have hlead {n : Nat} (hn : 0xC0 ≤ n ∧ n < 0x100) :
      isContinuation (UInt8.ofNat n) = false ∧ (0x80 ≤ c.toNat → 0xC0 ≤ (UInt8.ofNat n).toNat) := by
    rw [isContinuation_ofNat hn.2, UInt8.toNat_ofNat', Nat.mod_eq_of_lt hn.2]
    simp only [Bool.and_eq_false_iff, decide_eq_false_iff_not]
    omega
  have hother (n : Nat) : isContinuation (UInt8.ofNat (n % 0x40 + 0x80)) = true := by
    rw [isContinuation_ofNat (by omega)]
    simp only [Bool.and_eq_true, decide_eq_true_eq]
    omega
  fun_cases String.utf8EncodeChar c with
  | case1 v h =>
      refine ⟨_, _, rfl, ?_, fun hhigh => absurd (show 0x80 ≤ v from hhigh) (by omega), nofun⟩
      rw [isContinuation_ofNat (by omega)]
      simp only [Bool.and_eq_false_iff, decide_eq_false_iff_not]
      omega
  | case2 v _ h =>
      refine ⟨_, _, rfl, (hlead (by omega)).1, (hlead (by omega)).2, ?_⟩
      simp only [List.forall_mem_cons]
      exact ⟨hother _, nofun⟩
  | case3 v _ _ h =>
      refine ⟨_, _, rfl, (hlead (by omega)).1, (hlead (by omega)).2, ?_⟩
      simp only [List.forall_mem_cons]
      exact ⟨hother _, hother _, nofun⟩
  | case4 v _ _ _ =>
      refine ⟨_, _, rfl, (hlead (by omega)).1, (hlead (by omega)).2, ?_⟩
      simp only [List.forall_mem_cons]
      exact ⟨hother _, hother _, hother _, nofun⟩

/-- The first byte of a text is a lead byte. -/
theorem isContinuation_head {b : UInt8} (h : (bytes t).head? = some b) :
    isContinuation b = false := by
  cases t with
  | nil => cases h
  | cons c t =>
      obtain ⟨lead, others, hchar, hlead, -, -⟩ := exists_utf8EncodeChar_eq c
      rw [bytes_cons, hchar, List.cons_append, List.head?_cons, Option.some.injEq] at h
      exact h ▸ hlead

/-! ## Between characters -/

/-- Whether `offset` stands between characters, told by the byte there. -/
def isCharBoundary (bs : List UInt8) (offset : Nat) : Bool :=
  offset == 0 || offset == bs.length || bs[offset]?.any (!isContinuation ·)

theorem IsBoundary.le_byteSize (h : IsBoundary t offset) : offset ≤ byteSize t := by
  obtain ⟨before, after, rfl, rfl⟩ := h
  rw [byteSize_append]
  exact Nat.le_add_right _ _

theorem isBoundary_cons_iff :
    IsBoundary (c :: t) offset ↔
      offset = 0 ∨ c.utf8Size ≤ offset ∧ IsBoundary t (offset - c.utf8Size) := by
  have hpos := c.utf8Size_pos
  rw [isBoundary_iff, isBoundary_iff, takeBytes]
  split
  · rw [byteSize_cons]
    omega
  · rw [byteSize_nil]
    omega

/-- Inside a text the start of it needs no case of its own. -/
theorem isCharBoundary_bytes_eq (t : Text) (offset : Nat) : isCharBoundary (bytes t) offset =
    (offset == byteSize t || (bytes t)[offset]?.any (!isContinuation ·)) := by
  rw [isCharBoundary, length_bytes]
  by_cases hzero : offset = 0
  · subst hzero
    cases ht : bytes t with
    | nil =>
        have hsize : byteSize t = 0 := by rw [← length_bytes, ht, List.length_nil]
        simp [hsize]
    | cons b rest =>
        have hlead : isContinuation b = false := isContinuation_head (by rw [ht, List.head?_cons])
        simp [hlead]
  · rw [beq_false_of_ne hzero, Bool.false_or]

/-- **An offset stands between characters where no continuation byte follows.** -/
theorem isCharBoundary_bytes_iff :
    isCharBoundary (bytes t) offset = true ↔ IsBoundary t offset := by
  induction t generalizing offset with
  | nil =>
      rw [isCharBoundary_bytes_eq, isBoundary_iff, bytes_nil, List.getElem?_nil, Option.any_none,
        Bool.or_false, beq_iff_eq, takeBytes, byteSize_nil]
      exact eq_comm
  | cons c t ih =>
      have hpos := c.utf8Size_pos
      rw [isBoundary_cons_iff, ← ih, isCharBoundary_bytes_eq, isCharBoundary_bytes_eq, byteSize_cons,
        bytes_cons]
      obtain ⟨lead, others, hchar, hlead, -, hothers⟩ := exists_utf8EncodeChar_eq c
      have hsize := String.length_utf8EncodeChar c
      rcases Nat.lt_or_ge offset c.utf8Size with hlt | hge
      · -- behind the lead byte of the character its continuation bytes follow
        rw [List.getElem?_append_left (by omega), hchar]
        cases offset with
        | zero => simp [hlead]
        | succ offset =>
            rw [hchar, List.length_cons] at hsize
            obtain ⟨b, hbyte⟩ : ∃ b, others[offset]? = some b :=
              ⟨_, List.getElem?_eq_getElem (by omega)⟩
            have hcontinues := hothers b (List.mem_of_getElem? hbyte)
            rw [List.getElem?_cons_succ, hbyte, Option.any_some, hcontinues, Bool.not_true,
              Bool.or_false, beq_iff_eq]
            omega
      · rw [List.getElem?_append_right (by omega), hsize]
        have heq : (offset == c.utf8Size + byteSize t) = (offset - c.utf8Size == byteSize t) := by
          rw [Bool.eq_iff_iff, beq_iff_eq, beq_iff_eq]
          omega
        rw [heq, and_iff_right hge, or_iff_right (by omega)]

/-! ## Characters by their bytes -/

theorem utf8EncodeChar_append_inj {d : Char} {a b : List UInt8}
    (h : String.utf8EncodeChar c ++ a = String.utf8EncodeChar d ++ b) : c = d ∧ a = b := by
  have hfirst {e : Char} {rest : List UInt8} :
      (String.utf8EncodeChar e ++ rest).toByteArray.utf8DecodeChar? 0 = some e := by
    rw [List.toByteArray_append]
    exact ByteArray.utf8DecodeChar?_utf8EncodeChar_append
  have heq : some c = some d := by rw [← hfirst, h, hfirst]
  cases heq
  exact ⟨rfl, List.append_cancel_left h⟩

/-- A text starts with another one where its bytes do. -/
theorem bytes_prefix_iff : bytes needle <+: bytes t ↔ needle <+: t := by
  induction needle generalizing t with
  | nil => simp
  | cons c needle ih =>
      cases t with
      | nil => simp
      | cons d t =>
          rw [List.cons_prefix_cons, ← ih]
          constructor
          · rintro ⟨rest, h⟩
            rw [bytes_cons, bytes_cons, List.append_assoc] at h
            obtain ⟨rfl, hrest⟩ := utf8EncodeChar_append_inj h
            exact ⟨rfl, rest, hrest⟩
          · rintro ⟨rfl, hrest⟩
            rw [bytes_cons, bytes_cons, List.prefix_append_right_inj]
            exact hrest

/-! ## ASCII characters -/

/-- The byte of an ASCII character. -/
def asciiByte (c : Char) : UInt8 :=
  UInt8.ofNat c.toNat

theorem utf8EncodeChar_of_ascii (hc : c.toNat < 0x80) :
    String.utf8EncodeChar c = [asciiByte c] := by
  have hle : c.val.toNat ≤ 0x7f := Nat.le_of_lt_succ hc
  rw [String.utf8EncodeChar, if_pos hle]
  rfl

/-- The byte of an ASCII character is in no other character. -/
theorem asciiByte_mem_utf8EncodeChar_iff {a : Char} (ha : a.toNat < 0x80) :
    asciiByte a ∈ String.utf8EncodeChar c ↔ c = a := by
  constructor
  · intro h
    by_cases hc : c.toNat < 0x80
    · rw [utf8EncodeChar_of_ascii hc, List.mem_singleton] at h
      have hnat := congrArg UInt8.toNat h
      rw [asciiByte, asciiByte, UInt8.toNat_ofNat', UInt8.toNat_ofNat', Nat.mod_eq_of_lt (by omega),
        Nat.mod_eq_of_lt (by omega)] at hnat
      exact (Char.toNat_inj.mp hnat).symm
    · obtain ⟨lead, others, hchar, -, hlead, hothers⟩ := exists_utf8EncodeChar_eq c
      have hbyte : (asciiByte a).toNat < 0x80 := by
        rw [asciiByte, UInt8.toNat_ofNat', Nat.mod_eq_of_lt (by omega)]
        exact ha
      rw [hchar, List.mem_cons] at h
      rcases h with rfl | h
      · exact absurd (hlead (by omega)) (by omega)
      · have hcontinues := hothers _ h
        simp only [isContinuation, Bool.and_eq_true, decide_eq_true_eq] at hcontinues
        omega
  · rintro rfl
    rw [utf8EncodeChar_of_ascii ha]
    exact List.mem_singleton_self _

theorem getElem?_utf8EncodeChar_eq_some_iff {a : Char} (ha : a.toNat < 0x80) :
    (String.utf8EncodeChar c)[offset]? = some (asciiByte a) ↔ c = a ∧ offset = 0 := by
  constructor
  · intro h
    obtain rfl := (asciiByte_mem_utf8EncodeChar_iff ha).mp (List.mem_of_getElem? h)
    obtain ⟨hlt, -⟩ := List.getElem?_eq_some_iff.mp h
    rw [utf8EncodeChar_of_ascii ha, List.length_singleton] at hlt
    exact ⟨rfl, by omega⟩
  · rintro ⟨rfl, rfl⟩
    rw [utf8EncodeChar_of_ascii ha]
    rfl

/-- **An ASCII character stands where its byte does.** -/
theorem getElem?_bytes_eq_some_iff {a : Char} (ha : a.toNat < 0x80) :
    (bytes t)[offset]? = some (asciiByte a) ↔ charAt? t offset = some a := by
  induction t generalizing offset with
  | nil => simp [charAt?]
  | cons c t ih =>
      have hpos := c.utf8Size_pos
      have hsize := String.length_utf8EncodeChar c
      rw [bytes_cons, charAt?]
      rcases Nat.lt_or_ge offset c.utf8Size with hlt | hge
      · rw [List.getElem?_append_left (by omega), getElem?_utf8EncodeChar_eq_some_iff ha]
        split
        · rename_i hzero
          rw [and_iff_left hzero, Option.some.injEq]
        · rename_i hinside
          rw [if_neg (by omega)]
          simp [hinside]
      · rw [List.getElem?_append_right (by omega), hsize, if_neg (by omega), if_pos hge, ih]

/-- The first byte is the one of an ASCII character where the first character is that one. -/
theorem head?_bytes_eq_some_iff {a : Char} (ha : a.toNat < 0x80) :
    (bytes t).head? = some (asciiByte a) ↔ t.head? = some a := by
  rw [List.head?_eq_getElem?, getElem?_bytes_eq_some_iff ha]
  cases t with
  | nil => simp [charAt?]
  | cons c t => simp [charAt?]

/-! ## Searching bytes -/

/-- The place of the first run of bytes that is `needle`. -/
def findBytes (needle : List UInt8) : List UInt8 → Option Nat
  | [] => if needle.isEmpty then some 0 else none
  | b :: rest =>
    if needle.isPrefixOf (b :: rest) then some 0 else (findBytes needle rest).map (· + 1)

/-- The place of the last run of bytes that is `needle`. -/
def findLastBytes (needle : List UInt8) : List UInt8 → Option Nat
  | [] => if needle.isEmpty then some 0 else none
  | b :: rest =>
    match findLastBytes needle rest with
    | some place => some (place + 1)
    | none => if needle.isPrefixOf (b :: rest) then some 0 else none

theorem isPrefixOf_bytes : (bytes needle).isPrefixOf (bytes t) = needle.isPrefixOf t := by
  rw [Bool.eq_iff_iff, List.isPrefixOf_iff_prefix, List.isPrefixOf_iff_prefix, bytes_prefix_iff]

theorem bytes_ne_nil (hne : needle ≠ []) : bytes needle ≠ [] := by
  rw [← List.length_pos_iff, length_bytes]
  exact byteSize_pos hne

/-- A text that is not empty does not start at a continuation byte. -/
theorem isPrefixOf_bytes_cons {b : UInt8} (hne : needle ≠ []) (hb : isContinuation b = true)
    (rest : List UInt8) : (bytes needle).isPrefixOf (b :: rest) = false := by
  rw [← Bool.not_eq_true, List.isPrefixOf_iff_prefix]
  intro hstarts
  obtain ⟨lead, others, hbytes⟩ := List.exists_cons_of_ne_nil (bytes_ne_nil hne)
  have hlead : isContinuation lead = false := isContinuation_head (by rw [hbytes, List.head?_cons])
  rw [hbytes, List.cons_prefix_cons] at hstarts
  rw [hstarts.1, hb] at hlead
  cases hlead

/-- Continuation bytes are passed over. -/
theorem findBytes_append (hne : needle ≠ []) {others : List UInt8}
    (hothers : ∀ b ∈ others, isContinuation b = true) (rest : List UInt8) :
    findBytes (bytes needle) (others ++ rest) =
      (findBytes (bytes needle) rest).map (· + others.length) := by
  induction others with
  | nil => simp
  | cons b others ih =>
      rw [List.forall_mem_cons] at hothers
      rw [List.cons_append, findBytes, isPrefixOf_bytes_cons hne hothers.1, ih hothers.2,
        Option.map_map]
      rfl

theorem findLastBytes_append (hne : needle ≠ []) {others : List UInt8}
    (hothers : ∀ b ∈ others, isContinuation b = true) (rest : List UInt8) :
    findLastBytes (bytes needle) (others ++ rest) =
      (findLastBytes (bytes needle) rest).map (· + others.length) := by
  induction others with
  | nil => simp
  | cons b others ih =>
      rw [List.forall_mem_cons] at hothers
      rw [List.cons_append, findLastBytes, isPrefixOf_bytes_cons hne hothers.1, ih hothers.2]
      cases findLastBytes (bytes needle) rest with
      | none => rfl
      | some place => rfl

/-- **A text is found in the bytes of another one where it is found in its characters.** -/
theorem findBytes_bytes (hne : needle ≠ []) (t : Text) :
    findBytes (bytes needle) (bytes t) = occurrence? t needle := by
  induction t with
  | nil => simp [findBytes, occurrence?, bytes_ne_nil hne, hne]
  | cons c t ih =>
      obtain ⟨lead, others, hchar, -, -, hothers⟩ := exists_utf8EncodeChar_eq c
      have hsize := String.length_utf8EncodeChar c
      have hprefix : (bytes needle).isPrefixOf (bytes (c :: t)) = needle.isPrefixOf (c :: t) :=
        isPrefixOf_bytes
      rw [bytes_cons, hchar, List.cons_append] at hprefix ⊢
      rw [findBytes, hprefix, findBytes_append hne hothers, ih, occurrence?, Option.map_map,
        ← hsize, hchar]
      rfl

theorem findLastBytes_bytes (hne : needle ≠ []) (t : Text) :
    findLastBytes (bytes needle) (bytes t) = lastOccurrence? t needle := by
  induction t with
  | nil => simp [findLastBytes, lastOccurrence?, bytes_ne_nil hne, hne]
  | cons c t ih =>
      obtain ⟨lead, others, hchar, -, -, hothers⟩ := exists_utf8EncodeChar_eq c
      have hsize := String.length_utf8EncodeChar c
      have hprefix : (bytes needle).isPrefixOf (bytes (c :: t)) = needle.isPrefixOf (c :: t) :=
        isPrefixOf_bytes
      rw [bytes_cons, hchar, List.cons_append] at hprefix ⊢
      rw [findLastBytes, hprefix, findLastBytes_append hne hothers, ih, lastOccurrence?, ← hsize,
        hchar]
      cases lastOccurrence? t needle with
      | none => rfl
      | some place => rfl

/-- **A search for an ASCII character is a search for its byte.** -/
theorem findChar?_eq_findIdx? {a : Char} (ha : a.toNat < 0x80) (t : Text) (start : Nat) :
    findChar? (· == a) t start =
      (((bytes t).drop start).findIdx? (· == asciiByte a)).map (start + ·) := by
  induction t generalizing start with
  | nil => simp [findChar?]
  | cons c t ih =>
      have hsize := String.length_utf8EncodeChar c
      have hpos := c.utf8Size_pos
      rw [bytes_cons, List.drop_append, hsize, List.findIdx?_append, findChar?]
      split
      · rename_i hhit
        obtain rfl : c = a := beq_iff_eq.mp hhit.2
        simp [hhit.1, utf8EncodeChar_of_ascii ha]
      · rename_i hmiss
        -- what is left of the character has no such byte
        have hnone : ((String.utf8EncodeChar c).drop start).findIdx? (· == asciiByte a) = none := by
          rw [List.findIdx?_eq_none_iff]
          intro b hb
          refine beq_false_of_ne ?_
          rintro rfl
          obtain ⟨i, hi⟩ := List.mem_iff_getElem?.mp hb
          rw [List.getElem?_drop, getElem?_utf8EncodeChar_eq_some_iff ha] at hi
          exact hmiss ⟨by omega, beq_iff_eq.mpr hi.1⟩
        rw [hnone, Option.none_or, ih, Option.map_map, Option.map_map, List.length_drop, hsize]
        refine Option.map_congr fun place _ => ?_
        simp only [Function.comp_apply]
        omega

/-! ## Bytes of parts -/

theorem bytes_takeBytes (h : IsBoundary t offset) :
    bytes (takeBytes t offset) = (bytes t).take offset := by
  obtain ⟨before, after, rfl, rfl⟩ := h
  rw [takeBytes_append_byteSize, bytes_append, ← length_bytes, List.take_left]

theorem bytes_dropBytes (h : IsBoundary t offset) :
    bytes (dropBytes t offset) = (bytes t).drop offset := by
  obtain ⟨before, after, rfl, rfl⟩ := h
  rw [dropBytes_append_byteSize, bytes_append, ← length_bytes, List.drop_left]

/-- A slice between characters is the part of the text that lies between them. -/
theorem exists_slice {stop : Nat} (hle : start ≤ stop) (hstart : IsBoundary t start)
    (hstop : IsBoundary t stop) :
    ∃ before after, t = before ++ (slice t start stop ++ after) ∧ byteSize before = start ∧
      byteSize before + byteSize (slice t start stop) = stop := by
  obtain ⟨before, rest, rfl, rfl⟩ := hstart
  obtain ⟨front, after, heq, rfl⟩ := hstop
  obtain ⟨middle, rfl, rfl⟩ := exists_append_of_byteSize_le heq hle
  rw [byteSize_append, slice_append_append]
  exact ⟨before, after, rfl, rfl, rfl⟩

theorem bytes_slice {stop : Nat} (hle : start ≤ stop) (hstart : IsBoundary t start)
    (hstop : IsBoundary t stop) :
    bytes (slice t start stop) = ((bytes t).drop start).take (stop - start) := by
  obtain ⟨before, after, heq, hbefore, hsize⟩ := exists_slice hle hstart hstop
  generalize slice t start stop = middle at heq hsize
  subst heq
  have hstop' : stop - start = (bytes middle).length := by
    rw [length_bytes]
    omega
  rw [hstop', ← hbefore, bytes_append, bytes_append, ← length_bytes, List.drop_left, List.take_left]

end Graft.Text
