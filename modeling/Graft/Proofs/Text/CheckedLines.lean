import Graft.Proofs.Text.Checked
import Graft.Proofs.Text.LineInsert

/-!
# The line index without faults

The lines of a text are found by the bytes of their breaks: from where one line starts the
next `\n` is looked for, and the byte ahead of it tells whether a `\r` belongs to the break.
That byte is read only where the line has one, so the index of every text is made without a
fault and has the edges of its lines (`indexLines_eq`). So is the ending that the text is
seen to have (`detect_eq`).
-/

namespace Graft

open Text

/-- Where a line starts, where its body ends and where the next line starts. -/
def Line.edges (line : Line) : Nat × Nat × Nat :=
  (line.start, line.stop, line.next)

namespace Text

variable {t last : Text} {c : Char}

theorem asciiByte_mem_bytes_iff {a : Char} (ha : a.toNat < 0x80) :
    asciiByte a ∈ bytes t ↔ a ∈ t := by
  simp only [bytes, List.mem_flatMap, asciiByte_mem_utf8EncodeChar_iff ha, exists_eq_right]

theorem utf8Size_of_ascii (hc : c.toNat < 0x80) : c.utf8Size = 1 := by
  rw [← String.length_utf8EncodeChar, utf8EncodeChar_of_ascii hc, List.length_singleton]

/-- The byte ahead of a cut tells whether an ASCII character is ahead of it. -/
theorem getElem?_bytes_ahead {a : Char} (ha : a.toNat < 0x80) (before after : Text) :
    (bytes (before ++ [c] ++ after))[byteSize (before ++ [c]) - 1]? = some (asciiByte a) ↔
      c = a := by
  have hpos := c.utf8Size_pos
  have hsize : byteSize (before ++ [c]) = byteSize before + c.utf8Size := byteSize_append before [c]
  rw [getElem?_bytes_eq_some_iff ha, charAt?_eq_some_iff]
  constructor
  · rintro ⟨front, back, heq, hfront⟩
    have hcut : byteSize (before ++ [c]) = byteSize (front ++ [a]) := by
      rw [byteSize_append front, hfront, byteSize_cons, utf8Size_of_ascii ha, byteSize_nil]
      omega
    rw [← List.append_assoc] at heq
    have hends := (append_inj_of_byteSize_eq heq hcut).1
    exact List.singleton_inj.mp (List.append_inj_right' hends rfl)
  · rintro rfl
    refine ⟨before, after, by simp, ?_⟩
    rw [hsize, utf8Size_of_ascii ha, Nat.add_sub_cancel]

theorem byteSize_terminatedPiece (last : Text) :
    byteSize (pieceText (terminatedPiece last)) = byteSize last + 1 ∧
      byteSize (terminatedPiece last).1 + (last.getLast? == some '\r').toNat = byteSize last := by
  by_cases hreturn : last.getLast? = some '\r'
  · obtain ⟨front, rfl⟩ := List.getLast?_eq_some_iff.mp hreturn
    rw [terminatedPiece, if_pos hreturn, pieceText, List.dropLast_concat, hreturn, byteSize_append,
      byteSize_append]
    exact ⟨rfl, rfl⟩
  · rw [terminatedPiece, if_neg hreturn, pieceText, byteSize_append, beq_false_of_ne hreturn]
    exact ⟨rfl, rfl⟩

theorem splitLines_unterminated (hfeed : '\n' ∉ last) (hne : last ≠ []) :
    splitLines last = [(last, none)] := by
  induction last with
  | nil => exact (hne rfl).elim
  | cons c last ih =>
      rw [List.mem_cons, not_or] at hfeed
      have hnext : c = '\r' → last.head? ≠ some '\n' := fun _ hhead =>
        hfeed.2 (List.mem_of_head? hhead)
      rw [splitLines_cons (Ne.symm hfeed.1) hnext]
      by_cases hnil : last = []
      · subst hnil
        rfl
      · rw [ih hfeed.2 hnil]

theorem detect_cons {rest : Text} (hfeed : c ≠ '\n') (hreturn : c = '\r' → rest.head? ≠ some '\n') :
    LineEnding.detect (c :: rest) = LineEnding.detect rest := by
  have hrest : ∀ tail, c = '\r' → rest = '\n' :: tail → False := by
    rintro tail hc rfl
    exact hreturn hc rfl
  exact LineEnding.detect.eq_4 c rest hfeed hrest

theorem detect_terminated (hfeed : '\n' ∉ last) (others : Text) :
    LineEnding.detect (last ++ '\n' :: others) =
      if last.getLast? == some '\r' then .crlf else .lf := by
  induction last with
  | nil => rfl
  | cons c last ih =>
      rw [List.mem_cons, not_or] at hfeed
      cases last with
      | nil =>
          by_cases hreturn : c = '\r'
          · subst hreturn
            rfl
          · have hnone : ([c].getLast? == some '\r') = false := by simpa using hreturn
            rw [hnone, List.cons_append, detect_cons (Ne.symm hfeed.1) (fun h => absurd h hreturn)]
            rfl
      | cons d last =>
          have hnext := head?_append_ne_feed hfeed.2 (List.cons_ne_nil d last) ('\n' :: others)
          rw [List.cons_append, detect_cons (Ne.symm hfeed.1) (fun _ => hnext), ih hfeed.2,
            List.getLast?_cons_cons]

theorem detect_unterminated (hfeed : '\n' ∉ last) : LineEnding.detect last = .lf := by
  fun_induction LineEnding.detect last with
  | case1 => rfl
  | case2 rest => rfl
  | case3 rest => exact (hfeed (by simp)).elim
  | case4 c rest _ _ ih => exact ih fun hmem => hfeed (List.mem_cons_of_mem c hmem)

end Text

namespace Checked

variable {t last : Text}

/-- Whether a `\r` stands ahead of a break, on the line that starts at `start`. -/
def returnAhead (bs : List UInt8) (start newline : Nat) : Checked Bool :=
  if start < newline then do
    let place ← minus newline 1
    let b ← item bs place
    return b == asciiByte '\r'
  else pure false

/-- Where the body of a line ends that starts at `start`, with its break at `newline`. -/
def bodyEnd (bs : List UInt8) (start newline : Nat) : Checked Nat := do
  let hasReturn ← returnAhead bs start newline
  if hasReturn then minus newline 1 else pure newline

/-- The edges of the lines from byte `start` on. -/
def indexLines (bs : List UInt8) (start : Nat) : Checked (List (Nat × Nat × Nat)) :=
  if start < bs.length then
    match (bs.drop start).findIdx? (· == asciiByte '\n') with
    | none => return [(start, bs.length, bs.length)]
    | some more => do
      let newline := start + more
      let stop ← bodyEnd bs start newline
      let others ← indexLines bs (newline + 1)
      return (start, stop, newline + 1) :: others
  else return []
termination_by bs.length - start

/-- The ending of the first terminated line; `lf` when no line is terminated. -/
def detect (t : Text) : Checked LineEnding :=
  match (bytes t).findIdx? (· == asciiByte '\n') with
  | none => return .lf
  | some newline => do
    let hasReturn ← returnAhead (bytes t) 0 newline
    return if hasReturn then .crlf else .lf

theorem findIdx?_eq_none (hfeed : '\n' ∉ t) :
    (bytes t).findIdx? (· == asciiByte '\n') = none := by
  rw [List.findIdx?_eq_none_iff]
  refine fun b hb => beq_false_of_ne fun h => hfeed ?_
  exact (asciiByte_mem_bytes_iff (by decide)).mp (h ▸ hb)

theorem findIdx?_feed (hfeed : '\n' ∉ last) (rest : Text) :
    (bytes (last ++ '\n' :: rest)).findIdx? (· == asciiByte '\n') = some (byteSize last) := by
  rw [bytes_append, List.findIdx?_append, findIdx?_eq_none hfeed, Option.none_or, bytes_cons,
    length_bytes, utf8EncodeChar_of_ascii (by decide), List.singleton_append, List.findIdx?_cons]
  simp

theorem returnAhead_eq (before last rest : Text) :
    returnAhead (bytes (before ++ (last ++ rest))) (byteSize before)
      (byteSize before + byteSize last) = pure (last.getLast? == some '\r') := by
  rcases List.eq_nil_or_concat' last with rfl | ⟨front, c, rfl⟩
  · exact if_neg (Nat.lt_irrefl _)
  · have hpos := byteSize_pos (List.concat_ne_nil c front)
    have hcut : before ++ (front ++ [c] ++ rest) = before ++ front ++ [c] ++ rest := by simp
    have hsize : byteSize before + byteSize (front ++ [c]) = byteSize (before ++ front ++ [c]) := by
      simp only [byteSize_append, Nat.add_assoc]
    have hplace : byteSize (before ++ front ++ [c]) - 1 <
        (bytes (before ++ front ++ [c] ++ rest)).length := by
      rw [length_bytes, byteSize_append _ rest]
      omega
    have hbyte := List.getElem?_eq_getElem hplace
    have hreturn := getElem?_bytes_ahead (c := c) (a := '\r') (by decide) (before ++ front) rest
    rw [hbyte, Option.some.injEq] at hreturn
    rw [returnAhead, if_pos (by omega), hsize, minus_eq (by omega), pure_bind, hcut, item_eq hbyte,
      pure_bind, List.getLast?_concat]
    congr 1
    rw [Bool.eq_iff_iff, beq_iff_eq, beq_iff_eq, hreturn, Option.some.injEq]

theorem bodyEnd_eq (before last rest : Text) :
    bodyEnd (bytes (before ++ (last ++ rest))) (byteSize before) (byteSize before + byteSize last) =
      pure (byteSize before + byteSize (terminatedPiece last).1) := by
  have hbody := (byteSize_terminatedPiece last).2
  rw [bodyEnd, returnAhead_eq, pure_bind, ← hbody, ← Nat.add_assoc]
  cases last.getLast? == some '\r' with
  | false => rfl
  | true =>
      rw [if_pos rfl, Bool.toNat_true, minus_eq (Nat.le_add_left _ _), Nat.add_sub_cancel]

/-- **The index of every text is made without a fault.** -/
theorem indexLines_eq (before rest : Text) :
    indexLines (bytes (before ++ rest)) (byteSize before) =
      pure ((layLines (byteSize before) (splitLines rest)).map Line.edges) := by
  have hdrop (before rest : Text) :
      (bytes (before ++ rest)).drop (byteSize before) = bytes rest := by
    rw [bytes_append, ← length_bytes, List.drop_left]
  have hlength (before rest : Text) : (bytes (before ++ rest)).length =
      byteSize before + byteSize rest := by
    rw [length_bytes, byteSize_append]
  induction hsize : rest.length using Nat.strong_induction_on generalizing before rest with
  | _ size ih =>
      subst hsize
      rw [indexLines, hdrop, hlength]
      by_cases hnil : rest = []
      · subst hnil
        exact if_neg (by simp)
      have hpos := byteSize_pos hnil
      rw [if_pos (by omega)]
      by_cases hfeed : '\n' ∈ rest
      · obtain ⟨last, others, rfl, hlast⟩ := List.eq_append_cons_of_mem hfeed
        have hless : others.length < (last ++ '\n' :: others).length := by simp; omega
        have hbreak : last ++ '\n' :: others = last ++ ['\n'] ++ others := by simp
        have hnext : byteSize before + byteSize last + 1 = byteSize (before ++ (last ++ ['\n'])) := by
          simp only [byteSize_append, Nat.add_assoc]
          rfl
        have hmore := ih _ hless (before ++ (last ++ ['\n'])) others rfl
        rw [List.append_assoc, ← hbreak, ← hnext] at hmore
        rw [findIdx?_feed hlast]
        dsimp only
        rw [bodyEnd_eq, pure_bind, hmore, hbreak, splitLines_append (.inr (by simp)),
          splitLines_terminated hlast, List.singleton_append, pure_bind]
        have hend := byteSize_pieceText (byteSize before) (terminatedPiece last)
        rw [(byteSize_terminatedPiece last).1, ← Nat.add_assoc] at hend
        rw [hend]
        rfl
      · rw [findIdx?_eq_none hfeed, splitLines_unterminated hfeed hnil]
        rfl

/-- **The line ending is told without a fault.** -/
theorem detect_eq (t : Text) : detect t = pure (LineEnding.detect t) := by
  rw [detect]
  by_cases hfeed : '\n' ∈ t
  · obtain ⟨last, others, rfl, hlast⟩ := List.eq_append_cons_of_mem hfeed
    have hahead := returnAhead_eq [] last ('\n' :: others)
    rw [List.nil_append, byteSize_nil, Nat.zero_add] at hahead
    rw [findIdx?_feed hlast, detect_terminated hlast]
    dsimp only
    rw [hahead, pure_bind]
  · rw [findIdx?_eq_none hfeed, detect_unterminated hfeed]

end Checked
end Graft
