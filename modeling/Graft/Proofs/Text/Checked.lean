import Mathlib.Data.List.Forall2
import Graft.Proofs.Text.LineEdges
import Graft.Proofs.Text.Utf8
import Graft.Text.Indent

/-!
# Computations that can fault

Offsets count bytes, and a program that cuts or reads a text at a wrong one stops. A
`Checked` computation says where that happens: it gives a value, gives none, or faults.
Here are the checked forms of what planning does with texts and lines, which look at bytes
and check every range before it is cut. None of them faults at offsets between characters
of the text, and each gives what the definition without checks gives.
-/

namespace Graft

open Text

/-! ## Faults -/

/-- Why a computation stops. -/
inductive Fault where
  /-- a range that is not one of whole characters of the text -/
  | range (start stop : Nat)
  /-- a range of bytes that are no text -/
  | encoding (start stop : Nat)
  /-- a place past the end -/
  | index (place : Nat)
  /-- a difference below zero -/
  | underflow
  deriving DecidableEq, Repr

/-- A computation that may give no value, or stop. -/
abbrev Checked (α : Type) : Type :=
  OptionT (Except Fault) α

namespace Checked

variable {α β : Type}

/-- A computation that stops. -/
def fault (why : Fault) : Checked α :=
  OptionT.mk (.error why)

/-- A computation that does not stop. -/
def known (value : Option α) : Checked α :=
  OptionT.mk (.ok value)

@[simp] theorem known_some (a : α) : known (some a) = pure a := rfl

theorem known_inj {a b : Option α} : known a = known b ↔ a = b :=
  ⟨fun h => Except.ok.inj (congrArg OptionT.run h), fun h => congrArg known h⟩

/-- What comes behind a computation that does not stop may take its value for granted. -/
theorem known_bind_eq {value : Option α} {f : α → Checked β} {g : α → Option β}
    (h : ∀ a, value = some a → f a = known (g a)) : known value >>= f = known (value >>= g) := by
  cases value with
  | none => rfl
  | some a => exact h a rfl

/-- The part of a text from byte `start` up to byte `stop`. -/
def slice (t : Text) (start stop : Nat) : Checked Text :=
  if start ≤ stop ∧ stop ≤ (bytes t).length ∧ isCharBoundary (bytes t) start = true ∧
      isCharBoundary (bytes t) stop = true then
    match decode? (((bytes t).drop start).take (stop - start)).toByteArray with
    | some part => pure part
    | none => fault (.encoding start stop)
  else fault (.range start stop)

/-- The difference of two numbers. -/
def minus (a b : Nat) : Checked Nat :=
  if b ≤ a then pure (a - b) else fault .underflow

/-- What stands at a place of a list. -/
def item (xs : List α) (place : Nat) : Checked α :=
  match xs[place]? with
  | some a => pure a
  | none => fault (.index place)

variable {t : Text} {start stop : Nat}

/-- **A range between characters is cut out without a fault.** -/
theorem slice_eq (hle : start ≤ stop) (hstart : IsBoundary t start) (hstop : IsBoundary t stop) :
    slice t start stop = pure (t.slice start stop) := by
  have hsize : stop ≤ (bytes t).length := by
    rw [length_bytes]
    exact hstop.le_byteSize
  rw [slice, if_pos ⟨hle, hsize, isCharBoundary_bytes_iff.mpr hstart,
    isCharBoundary_bytes_iff.mpr hstop⟩, ← bytes_slice hle hstart hstop, ← encode_eq, decode?_encode]

theorem slice_head {offset : Nat} (h : IsBoundary t offset) :
    slice t 0 offset = pure (t.takeBytes offset) := by
  have hdrop : t.dropBytes 0 = t := dropBytes_append_byteSize [] t
  rw [slice_eq (Nat.zero_le _) (isBoundary_zero t) h, Text.slice, hdrop, Nat.sub_zero]

theorem slice_tail {offset : Nat} (h : IsBoundary t offset) :
    slice t offset (bytes t).length = pure (t.dropBytes offset) := by
  rw [length_bytes, slice_eq h.le_byteSize h ⟨t, [], by simp, rfl⟩, Text.slice]
  obtain ⟨before, after, rfl, rfl⟩ := h
  have htake := takeBytes_append_byteSize after []
  rw [List.append_nil] at htake
  rw [dropBytes_append_byteSize, byteSize_append, Nat.add_sub_cancel_left, htake]

theorem minus_eq {a b : Nat} (h : b ≤ a) : minus a b = pure (a - b) :=
  if_pos h

theorem item_eq {xs : List α} {place : Nat} {a : α} (h : xs[place]? = some a) :
    item xs place = pure a := by
  rw [item, h]

/-! ## Searches -/

/-- The offset of the first `marker` at or past byte `start`. -/
def locate (t marker : Text) (start : Nat) : Option Nat :=
  if marker = [] ∨ isCharBoundary (bytes t) start = false then none
  else (findBytes (bytes marker) ((bytes t).drop start)).map (start + ·)

/-- The offset of the last `marker`. -/
def locateLast (t marker : Text) : Option Nat :=
  if marker = [] then none else findLastBytes (bytes marker) (bytes t)

/-- The offset of the first `marker` past the first `bound`; without a bound, of the first one. -/
def locateAfter (t marker : Text) : Option Text → Option Nat
  | none => locate t marker 0
  | some bound => do
    let found ← locate t bound 0
    locate t marker (found + (bytes bound).length)

theorem locate_eq (t marker : Text) (start : Nat) :
    locate t marker start = t.locate? marker start := by
  by_cases hne : marker = []
  · simp [locate, locate?, hne]
  by_cases hstart : IsBoundary t start
  · have hnone : ¬(marker = [] ∨ isCharBoundary (bytes t) start = false) := by
      simp [hne, isCharBoundary_bytes_iff.mpr hstart]
    rw [locate, if_neg hnone, locate?, if_neg (by simp [hne, hstart]), ← bytes_dropBytes hstart,
      findBytes_bytes hne]
  · have hnone : isCharBoundary (bytes t) start = false := by
      rwa [← Bool.not_eq_true, isCharBoundary_bytes_iff]
    rw [locate, if_pos (.inr hnone), locate?, if_pos (.inr hstart)]

theorem locateLast_eq (t marker : Text) : locateLast t marker = t.locateLast? marker := by
  rw [locateLast, locateLast?]
  split
  · rfl
  · rename_i hne
    exact findLastBytes_bytes hne t

theorem locateAfter_eq (t marker : Text) (bound : Option Text) :
    locateAfter t marker bound = t.locateAfter? marker bound := by
  cases bound with
  | none => exact locate_eq t marker 0
  | some bound => simp only [locateAfter, locateAfter?, locate_eq, length_bytes]

/-! ## The lines under a match -/

/-- Whether a byte is one of a line ending. -/
def isBreakByte (b : UInt8) : Bool :=
  b == asciiByte '\n' || b == asciiByte '\r'

/-- Where the breaks at the start of `size` bytes end. -/
def skipBreaks (t : Text) (start : Nat) : Nat → Checked Nat
  | 0 => pure start
  | size + 1 => do
    let b ← item (bytes t) start
    if isBreakByte b then skipBreaks t (start + 1) size else pure start

/-- Where the breaks at the end of `size` bytes start. -/
def dropBreaks (t : Text) (start : Nat) : Nat → Checked Nat
  | 0 => pure start
  | size + 1 => do
    let final ← minus (start + (size + 1)) 1
    let b ← item (bytes t) final
    if isBreakByte b then dropBreaks t start size else pure (start + (size + 1))

/-- The indices of the first and the last line that the bytes from `start` to `stop` show something
of. -/
def matchedLines (t : Text) (start stop : Nat) : Checked (Nat × Nat) := do
  let first ← skipBreaks t start (stop - start)
  let last ← dropBreaks t first (stop - first)
  if first = last then
    let line ← known (t.lineIndexAt? start)
    return (line, line)
  else
    let firstLine ← known (t.lineIndexAt? first)
    let final ← minus last 1
    let lastLine ← known (t.lineIndexAt? final)
    return (firstLine, lastLine)

theorem exists_byte {offset : Nat} (h : offset < byteSize t) :
    ∃ b, item (bytes t) offset = pure b ∧ isBreakByte b = breakAt t offset := by
  obtain ⟨b, hbyte⟩ : ∃ b, (bytes t)[offset]? = some b :=
    ⟨_, List.getElem?_eq_getElem (by rwa [length_bytes])⟩
  refine ⟨b, item_eq hbyte, ?_⟩
  have hchar {a : Char} (ha : a.toNat < 0x80) :
      (b == asciiByte a) = (charAt? t offset == some a) := by
    rw [Bool.eq_iff_iff, beq_iff_eq, beq_iff_eq, ← getElem?_bytes_eq_some_iff ha, hbyte,
      Option.some.injEq]
  rw [isBreakByte, breakAt, hchar (by decide), hchar (by decide)]

theorem skipBreaks_eq {size : Nat} (h : start + size ≤ byteSize t) :
    skipBreaks t start size = pure (start + leadingBreaks t start size) := by
  induction size generalizing start with
  | zero => rfl
  | succ size ih =>
      obtain ⟨b, hbyte, hbreak⟩ := exists_byte (show start < byteSize t by omega)
      rw [skipBreaks, hbyte, pure_bind, hbreak, leadingBreaks]
      split
      · rw [ih (by omega), Nat.add_right_comm, Nat.add_assoc]
      · rfl

theorem dropBreaks_eq {size : Nat} (h : start + size ≤ byteSize t) :
    dropBreaks t start size = pure (start + withoutFinalBreaks t start size) := by
  induction size with
  | zero => rfl
  | succ size ih =>
      obtain ⟨b, hbyte, hbreak⟩ := exists_byte (show start + size < byteSize t by omega)
      rw [dropBreaks, minus_eq (by omega), pure_bind, Nat.add_sub_assoc (by omega),
        Nat.add_sub_cancel, hbyte, pure_bind, hbreak, withoutFinalBreaks]
      split
      · exact ih (by omega)
      · rfl

/-- **The lines of a match inside a text are found without a fault.** -/
theorem matchedLines_eq (hle : start ≤ stop) (hstop : stop ≤ byteSize t) :
    matchedLines t start stop = known (t.matchedLines? start stop) := by
  have hfirst := leadingBreaks_le t start (stop - start)
  simp only [matchedLines, matchedLines?]
  rw [skipBreaks_eq (by omega), pure_bind]
  generalize leadingBreaks t start (stop - start) = skipped at hfirst
  rw [dropBreaks_eq (by omega), pure_bind]
  generalize withoutFinalBreaks t (start + skipped) (stop - (start + skipped)) = size
  by_cases hzero : size = 0
  · rw [if_pos (by omega), if_pos hzero, Option.map_eq_bind]
    exact known_bind_eq fun _ _ => rfl
  · rw [if_neg (by omega), if_neg hzero]
    refine known_bind_eq fun firstLine _ => ?_
    rw [minus_eq (by omega), pure_bind]
    exact known_bind_eq fun _ _ => rfl

/-! ## The texts of lines -/

/-- The line at an index, without its terminator. -/
def lineText (t : Text) (index : Nat) : Checked (Option Text) :=
  match t.lines[index]? with
  | none => pure none
  | some line => do
    let body ← slice t line.start line.stop
    return some body

/-- The spaces and tabs that a line starts with. -/
def leading (line : Text) : Checked Text := do
  let trimmed := line.trimStart isIndent
  let size ← minus (bytes line).length (bytes trimmed).length
  slice line 0 size

/-- The indentation of the line at `index`; none past the end. -/
def indentAt (t : Text) (index : Nat) : Checked Text := do
  match ← lineText t index with
  | some line => leading line
  | none => return []

/-- The first of the lines at `indices` that satisfies `p`, with its index. -/
def findLine (t : Text) (p : Text → Bool) : List Nat → Checked (Option (Nat × Text))
  | [] => pure none
  | index :: others => do
    match ← lineText t index with
    | some line => if p line then return some (index, line) else findLine t p others
    | none => findLine t p others

/-- One level of indentation. -/
def indentUnit (t : Text) : Checked Text := do
  let indented ← findLine t (fun line => line.head?.any isIndent && !line.isBlank)
    (List.range t.lines.length)
  match indented with
  | some (_, line) => return if line.head? = some '\t' then ['\t'] else [' ', ' ', ' ', ' ']
  | none => return [' ', ' ', ' ', ' ']

/-- The indentation of the line at `index` and one level more. -/
def nestedIndentAt (t : Text) (index : Nat) : Checked Text := do
  let indent ← indentAt t index
  let unit ← indentUnit t
  return indent ++ unit

theorem lineText_eq (t : Text) (index : Nat) :
    lineText t index = pure (t.lines[index]?.map Line.body) := by
  rw [lineText]
  cases hline : t.lines[index]? with
  | none => rfl
  | some line =>
      obtain ⟨hstart, hstop⟩ := isBoundary_line hline
      dsimp only
      rw [slice_eq (show line.start ≤ line.stop from Nat.le_add_right _ _) hstart hstop, pure_bind,
        slice_line hline, Option.map_some]

theorem leading_eq (line : Text) : leading line = pure (Text.leading line) := by
  have hsplit : Text.leading line ++ line.trimStart isIndent = line :=
    takeWhile_append_trimStart line isIndent
  have hsize := congrArg byteSize hsplit
  rw [byteSize_append] at hsize
  have hboundary : IsBoundary line (byteSize (Text.leading line)) := ⟨_, _, hsplit.symm, rfl⟩
  have htake := takeBytes_append_byteSize (Text.leading line) (line.trimStart isIndent)
  rw [hsplit] at htake
  simp only [leading, length_bytes]
  rw [minus_eq (by omega), pure_bind, ← hsize, Nat.add_sub_cancel, slice_head hboundary, htake]

theorem indentAt_eq {index : Nat} {line : Line} (h : t.lines[index]? = some line) :
    indentAt t index = pure line.indent := by
  rw [indentAt, lineText_eq, pure_bind, h]
  exact leading_eq line.body

/-- A search through some lines gives the first one of them. -/
theorem exists_findLine (p : Text → Bool) {indices : List Nat} {lines : List Line}
    (h : List.Forall₂ (fun index line => t.lines[index]? = some line) indices lines) :
    ∃ found, findLine t p indices = pure found ∧
      ((found = none ∧ lines.find? (fun line => p line.body) = none) ∨
        ∃ index line, found = some (index, line.body) ∧ t.lines[index]? = some line ∧
          lines.find? (fun line => p line.body) = some line) := by
  induction h with
  | nil => exact ⟨none, rfl, .inl ⟨rfl, rfl⟩⟩
  | @cons index line indices lines hline _ ih =>
      rw [findLine, lineText_eq, pure_bind, hline]
      by_cases hp : p line.body = true
      · have hfirst : (line :: lines).find? (fun line => p line.body) = some line :=
          List.find?_cons_of_pos hp
        exact ⟨_, if_pos hp, .inr ⟨index, line, rfl, hline, hfirst⟩⟩
      · have hlater : (line :: lines).find? (fun line => p line.body) =
            lines.find? fun line => p line.body :=
          List.find?_cons_of_neg hp
        obtain ⟨found, hfound, hcases⟩ := ih
        rw [hlater]
        exact ⟨found, (if_neg hp).trans hfound, hcases⟩

/-- Lines in a row have indices in a row. -/
theorem forall₂_range' {first count : Nat} (h : first + count ≤ t.lines.length) :
    List.Forall₂ (fun index line => t.lines[index]? = some line) (List.range' first count)
      ((t.lines.drop first).take count) := by
  rw [List.forall₂_iff_get]
  refine ⟨by simp; omega, fun i hi hi' => ?_⟩
  simp only [List.get_eq_getElem, List.getElem_range', List.getElem_take, List.getElem_drop,
    Nat.one_mul]
  exact List.getElem?_eq_getElem _

theorem indentUnit_eq (t : Text) : indentUnit t = pure t.indentUnit := by
  have hall : List.Forall₂ (fun index line => t.lines[index]? = some line)
      (List.range t.lines.length) t.lines := by
    have hrow := forall₂_range' (show 0 + t.lines.length ≤ t.lines.length by omega)
    rwa [List.drop_zero, List.take_length, ← List.range_eq_range'] at hrow
  obtain ⟨found, hfound, hcases⟩ :=
    exists_findLine (fun line => line.head?.any isIndent && !line.isBlank) hall
  rw [indentUnit, hfound, pure_bind, Text.indentUnit]
  rcases hcases with ⟨rfl, hnone⟩ | ⟨index, line, rfl, -, hsome⟩
  · rw [hnone]
  · rw [hsome]

theorem nestedIndentAt_eq {index : Nat} {line : Line} (h : t.lines[index]? = some line) :
    nestedIndentAt t index = pure (line.indent ++ t.indentUnit) := by
  rw [nestedIndentAt, indentAt_eq h, pure_bind, indentUnit_eq, pure_bind]

end Checked
end Graft
