import Graft.Proofs.Block.Gap

/-!
# Entries that gather in a block

A block that is filled line by line stays one block: each entry goes behind the last one
at the end of the body, or ahead of the last one at the start of it, at one indentation
(`block_insertions_accumulate`). A single entry keeps what the next one hangs on
(`resolve?_end_insert`, `resolve?_start_insert`): the block is found again, and what the
indentation is taken from is from now on the entry itself, which has it.
-/

namespace Graft

open Text

/-! ## Entries -/

/-- A line that may go into a block of the delimiter, written without indentation. -/
structure IsEntry (d : Delimiter) (entry : Text) : Prop where
  shows : Text.isBlank entry = false
  feed_notMem : '\n' ∉ entry
  not_indented : entry.head?.any isIndent = false
  balances : d.Balances entry

instance (d : Delimiter) (entry : Text) : Decidable (IsEntry d entry) :=
  decidable_of_iff (Text.isBlank entry = false ∧ '\n' ∉ entry ∧
      entry.head?.any isIndent = false ∧ d.Balances entry)
    ⟨fun ⟨hshows, hfeed, hindented, hbalances⟩ => ⟨hshows, hfeed, hindented, hbalances⟩,
      fun h => ⟨h.shows, h.feed_notMem, h.not_indented, h.balances⟩⟩

/-- The lines that entries make in a text. -/
def written (indent : Text) (ending : LineEnding) (entries : List Text) : Text :=
  entries.flatMap fun entry => indent ++ entry ++ ending.text

/-- What becomes of a text when entries are spliced in where an anchor resolves to, one after
another. -/
def accumulated? (anchor : Anchor) : Text → List Text → Option Text
  | t, [] => some t
  | t, entry :: entries => do
    let point ← resolve? t anchor
    accumulated? anchor (splice t point [entry]) entries

/-- A block that stays where it is, while its end moves `size` bytes on. -/
structure Block.Grows (size : Nat) (block grown : Block) : Prop where
  opens_eq : grown.opens = block.opens
  openLine_eq : grown.openLine = block.openLine
  closes_eq : grown.closes = block.closes + size
  closeLine_eq : grown.closeLine = block.closeLine.moved size

/-- Both texts have the block, which is `size` bytes longer in the second. -/
def GrowsBlock (header : Text) (d : Delimiter) (size : Nat) (t r : Text) : Prop :=
  ∃ block grown, Block.find? t header d = some block ∧ Block.find? r header d = some grown ∧
    block.Grows size grown

variable {t r header a b indent entry : Text} {d : Delimiter} {block grown : Block}
  {ending : LineEnding}

theorem GrowsBlock.refl (h : Block.find? t header d = some block) :
    GrowsBlock header d 0 t t :=
  ⟨block, block, h, h, rfl, rfl, rfl, rfl⟩

theorem GrowsBlock.trans {first second : Nat} {s : Text} (h : GrowsBlock header d first t s)
    (h' : GrowsBlock header d second s r) : GrowsBlock header d (first + second) t r := by
  obtain ⟨block, middle, hblock, hmiddle, hgrows⟩ := h
  obtain ⟨middle', grown, hmiddle', hgrown, hgrows'⟩ := h'
  obtain rfl := Option.some.inj (hmiddle.symm.trans hmiddle')
  refine ⟨block, grown, hblock, hgrown, ?_, ?_, ?_, ?_⟩
  · rw [hgrows'.opens_eq, hgrows.opens_eq]
  · rw [hgrows'.openLine_eq, hgrows.openLine_eq]
  · rw [hgrows'.closes_eq, hgrows.closes_eq, Nat.add_assoc]
  · rw [hgrows'.closeLine_eq, hgrows.closeLine_eq, Line.moved_moved]

/-! ## The line of an entry -/

namespace IsEntry

theorem ne_nil (h : IsEntry d entry) : entry ≠ [] := by
  rintro rfl
  cases h.shows

theorem balances_written (h : IsEntry d entry) (hindent : indent.all isIndent = true)
    (ending : LineEnding) : d.Balances (indent ++ entry ++ ending.text) := by
  refine (Delimiter.balances_iff_of_filter_eq ?_).mpr h.balances
  rw [List.filter_append, List.filter_append, filter_marks_of_all_isIndent d hindent,
    filter_marks_text, List.nil_append, List.append_nil]

variable {line : Line} (h : IsEntry d entry) (hline : line.text = indent ++ entry ++ ending.text)

include h hline

/-- The line of an entry is indented as it was written. -/
theorem indent_eq (hindent : indent.all isIndent = true) : line.indent = indent := by
  have hleading : leading (line.text ++ []) = line.indent :=
    leading_text_append line fun _ => rfl
  rw [← hleading, hline, List.append_nil, List.append_assoc, leading,
    List.takeWhile_append_of_pos (List.all_eq_true.mp hindent)]
  cases entry with
  | nil => cases h.ne_nil rfl
  | cons c entry =>
      have hc : isIndent c = false := by simpa using h.not_indented
      rw [List.cons_append, List.takeWhile_cons_of_neg (by simp [hc]), List.append_nil]

theorem isBlank_eq : line.isBlank = false := by
  have hending : Text.isBlank line.ending = true := by
    cases hterminator : line.terminator with
    | none => simp [Line.ending, hterminator, Text.isBlank]
    | some ending => cases ending <;> simp [Line.ending, hterminator] <;> rfl
  have hblank : line.isBlank = Text.isBlank line.text := by
    rw [Line.isBlank, Line.text, Text.isBlank, Text.isBlank, List.all_append, ← Text.isBlank,
      ← Text.isBlank, hending, Bool.and_true]
  have hshows : entry.all isSpace = false := h.shows
  rw [hblank, hline, Text.isBlank, List.all_append, List.all_append, hshows, Bool.and_false,
    Bool.false_and]

end IsEntry

/-! ## One entry in a gap -/

namespace Gap

theorem feed_mem (h : Gap header d a b block) : '\n' ∈ a := by
  obtain ⟨front, rfl⟩ := h.exists_feed
  simp

theorem spansLines (h : Gap header d a b block) : block.spansLines = true := by
  obtain ⟨-, -, hopenStart, hopenNext, -, -⟩ := Block.bounds h.found
  have hopenLine := h.openLine_le
  have hcloseLine := h.le_closeLine
  rw [Block.spansLines, decide_eq_true_eq]
  omega

/-- An entry makes one more line of the body, that shows and is indented as the entry is. -/
theorem exists_grows (h : Gap header d a b block) (hheader : '\n' ∉ header)
    (hentry : IsEntry d entry) (hindent : indent.all isIndent = true) (ending : LineEnding) :
    ∃ front line back grown, block.body = front ++ back ∧ (∀ l ∈ front, l.start < byteSize a) ∧
      (∀ l ∈ back, byteSize a ≤ l.start) ∧ line.indent = indent ∧ line.isBlank = false ∧
      Block.find? (a ++ (indent ++ entry ++ ending.text) ++ b) header d = some grown ∧
      block.Grows (byteSize (indent ++ entry ++ ending.text)) grown ∧
      ∃ moved, grown.body = front ++ line :: moved ∧ (back = [] → moved = []) := by
  obtain ⟨stem, hstem, hfeed⟩ : ∃ stem, ending.text = stem ++ ['\n'] ∧ '\n' ∉ stem := by
    cases ending
    · exact ⟨[], rfl, by simp⟩
    · exact ⟨['\r'], rfl, by decide⟩
  have hbody : '\n' ∉ indent ++ entry ++ stem := by
    simp only [List.mem_append, not_or]
    exact ⟨⟨fun hmem => absurd (List.all_eq_true.mp hindent _ hmem) (by decide),
      hentry.feed_notMem⟩, hfeed⟩
  have hadded : indent ++ entry ++ ending.text = indent ++ entry ++ stem ++ ['\n'] := by
    rw [hstem, ← List.append_assoc]
  have hbalances := hentry.balances_written hindent ending
  rw [hadded] at hbalances
  obtain ⟨front, line, back, hsplit, hfront, hback, htext, hfind⟩ :=
    h.exists_find?_insert hheader hbody hbalances
  rw [← hadded] at htext hfind
  exact ⟨front, line, back, _, hsplit, hfront, hback, hentry.indent_eq htext hindent,
    hentry.isBlank_eq htext, hfind, ⟨rfl, rfl, rfl, rfl⟩, _, rfl, by rintro rfl; rfl⟩

section Grown

variable (h : Gap header d a b block) {middle : Text} (hgrows : block.Grows (byteSize middle) grown)

include h hgrows

theorem spansLines_of_grows : grown.spansLines = true := by
  have hspans := h.spansLines
  rw [Block.spansLines, decide_eq_true_eq] at hspans ⊢
  rw [hgrows.openLine_eq, hgrows.closeLine_eq, Line.moved_start]
  omega

theorem afterOpen_of_grows :
    grown.afterOpen (a ++ middle ++ b) = block.afterOpen (a ++ b) := by
  obtain ⟨-, -, -, hopenNext, -, -⟩ := Block.bounds h.found
  have hopenLine := h.openLine_le
  have hstop : block.openLine.stop ≤ block.openLine.next := Nat.le_add_right _ _
  rw [Block.afterOpen, Block.afterOpen, hgrows.opens_eq, hgrows.openLine_eq, List.append_assoc,
    slice_append_of_le (by omega) (by omega), slice_append_of_le (by omega) (by omega)]

theorem beforeClose_of_grows :
    grown.beforeClose (a ++ middle ++ b) = block.beforeClose (a ++ b) := by
  obtain ⟨-, -, -, -, hcloseStart, -⟩ := Block.bounds h.found
  have hcloseLine := h.le_closeLine
  obtain ⟨start, hstart⟩ := Nat.exists_eq_add_of_le hcloseLine
  obtain ⟨stop, hstop⟩ := Nat.exists_eq_add_of_le (hcloseLine.trans hcloseStart)
  have hstart' : byteSize a + start + byteSize middle = byteSize (a ++ middle) + start := by
    rw [byteSize_append]
    omega
  have hstop' : byteSize a + stop + byteSize middle = byteSize (a ++ middle) + stop := by
    rw [byteSize_append]
    omega
  rw [Block.beforeClose, Block.beforeClose, h.spansLines, h.spansLines_of_grows hgrows, if_pos rfl,
    if_pos rfl, hgrows.closeLine_eq, hgrows.closes_eq, Line.moved_start, hstart, hstop, hstart',
    hstop', slice_append_add, slice_append_add]

end Grown
end Gap

/-! ## Points at the start of a line -/

/-- A point at the start of a line cuts its text there. -/
theorem exists_cut_of_resolve? {anchor : Anchor} {offset : Nat}
    (h : resolve? t anchor = some { offset, indent, placement := .lineStart }) :
    ∃ a b, t = a ++ b ∧ offset = byteSize a ∧ AtLineStart a ∧ indent.all isIndent = true := by
  cases cut_of_resolve? h with
  | lineStart heq hstart hindent => exact ⟨_, _, heq, rfl, hstart, hindent⟩

theorem atLineStart_of_resolve? {anchor : Anchor}
    (h : resolve? (a ++ b) anchor = some { offset := byteSize a, indent, placement := .lineStart }) :
    AtLineStart a ∧ indent.all isIndent = true := by
  obtain ⟨a', b', heq, hsize, hstart, hindent⟩ := exists_cut_of_resolve? h
  obtain ⟨rfl, rfl⟩ := append_inj_of_byteSize_eq heq hsize
  exact ⟨hstart, hindent⟩

theorem Block.openLine_next_le (h : Block.find? t header d = some block)
    (hspans : block.spansLines = true) : block.openLine.next ≤ block.closeLine.start := by
  obtain ⟨hinside, hend, -⟩ := Block.bounds h
  exact (Block.line_bounds h (by omega) hend).2.2 hspans

theorem Block.endPoint_eq_lineStart {offset : Nat}
    (h : block.endPoint t = { offset, indent, placement := .lineStart }) :
    Text.isBlank (block.beforeClose t) = true ∧ block.spansLines = true ∧
      offset = block.closeLine.start := by
  simp only [Block.endPoint] at h
  split at h
  · rename_i hspans
    exact ⟨hspans.1, hspans.2, (congrArg Point.offset h).symm⟩
  · cases congrArg Point.placement h

theorem Block.startPoint_eq_lineStart {offset : Nat}
    (h : block.startPoint t d = { offset, indent, placement := .lineStart }) :
    Text.isBlank (block.afterOpen t) = true ∧ block.spansLines = true ∧
      offset = block.openLine.next := by
  simp only [Block.startPoint] at h
  split at h
  · rename_i hspans
    exact ⟨hspans.1, hspans.2, (congrArg Point.offset h).symm⟩
  · cases congrArg Point.placement h

/-! ## One entry -/

/-- A text with a line feed tells how it ends its lines, whatever follows it. -/
theorem LineEnding.detect_append (h : '\n' ∈ a) (b : Text) : detect (a ++ b) = detect a := by
  fun_induction detect a with
  | case1 => cases h
  | case2 rest => rfl
  | case3 rest => rfl
  | case4 c rest hfeed hreturn ih =>
      have hrest : '\n' ∈ rest := by
        rcases List.mem_cons.mp h with hc | hrest
        · exact absurd hc.symm hfeed
        · exact hrest
      rw [List.cons_append, detect, ih hrest]
      · exact hfeed
      · rintro tail rfl hc
        cases rest with
        | nil => cases hrest
        | cons c' rest =>
            obtain ⟨rfl, -⟩ := List.cons.inj hc
            exact hreturn rest rfl rfl

theorem splice_entry (hentry : IsEntry d entry) :
    splice (a ++ b) { offset := byteSize a, indent, placement := .lineStart } [entry] =
      a ++ (indent ++ entry ++ (LineEnding.detect (a ++ b)).text) ++ b := by
  rw [splice_lineStart, renderFragment_singleton hentry.ne_nil, List.append_assoc a]

/-- **An entry at the end of a block**: the next one goes behind it, as far to the right. -/
theorem resolve?_end_insert (hheader : '\n' ∉ header) (hentry : IsEntry d entry)
    (h : resolve? (a ++ b) (.blockBodyEnd header d) =
      some { offset := byteSize a, indent, placement := .lineStart }) (ending : LineEnding) :
    '\n' ∈ a ∧
      resolve? (a ++ (indent ++ entry ++ ending.text) ++ b) (.blockBodyEnd header d) =
        some { offset := byteSize (a ++ (indent ++ entry ++ ending.text)), indent,
               placement := .lineStart } ∧
      GrowsBlock header d (byteSize (indent ++ entry ++ ending.text)) (a ++ b)
        (a ++ (indent ++ entry ++ ending.text) ++ b) := by
  obtain ⟨hstart, hindent⟩ := atLineStart_of_resolve? h
  obtain ⟨block, hblock, hpoint⟩ := Option.map_eq_some_iff.mp h
  obtain ⟨hbefore, hspans, hoffset⟩ := Block.endPoint_eq_lineStart hpoint
  have hgap : Gap header d a b block :=
    ⟨hblock, hstart, by rw [hoffset]; exact Block.openLine_next_le hblock hspans, hoffset.le⟩
  obtain ⟨front, line, back, grown, hbody, -, hback, hlineIndent, hlineShows, hgrown, hgrows,
    moved, hbody', hmoved⟩ := hgap.exists_grows hheader hentry hindent ending
  -- the body ends where the entry comes in, so the entry is the last line of it
  obtain rfl : back = [] := List.eq_nil_iff_forall_not_mem.mpr fun l hl => by
    obtain ⟨-, hlt, hle⟩ := Block.body_bounds hblock (hbody ▸ List.mem_append_right front hl)
    have := hback l hl
    omega
  rw [hmoved rfl] at hbody'
  have hlast : grown.body.reverse.find? (fun line => !line.isBlank) = some line := by
    rw [hbody', List.reverse_append, List.reverse_singleton, List.singleton_append,
      List.find?_cons_of_pos (by simp [hlineShows])]
  refine ⟨hgap.feed_mem, ?_, block, grown, hblock, hgrown, hgrows⟩
  rw [← hgap.beforeClose_of_grows hgrows] at hbefore
  rw [resolve?, hgrown, Option.map_some, Block.endPoint,
    if_pos ⟨hbefore, hgap.spansLines_of_grows hgrows⟩, hlast, hgrows.closeLine_eq,
    Line.moved_start, byteSize_append a, hoffset, ← hlineIndent]

/-- **An entry at the start of a block**: the next one goes ahead of it, as far to the right. -/
theorem resolve?_start_insert (hheader : '\n' ∉ header) (hentry : IsEntry d entry)
    (h : resolve? (a ++ b) (.blockBodyStart header d) =
      some { offset := byteSize a, indent, placement := .lineStart }) (ending : LineEnding) :
    '\n' ∈ a ∧
      resolve? (a ++ (indent ++ entry ++ ending.text) ++ b) (.blockBodyStart header d) =
        some { offset := byteSize a, indent, placement := .lineStart } ∧
      GrowsBlock header d (byteSize (indent ++ entry ++ ending.text)) (a ++ b)
        (a ++ (indent ++ entry ++ ending.text) ++ b) := by
  obtain ⟨hstart, hindent⟩ := atLineStart_of_resolve? h
  obtain ⟨block, hblock, hpoint⟩ := Option.map_eq_some_iff.mp h
  obtain ⟨hafter, hspans, hoffset⟩ := Block.startPoint_eq_lineStart hpoint
  have hgap : Gap header d a b block :=
    ⟨hblock, hstart, hoffset.ge, by rw [hoffset]; exact Block.openLine_next_le hblock hspans⟩
  obtain ⟨front, line, back, grown, hbody, hfront, -, hlineIndent, hlineShows, hgrown, hgrows,
    moved, hbody', -⟩ := hgap.exists_grows hheader hentry hindent ending
  -- the body starts where the entry comes in, so the entry is the first line of it
  obtain rfl : front = [] := List.eq_nil_iff_forall_not_mem.mpr fun l hl => by
    obtain ⟨hle, -, -⟩ := Block.body_bounds hblock (hbody ▸ List.mem_append_left back hl)
    have := hfront l hl
    omega
  have hfirst : grown.body.find? (fun line => !line.isBlank) = some line := by
    rw [hbody', List.nil_append, List.find?_cons_of_pos (by simp [hlineShows])]
  refine ⟨hgap.feed_mem, ?_, block, grown, hblock, hgrown, hgrows⟩
  rw [← hgap.afterOpen_of_grows hgrows] at hafter
  rw [resolve?, hgrown, Option.map_some, Block.startPoint,
    if_pos ⟨hafter, hgap.spansLines_of_grows hgrows⟩, hfirst, hgrows.openLine_eq, hoffset,
    ← hlineIndent]

/-! ## Many entries -/

theorem written_cons (entry : Text) (entries : List Text) :
    written indent ending (entry :: entries) =
      indent ++ entry ++ ending.text ++ written indent ending entries := rfl

theorem written_reverse_cons (entry : Text) (entries : List Text) :
    written indent ending (entry :: entries).reverse =
      written indent ending entries.reverse ++ (indent ++ entry ++ ending.text) := by
  rw [List.reverse_cons, written, List.flatMap_append, List.flatMap_singleton]
  rfl

theorem accumulated?_cons {anchor : Anchor} {point : Point} (h : resolve? t anchor = some point)
    (entry : Text) (entries : List Text) :
    accumulated? anchor t (entry :: entries) =
      accumulated? anchor (splice t point [entry]) entries := by
  rw [accumulated?, h]
  rfl

variable {entries : List Text}

theorem accumulated?_end (hheader : '\n' ∉ header) (hentries : ∀ entry ∈ entries, IsEntry d entry)
    (h : resolve? (a ++ b) (.blockBodyEnd header d) =
      some { offset := byteSize a, indent, placement := .lineStart })
    (hending : LineEnding.detect (a ++ b) = ending) :
    accumulated? (.blockBodyEnd header d) (a ++ b) entries =
        some (a ++ written indent ending entries ++ b) ∧
      resolve? (a ++ written indent ending entries ++ b) (.blockBodyEnd header d) =
        some { offset := byteSize a + byteSize (written indent ending entries), indent,
               placement := .lineStart } ∧
      GrowsBlock header d (byteSize (written indent ending entries)) (a ++ b)
        (a ++ written indent ending entries ++ b) := by
  induction entries generalizing a with
  | nil =>
      obtain ⟨block, hblock, -⟩ := Option.map_eq_some_iff.mp h
      have hnone : a ++ written indent ending [] ++ b = a ++ b := by rw [written]; simp
      rw [hnone]
      exact ⟨rfl, h, .refl hblock⟩
  | cons entry entries ih =>
      rw [List.forall_mem_cons] at hentries
      obtain ⟨hfeed, hresolve, hgrows⟩ := resolve?_end_insert hheader hentries.1 h ending
      rw [accumulated?_cons h, splice_entry hentries.1, hending, written_cons]
      generalize indent ++ entry ++ ending.text = line at hresolve hgrows ⊢
      have hending' : LineEnding.detect (a ++ line ++ b) = ending := by
        rw [← hending, List.append_assoc, LineEnding.detect_append hfeed,
          LineEnding.detect_append hfeed]
      obtain ⟨hrun, hlast, hmore⟩ := ih hentries.2 hresolve hending'
      rw [byteSize_append, ← Nat.add_assoc, ← byteSize_append a, ← List.append_assoc a]
      exact ⟨hrun, hlast, hgrows.trans hmore⟩

theorem accumulated?_start (hheader : '\n' ∉ header)
    (hentries : ∀ entry ∈ entries, IsEntry d entry)
    (h : resolve? (a ++ b) (.blockBodyStart header d) =
      some { offset := byteSize a, indent, placement := .lineStart })
    (hending : LineEnding.detect (a ++ b) = ending) :
    accumulated? (.blockBodyStart header d) (a ++ b) entries =
        some (a ++ written indent ending entries.reverse ++ b) ∧
      resolve? (a ++ written indent ending entries.reverse ++ b) (.blockBodyStart header d) =
        some { offset := byteSize a, indent, placement := .lineStart } ∧
      GrowsBlock header d (byteSize (written indent ending entries.reverse)) (a ++ b)
        (a ++ written indent ending entries.reverse ++ b) := by
  induction entries generalizing b with
  | nil =>
      obtain ⟨block, hblock, -⟩ := Option.map_eq_some_iff.mp h
      have hnone : a ++ written indent ending [].reverse ++ b = a ++ b := by
        rw [written]
        simp
      rw [hnone]
      exact ⟨rfl, h, .refl hblock⟩
  | cons entry entries ih =>
      rw [List.forall_mem_cons] at hentries
      obtain ⟨hfeed, hresolve, hgrows⟩ := resolve?_start_insert hheader hentries.1 h ending
      rw [accumulated?_cons h, splice_entry hentries.1, hending, written_reverse_cons]
      generalize indent ++ entry ++ ending.text = line at hresolve hgrows ⊢
      rw [List.append_assoc] at hresolve hgrows
      have hending' : LineEnding.detect (a ++ (line ++ b)) = ending := by
        rw [← hending, LineEnding.detect_append hfeed, LineEnding.detect_append hfeed]
      obtain ⟨hrun, hlast, hmore⟩ := ih hentries.2 hresolve hending'
      rw [byteSize_append, Nat.add_comm, ← List.append_assoc a, List.append_assoc a line b,
        List.append_assoc _ line b]
      exact ⟨hrun, hlast, hgrows.trans hmore⟩

/-- **Entries gather in a block in a stable order and at one indentation.**  Spliced in one after
another at the end of the block, they stand in order, and at the start of it in reverse order,
between what was ahead of the first one and what was behind it; and each time the anchor resolves to
the same block, to the start of a line and to the same indentation. -/
theorem block_insertions_accumulate {offset : Nat} (hheader : '\n' ∉ header)
    (hentries : ∀ entry ∈ entries, IsEntry d entry) :
    (resolve? t (.blockBodyEnd header d) = some { offset, indent, placement := .lineStart } →
      ∀ n, let added := written indent (LineEnding.detect t) (entries.take n)
        let r := t.takeBytes offset ++ added ++ t.dropBytes offset
        accumulated? (.blockBodyEnd header d) t (entries.take n) = some r ∧
          resolve? r (.blockBodyEnd header d) =
            some { offset := offset + byteSize added, indent, placement := .lineStart } ∧
          GrowsBlock header d (byteSize added) t r) ∧
    (resolve? t (.blockBodyStart header d) = some { offset, indent, placement := .lineStart } →
      ∀ n, let added := written indent (LineEnding.detect t) (entries.take n).reverse
        let r := t.takeBytes offset ++ added ++ t.dropBytes offset
        accumulated? (.blockBodyStart header d) t (entries.take n) = some r ∧
          resolve? r (.blockBodyStart header d) =
            some { offset, indent, placement := .lineStart } ∧
          GrowsBlock header d (byteSize added) t r) := by
  have htaken (n : Nat) : ∀ entry ∈ entries.take n, IsEntry d entry :=
    fun entry hentry => hentries entry (List.mem_of_mem_take hentry)
  constructor
  · intro h n
    obtain ⟨a, b, rfl, rfl, -⟩ := exists_cut_of_resolve? h
    rw [takeBytes_append_byteSize, dropBytes_append_byteSize]
    exact accumulated?_end hheader (htaken n) h rfl
  · intro h n
    obtain ⟨a, b, rfl, rfl, -⟩ := exists_cut_of_resolve? h
    rw [takeBytes_append_byteSize, dropBytes_append_byteSize]
    exact accumulated?_start hheader (htaken n) h rfl

/-- Two entries in a block without a line: how far the first one goes to the right is taken from the
line that opens or closes the block, and the other one follows it. -/
theorem entries_fill_empty_block :
    (∀ entry ∈ (["a[0],", "b,"] : List Text), IsEntry .bracket entry) ∧
      resolve? "list = [\r\n\t]\r\n" (.blockBodyEnd "list" .bracket) =
        some { offset := 10, indent := "\t\t", placement := .lineStart } ∧
      resolve? "list = [\r\n\t]\r\n" (.blockBodyStart "list" .bracket) =
        some { offset := 10, indent := "\t", placement := .lineStart } ∧
      accumulated? (.blockBodyEnd "list" .bracket) "list = [\r\n\t]\r\n" ["a[0],", "b,"] =
        some "list = [\r\n\t\ta[0],\r\n\t\tb,\r\n\t]\r\n" ∧
      accumulated? (.blockBodyStart "list" .bracket) "list = [\r\n\t]\r\n" ["a[0],", "b,"] =
        some "list = [\r\n\tb,\r\n\ta[0],\r\n\t]\r\n" := by
  have hentries : ∀ entry ∈ (["a[0],", "b,"] : List Text), IsEntry .bracket entry := by decide
  have hend : resolve? "list = [\r\n\t]\r\n" (.blockBodyEnd "list" .bracket) =
      some { offset := 10, indent := "\t\t", placement := .lineStart } := by cbv
  have hstart : resolve? "list = [\r\n\t]\r\n" (.blockBodyStart "list" .bracket) =
      some { offset := 10, indent := "\t", placement := .lineStart } := by cbv
  have hheader : '\n' ∉ ("list" : Text) := by decide
  exact ⟨hentries, hend, hstart, ((block_insertions_accumulate hheader hentries).1 hend 2).1,
    ((block_insertions_accumulate hheader hentries).2 hstart 2).1⟩

end Graft
