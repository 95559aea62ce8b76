import Graft.Text.Basic

/-! # Blank characters

The characters with the Unicode property White_Space, and the texts made of them alone. -/

namespace Graft.Text

/-- Whether a character has the property White_Space. -/
def isSpace (c : Char) : Bool :=
  let n := c.toNat
  (9 ≤ n && n ≤ 13) || n == 0x20 || n == 0x85 || n == 0xA0 || n == 0x1680 ||
    (0x2000 ≤ n && n ≤ 0x200A) || n == 0x2028 || n == 0x2029 || n == 0x202F || n == 0x205F ||
    n == 0x3000

/-- Whether a text shows nothing: it is empty or all white space. -/
def isBlank (t : Text) : Bool :=
  t.all isSpace

/-- The text without the characters of `p` at its front. -/
def trimStart (t : Text) (p : Char → Bool) : Text :=
  t.dropWhile p

/-- The text without the characters of `p` at its end. -/
def trimEnd (t : Text) (p : Char → Bool) : Text :=
  (t.reverse.dropWhile p).reverse

/-- The text without white space at its ends. -/
def trim (t : Text) : Text :=
  trimEnd (trimStart t isSpace) isSpace

/-- A space or a tab: what indentation is made of. -/
def isIndent (c : Char) : Bool :=
  c == ' ' || c == '\t'

/-- Every space or tab is white space. -/
theorem isSpace_of_isIndent {c : Char} (h : isIndent c = true) : isSpace c = true := by
  simp only [isIndent, Bool.or_eq_true, beq_iff_eq] at h
  rcases h with rfl | rfl <;> rfl

theorem trimStart_eq_nil_iff (t : Text) (p : Char → Bool) : trimStart t p = [] ↔ t.all p = true := by
  induction t with
  | nil => simp [trimStart]
  | cons c rest ih =>
    simp only [trimStart] at ih
    by_cases h : p c <;> simp [trimStart, h, ih]

/-- A text is blank exactly when trimming leaves nothing of it. -/
theorem trim_eq_nil_iff (t : Text) : trim t = [] ↔ isBlank t = true := by
  have outer (u : Text) : trimEnd u isSpace = [] ↔ u.all isSpace = true := by
    rw [trimEnd, List.reverse_eq_nil_iff, ← List.all_reverse]
    exact trimStart_eq_nil_iff u.reverse isSpace
  rw [trim, outer, isBlank]
  induction t with
  | nil => simp [trimStart]
  | cons c rest ih =>
    simp only [trimStart] at ih
    by_cases h : isSpace c <;> simp [trimStart, h, ih]

end Graft.Text
