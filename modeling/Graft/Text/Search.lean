import Graft.Text.Basic

/-! # Finding a text inside another

`occurrence?` is the offset of the leftmost occurrence and `lastOccurrence?` of the rightmost one;
both exist exactly when the needle is a contiguous part of the text (`holds_iff`). -/

namespace Graft.Text

/-- The offset of the first occurrence of `needle`. -/
def occurrence? (t needle : Text) : Option Nat :=
  if needle.isPrefixOf t then some 0
  else match t with
    | [] => none
    | c :: rest => (occurrence? rest needle).map (· + c.utf8Size)

/-- The offset of the last occurrence of `needle`. -/
def lastOccurrence? (t needle : Text) : Option Nat :=
  match t with
  | [] => if needle.isEmpty then some 0 else none
  | c :: rest =>
    match lastOccurrence? rest needle with
    | some offset => some (offset + c.utf8Size)
    | none => if needle.isPrefixOf (c :: rest) then some 0 else none

/-- Whether `needle` is a contiguous part of the text. -/
def holds (t needle : Text) : Bool :=
  (occurrence? t needle).isSome

theorem holds_iff (t needle : Text) : holds t needle = true ↔ needle <:+: t := by
  simp only [holds]
  induction t with
  | nil =>
    unfold occurrence?
    cases needle <;> simp
  | cons c rest ih =>
    unfold occurrence?
    split
    · rename_i h
      simpa using (List.isPrefixOf_iff_prefix.1 h).isInfix
    · rename_i h
      rw [List.isPrefixOf_iff_prefix] at h
      simp [List.infix_cons_iff, h, ih]

/-- The offset of the first character at or past byte `start` that satisfies `p`. -/
def findChar? (p : Char → Bool) : Text → Nat → Option Nat
  | [], _ => none
  | c :: rest, start =>
    if start = 0 ∧ p c then some 0
    else (findChar? p rest (start - c.utf8Size)).map (· + c.utf8Size)

/-- The text without one `c` at its end. -/
def dropFinal (t : Text) (c : Char) : Text :=
  if t.getLast? = some c then t.dropLast else t

/-- Every occurrence of `old` replaced by `new`. -/
def replaceChar (t : Text) (old new : Char) : Text :=
  t.map fun c => if c = old then new else c

/-- The pieces between the characters that satisfy `p`; a text without any is one piece. -/
def pieces (p : Char → Bool) : Text → List Text
  | [] => [[]]
  | c :: rest =>
    if p c then [] :: pieces p rest
    else match pieces p rest with
      | [] => [[c]]
      | first :: others => (c :: first) :: others

theorem pieces_ne_nil (p : Char → Bool) (t : Text) : pieces p t ≠ [] := by
  cases t with
  | nil => simp [pieces]
  | cons c rest =>
    unfold pieces
    split
    · simp
    · split <;> simp

/-- The texts one after another with `mark` between neighbours. -/
def joined (mark : Text) : List Text → Text
  | [] => []
  | [last] => last
  | first :: next :: others => first ++ mark ++ joined mark (next :: others)

end Graft.Text
