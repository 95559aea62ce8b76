/-! # Text

A text is a list of characters, and every offset into it counts UTF-8 bytes.  Cutting a text at an
offset never loses anything: what `takeBytes` keeps, followed by what `dropBytes` keeps, is the text
(`takeBytes_append_dropBytes`).  An offset inside a character is read as the offset where that
character begins. -/

namespace Graft

/-- A text: its characters in order. -/
abbrev Text := List Char

/-- A literal may stand where a text is expected. -/
instance : Coe String Text := ⟨String.toList⟩

namespace Text

/-! ## Measuring -/

/-- The number of bytes of the UTF-8 form of a text. -/
def byteSize : Text → Nat
  | [] => 0
  | c :: rest => c.utf8Size + byteSize rest

@[simp] theorem byteSize_nil : byteSize [] = 0 := rfl

@[simp] theorem byteSize_cons (c : Char) (rest : Text) :
    byteSize (c :: rest) = c.utf8Size + byteSize rest := rfl

@[simp] theorem byteSize_append (a b : Text) : byteSize (a ++ b) = byteSize a + byteSize b := by
  induction a with
  | nil => simp
  | cons c rest ih => simp [ih, Nat.add_assoc]

theorem length_le_byteSize (t : Text) : t.length ≤ byteSize t := by
  induction t with
  | nil => simp
  | cons c rest ih =>
    have := c.utf8Size_pos
    simp only [List.length_cons, byteSize_cons]
    omega

/-! ## Cutting -/

/-- The whole characters that lie before byte `offset`. -/
def takeBytes : Text → Nat → Text
  | [], _ => []
  | c :: rest, offset =>
    if c.utf8Size ≤ offset then c :: takeBytes rest (offset - c.utf8Size) else []

/-- What follows the whole characters that lie before byte `offset`. -/
def dropBytes : Text → Nat → Text
  | [], _ => []
  | c :: rest, offset =>
    if c.utf8Size ≤ offset then dropBytes rest (offset - c.utf8Size) else c :: rest

/-- The text from byte `start` up to byte `stop`. -/
def slice (t : Text) (start stop : Nat) : Text :=
  takeBytes (dropBytes t start) (stop - start)

@[simp] theorem takeBytes_append_dropBytes (t : Text) (offset : Nat) :
    takeBytes t offset ++ dropBytes t offset = t := by
  induction t generalizing offset with
  | nil => rfl
  | cons c rest ih =>
    simp only [takeBytes, dropBytes]
    split
    · simp [ih]
    · simp

theorem byteSize_takeBytes_le (t : Text) (offset : Nat) : byteSize (takeBytes t offset) ≤ offset := by
  induction t generalizing offset with
  | nil => simp [takeBytes]
  | cons c rest ih =>
    simp only [takeBytes]
    split
    · have := ih (offset - c.utf8Size)
      simp only [byteSize_cons]
      omega
    · simp

/-- Cutting where one piece ends gives back the pieces. -/
@[simp] theorem takeBytes_append_byteSize (a b : Text) : takeBytes (a ++ b) (byteSize a) = a := by
  induction a with
  | nil =>
    cases b with
    | nil => rfl
    | cons c rest => have := c.utf8Size_pos; simp [takeBytes]; omega
  | cons c rest ih => simp [takeBytes, ih]

@[simp] theorem dropBytes_append_byteSize (a b : Text) : dropBytes (a ++ b) (byteSize a) = b := by
  induction a with
  | nil =>
    cases b with
    | nil => rfl
    | cons c rest => have := c.utf8Size_pos; simp [dropBytes]; omega
  | cons c rest ih => simp [dropBytes, ih]

/-! ## Offsets between characters -/

/-- `offset` stands between two characters, or at an end of the text. -/
def IsBoundary (t : Text) (offset : Nat) : Prop :=
  ∃ before after : Text, t = before ++ after ∧ byteSize before = offset

theorem isBoundary_iff (t : Text) (offset : Nat) :
    IsBoundary t offset ↔ byteSize (takeBytes t offset) = offset := by
  constructor
  · rintro ⟨before, after, rfl, rfl⟩
    simp
  · intro h
    exact ⟨takeBytes t offset, dropBytes t offset, by simp, h⟩

instance (t : Text) (offset : Nat) : Decidable (IsBoundary t offset) :=
  decidable_of_iff _ (isBoundary_iff t offset).symm

/-- The character that begins exactly at byte `offset`. -/
def charAt? : Text → Nat → Option Char
  | [], _ => none
  | c :: rest, offset =>
    if offset = 0 then some c
    else if c.utf8Size ≤ offset then charAt? rest (offset - c.utf8Size) else none

/-! ## Bytes -/

/-- The UTF-8 form of a text. -/
def encode (t : Text) : ByteArray :=
  (String.ofList t).toUTF8

/-- The text whose UTF-8 form is `bytes`, when they are such a form. -/
def decode? (bytes : ByteArray) : Option Text :=
  bytes.utf8Decode?.map Array.toList

@[simp] theorem decode?_encode (t : Text) : decode? (encode t) = some t := by
  simp [decode?, encode, String.toUTF8]

end Text
end Graft
