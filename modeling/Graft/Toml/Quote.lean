import Graft.Toml.Scalar

/-! # Quoted strings

Basic strings have escapes, literal strings have none; either may span lines between tripled quotes.
A string keeps the line ends of the source, except one directly after the opening tripled quotes. -/

namespace Graft.Toml

/-- Whether a character may stand in a string or a comment as itself: no control character other
than the tab. -/
def isPlain (c : Char) : Bool :=
  c == '\t' || (0x20 ≤ c.toNat && c.toNat ≠ 0x7F)

/-! ## Escapes -/

/-- The character whose number the hexadecimal digits give. -/
def charOfHex? (digits : Text) : Option Char := do
  let n := ofDigits 16 (← digits.mapM digitValue?)
  if n.isValidChar then some (Char.ofNat n) else none

/-- The character of an escape, given what follows the backslash, and the number of characters that
the escape takes there. -/
def escape? : Text → Option (Char × Nat)
  | 'b' :: _ => some ('\x08', 1)
  | 't' :: _ => some ('\t', 1)
  | 'n' :: _ => some ('\n', 1)
  | 'f' :: _ => some ('\x0c', 1)
  | 'r' :: _ => some ('\r', 1)
  | 'e' :: _ => some ('\x1b', 1)
  | '"' :: _ => some ('"', 1)
  | '\\' :: _ => some ('\\', 1)
  | 'x' :: rest => ofHex 2 rest
  | 'u' :: rest => ofHex 4 rest
  | 'U' :: rest => ofHex 8 rest
  | _ => none
where
  /-- An escape of `count` hexadecimal digits. -/
  ofHex (count : Nat) (rest : Text) : Option (Char × Nat) :=
    if (rest.take count).length = count then
      (charOfHex? (rest.take count)).map fun c => (c, count + 1)
    else none

/-! ## Strings on one line -/

/-- A basic string after its opening quote. -/
def basicBody? : Text → Option (Text × Text)
  | [] => none
  | '"' :: rest => some ([], rest)
  | '\\' :: rest => do
    let (c, size) ← escape? rest
    let (content, rest) ← basicBody? (rest.drop size)
    some (c :: content, rest)
  | c :: rest =>
    if isPlain c then (basicBody? rest).map fun (content, rest) => (c :: content, rest) else none
termination_by t => t.length
decreasing_by all_goals simp only [List.length_cons, List.length_drop]; omega

/-- A literal string after its opening quote. -/
def literalBody? : Text → Option (Text × Text)
  | [] => none
  | '\'' :: rest => some ([], rest)
  | c :: rest =>
    if isPlain c then (literalBody? rest).map fun (content, rest) => (c :: content, rest) else none

/-! ## Strings over several lines -/

/-- The text after a line break that it starts with. -/
def dropBreak : Text → Text
  | '\n' :: rest => rest
  | '\r' :: '\n' :: rest => rest
  | t => t

/-- The end of a string in tripled quotes: the quotes that still belong to it, of which there are at
most two, and what follows it. -/
def closing? (quote : Char) (t : Text) : Option (Text × Text) :=
  let quotes := (t.takeWhile (· == quote)).length
  if quotes < 3 then none
  else
    let own := min (quotes - 3) 2
    some (List.replicate own quote, t.drop (own + 3))

/-- The text after blanks and line breaks. -/
def dropBlank : Text → Text
  | ' ' :: rest => dropBlank rest
  | '\t' :: rest => dropBlank rest
  | '\n' :: rest => dropBlank rest
  | '\r' :: '\n' :: rest => dropBlank rest
  | t => t

theorem length_dropBlank_le (t : Text) : (dropBlank t).length ≤ t.length := by
  fun_induction dropBlank t <;> grind

/-- What follows a backslash at the end of a line: the next character that is no blank.  The line
must end right after the backslash or after blanks only. -/
def continued? (t : Text) : Option Text :=
  match t.dropWhile fun c => c == ' ' || c == '\t' with
  | '\n' :: _ => some (dropBlank t)
  | '\r' :: '\n' :: _ => some (dropBlank t)
  | _ => none

theorem length_le_of_continued? {t rest : Text} (h : continued? t = some rest) :
    rest.length ≤ t.length := by
  have bound := length_dropBlank_le t
  simp only [continued?] at h
  split at h <;> simp_all

/-- A basic string after its opening tripled quotes. -/
def longBasicBody? (t : Text) : Option (Text × Text) :=
  match closing? '"' t with
  | some done => some done
  | none =>
    match t with
    | [] => none
    | '\\' :: rest =>
      match _h : continued? rest with
      | some rest' => longBasicBody? rest'
      | none => do
        let (c, size) ← escape? rest
        let (content, rest) ← longBasicBody? (rest.drop size)
        some (c :: content, rest)
    | '\r' :: '\n' :: rest =>
      (longBasicBody? rest).map fun (content, rest) => ('\r' :: '\n' :: content, rest)
    | c :: rest =>
      if isPlain c ∨ c = '\n' then
        (longBasicBody? rest).map fun (content, rest) => (c :: content, rest)
      else none
termination_by t.length
decreasing_by
  · have := length_le_of_continued? _h
    simp only [List.length_cons]
    omega
  all_goals simp only [List.length_cons, List.length_drop]; omega

/-- A literal string after its opening tripled quotes. -/
def longLiteralBody? (t : Text) : Option (Text × Text) :=
  match closing? '\'' t with
  | some done => some done
  | none =>
    match t with
    | [] => none
    | '\r' :: '\n' :: rest =>
      (longLiteralBody? rest).map fun (content, rest) => ('\r' :: '\n' :: content, rest)
    | c :: rest =>
      if isPlain c ∨ c = '\n' then
        (longLiteralBody? rest).map fun (content, rest) => (c :: content, rest)
      else none

/-! ## Any string -/

/-- The string at the front of a text, as a value. -/
def string? : Text → Option (Text × Text)
  | '"' :: '"' :: '"' :: rest => longBasicBody? (dropBreak rest)
  | '\'' :: '\'' :: '\'' :: rest => longLiteralBody? (dropBreak rest)
  | '"' :: rest => basicBody? rest
  | '\'' :: rest => literalBody? rest
  | _ => none

end Graft.Toml
