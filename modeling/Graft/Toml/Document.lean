import Graft.Toml.Quote
import Graft.Toml.Tables

/-! # Documents

The grammar above scalars and strings: keys, arrays, inline tables, headers and lines.  Every reader
takes a text and gives what it read with the text that follows. -/

namespace Graft.Toml

/-- How deeply arrays and inline tables nest, and how many names may stand before a key's last. -/
def depthLimit : Nat := 80

/-! ## Blanks and comments -/

/-- The text after spaces and tabs. -/
def dropSpace (t : Text) : Text :=
  t.dropWhile fun c => c == ' ' || c == '\t'

/-- The text after blanks, line breaks and comments.  `inComment` says that a comment has begun. -/
def afterTrivia? (inComment : Bool) : Text → Option Text
  | [] => some []
  | '\n' :: rest => afterTrivia? false rest
  | '\r' :: '\n' :: rest => afterTrivia? false rest
  | c :: rest =>
    if inComment then
      if isPlain c then afterTrivia? true rest else none
    else if c = '#' then afterTrivia? true rest
    else if c = ' ' ∨ c = '\t' then afterTrivia? false rest
    else some (c :: rest)

/-- The text after a comment, from its line break on. -/
def afterComment? : Text → Option Text
  | [] => some []
  | '\n' :: rest => some ('\n' :: rest)
  | '\r' :: '\n' :: rest => some ('\n' :: rest)
  | c :: rest => if isPlain c then afterComment? rest else none

/-- The text after the end of a line, before which only blanks and a comment may stand. -/
def afterLine? (t : Text) : Option Text := do
  let rest ←
    match dropSpace t with
    | '#' :: comment => afterComment? comment
    | rest => some rest
  match rest with
  | [] => some []
  | '\n' :: rest => some rest
  | '\r' :: '\n' :: rest => some rest
  | _ => none

/-! ## Keys -/

/-- A character of a key without quotes. -/
def isKeyChar (c : Char) : Bool :=
  c.isAlphanum || c == '_' || c == '-'

/-- A key without dots. -/
def simpleKey? : Text → Option (Text × Text)
  | '"' :: rest => basicBody? rest
  | '\'' :: rest => literalBody? rest
  | t =>
    let key := t.takeWhile isKeyChar
    if key = [] then none else some (key, t.drop key.length)

/-- The parts of a dotted key, of which there are at most `fuel`. -/
def keyParts? : Nat → Text → Option (List Text × Text)
  | 0, _ => none
  | fuel + 1, t => do
    let (part, rest) ← simpleKey? t
    match dropSpace rest with
    | '.' :: rest => do
      let (parts, rest) ← keyParts? fuel (dropSpace rest)
      some (part :: parts, rest)
    | rest => some ([part], rest)

/-- A key: the names on the way to it and its own, with the blanks after it read too. -/
def key? (t : Text) : Option ((List Text × Text) × Text) := do
  let (parts, rest) ← keyParts? t.length t
  let last ← parts.getLast?
  let way := parts.dropLast
  if depthLimit < way.length then none else some ((way, last), rest)

/-! ## Values -/

/-- A reader of one thing. -/
abbrev Reader (α : Type) := Text → Option (α × Text)

/-- The items of an array after its opening bracket, at most `fuel` of them. -/
def items? (item : Reader Value) : Nat → Reader (List Value)
  | 0, _ => none
  | fuel + 1, t => do
    match ← afterTrivia? false t with
    | ']' :: rest => some ([], rest)
    | t => do
      let (first, rest) ← item t
      match ← afterTrivia? false rest with
      | ']' :: rest => some ([first], rest)
      | ',' :: rest => do
        let (others, rest) ← items? item fuel rest
        some (first :: others, rest)
      | _ => none

/-- The assignments of an inline table after its opening brace, at most `fuel` of them. -/
def members? (item : Reader Value) : Nat → Reader (List Assignment)
  | 0, _ => none
  | fuel + 1, t => do
    match ← afterTrivia? false t with
    | '\x7d' :: rest => some ([], rest)
    | t => do
      let ((way, key), rest) ← key? t
      match ← afterTrivia? false rest with
      | '=' :: rest => do
        let (value, rest) ← item (← afterTrivia? false rest)
        let first : Assignment := { way, key, value }
        match ← afterTrivia? false rest with
        | '\x7d' :: rest => some ([first], rest)
        | ',' :: rest => do
          let (others, rest) ← members? item fuel rest
          some (first :: others, rest)
        | _ => none
      | _ => none

/-- A value, with arrays and inline tables nested at most `depth` deep. -/
def value? : Nat → Reader Value
  | depth, t =>
    match t with
    | '"' :: _ => (string? t).map fun (content, rest) => (.string content, rest)
    | '\'' :: _ => (string? t).map fun (content, rest) => (.string content, rest)
    | '[' :: rest =>
      match depth with
      | 0 => none
      | depth + 1 => (items? (value? depth) t.length rest).map fun (items, rest) => (.array items, rest)
    | '\x7b' :: rest =>
      match depth with
      | 0 => none
      | depth + 1 => do
        let (members, rest) ← members? (value? depth) t.length rest
        some (.table .inline (← assignAll [] members), rest)
    | _ => scalar? t

/-! ## Lines -/

/-- An assignment on a line of its own. -/
def assignment? : Reader Assignment := fun t => do
  let ((way, key), rest) ← key? t
  match rest with
  | '=' :: rest => do
    let (value, rest) ← value? depthLimit (dropSpace rest)
    some ({ way, key, value }, ← afterLine? rest)
  | _ => none

/-- A header on a line of its own, after its first bracket. -/
def header? : Reader Header
  | '[' :: t => do
    let ((way, key), rest) ← key? (dropSpace t)
    match rest with
    | ']' :: ']' :: rest => some ({ repeated := true, way, key }, ← afterLine? rest)
    | _ => none
  | t => do
    let ((way, key), rest) ← key? (dropSpace t)
    match rest with
    | ']' :: rest => some ({ repeated := false, way, key }, ← afterLine? rest)
    | _ => none

/-- The assignments before the next header, and the sections from there on.  There are at most
`fuel` headers and assignments. -/
def sections? : Nat → Text → Option (List Assignment × List Section)
  | 0, _ => none
  | fuel + 1, t => do
    match ← afterTrivia? false t with
    | [] => some ([], [])
    | '[' :: rest => do
      let (header, rest) ← header? rest
      let (assignments, sections) ← sections? fuel rest
      some ([], { header, assignments } :: sections)
    | t => do
      let (assignment, rest) ← assignment? t
      let (assignments, sections) ← sections? fuel rest
      some (assignment :: assignments, sections)

/-- The table that a text denotes.  A byte-order mark at its start does not count. -/
def parse? (t : Text) : Option Entries := do
  let t :=
    match t with
    | '\uFEFF' :: rest => rest
    | t => t
  let (top, sections) ← sections? (t.length + 1) t
  tableOf top sections

end Graft.Toml
