import Graft.Text.Letters
import Graft.Text.Search

/-! # Words and their spellings

A name is split into words at every character that is neither letter nor number, between a
lower-case and an upper-case letter, and before the last capital of a run that goes on in lower case
(`XMLHttp` has the words `XML` and `Http`).  Digits belong to the word they follow. -/

namespace Graft.Text

/-- The case of the letters read so far in a word. -/
inductive LetterRun where
  | boundary
  | lower
  | upper
  deriving DecidableEq, Repr

/-- The run after one more character. -/
def LetterRun.after (run : LetterRun) (c : Char) : LetterRun :=
  if isLowercase c then .lower else if isUppercase c then .upper else run

/-- The words of a text of letters and numbers, of whose first word `word` has been read. -/
def wordsFrom (run : LetterRun) (word : Text) : Text → List Text
  | [] => []
  | [c] => [word ++ [c]]
  | c :: next :: rest =>
    if run.after c = .lower ∧ isUppercase next then
      (word ++ [c]) :: wordsFrom .boundary [] (next :: rest)
    else if run = .upper ∧ isUppercase c ∧ isLowercase next then
      word :: wordsFrom .boundary [c] (next :: rest)
    else wordsFrom (run.after c) (word ++ [c]) (next :: rest)

/-- The words of a name. -/
def words (t : Text) : List Text :=
  (pieces (fun c => !isAlphanumeric c) t).flatMap (wordsFrom .boundary [])

/-- A word in lower case.  A capital sigma at its end takes the final form. -/
def lowercased : Text → Text
  | [] => []
  | [c] => if c = 'Σ' then ['ς'] else lowerForm c
  | c :: next :: rest => lowerForm c ++ lowercased (next :: rest)

/-- A word with a capital first letter and the rest in lower case. -/
def capitalized : Text → Text
  | [] => []
  | c :: rest => upperForm c ++ lowercased rest

/-- The capitalized words of a name without anything between them: `OrderItem`. -/
def upperCamel (t : Text) : Text :=
  (words t).flatMap capitalized

/-- The words of a name in lower case with hyphens between them: `order-item`. -/
def kebab (t : Text) : Text :=
  joined "-" ((words t).map lowercased)

end Graft.Text
