import Graft.Text.Basic

/-! # English plurals

The regular plural of a word by its last letters, whose case does not count. -/

namespace Graft.Text

/-- Whether a word ends in `ending`, in any case. -/
def endsWith (word ending : Text) : Bool :=
  ending.isSuffixOf (word.map Char.toLower)

/-- A letter other than `a`, `e`, `i`, `o` and `u`. -/
def isConsonant (c : Char) : Bool :=
  c.isAlpha && !(c.toLower ∈ ['a', 'e', 'i', 'o', 'u'])

/-- The plural of a word: `-y` after a consonant becomes `-ies`, a hiss takes `-es`, all others
take `-s`. -/
def plural (word : Text) : Text :=
  if endsWith word "y" ∧ word.dropLast.getLast?.any isConsonant then word.dropLast ++ "ies"
  else if endsWith word "s" ∨ endsWith word "x" ∨ endsWith word "z" ∨ endsWith word "ch" ∨
      endsWith word "sh" then word ++ "es"
  else word ++ "s"

end Graft.Text
