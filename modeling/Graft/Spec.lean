import Graft.Text.Blank
import Graft.Text.Quoted

/-! # What to insert, and where

A specification names a fragment of lines, the identity that tells whether the fragment is already
there, and the anchors to try, in order, for a place to put it. -/

namespace Graft

/-! ## Delimiters -/

/-- The pair of characters that opens and closes a block. -/
inductive Delimiter where
  | brace
  | bracket
  | paren
  deriving DecidableEq, Repr

namespace Delimiter

/-- The character that opens a block. -/
def opener : Delimiter → Char
  | brace => '{'
  | bracket => '['
  | paren => '('

/-- The character that closes a block. -/
def closer : Delimiter → Char
  | brace => '}'
  | bracket => ']'
  | paren => ')'

theorem opener_ne_closer (d : Delimiter) : d.opener ≠ d.closer := by
  cases d <;> decide

end Delimiter

/-! ## Anchors -/

/-- A way to find the place of a fragment. -/
inductive Anchor where
  /-- after the line that holds `marker`, or from there on the first `terminator`; with a bound,
  only what follows the first occurrence of `bound` is searched -/
  | literalAfter (marker : Text) (bound terminator : Option Text)
  /-- before the line that holds `marker` -/
  | literalBefore (marker : Text) (bound : Option Text)
  /-- after the line that holds the last `marker`, or from there on the first `terminator` -/
  | lastLiteralAfter (marker : Text) (terminator : Option Text)
  /-- as the first line of the block that opens at or after `header` -/
  | blockBodyStart (header : Text) (delimiter : Delimiter)
  /-- as the last line of the block that opens at or after `header` -/
  | blockBodyEnd (header : Text) (delimiter : Delimiter)
  /-- at the end of the text -/
  | endOfDocument
  deriving DecidableEq, Repr

namespace Anchor

/-- The text that an anchor looks for first. -/
def primaryMarker? : Anchor → Option Text
  | literalAfter marker _ _ => some marker
  | literalBefore marker _ => some marker
  | lastLiteralAfter marker _ => some marker
  | blockBodyStart header _ => some header
  | blockBodyEnd header _ => some header
  | endOfDocument => none

/-- Search only past the first occurrence of `bound`.  Anchors without a bound stay as they are. -/
def scopedFrom (bound : Text) : Anchor → Anchor
  | literalAfter marker _ terminator => literalAfter marker (some bound) terminator
  | literalBefore marker _ => literalBefore marker (some bound)
  | anchor => anchor

/-- Insert after the statement that `terminator` ends.  Anchors without a terminator stay as they
are. -/
def through (terminator : Text) : Anchor → Anchor
  | literalAfter marker bound _ => literalAfter marker bound (some terminator)
  | lastLiteralAfter marker _ => lastLiteralAfter marker (some terminator)
  | anchor => anchor

/-- Look for a block of another delimiter.  Anchors that look for no block stay as they are. -/
def delimitedBy (delimiter : Delimiter) : Anchor → Anchor
  | blockBodyStart header _ => blockBodyStart header delimiter
  | blockBodyEnd header _ => blockBodyEnd header delimiter
  | anchor => anchor

/-- An anchor as a message names it. -/
def describe : Anchor → Text
  | literalAfter marker _ _ => "after " ++ marker.quoted
  | literalBefore marker _ => "before " ++ marker.quoted
  | lastLiteralAfter marker _ => "after last " ++ marker.quoted
  | blockBodyStart header _ => "start of block " ++ header.quoted
  | blockBodyEnd header _ => "end of block " ++ header.quoted
  | endOfDocument => "end of document"

end Anchor

/-! ## Identities -/

/-- What shows that a fragment is already in a text. -/
inductive Identity where
  /-- the key occurs -/
  | contains (key : Text)
  /-- every key occurs -/
  | containsAll (keys : List Text)
  deriving DecidableEq, Repr

namespace Identity

/-- The keys of an identity. -/
def keys : Identity → List Text
  | contains key => [key]
  | containsAll keys => keys

/-- An identity without a key that could tell anything. -/
def isEmpty (identity : Identity) : Bool :=
  identity.keys.all List.isEmpty

/-- An identity as a message names it. -/
def describe : Identity → Text
  | contains key => key.quoted
  | containsAll keys => "all of " ++ Text.quotedList keys

end Identity

/-! ## Specifications -/

/-- A fragment to insert. -/
structure Spec where
  /-- the lines to insert, without indentation -/
  fragment : List Text
  /-- what shows that the fragment is there already -/
  identity : Identity
  /-- where to put it: the first anchor that resolves decides -/
  anchors : List Anchor
  deriving DecidableEq, Repr

namespace Spec

/-- The lines of a fragment written as one text.  The break that ends the text starts no line. -/
def splitFragment (t : Text) : List Text :=
  ((t.dropFinal '\n').pieces (· == '\n')).map (·.dropFinal '\r')

/-- A specification without anchors, from a fragment written as one text. -/
def ofText (fragment : Text) (identity : Identity) : Spec :=
  { fragment := splitFragment fragment, identity, anchors := [] }

/-- A specification whose fragment is its own identity. -/
def selfIdentified (fragment : Text) : Spec :=
  ofText fragment (.contains fragment.trim)

/-- The specification with one more anchor to fall back on. -/
def anchoredAt (spec : Spec) (anchor : Anchor) : Spec :=
  { spec with anchors := spec.anchors ++ [anchor] }

/-- The lines of the fragment with line feeds between them. -/
def fragmentText (spec : Spec) : Text :=
  Text.joined ['\n'] spec.fragment

end Spec
end Graft
