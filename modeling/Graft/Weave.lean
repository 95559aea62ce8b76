import Graft.Resolve

/-! # Weaving a fragment into a text

A fragment whose identity the text already has is left out, so weaving twice is harmless.  Otherwise
the first anchor that resolves decides where it goes. -/

namespace Graft

/-! ## Deciding -/

/-- Whether a text has the identity: it has a key to look for, and every such key occurs. -/
def isApplied (t : Text) (identity : Identity) : Bool :=
  !identity.isEmpty && (identity.keys.filter (!·.isEmpty)).all t.holds

/-- What weaving would do. -/
inductive Decision where
  /-- nothing: the fragment is there -/
  | alreadyPresent
  /-- nothing: no anchor resolves -/
  | anchorNotFound
  /-- insert at `point`, which the anchor at index `strategy` resolved to -/
  | insert (strategy : Nat) (point : Point)
  deriving DecidableEq, Repr

/-- The first anchor that resolves, by its index, and its point. -/
def firstPoint? (t : Text) : List Anchor → Option (Nat × Point)
  | [] => none
  | anchor :: others =>
    match resolve? t anchor with
    | some point => some (0, point)
    | none => (firstPoint? t others).map fun (index, point) => (index + 1, point)

/-- What weaving a fragment into a text would do. -/
def decision (t : Text) (spec : Spec) : Decision :=
  if isApplied t spec.identity then .alreadyPresent
  else match firstPoint? t spec.anchors with
    | some (strategy, point) => .insert strategy point
    | none => .anchorNotFound

/-! ## Weaving -/

/-- What weaving did. -/
inductive Outcome where
  | applied (text : Text)
  | alreadyPresent
  | anchorNotFound
  deriving DecidableEq, Repr

/-- The text after an outcome, which only `applied` changes. -/
def Outcome.textFrom (before : Text) : Outcome → Text
  | applied text => text
  | alreadyPresent => before
  | anchorNotFound => before

/-- Carry out a decision. -/
def Decision.outcome (t : Text) (fragment : List Text) : Decision → Outcome
  | alreadyPresent => .alreadyPresent
  | anchorNotFound => .anchorNotFound
  | insert _ point => .applied (splice t point fragment)

/-- Weave a fragment into a text. -/
def weave (t : Text) (spec : Spec) : Outcome :=
  (decision t spec).outcome t spec.fragment

/-- Weave fragments one after another, each into the text that the one before it left.  The
outcomes, and the text at the end. -/
def weaveAll (t : Text) : List Spec → List Outcome × Text
  | [] => ([], t)
  | spec :: others =>
    let outcome := weave t spec
    let (outcomes, last) := weaveAll (outcome.textFrom t) others
    (outcome :: outcomes, last)

end Graft
