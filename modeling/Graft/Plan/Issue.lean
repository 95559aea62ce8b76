import Graft.Plan.Basic

/-! # Issues of a plan

A plan is fit to run when it has no issue.  All issues are found at once, patch by patch, in a fixed
order within a patch. -/

namespace Graft

/-! ## Causes -/

/-- A required part of a patch. -/
inductive Field where
  | id
  | file
  | fragment
  | identity
  | anchors
  | marker
  | bound
  | terminator
  | header
  deriving DecidableEq, Repr

/-- A field as plans spell it. -/
def Field.name : Field → Text
  | id => "id"
  | file => "file"
  | fragment => "fragment"
  | identity => "identity"
  | anchors => "anchors"
  | marker => "anchors.marker"
  | bound => "anchors.from"
  | terminator => "anchors.through"
  | header => "anchors.header"

/-- Why a plan is not fit to run.  `patch` is the patch's id, unless the id itself is blank. -/
inductive Issue where
  /-- there is nothing to apply -/
  | emptyPlan
  /-- a part is missing, or empty where it must not be -/
  | missingField (patch : Option Text) (field : Field)
  /-- an earlier patch has the same id -/
  | duplicateId (id : Text)
  /-- the fragment does not hold a key of its own identity, so it would never be found again -/
  | strangeKey (patch : Option Text) (key : Text)
  deriving DecidableEq, Repr

/-! ## Finding the issues -/

/-- The first part of an anchor that is empty where it must not be. -/
def Anchor.emptyField? : Anchor → Option Field
  | literalAfter marker bound terminator =>
    if marker = [] then some .marker
    else if bound = some [] then some .bound
    else if terminator = some [] then some .terminator
    else none
  | literalBefore marker bound =>
    if marker = [] then some .marker
    else if bound = some [] then some .bound
    else none
  | lastLiteralAfter marker terminator =>
    if marker = [] then some .marker
    else if terminator = some [] then some .terminator
    else none
  | blockBodyStart header _ => if header = [] then some .header else none
  | blockBodyEnd header _ => if header = [] then some .header else none
  | endOfDocument => none

namespace Patch

/-- The id that issues name the patch by. -/
def label (patch : Patch) : Option Text :=
  if patch.id.isBlank then none else some patch.id

/-- The issue of leaving out a part, when it is left out. -/
def missing (patch : Patch) (field : Field) (isMissing : Bool) : List Issue :=
  if isMissing then [.missingField patch.label field] else []

/-- The issues of an id, given the ids of the patches before. -/
def idIssues (earlier : List Text) (patch : Patch) : List Issue :=
  if patch.id.isBlank then [.missingField none .id]
  else if patch.id ∈ earlier then [.duplicateId patch.id]
  else []

/-- The issues of an identity. -/
def identityIssues (patch : Patch) : List Issue :=
  if patch.spec.identity.isEmpty then [.missingField patch.label .identity]
  else
    let strange := patch.spec.identity.keys.filter fun key =>
      !key.isEmpty && !patch.spec.fragmentText.holds key
    strange.map (.strangeKey patch.label)

/-- The issues of the anchors. -/
def anchorIssues (patch : Patch) : List Issue :=
  patch.missing .anchors patch.spec.anchors.isEmpty ++
    (patch.spec.anchors.filterMap Anchor.emptyField?).map (.missingField patch.label)

/-- The issues of a patch, given the ids of the patches before. -/
def issues (earlier : List Text) (patch : Patch) : List Issue :=
  patch.idIssues earlier ++
    patch.missing .file patch.file.isBlank ++
    patch.missing .fragment (patch.spec.fragment.all Text.isBlank) ++
    patch.identityIssues ++ patch.anchorIssues

end Patch

namespace Plan

/-- The issues of patches, given the ids of those before. -/
def patchIssues (earlier : List Text) : List Patch → List Issue
  | [] => []
  | patch :: others => patch.issues earlier ++ patchIssues (patch.id :: earlier) others

/-- All issues of a plan. -/
def issues (plan : Plan) : List Issue :=
  (if plan.patches = [] then [.emptyPlan] else []) ++ patchIssues [] plan.patches

/-- Whether a plan is fit to run. -/
def isValid (plan : Plan) : Bool :=
  plan.issues.isEmpty

end Plan

/-! ## Wording -/

/-- How a message names a patch. -/
def patchName : Option Text → Text
  | some id => "patch '" ++ id ++ "'"
  | none => "patch"

/-- The message of an issue. -/
def Issue.message : Issue → Text
  | emptyPlan => "patch plan contains no patches"
  | missingField patch field =>
    patchName patch ++ " missing required field '" ++ field.name ++ "'"
  | duplicateId id => "patch id '" ++ id ++ "' is used more than once"
  | strangeKey patch key =>
    patchName patch ++ " identity " ++ key.quoted ++ " does not occur in its fragment"

/-- The messages of issues, one a line. -/
def Issue.report (issues : List Issue) : Text :=
  Text.joined ['\n'] (issues.map message)

end Graft
