import Graft.Plan.Basic
import Graft.Toml.Value

/-! # Plans from values

A plan is read from the tables of a configuration text.  Keys are looked at in the order in which
they stand, so the first fault found is the first in the text; what is missing is noticed only
afterwards.  Unknown keys are passed over. -/

namespace Graft

open Toml

/-! ## Faults -/

/-- Why a value is no plan. -/
inductive ShapeError where
  | wrongType (found : Value) (wanted : Text)
  | missingField (name : Text)
  | unknownVariant (name : Text) (known : List Text)
  /-- no alternative of `choice` fits -/
  | noAlternative (choice : Text)
  | wrongLength (length : Nat) (wanted : Text)
  /-- a table has none or several keys where it should have one -/
  | notOneKey

/-- A text between backquotes. -/
def ticked (t : Text) : Text :=
  "`" ++ t ++ "`"

/-- The message of a fault. -/
def ShapeError.message : ShapeError → Text
  | wrongType found wanted => "invalid type: " ++ found.describe ++ ", expected " ++ wanted
  | missingField name => "missing field " ++ ticked name
  | unknownVariant name known =>
    "unknown variant " ++ ticked name ++ ", expected one of " ++
      Text.joined ", " (known.map ticked)
  | noAlternative choice => "data did not match any variant of untagged enum " ++ choice
  | wrongLength length wanted =>
    "invalid length " ++ Text.ofNat length ++ ", expected " ++ wanted
  | notOneKey => "invalid value: map, expected map with a single key"

/-- What is read from a value, or the first fault. -/
abbrev Shaped := Except ShapeError

/-! ## Simple values -/

/-- A text. -/
def textOf : Value → Shaped Text
  | .string content => .ok content
  | found => .error (.wrongType found "a string")

/-- A truth value. -/
def boolOf : Value → Shaped Bool
  | .boolean b => .ok b
  | found => .error (.wrongType found "a boolean")

/-- The items of a list. -/
def itemsOf (value : Value) : Shaped (List Value) :=
  match value.items? with
  | some items => .ok items
  | none => .error (.wrongType value "a sequence")

/-- What must have been given. -/
def given {α : Type} (name : Text) : Option α → Shaped α
  | some a => .ok a
  | none => .error (.missingField name)

/-- Read entries one after another, from what has been read so far on. -/
def readAll {σ : Type} (read : σ → Text → Value → Shaped σ) (start : σ) (entries : Entries) :
    Shaped σ :=
  entries.foldlM (fun fields entry => read fields entry.1 entry.2) start

/-- A list of texts, when it is one. -/
def texts? (value : Value) : Option (List Text) := do
  (← value.items?).mapM fun item =>
    match item with
    | .string content => some content
    | _ => none

/-! ## Fragments and identities -/

/-- The lines of a fragment, written as one text or as a list of lines. -/
def fragmentOf (value : Value) : Shaped (List Text) :=
  match value, texts? value with
  | .string content, _ => .ok (Spec.splitFragment content)
  | _, some lines => .ok lines
  | _, none => .error (.noAlternative "Repr")

/-- An identity, written as one key or as a list of keys. -/
def identityOf (value : Value) : Shaped Identity :=
  match value, texts? value with
  | .string content, _ => .ok (.contains content)
  | _, some keys => .ok (.containsAll keys)
  | _, none => .error (.noAlternative "Identity")

/-! ## Anchors -/

/-- The kinds of anchors. -/
inductive AnchorKind where
  | literalAfter
  | literalBefore
  | lastLiteralAfter
  | blockBodyStart
  | blockBodyEnd
  | endOfDocument
  deriving DecidableEq, Repr

namespace AnchorKind

/-- The kinds by the names that plans give them. -/
def named : List (Text × AnchorKind) :=
  [("literal-after", literalAfter), ("literal-before", literalBefore),
   ("last-literal-after", lastLiteralAfter), ("block-body-start", blockBodyStart),
   ("block-body-end", blockBodyEnd), ("end-of-document", endOfDocument)]

/-- What a message about a list calls a kind, and the number of fields that it has. -/
def listed : AnchorKind → Text × Nat
  | literalAfter => ("LiteralAfter", 3)
  | literalBefore => ("LiteralBefore", 2)
  | lastLiteralAfter => ("LastLiteralAfter", 2)
  | blockBodyStart => ("BlockBodyStart", 2)
  | blockBodyEnd => ("BlockBodyEnd", 2)
  | endOfDocument => ("EndOfDocument", 0)

/-- The fields of a kind in order, the first of which is required. -/
def fields : AnchorKind → List Text
  | literalAfter => ["marker", "from", "through"]
  | literalBefore => ["marker", "from"]
  | lastLiteralAfter => ["marker", "through"]
  | blockBodyStart => ["header", "delimiter"]
  | blockBodyEnd => ["header", "delimiter"]
  | endOfDocument => []

/-- The kind of a name. -/
def ofValue : Value → Shaped AnchorKind
  | .string name =>
    match named.lookup name with
    | some kind => .ok kind
    | none => .error (.unknownVariant name (named.map (·.1)))
  | found => .error (.wrongType found "variant identifier")

end AnchorKind

/-- The delimiters by the names that plans give them. -/
def namedDelimiters : List (Text × Delimiter) :=
  [("brace", .brace), ("bracket", .bracket), ("paren", .paren)]

/-- The delimiter of a name. -/
def delimiterNamed (name : Text) : Shaped Delimiter :=
  match namedDelimiters.lookup name with
  | some d => .ok d
  | none => .error (.unknownVariant name (namedDelimiters.map (·.1)))

/-- A delimiter, written as its name or as a table with its name for the only key and nothing in
it. -/
def delimiterOf : Value → Shaped Delimiter
  | .string name => delimiterNamed name
  | value =>
    match value.entries? with
    | some [(name, content)] => do
      let d ← delimiterNamed name
      match content with
      | .table _ [] => .ok d
      | _ => .error (.wrongType content "unit")
    | some _ => .error .notOneKey
    | none => .error (.wrongType value "string or map")

/-- The fields of an anchor as far as they have been read. -/
structure AnchorFields where
  marker : Option Text := none
  bound : Option Text := none
  terminator : Option Text := none
  header : Option Text := none
  delimiter : Delimiter := .brace

namespace AnchorFields

/-- Read a field. -/
def read (fields : AnchorFields) (name : Text) (value : Value) : Shaped AnchorFields :=
  if name = "marker" then do return { fields with marker := some (← textOf value) }
  else if name = "from" then do return { fields with bound := some (← textOf value) }
  else if name = "through" then do return { fields with terminator := some (← textOf value) }
  else if name = "header" then do return { fields with header := some (← textOf value) }
  else do return { fields with delimiter := ← delimiterOf value }

/-- The anchor of a kind with given fields. -/
def anchor (fields : AnchorFields) : AnchorKind → Shaped Anchor
  | .literalAfter =>
    return .literalAfter (← given "marker" fields.marker) fields.bound fields.terminator
  | .literalBefore => return .literalBefore (← given "marker" fields.marker) fields.bound
  | .lastLiteralAfter =>
    return .lastLiteralAfter (← given "marker" fields.marker) fields.terminator
  | .blockBodyStart => return .blockBodyStart (← given "header" fields.header) fields.delimiter
  | .blockBodyEnd => return .blockBodyEnd (← given "header" fields.header) fields.delimiter
  | .endOfDocument => return .endOfDocument

end AnchorFields

/-- An anchor from a table, whose kind is looked for before anything else. -/
def anchorOfEntries (entries : Entries) : Shaped Anchor := do
  let kind ← AnchorKind.ofValue (← given "type" (entries.get? "type"))
  let known := entries.filter fun (name, _) => kind.fields.contains name
  let fields ← readAll AnchorFields.read {} known
  fields.anchor kind

/-- An anchor from a list: its kind, then its fields in order.  The last fields may be left out. -/
def anchorOfItems : List Value → Shaped Anchor
  | [] => .error (.missingField "type")
  | first :: rest => do
    let kind ← AnchorKind.ofValue first
    let (name, size) := kind.listed
    if rest.isEmpty ∧ size ≠ 0 then
      throw (.wrongLength 0 ("struct variant AnchorStrategy::" ++ name ++ " with " ++
        Text.ofNat size ++ " elements"))
    let fields ← readAll AnchorFields.read {} (kind.fields.zip rest)
    if size < rest.length then
      throw (.wrongLength rest.length (Text.ofNat size ++ " elements in sequence"))
    fields.anchor kind

/-- An anchor. -/
def anchorOf (value : Value) : Shaped Anchor :=
  match value.entries?, value.items? with
  | some entries, _ => anchorOfEntries entries
  | none, some items => anchorOfItems items
  | none, none => .error (.wrongType value "internally tagged enum AnchorStrategy")

/-! ## Patches -/

/-- A specification as far as it has been read. -/
structure SpecFields where
  fragment : Option (List Text) := none
  identity : Option Identity := none
  anchors : Option (List Anchor) := none

/-- Read a field of a specification. -/
def SpecFields.read (fields : SpecFields) (name : Text) (value : Value) : Shaped SpecFields :=
  if name = "fragment" then do return { fields with fragment := some (← fragmentOf value) }
  else if name = "identity" then do return { fields with identity := some (← identityOf value) }
  else if name = "anchors" then do
    return { fields with anchors := some (← (← itemsOf value).mapM anchorOf) }
  else return fields

/-- A specification. -/
def specOfEntries (entries : Entries) : Shaped Spec := do
  let fields ← readAll SpecFields.read {} entries
  return {
    fragment := ← given "fragment" fields.fragment
    identity := ← given "identity" fields.identity
    anchors := ← given "anchors" fields.anchors }

/-- The id and the file of a patch as far as they have been read. -/
structure PatchFields where
  id : Option Text := none
  file : Option Text := none

/-- Read the id or the file of a patch. -/
def PatchFields.read (fields : PatchFields) (name : Text) (value : Value) : Shaped PatchFields :=
  if name = "id" then do return { fields with id := some (← textOf value) }
  else if name = "file" then do return { fields with file := some (← textOf value) }
  else return fields

/-- A patch.  Its id and its file are read before the specification beside them. -/
def patchOf (value : Value) : Shaped Patch :=
  match value.entries? with
  | none => .error (.wrongType value "struct PatchDefinition")
  | some entries => do
    let fields ← readAll PatchFields.read {} entries
    return {
      id := ← given "id" fields.id
      file := ← given "file" fields.file
      spec := ← specOfEntries entries }

/-! ## Plans -/

/-- Read a field of what a plan says about itself. -/
def Metadata.read (info : Metadata) (name : Text) (value : Value) : Shaped Metadata :=
  if name = "name" then do return { info with name := ← textOf value }
  else if name = "description" then do return { info with description := some (← textOf value) }
  else if name = "workspace_relative" then do
    return { info with workspaceRelative := ← boolOf value }
  else return info

/-- What a plan says about itself, as a table or as a list of the fields in order. -/
def metadataOf (value : Value) : Shaped Metadata :=
  match value.entries?, value.items? with
  | some entries, _ => readAll Metadata.read {} entries
  | none, some items =>
    let names : List Text := ["name", "description", "workspace_relative"]
    readAll Metadata.read {} (names.zip items)
  | none, none => .error (.wrongType value "struct Metadata")

/-- Read a field of a plan. -/
def Plan.read (plan : Plan) (name : Text) (value : Value) : Shaped Plan :=
  if name = "meta" then do return { plan with info := ← metadataOf value }
  else if name = "patches" then do
    return { plan with patches := ← (← itemsOf value).mapM patchOf }
  else return plan

/-- A plan from the table of a whole text. -/
def Plan.ofEntries (entries : Entries) : Shaped Plan :=
  readAll Plan.read {} entries

end Graft
