import Graft.Toml.Value

/-! # Building tables

How keys and headers fill tables.  A key is given once; a table is opened by one header at most; an
array, an inline table and a table opened by a header take nothing more through dotted keys. -/

namespace Graft.Toml

/-- A key, the names on the way to it, and its value. -/
structure Assignment where
  way : List Text
  key : Text
  value : Value

/-- A table header. -/
structure Header where
  /-- whether the brackets are doubled, so that the table is one of several -/
  repeated : Bool
  way : List Text
  key : Text

/-- A header with the assignments under it. -/
structure Section where
  header : Header
  assignments : List Assignment

/-! ## Following a way -/

/-- Change the table at the end of a way, given the origin of the table at its start.  Tables that
are missing on the way are made, with the origin `fresh`; `fill` is given the origin and the entries
of the last table. -/
def within (fresh : Origin) (fill : Origin → Entries → Option Entries) :
    List Text → Origin → Entries → Option Entries
  | [], origin, entries => fill origin entries
  | name :: way, _, entries =>
    match entries.get? name with
    | none => do
      let inner ← within fresh fill way fresh []
      some (entries.add name (.table fresh inner))
    | some (.table origin inner) =>
      if origin = .inline ∨ (fresh = .dotted ∧ origin = .header) then none
      else do
        let inner ← within fresh fill way origin inner
        some (entries.set name (.table origin inner))
    | some (.tables items) =>
      match items.getLast? with
      | some (.table origin inner) => do
        let inner ← within fresh fill way origin inner
        some (entries.set name (.tables (items.dropLast ++ [.table origin inner])))
      | _ => none
    | some _ => none

/-- A new entry.  A dotted key adds only to tables that dotted keys made, a plain key only to others. -/
def assign (entries : Entries) (assignment : Assignment) : Option Entries :=
  let fill (origin : Origin) (entries : Entries) : Option Entries :=
    if (origin = .dotted) = (assignment.way = []) ∨ (entries.get? assignment.key).isSome then none
    else some (entries.add assignment.key assignment.value)
  within .dotted fill assignment.way .header entries

/-- The entries with those of some assignments. -/
def assignAll (entries : Entries) (assignments : List Assignment) : Option Entries :=
  assignments.foldlM assign entries

/-! ## Sections -/

/-- A table opened by a single header, which takes over what is implied of it already. -/
def openTable (section_ : Section) (entries : Entries) : Option Entries := do
  let key := section_.header.key
  let earlier ←
    match entries.get? key with
    | none => some []
    | some (.table .implied inner) => some inner
    | some _ => none
  let inner ← assignAll earlier section_.assignments
  some ((entries.remove key).add key (.table .header inner))

/-- One more table of a repeated header. -/
def openRepeated (section_ : Section) (entries : Entries) : Option Entries := do
  let key := section_.header.key
  let item := Value.table .header (← assignAll [] section_.assignments)
  match entries.get? key with
  | none => some (entries.add key (.tables [item]))
  | some (.tables items) => some (entries.set key (.tables (items ++ [item])))
  | some _ => none

/-- The entries with those of a section. -/
def addSection (entries : Entries) (section_ : Section) : Option Entries :=
  let fill (_ : Origin) (entries : Entries) : Option Entries :=
    if section_.header.repeated then openRepeated section_ entries
    else openTable section_ entries
  within .implied fill section_.header.way .header entries

/-- The entries of a whole text: what comes before the first header, and the sections. -/
def tableOf (top : List Assignment) (sections : List Section) : Option Entries := do
  sections.foldlM addSection (← assignAll [] top)

end Graft.Toml
