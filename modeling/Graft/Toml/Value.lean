import Graft.Decimal.Shortest
import Graft.Text.Quoted

/-! # Values

What a configuration text denotes.  A table remembers how it came about, since that decides whether
later parts of the text may add to it. -/

namespace Graft.Toml

/-- How a table came about. -/
inductive Origin where
  /-- written between braces, complete where it stands -/
  | inline
  /-- opened by a header of its own -/
  | header
  /-- named on the way to another header's table -/
  | implied
  /-- named on the way by a dotted key -/
  | dotted
  deriving DecidableEq, Repr

/-- A value. -/
inductive Value where
  | string (content : Text)
  | integer (n : Int)
  | float (x : Float)
  | boolean (b : Bool)
  /-- a date, a time or both -/
  | moment
  | array (items : List Value)
  /-- the keys in the order they first appear -/
  | table (origin : Origin) (entries : List (Text × Value))
  /-- the tables of one repeated header -/
  | tables (items : List Value)

/-- The entries of a table. -/
abbrev Entries := List (Text × Value)

namespace Entries

/-- The value of a key. -/
def get? (entries : Entries) (key : Text) : Option Value :=
  entries.lookup key

/-- The entries with the value of a key changed where it stands. -/
def set (entries : Entries) (key : Text) (value : Value) : Entries :=
  entries.map fun entry => if entry.1 = key then (key, value) else entry

/-- The entries without a key. -/
def remove (entries : Entries) (key : Text) : Entries :=
  entries.filter fun entry => entry.1 ≠ key

/-- The entries with a new key at the end. -/
def add (entries : Entries) (key : Text) (value : Value) : Entries :=
  entries ++ [(key, value)]

end Entries

namespace Value

/-- The items of an array or a repeated header. -/
def items? : Value → Option (List Value)
  | array items => some items
  | tables items => some items
  | _ => none

/-- The key under which a date or time shows where a table is wanted. -/
def momentKey : Text := "$__toml_private_datetime"

/-- The entries of a table.  A date or time passes for a table of one text. -/
def entries? : Value → Option Entries
  | table _ entries => some entries
  | moment => some [(momentKey, .string [])]
  | _ => none

/-- An integer in decimal. -/
def ofInt (n : Int) : Text :=
  if n < 0 then '-' :: Text.ofNat n.natAbs else Text.ofNat n.natAbs

/-- A value as a message about a wrong type names it. -/
def describe : Value → Text
  | string content => "string " ++ content.quoted
  | integer n => "integer `" ++ ofInt n ++ "`"
  | float x => "floating point `" ++ Decimal.floatText x ++ "`"
  | boolean b => "boolean `" ++ (if b then "true" else "false" : String).toList ++ "`"
  | moment => "map"
  | table _ _ => "map"
  | array _ => "sequence"
  | tables _ => "sequence"

end Value
end Graft.Toml
