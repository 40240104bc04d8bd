import SearchQuery.Number.Binary64
import SearchQuery.Toml.Source

/-!
# TOML values

What a TOML document holds. Keys and values remember where they stand, since a
reader of the document may object to them later. A table also remembers how it came
to be, because that decides what may still be added to it.
-/

namespace SearchQuery.Toml

/-- A floating point number. -/
inductive Float where
  | finite (negative : Bool) (magnitude : Binary64)
  | infinite (negative : Bool)
  | nan
  deriving DecidableEq, Repr

/-- A floating point number as it is shown. -/
def Float.text : Float → String
  | finite negative magnitude => (if negative then "-" else "") ++ magnitude.text
  | infinite negative => if negative then "-inf" else "inf"
  | nan => "NaN"

/-- A key and where it stands. -/
structure Key where
  name : String
  span : Span
  deriving DecidableEq, Repr

/-- How a table came to be. -/
inductive Origin where
  /-- It has a header, or it is the document. -/
  | header
  /-- It is on the way to a table with a header. -/
  | implicit
  /-- It is on the way of a dotted key. -/
  | dotted
  /-- It is written in braces. -/
  | inline
  deriving DecidableEq, Repr

/-- A value. A number may be one that no program can hold; that is an error for who reads the
number, and not for who skips it. -/
inductive Value where
  | boolean (value : Bool)
  /-- An integer, of any size; none if it has no digits. -/
  | integer (value : Option Int)
  /-- A floating point number; none if it is beyond the largest one. -/
  | float (value : Option Float)
  | string (value : String)
  /-- A date, a time or both, as written. -/
  | datetime (text : String)
  /-- A list of values; `ofTables` if it is written as tables with double brackets. -/
  | array (ofTables : Bool) (items : List (Span × Value))
  /-- A table; its entries stand in the order in which they were written. -/
  | table (origin : Origin) (entries : List (Key × Span × Value))

/-- The entries of a table: key, place of the value, value. -/
abbrev Entries := List (Key × Span × Value)

/-- The entry of a name. -/
def Entries.find? (entries : Entries) (name : String) : Option (Key × Span × Value) :=
  List.find? (fun e => e.1.name = name) entries

/-- The entries with the one of the same name replaced, or with the entry at the end. -/
def Entries.set : Entries → Key × Span × Value → Entries
  | [], entry => [entry]
  | old :: rest, entry =>
    if old.1.name = entry.1.name then entry :: rest else old :: Entries.set rest entry

/-- Puts an entry before the first one with a larger name. -/
def Entries.insertByName (entry : Key × Span × Value) : Entries → Entries
  | [] => [entry]
  | old :: rest =>
    if entry.1.name < old.1.name then entry :: old :: rest
    else old :: Entries.insertByName entry rest

/-- The entries in the order of their names, by code point. -/
def Entries.byName (entries : Entries) : Entries :=
  entries.foldr Entries.insertByName []

mutual

/-- Whether all numbers in a value can be held: integers have 64 bits. -/
def Value.fits : Value → Bool
  | .integer value => value.any fun n => -2 ^ 63 ≤ n && n < 2 ^ 63
  | .float value => value.isSome
  | .array _ items => itemsFit items
  | .table _ entries => entriesFit entries
  | _ => true

/-- Whether all numbers in the items of an array can be held. -/
def itemsFit : List (Span × Value) → Bool
  | [] => true
  | (_, v) :: rest => v.fits && itemsFit rest

/-- Whether all numbers in the entries of a table can be held. -/
def entriesFit : List (Key × Span × Value) → Bool
  | [] => true
  | (_, _, v) :: rest => v.fits && entriesFit rest

end

/-- The word for the type of a value. -/
def Value.typeName : Value → String
  | boolean _ => "boolean"
  | integer _ => "integer"
  | float _ => "float"
  | string _ => "string"
  | datetime _ => "datetime"
  | array _ _ => "array"
  | table _ _ => "table"

end SearchQuery.Toml
