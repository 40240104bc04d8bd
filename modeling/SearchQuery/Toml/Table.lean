import SearchQuery.Toml.Value

/-!
# Building tables

A document adds to its tables in three ways: by a setting, whose key may lead
through further tables; by the header of a table; and by the header of the next
table of an array. Nothing may be defined twice, a table in braces is complete as
it stands, and a table made by dotted keys does not mix with one made by a header.

`Entries.descend` walks to the table that a path of keys leads to, makes what is
missing on the way, and lets a function change that table.
-/

namespace SearchQuery.Toml

namespace Entries

/-- Changes the table at the end of a path; none if the path may not be taken or the change may
not be made. `dotted` tells the path of a setting from the path of a header. -/
def descend (dotted : Bool) (change : Origin → Entries → Option Entries) :
    List Key → Origin → Entries → Option Entries
  | [], origin, entries => change origin entries
  | k :: path, _, entries =>
    match entries.find? k.name with
    | none =>
      let origin := if dotted then Origin.dotted else Origin.implicit
      (descend dotted change path origin []).map fun inner =>
        entries.set (k, k.span, .table origin inner)
    | some (key, span, .table origin inner) =>
      if origin = .inline || (dotted && origin = .header) then none
      else
        (descend dotted change path origin inner).map fun inner =>
          entries.set (key, span, .table origin inner)
    | some (key, span, .array true items) =>
      match items.getLast? with
      | some (place, .table origin inner) =>
        (descend dotted change path origin inner).map fun inner =>
          entries.set (key, span, .array true (items.dropLast ++ [(place, .table origin inner)]))
      | _ => none
    | some _ => none

/-- Adds a value under a new name; the table must have been made by a dotted key exactly when
the key of the value is dotted. -/
def addValue (isDotted : Bool) (key : Key) (span : Span) (value : Value) (origin : Origin)
    (entries : Entries) : Option Entries :=
  if decide (origin = .dotted) ≠ isDotted then none
  else if (entries.find? key.name).isSome then none
  else some (entries ++ [(key, span, value)])

/-- Adds a setting to a table; its key is `path` and then `key`. -/
def addSetting (path : List Key) (key : Key) (span : Span) (value : Value) (origin : Origin)
    (entries : Entries) : Option Entries :=
  descend true (addValue (!path.isEmpty) key span value) path origin entries

/-- Gives a table a header. -/
def addHeader (path : List Key) (key : Key) (span : Span) (entries : Entries) : Option Entries :=
  let define : Origin → Entries → Option Entries := fun _ outer =>
    match outer.find? key.name with
    | none => some (outer ++ [(key, span, .table .header [])])
    | some (_, _, .table .implicit inner) => some (outer.set (key, span, .table .header inner))
    | some _ => none
  descend false define path .header entries

/-- Adds a table to an array of tables. -/
def addArrayHeader (path : List Key) (key : Key) (span : Span) (entries : Entries) :
    Option Entries :=
  let append : Origin → Entries → Option Entries := fun _ outer =>
    match outer.find? key.name with
    | none => some (outer ++ [(key, span, .array true [(span, .table .header [])])])
    | some (old, place, .array true items) =>
      some (outer.set (old, place, .array true (items ++ [(span, .table .header [])])))
    | some _ => none
  descend false append path .header entries

end Entries

end SearchQuery.Toml
