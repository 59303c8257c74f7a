/-! # TOML values and tables

A table remembers how it came about, since that decides what may still be added to it:
a table with a header of its own is closed for dotted keys, a table that a longer header
implied may still get a header, and a table made by dotted keys takes more dotted keys. -/

namespace DispatchCache

inductive Toml.Origin where
  | header
  | implied
  | dotted
  deriving DecidableEq, Repr

inductive Toml where
  | string (text : String)
  | boolean (value : Bool)
  | integer (value : Int)
  /-- A float as it is written. -/
  | float (text : String)
  /-- A date, a time or both as they are written. -/
  | moment (text : String)
  | array (items : List Toml)
  /-- A table in braces, to which nothing can be added. -/
  | inline (entries : List (String × Toml))
  | table (origin : Toml.Origin) (entries : List (String × Toml))
  /-- An array of tables, last first. -/
  | tables (items : List (List (String × Toml)))

namespace Toml

abbrev Entries := List (String × Toml)

def Entries.set (entries : Entries) (key : String) (value : Toml) : Entries :=
  if entries.any (·.1 = key) then
    entries.map fun entry => if entry.1 = key then (key, value) else entry
  else entries ++ [(key, value)]

/-- Adds a value under a dotted key. Nothing is ever replaced. -/
def Entries.put (entries : Entries) (path : List String) (key : String) (value : Toml) :
    Option Entries :=
  match path with
  | [] => if (entries.lookup key).isSome then none else some (entries.set key value)
  | outer :: path =>
    match entries.lookup outer with
    | none => (Entries.put [] path key value).map fun inner =>
        entries.set outer (.table .dotted inner)
    | some (.table .dotted inner) =>
      (Entries.put inner path key value).map fun inner => entries.set outer (.table .dotted inner)
    | some (.table .implied inner) =>
      if path.isEmpty then none
      else (Entries.put inner path key value).map fun inner =>
        entries.set outer (.table .implied inner)
    | some (.tables (last :: earlier)) =>
      if path.isEmpty then none
      else (Entries.put last path key value).map fun last =>
        entries.set outer (.tables (last :: earlier))
    | some _ => none

/-- Changes what a header's path leads to. Missing tables on the way are implied, and an
array of tables stands for its last table. -/
def Entries.under (entries : Entries) (path : List String) (change : Entries → Option Entries) :
    Option Entries :=
  match path with
  | [] => change entries
  | outer :: path =>
    match entries.lookup outer with
    | none => (Entries.under [] path change).map fun inner =>
        entries.set outer (.table .implied inner)
    | some (.table origin inner) =>
      (Entries.under inner path change).map fun inner => entries.set outer (.table origin inner)
    | some (.tables (last :: earlier)) =>
      (Entries.under last path change).map fun last =>
        entries.set outer (.tables (last :: earlier))
    | some _ => none

/-- Gives a table its header, which only one that was implied so far may get. -/
def Entries.openTable (entries : Entries) (key : String) : Option Entries :=
  match entries.lookup key with
  | none => some (entries.set key (.table .header []))
  | some (.table .implied inner) => some (entries.set key (.table .header inner))
  | some _ => none

/-- Appends an empty table to an array of tables. -/
def Entries.openElement (entries : Entries) (key : String) : Option Entries :=
  match entries.lookup key with
  | none => some (entries.set key (.tables [[]]))
  | some (.tables items) => some (entries.set key (.tables ([] :: items)))
  | some _ => none

end Toml

end DispatchCache
