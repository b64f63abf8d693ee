/-!
# TOML tables

Settings are strings, so of any other value only is kept that it is there. What matters is what
may be defined where: a key is given a value once, a table has one header, and a table that came
about through a dotted key is not defined again by a header, nor the other way round.
-/

namespace MemShell.Toml

inductive Value where
  | string (text : String)
  /-- A number, a truth value, a date, an array or an inline table. -/
  | other
deriving DecidableEq, Repr

/-- How a table came about. -/
inductive Origin where
  /-- By its own header, or as the whole document. -/
  | header
  /-- By the header of a table in it. -/
  | implied
  /-- By a dotted key. -/
  | dotted
deriving DecidableEq, Repr

/-- What a key stands for. -/
inductive Item where
  | value (value : Value)
  | table (origin : Origin) (entries : List (String × Item))
  /-- An array of tables, each made by a header of its own. -/
  | tables (elements : List (List (String × Item)))

/-- The keys of a table with what they stand for. -/
abbrev Entries := List (String × Item)

namespace Entries

/-- The entries with the item of a key replaced, or added at the end. -/
def put (key : String) (item : Item) : Entries → Entries
  | [] => [(key, item)]
  | entry :: entries =>
    if entry.1 = key then (key, item) :: entries else entry :: put key item entries

/-- How a table is reached from another one. -/
inductive Route where
  | header
  | dottedKey
deriving DecidableEq, Repr

/-- The origin of a table that is made on the way. -/
def Route.origin : Route → Origin
  | header => .implied
  | dottedKey => .dotted

/-- Change the table at the end of a path, where `change` also learns its origin. Tables that are
missing on the way are made. Values are not tables, of an array of tables the last one is meant,
and a dotted key does not lead into a table that has a header. -/
def changeAt (route : Route) (change : Origin → Entries → Option Entries) (origin : Origin)
    (entries : Entries) : List String → Option Entries
  | [] => change origin entries
  | key :: path =>
    match entries.lookup key with
    | none =>
      (changeAt route change route.origin [] path).map fun inner =>
        put key (.table route.origin inner) entries
    | some (.value _) => none
    | some (.table found inner) =>
      if route = .dottedKey ∧ found = .header then none
      else
        (changeAt route change found inner path).map fun inner =>
          put key (.table found inner) entries
    | some (.tables elements) =>
      (changeAt route change .header (elements.getLastD []) path).map fun inner =>
        put key (.tables (elements.dropLast ++ [inner])) entries

/-- Give a new key a value. A dotted key adds only to tables that came about through dotted keys. -/
def define (path : List String) (key : String) (value : Value) (entries : Entries) :
    Option Entries :=
  changeAt .dottedKey
    (fun origin found =>
      if path ≠ [] ∧ origin ≠ .dotted then none
      else if (found.lookup key).isSome then none
      else some (put key (.value value) found))
    .header entries path

/-- Open the table of a header. It may be there already if only headers below it implied it. -/
def openTable (path : List String) (key : String) (entries : Entries) : Option Entries :=
  changeAt .header
    (fun _ found =>
      match found.lookup key with
      | none => some (put key (.table .header []) found)
      | some (.table .implied inner) => some (put key (.table .header inner) found)
      | _ => none)
    .header entries path

/-- Open one more table of an array of tables. -/
def openElement (path : List String) (key : String) (entries : Entries) : Option Entries :=
  changeAt .header
    (fun _ found =>
      match found.lookup key with
      | none => some (put key (.tables [[]]) found)
      | some (.tables elements) => some (put key (.tables (elements ++ [[]])) found)
      | _ => none)
    .header entries path

/-- Give a new key a value in the table that was opened last, at `place`. -/
def defineAt (place path : List String) (key : String) (value : Value) (entries : Entries) :
    Option Entries :=
  changeAt .header (fun _ found => define path key value found) .header entries place

end Entries

end MemShell.Toml
