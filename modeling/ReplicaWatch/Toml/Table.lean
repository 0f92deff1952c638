import ReplicaWatch.Json

/-! # Tables in TOML

A document builds a tree of tables by statements: headers that open a table, headers that
open one more table of a list, and assignments to dotted names. A table may be opened by a
header only once. Tables that came about as a step on the way to another one are implicit
and may still be opened; tables that came about by dotted names may not, and nothing may be
assigned into a table from two kinds of statements.
-/

namespace ReplicaWatch.Toml

/-- What a name stands for. -/
inductive Item where
  | value (value : Json)
  /-- A table; whether it is only a step on the way to others, and whether it came about by
  dotted names. -/
  | table (implicit dotted : Bool) (entries : List (String × Item))
  /-- A list of tables. -/
  | tables (items : List (List (String × Item)))

/-- The entries of a table, in the order in which they came about. -/
abbrev Entries := List (String × Item)

namespace Entries

/-- What a name stands for. -/
def find? (entries : Entries) (name : String) : Option Item := entries.lookup name

/-- Lets a name stand for something, at its place if it has one. -/
def set (entries : Entries) (name : String) (item : Item) : Entries :=
  if (entries.lookup name).isSome then
    entries.map fun entry => if entry.1 == name then (name, item) else entry
  else entries ++ [(name, item)]

/-- Changes the entries of the table at the end of a path of headers, which steps into the
last table of each list. -/
def atHeader (path : List String) (change : Entries → Option Entries) (entries : Entries) :
    Option Entries :=
  match path with
  | [] => change entries
  | name :: path =>
    match entries.find? name with
    | none => (atHeader path change []).map fun inner => entries.set name (.table true false inner)
    | some (.value _) => none
    | some (.table implicit dotted inner) =>
      (atHeader path change inner).map fun inner => entries.set name (.table implicit dotted inner)
    | some (.tables items) =>
      match items.getLast? with
      | none => none
      | some inner =>
        (atHeader path change inner).map fun inner =>
          entries.set name (.tables (items.dropLast ++ [inner]))

/-- Opens a table. -/
def openTable (name : String) (entries : Entries) : Option Entries :=
  match entries.find? name with
  | none => some (entries.set name (.table false false []))
  | some (.table true false inner) => some (entries.set name (.table false false inner))
  | some _ => none

/-- Opens one more table of a list. -/
def openListed (name : String) (entries : Entries) : Option Entries :=
  match entries.find? name with
  | none => some (entries.set name (.tables [[]]))
  | some (.tables items) => some (entries.set name (.tables (items ++ [[]])))
  | some _ => none

/-- Assigns a value to a dotted name. -/
def assign (value : Json) : List String → Entries → Option Entries
  | [], _ => none
  | [name], entries =>
    match entries.find? name with
    | none => some (entries.set name (.value value))
    | some _ => none
  | name :: path, entries =>
    match entries.find? name with
    | none =>
      (assign value path []).map fun inner => entries.set name (.table true true inner)
    | some (.table true true inner) =>
      (assign value path inner).map fun inner => entries.set name (.table true true inner)
    | some _ => none

end Entries

mutual

/-- What a name stands for, as a value. -/
def Item.toJson : Item → Json
  | .value value => value
  | .table _ _ entries => .object (fieldsToJson entries)
  | .tables items => .array (tablesToJson items)

/-- The entries of a table, as fields. -/
def fieldsToJson : List (String × Item) → List (Option String × Json)
  | [] => []
  | (name, item) :: rest => (some name, item.toJson) :: fieldsToJson rest

/-- The tables of a list, as values. -/
def tablesToJson : List (List (String × Item)) → List Json
  | [] => []
  | entries :: rest => .object (fieldsToJson entries) :: tablesToJson rest

end

end ReplicaWatch.Toml
