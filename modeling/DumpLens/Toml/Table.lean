import DumpLens.Toml.Value

/-! Changes to nested tables. -/

namespace DumpLens.Toml.Table

/-- A table with another value for a key that it has. -/
def replace (table : Table) (key : Text) (value : Value) : Table :=
  table.map fun entry => if entry.1 = key then (key, value) else entry

/-- A table with an entry for a new key. -/
def append (table : Table) (key : Text) (value : Value) : Table :=
  table ++ [(key, value)]

/-- Changes the table at a path. Tables that are missing on the way are made. With
`throughArrays` the path leads through the last tables of arrays; it leads through
no other values. -/
def modifyAt (throughArrays : Bool) (change : Table → Option Table) :
    List Text → Table → Option Table
  | [], table => change table
  | key :: path, table =>
    match table.find? key with
    | none => (modifyAt throughArrays change path []).map fun inner =>
      append table key (.table inner)
    | some (.table inner) =>
      (modifyAt throughArrays change path inner).map fun inner => replace table key (.table inner)
    | some (.array items) =>
      match throughArrays, items.getLast? with
      | true, some (.table inner) =>
        (modifyAt throughArrays change path inner).map fun inner =>
          replace table key (.array (items.dropLast ++ [.table inner]))
      | _, _ => none
    | some _ => none

/-- A table with an entry for a key, unless it has one already. -/
def insertNew (key : Text) (value : Value) (table : Table) : Option Table :=
  match table.find? key with
  | none => some (append table key value)
  | some _ => none

/-- A table with one more table in the array of a key. -/
def appendTable (key : Text) (table : Table) : Option Table :=
  match table.find? key with
  | none => some (append table key (.array [.table []]))
  | some (.array items) => some (replace table key (.array (items ++ [.table []])))
  | some _ => none

end DumpLens.Toml.Table
