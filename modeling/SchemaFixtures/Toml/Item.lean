import SchemaFixtures.Json.Basic

/-!
# Tables of a TOML document

A document grows line by line. A table is defined by its header, implied by the header of
a table inside it, or made by a dotted key, and what may still be added to it depends on
that: a header defines a table once, a dotted key goes on only through tables that no
header defined and makes them its own, and values written in place are closed. An array of tables stands for its last element.
-/

namespace SchemaFixtures.Toml

/-- How a table came about. -/
inductive Origin where
  | header
  | implied
  | dotted
deriving DecidableEq, Repr

/-- What stands under a key. -/
inductive Item where
  | value (json : Json)
  | table (origin : Origin) (entries : List (String × Item))
  | elements (tables : List (List (String × Item)))

/-- What stands under the keys of a table. -/
abbrev Table := Entries Item

/-- Changes the last table of an array of tables. -/
def changeLast (change : Table → Option Table) : List Table → Option (List Table)
  | [] => none
  | [last] => (change last).map ([·])
  | first :: rest => (changeLast change rest).map (first :: ·)

/-- Puts a value under a dotted key. A key is used once. Tables on the way that were only
implied count as made by the dotted key from then on. -/
def Table.assign (value : Json) : (path : List String) → Table → Option Table
  | [], _ => none
  | [key], table => if (table.value? key).isSome then none else some (table.put key (.value value))
  | key :: next :: rest, table =>
    match table.value? key with
    | none => (Table.assign value (next :: rest) []).map fun inner =>
      table.put key (.table .dotted inner)
    | some (.table .dotted inner) => (Table.assign value (next :: rest) inner).map fun inner =>
      table.put key (.table .dotted inner)
    | some (.table .implied inner) => (Table.assign value (next :: rest) inner).map fun inner =>
      table.put key (.table .dotted inner)
    | some (.elements tables) =>
      if rest.isEmpty then none
      else (changeLast (Table.assign value (next :: rest)) tables).map fun tables =>
        table.put key (.elements tables)
    | some (.table .header _) => none
    | some (.value _) => none

/-- Changes the table that a header names, and everything on the way is there. -/
def Table.within (change : Table → Option Table) : (path : List String) → Table → Option Table
  | [], table => change table
  | key :: rest, table =>
    match table.value? key with
    | some (.table origin inner) => (Table.within change rest inner).map fun inner =>
      table.put key (.table origin inner)
    | some (.elements tables) => (changeLast (Table.within change rest) tables).map fun tables =>
      table.put key (.elements tables)
    | some (.value _) => none
    | none => none

/-- Places what a header opens. Tables on the way that are missing are implied. -/
def Table.place (opened : Option Item → Option Item) : (path : List String) → Table → Option Table
  | [], _ => none
  | [key], table => (opened (table.value? key)).map fun item => table.put key item
  | key :: next :: rest, table =>
    match table.value? key with
    | none => (Table.place opened (next :: rest) []).map fun inner =>
      table.put key (.table .implied inner)
    | some (.table origin inner) => (Table.place opened (next :: rest) inner).map fun inner =>
      table.put key (.table origin inner)
    | some (.elements tables) =>
      (changeLast (Table.place opened (next :: rest)) tables).map fun tables =>
        table.put key (.elements tables)
    | some (.value _) => none

/-- A table header defines a table that is new or was only implied. -/
def openTable : Option Item → Option Item
  | none => some (.table .header [])
  | some (.table .implied entries) => some (.table .header entries)
  | _ => none

/-- An element header adds a table to an array of tables. -/
def openElement : Option Item → Option Item
  | none => some (.elements [[]])
  | some (.elements tables) => some (.elements (tables ++ [[]]))
  | _ => none

/-- Members with their names in ascending order. -/
def sortMembers (members : List (String × Json)) : List (String × Json) :=
  members.mergeSort fun a b => decide (a.1 ≤ b.1)

mutual

/-- The JSON value of an item. -/
def Item.json : Item → Json
  | .value json => json
  | .table _ entries => .object (sortMembers (tableMembers entries))
  | .elements tables => .array (elementValues tables)

/-- The members of a table. -/
def tableMembers : List (String × Item) → List (String × Json)
  | [] => []
  | (key, item) :: rest => (key, item.json) :: tableMembers rest

/-- The elements of an array of tables. -/
def elementValues : List (List (String × Item)) → List Json
  | [] => []
  | entries :: rest => .object (sortMembers (tableMembers entries)) :: elementValues rest

end

/-- The JSON object of a table, its members sorted by name. -/
def Table.json (table : Table) : Json := .object (sortMembers (tableMembers table))

end SchemaFixtures.Toml
