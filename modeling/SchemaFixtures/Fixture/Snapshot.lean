import SchemaFixtures.Decimal.Layout
import SchemaFixtures.Fixture.Store
import SchemaFixtures.Text.Inspect

/-!
# Snapshots

What is known of a value at one moment: a finite tree in which fields that are still to
be worked out are left open. Taking a snapshot works nothing out. The value in a cell
refers only to later cells, so no way through cells is longer than their number.
-/

namespace SchemaFixtures.Fixture

/-- The known part of a value. -/
inductive Snapshot where
  | absent
  | null
  | boolean (value : Bool)
  | int (value : Int64)
  | float (value : Float)
  | string (text : String)
  | enum (name : String)
  | raw (source : String)
  | list (items : List Snapshot)
  | object (fields : List (String × Option Snapshot))

mutual

/-- The known part of a value, given what is known of cells. -/
def snapshotWith (look : Cell → Option Snapshot) : Value → Snapshot
  | .absent => .absent
  | .null => .null
  | .boolean value => .boolean value
  | .int value => .int value
  | .float value => .float value
  | .string text => .string text
  | .enum name => .enum name
  | .raw source => .raw source
  | .list items => .list (snapshotItems look items)
  | .object _ fields => .object (snapshotFields look fields)

/-- The known parts of the items of a list. -/
def snapshotItems (look : Cell → Option Snapshot) : List Value → List Snapshot
  | [] => []
  | item :: rest => snapshotWith look item :: snapshotItems look rest

/-- The known parts of fields. -/
def snapshotFields (look : Cell → Option Snapshot) :
    List (String × Field) → List (String × Option Snapshot)
  | [] => []
  | (name, .held value) :: rest =>
    (name, some (snapshotWith look value)) :: snapshotFields look rest
  | (name, .later cell _) :: rest => (name, look cell) :: snapshotFields look rest

end

/-- What is known of a cell, on ways through at most the given number of cells. -/
def Store.lookWithin (store : Store) : (cells : Nat) → Cell → Option Snapshot
  | 0, _ => none
  | cells + 1, cell => (store.value? cell).map (snapshotWith (store.lookWithin cells))

/-- What is known of a cell. -/
def Store.look (store : Store) (cell : Cell) : Option Snapshot :=
  store.lookWithin store.cells.size cell

/-- What is known of a value. -/
def Store.snapshot (store : Store) (value : Value) : Snapshot := snapshotWith store.look value

/-- What is known of an object with these fields. -/
def Store.snapshotObject (store : Store) (fields : Entries Field) : Snapshot :=
  .object (snapshotFields store.look fields)

namespace Snapshot

/-- Floats from 1e-4 up to 1e16 are positional; a positive exponent has no sign. -/
def floatLayout : Decimal.Layout where
  leastPositional := -4
  greatestPositional := 15
  positiveMark := "e"
  negativeMark := "e-"
  notANumber := "NaN"
  infinity := "inf"
  negativeInfinity := "-inf"

mutual

/-- The snapshot as text. -/
def text : Snapshot → String
  | absent => "Absent"
  | null => "Null"
  | boolean true => "true"
  | boolean false => "false"
  | int value => toString value.toInt
  | float value => floatLayout.write value
  | string text => Text.inspect text
  | enum name => "Enum(" ++ name ++ ")"
  | raw source => "Raw(" ++ source ++ ")"
  | list items => "[" ++ ", ".intercalate (itemTexts items) ++ "]"
  | object fields => "\x7b" ++ ", ".intercalate (fieldTexts fields) ++ "\x7d"

/-- The texts of the items of a list. -/
def itemTexts : List Snapshot → List String
  | [] => []
  | item :: rest => item.text :: itemTexts rest

/-- The texts of fields with their names. -/
def fieldTexts : List (String × Option Snapshot) → List String
  | [] => []
  | (name, some value) :: rest => (Text.inspect name ++ ": " ++ value.text) :: fieldTexts rest
  | (name, none) :: rest => (Text.inspect name ++ ": <unresolved>") :: fieldTexts rest

end

end Snapshot

/-- The registry as text: the names of its factories. -/
def Registry.text (registry : Registry) : String :=
  "FixtureRegistry \x7b factories: [" ++ ", ".intercalate (registry.names.map Text.inspect)
    ++ "] \x7d"

end SchemaFixtures.Fixture
