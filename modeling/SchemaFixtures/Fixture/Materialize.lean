import SchemaFixtures.Fixture.Read

/-!
# From fixtures to JSON

Objects nested at most `depth` deep are read field by field; an object beyond that keeps
only the name of its type. Fields without a value are left out, list items without a
value are null, and a list does not count as a level.
-/

namespace SchemaFixtures.Fixture

/-- Reads fields in order and converts their values; fields without a value are left
out. -/
def materializeFields (registry : Registry) (convert : Value → Store → Json × Store) :
    List (String × Field) → Store → List (String × Json) × Store
  | [], store => ([], store)
  | (name, field) :: rest, store =>
    let (value, store) := field.read registry store
    if value.isAbsent then materializeFields registry convert rest store
    else
      let (json, store) := convert value store
      let (others, store) := materializeFields registry convert rest store
      ((name, json) :: others, store)

mutual

/-- Converts a value, given how its objects are converted. -/
def materializeWith (convertObject : Entries Field → Store → Json × Store) :
    Value → Store → Json × Store
  | .absent, store => (.null, store)
  | .null, store => (.null, store)
  | .boolean value, store => (.bool value, store)
  | .int value, store => (.int value, store)
  | .float value, store => (.float value, store)
  | .string text, store => (.string text, store)
  | .enum name, store => (.string name, store)
  | .raw source, store => (.string source, store)
  | .list items, store =>
    let (converted, store) := materializeItems convertObject items store
    (.array converted, store)
  | .object _ fields, store => convertObject fields store

/-- Converts the items of a list. -/
def materializeItems (convertObject : Entries Field → Store → Json × Store) :
    List Value → Store → List Json × Store
  | [], store => ([], store)
  | item :: rest, store =>
    let (converted, store) := materializeWith convertObject item store
    let (others, store) := materializeItems convertObject rest store
    (converted :: others, store)

end

/-- An object that is not read any further: the name of its type, if it states one. -/
def materializeTypename (registry : Registry) (fields : Entries Field) (store : Store) :
    Json × Store :=
  let (name, store) := typename? registry fields store
  (.object (name.toList.map fun name => (typenameField, .string name)), store)

/-- Converts an object whose nested objects are read to the given depth. -/
def materializeObject (registry : Registry) :
    (depth : Nat) → Entries Field → Store → Json × Store
  | 0, fields, store => materializeTypename registry fields store
  | depth + 1, fields, store =>
    let (members, store) :=
      materializeFields registry (materializeWith (materializeObject registry depth)) fields store
    (.object members, store)

/-- The JSON of a value to a depth. -/
def Value.materialize (registry : Registry) (depth : Nat) (value : Value) (store : Store) :
    Json × Store :=
  materializeWith (materializeObject registry depth) value store

end SchemaFixtures.Fixture
