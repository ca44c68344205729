import SchemaFixtures.Fixture.Value

/-!
# The store

A store keeps the cells of all fixtures and counts the objects made. Making a fixture
reserves an empty cell for each field; reading a field fills its cell if it is still
empty. Cells are reserved in order and never given back, so the value that appears in a
cell refers only to cells that were reserved later.
-/

namespace SchemaFixtures.Fixture

/-- The cells, each empty or with its value, and the number of objects made. -/
structure Store where
  cells : Array (Option Value) := #[]
  objects : Nat := 0

namespace Store

/-- The value of a cell, if it has appeared. -/
def value? (store : Store) (cell : Cell) : Option Value := store.cells[cell.index]?.join

/-- Lets the value of a cell appear. -/
def fill (store : Store) (cell : Cell) (value : Value) : Store :=
  { store with cells := store.cells.setIfInBounds cell.index (some value) }

/-- A new empty cell. -/
def reserve (store : Store) : Cell × Store :=
  (⟨store.cells.size⟩, { store with cells := store.cells.push none })

/-- A new object with the given fields. -/
def newObject (store : Store) (fields : Entries Field) : Value × Store :=
  (.object store.objects fields, { store with objects := store.objects + 1 })

/-- Fields with an empty cell for each default. -/
def reserveFields (store : Store) : List (String × Default) → List (String × Field) × Store
  | [] => ([], store)
  | (name, default) :: rest =>
    let (cell, store) := store.reserve
    let (others, store) := store.reserveFields rest
    ((name, .later cell default) :: others, store)

end Store

mutual

/-- The value of a JSON default. Every object in it is a new one, and all its fields
hold their values. -/
def ofJson : Json → Store → Value × Store
  | .null, store => (.null, store)
  | .bool value, store => (.boolean value, store)
  | .int value, store => (.int value, store)
  | .float value, store => (.float value, store)
  | .string text, store => (.string text, store)
  | .array items, store =>
    let (values, store) := ofJsonItems items store
    (.list values, store)
  | .object members, store =>
    let (fields, store) := ofJsonMembers members store
    store.newObject (Entries.ofPairs fields)

/-- The values of the items of an array. -/
def ofJsonItems : List Json → Store → List Value × Store
  | [], store => ([], store)
  | item :: rest, store =>
    let (value, store) := ofJson item store
    let (others, store) := ofJsonItems rest store
    (value :: others, store)

/-- The fields for the members of an object. -/
def ofJsonMembers : List (String × Json) → Store → List (String × Field) × Store
  | [], store => ([], store)
  | (name, member) :: rest, store =>
    let (value, store) := ofJson member store
    let (others, store) := ofJsonMembers rest store
    ((name, .held value) :: others, store)

end

/-- The value of a configured default. -/
def Literal.value (literal : Literal) (store : Store) : Value × Store :=
  match literal.meaning with
  | .undefined => (.absent, store)
  | .quoted text => (.string text, store)
  | .json json => ofJson json store
  | .raw => (.raw literal.source, store)

/-- The value of a default that calls no factory. -/
def Default.produce : Default → Store → Value × Store
  | .absent, store => (.absent, store)
  | .emptyList, store => (.list [], store)
  | .emptyString, store => (.string "", store)
  | .zeroInt, store => (.int 0, store)
  | .zeroFloat, store => (.float 0.0, store)
  | .false, store => (.boolean Bool.false, store)
  | .emptyObject, store => store.newObject []
  | .literal configured, store => configured.value store
  | .factory _, store => (.absent, store)

/-- What a factory that calls no other makes. The name of a type is the first field of
its records. -/
def Body.produce : Body → Store → Value × Store
  | .scalar default, store => default.produce store
  | .record typename fields, store =>
    let discriminator := typename.toList.map fun name =>
      (typenameField, Field.held (.string name))
    let (fields, store) := store.reserveFields fields
    store.newObject (Entries.ofPairs (discriminator ++ fields))
  | .union _, store => (.absent, store)
  | .enum value, store => (.enum value, store)

/-- The value of a default. A call goes to the end of its chain; a name without a factory
has no value, and neither has a chain that leads round in a circle. -/
def Default.evaluate (registry : Registry) (default : Default) (store : Store) : Value × Store :=
  match default with
  | .factory name =>
    match registry.chain name with
    | some (.factory found) => found.body.produce store
    | _ => (.absent, store)
  | other => other.produce store

/-- A fixture of a named type; none if the type has no factory. -/
def Registry.instantiate? (registry : Registry) (name : String) (store : Store) :
    Option (Value × Store) :=
  if registry.contains name then some ((Default.factory name).evaluate registry store) else none

end SchemaFixtures.Fixture
