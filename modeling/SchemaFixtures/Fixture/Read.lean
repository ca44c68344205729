import SchemaFixtures.Fixture.Store

/-!
# Reading fixtures

Reading a field gives its value; a field that is still to be worked out is worked out in
its cell, for every copy of the object. Following a path reads one field after another
and stops at the first name that is missing.
-/

namespace SchemaFixtures.Fixture

namespace Field

/-- Whether the value is known. -/
def isResolved (field : Field) (store : Store) : Bool :=
  match field with
  | held _ => true
  | later cell _ => (store.value? cell).isSome

/-- The value of the field, without letting it appear in the cell. -/
def peek (registry : Registry) (field : Field) (store : Store) : Value × Store :=
  match field with
  | held value => (value, store)
  | later cell default =>
    match store.value? cell with
    | some value => (value, store)
    | none => default.evaluate registry store

/-- The value of the field, which appears in the cell. -/
def read (registry : Registry) (field : Field) (store : Store) : Value × Store :=
  match field with
  | held value => (value, store)
  | later cell default =>
    match store.value? cell with
    | some value => (value, store)
    | none =>
      let (value, store) := default.evaluate registry store
      (value, store.fill cell value)

end Field

/-- Reads the field of a name. -/
def readField (registry : Registry) (fields : Entries Field) (name : String) (store : Store) :
    Option Value × Store :=
  match fields.value? name with
  | none => (none, store)
  | some field =>
    let (value, store) := field.read registry store
    (some value, store)

namespace Value

/-- Reads along a path of names. -/
def get? (registry : Registry) : List String → Value → Store → Option Value × Store
  | [], value, store => (some value, store)
  | name :: rest, .object _ fields, store =>
    match readField registry fields name store with
    | (some value, store) => get? registry rest value store
    | (none, store) => (none, store)
  | _ :: _, _, store => (none, store)

end Value

/-- The name of the type that an object states, if it states one. -/
def typename? (registry : Registry) (fields : Entries Field) (store : Store) :
    Option String × Store :=
  let (value, store) := readField registry fields typenameField store
  (value.bind (·.string?), store)

/-- Reads fields in order and hands each value on with the store as it is then. -/
def visitFields {α : Type} (registry : Registry) (visit : String → Value → Store → α × Store) :
    List (String × Field) → Store → List α × Store
  | [], store => ([], store)
  | (name, field) :: rest, store =>
    let (value, store) := field.read registry store
    let (answer, store) := visit name value store
    let (others, store) := visitFields registry visit rest store
    (answer :: others, store)

end SchemaFixtures.Fixture
