import SchemaFixtures.Fixture.Factory

/-!
# Fixture values

A value is a tree. A field of an object holds its value, or refers to a cell of a store
in which the value appears once it is worked out. All copies of an object refer to the
same cells, so a field that is worked out through one of them is worked out for all.
Nothing else is shared: a write makes a new object around the fields it keeps, and a cell
never changes after its value has appeared.

An object carries an identity. Copies keep it, every write gives a new one, so two
objects with one identity have the same fields.
-/

namespace SchemaFixtures.Fixture

/-- A place in a store for the value of a field. -/
structure Cell where
  index : Nat
deriving DecidableEq, Repr

mutual

/-- A value. No value is told apart from a null that was given as such. -/
inductive Value where
  | absent
  | null
  | boolean (value : Bool)
  | int (value : Int64)
  | float (value : Float)
  | string (text : String)
  | enum (name : String)
  | raw (source : String)
  | list (items : List Value)
  | object (identity : Nat) (fields : List (String × Field))

/-- A field of an object: its value, or the cell for its value and the default that
will give it. -/
inductive Field where
  | held (value : Value)
  | later (cell : Cell) (default : Default)

end

instance : Inhabited Value := ⟨.absent⟩

/-- The name of the field that tells the type of an object. -/
def typenameField : String := "__typename"

namespace Value

/-- Whether there is no value. -/
def isAbsent : Value → Bool
  | absent => true
  | _ => false

/-- The text of a string. -/
def string? : Value → Option String
  | string text => some text
  | _ => none

/-- The name of an enum value. -/
def enum? : Value → Option String
  | enum name => some name
  | _ => none

/-- The source of a raw value. -/
def raw? : Value → Option String
  | raw source => some source
  | _ => none

/-- The whole number. -/
def int? : Value → Option Int64
  | int value => some value
  | _ => none

/-- The floating-point number. -/
def float? : Value → Option Float
  | float value => some value
  | _ => none

/-- The truth value. -/
def boolean? : Value → Option Bool
  | boolean value => some value
  | _ => none

/-- The items of a list. -/
def items? : Value → Option (List Value)
  | list items => some items
  | _ => none

/-- The fields of an object. -/
def fields? : Value → Option (Entries Field)
  | object _ fields => some fields
  | _ => none

/-- The identity of an object. -/
def identity? : Value → Option Nat
  | object identity _ => some identity
  | _ => none

/-- Whether both are copies of one object; none unless both are objects. -/
def sameObject? (a b : Value) : Option Bool := do return (← a.identity?) == (← b.identity?)

end Value

end SchemaFixtures.Fixture
