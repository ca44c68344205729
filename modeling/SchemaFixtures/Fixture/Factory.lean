import SchemaFixtures.Fixture.Literal
import SchemaFixtures.Schema.Document

/-!
# Factories

A factory says what a fixture of a type is: the default of a scalar, the fields of a
record with their defaults, the member that stands for a union, or the value that
stands for an enum. A default is an expression; it may call another factory by name,
so it is worked out only when it is needed. A registry holds the factories of a schema,
one per name.
-/

namespace SchemaFixtures.Fixture

/-- The default of a field or a scalar. -/
inductive Default where
  | absent
  | emptyList
  | emptyString
  | zeroInt
  | zeroFloat
  | false
  | emptyObject
  | literal (literal : Literal)
  | factory (name : String)
deriving DecidableEq, Repr

/-- What a factory makes. -/
inductive Body where
  | scalar (default : Default)
  | record (typename : Option String) (fields : List (String × Default))
  | union (member : String)
  | enum (value : String)
deriving DecidableEq, Repr

/-- A named factory and the kind of the definition that it was made for. -/
structure Factory where
  name : String
  kind : Schema.Kind
  body : Body
deriving DecidableEq, Repr

/-- The factories of a schema, in document order. -/
structure Registry where
  factories : List Factory := []
deriving DecidableEq, Repr

namespace Registry

/-- The factory of a name. -/
def factory? (registry : Registry) (name : String) : Option Factory :=
  registry.factories.find? (·.name == name)

/-- Whether a name has a factory. -/
def contains (registry : Registry) (name : String) : Bool :=
  registry.factories.any (·.name == name)

/-- The names, in order. -/
def names (registry : Registry) : List String := registry.factories.map (·.name)

/-- The number of factories. -/
def size (registry : Registry) : Nat := registry.factories.length

/-- Adds a factory whose name is new; another one is dropped. -/
def add (registry : Registry) (factory : Factory) : Registry :=
  if registry.contains factory.name then registry else ⟨registry.factories ++ [factory]⟩

/-- The registry of a list of factories; the first factory of a name counts. -/
def ofFactories (factories : List Factory) : Registry := factories.foldl add {}

end Registry

/-- The name of the factory that a body passes every call on to. -/
def Body.delegate? : Body → Option String
  | union member => some member
  | scalar (.factory name) => some name
  | _ => none

/-- Where a chain of calls that are passed on ends. -/
inductive ChainEnd where
  | factory (factory : Factory)
  | missing
deriving DecidableEq, Repr

/-- Follows calls that are passed on, from a name, for at most the given number of calls;
none when the calls run out before the end. -/
def Registry.chainWithin (registry : Registry) : (calls : Nat) → String → Option ChainEnd
  | 0, _ => none
  | calls + 1, name =>
    match registry.factory? name with
    | none => some .missing
    | some factory =>
      match factory.body.delegate? with
      | some next => chainWithin registry calls next
      | none => some (.factory factory)

/-- Where the calls that start at a name end; none when they lead round in a circle. A
way without a circle calls each factory at most once and may then leave the registry. -/
def Registry.chain (registry : Registry) (name : String) : Option ChainEnd :=
  registry.chainWithin (registry.size + 1) name

end SchemaFixtures.Fixture
