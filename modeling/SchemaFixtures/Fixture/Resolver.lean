import SchemaFixtures.Config.Options
import SchemaFixtures.Fixture.Factory

/-!
# Which default a definition gets

A nullable field has no value, a list that excludes null is empty, and a named type
that excludes null has its configured default, else the default that is built in for
its name, else what its factory makes. Reserved names, built-in scalars and the root
operation types get no factory, and neither does a union without members or an enum
without values.
-/

namespace SchemaFixtures.Fixture

/-- One handler for each kind of definition; a handler may pass a definition over. -/
structure Visitor (α : Type) where
  scalar : Schema.Definition → Option α
  object : Schema.Definition → Option α
  interface : Schema.Definition → Option α
  union : Schema.Definition → Option α
  enum : Schema.Definition → Option α
  inputObject : Schema.Definition → Option α
  directive : Schema.Definition → Option α := fun _ => none

/-- Hands a definition to the handler of its kind. -/
def Visitor.visit {α : Type} (visitor : Visitor α) (definition : Schema.Definition) : Option α :=
  match definition.kind with
  | .scalar => visitor.scalar definition
  | .object => visitor.object definition
  | .interface => visitor.interface definition
  | .union => visitor.union definition
  | .enum => visitor.enum definition
  | .inputObject => visitor.inputObject definition
  | .directive => visitor.directive definition

/-- What the handlers make of the definitions of a document, in order. -/
def walk {α : Type} (document : Schema.Document) (visitor : Visitor α) : List α :=
  document.definitions.filterMap visitor.visit

/-- Scalars that every schema has. -/
def builtinScalars : List String := ["ID", "String", "Int", "Float", "Boolean"]

/-- Root operation types without a factory. -/
def rootOperationTypes : List String := ["Query", "Mutation"]

/-- Whether a name is reserved for introspection. -/
def isReserved (name : String) : Bool := "__".toList.isPrefixOf name.toList

/-- The configured default of a scalar. -/
def configured? (settings : Config.Settings) (name : String) : Option Default :=
  (settings.scalarDefault? name).map fun source => .literal ⟨source⟩

/-- The default that is built in for a type name: a call of its factory, unless the name
is that of a built-in scalar. -/
def builtinDefault (name : String) : Default :=
  if name = "ID" ∨ name = "String" then .emptyString
  else if name = "Int" then .zeroInt
  else if name = "Float" then .zeroFloat
  else if name = "Boolean" then .false
  else .factory name

/-- The default of a value of a named type. -/
def namedDefault (settings : Config.Settings) (name : String) : Default :=
  (configured? settings name).getD (builtinDefault name)

/-- The default of a field of a type. -/
def fieldDefault (settings : Config.Settings) : Schema.TypeRef → Default
  | .named _ => .absent
  | .list _ => .absent
  | .nonNull (.list _) => .emptyList
  | .nonNull (.named name) => namedDefault settings name
  | .nonNull (.nonNull _) => .absent

/-- The default of a declared scalar: its configured one, else one of its shape. -/
def scalarDefault (settings : Config.Settings) (name : String) : Default :=
  (configured? settings name).getD <|
    match settings.scalarShape name with
    | .string => .emptyString
    | .number => .zeroInt
    | .other => .emptyObject

/-- The fields of a definition with their defaults. -/
def fieldDefaults (settings : Config.Settings) (definition : Schema.Definition) :
    List (String × Default) :=
  definition.fields.map fun field => (field.name, fieldDefault settings field.type)

/-- The factory of a definition with the given body. -/
def factoryOf (definition : Schema.Definition) (kind : Schema.Kind) (body : Body) : Factory :=
  ⟨definition.name, kind, body⟩

/-- The factories of the definitions of a schema. -/
def resolver (settings : Config.Settings) : Visitor Factory where
  scalar definition :=
    if isReserved definition.name || builtinScalars.contains definition.name then none
    else some (factoryOf definition .scalar (.scalar (scalarDefault settings definition.name)))
  object definition :=
    if isReserved definition.name || rootOperationTypes.contains definition.name then none
    else some <| factoryOf definition .object <|
      .record (some definition.name) (fieldDefaults settings definition)
  interface definition :=
    if isReserved definition.name then none
    else some <| factoryOf definition .interface <|
      .record none (fieldDefaults settings definition)
  union definition :=
    if isReserved definition.name then none
    else definition.unionMembers.head?.map fun member =>
      factoryOf definition .union (.union member)
  enum definition :=
    if isReserved definition.name then none
    else definition.enumValues.head?.map fun value => factoryOf definition .enum (.enum value)
  inputObject definition :=
    if isReserved definition.name then none
    else some <| factoryOf definition .inputObject <|
      .record none (fieldDefaults settings definition)

/-- The registry of a schema. -/
def Registry.build (document : Schema.Document) (settings : Config.Settings) : Registry :=
  .ofFactories (walk document (resolver settings))

end SchemaFixtures.Fixture
