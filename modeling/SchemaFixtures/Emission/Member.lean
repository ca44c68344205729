import SchemaFixtures.Emission.Naming
import SchemaFixtures.Fixture.Factory

/-!
# Members of the fixture map

Each factory is emitted as one member of the fixture map, a method that makes the
fixture. A scalar or a union returns an expression, an enum returns its value, and a
record returns an object on which each field is a property that works out its default
when it is first read. A member is data first; its text follows from it.
-/

namespace SchemaFixtures.Emission

open Fixture

/-- A property of an emitted record: its name and the expression of its default. -/
structure Property where
  name : String
  default : String
deriving DecidableEq, Repr

/-- What the method of a member does. -/
inductive Form where
  | expression (source : String)
  | enum (value : String)
  | record (typename : Option String) (properties : List Property)
deriving DecidableEq, Repr

/-- A member: the name of its method, the type of the result, and what the method does. -/
structure Member where
  name : String
  type : String
  form : Form
deriving DecidableEq, Repr

/-- The reference to a named type: out of the type module if there is one. -/
def typeReference (settings : Config.Settings) (name : String) : String :=
  if settings.typeDefinitionModule.isSome then
    "types." ++ convertName settings.namingConvention name
  else name

/-- The reference to the type of a scalar: an entry of the table of scalars. -/
def scalarReference (settings : Config.Settings) (name : String) : String :=
  typeReference settings "Scalars" ++ "['" ++ name ++ "']"

/-- The call of a factory; a name without a factory is undefined. -/
def callSource (registry : Registry) (name : String) : String :=
  if registry.contains name then "fixtureMap." ++ name ++ "()" else "undefined"

/-- The expression of a default. -/
def defaultSource (registry : Registry) : Default → String
  | .absent => "undefined"
  | .emptyList => "[]"
  | .emptyString => "''"
  | .zeroInt => "0"
  | .zeroFloat => "0"
  | .false => "false"
  | .emptyObject => "(\x7b\x7d)"
  | .literal literal => literal.trimmedSource
  | .factory name => callSource registry name

/-- The property of a field. -/
def property (registry : Registry) (field : String × Default) : Property :=
  ⟨field.1, defaultSource registry field.2⟩

/-- The form of a body. -/
def form (registry : Registry) : Body → Form
  | .scalar default => .expression (defaultSource registry default)
  | .union member => .expression (callSource registry member)
  | .enum value => .enum value
  | .record typename fields => .record typename (fields.map (property registry))

/-- The type that a factory's method returns. -/
def resultType (settings : Config.Settings) (factory : Factory) : String :=
  match factory.body with
  | .scalar _ => scalarReference settings factory.name
  | _ => typeReference settings factory.name

/-- The member of a factory. -/
def member (settings : Config.Settings) (registry : Registry) (factory : Factory) : Member :=
  { name := factory.name
    type := resultType settings factory
    form := form registry factory.body }

/-- The name of the hidden slot of a property. -/
def slotName (property : String) : String := "__resolved_" ++ property

/-- The lines of a property up to its default: the getter looks into the slot first. -/
def getterLines (name : String) : List String :=
  ["  Object.defineProperties(fixture, \x7b",
    "    " ++ name ++ ": \x7b",
    "      enumerable: true,",
    "      get(this: any) \x7b",
    "        if (this." ++ slotName name ++ " === undefined) \x7b"]

/-- The line of a property in which the slot takes the default. -/
def Property.defaultLine (property : Property) : String :=
  "          " ++ ("this." ++ slotName property.name ++ " = " ++ property.default)

/-- The lines of a property behind its default: the getter answers with the slot, the setter
writes the slot, and the slot is defined. -/
def setterLines (name : String) : List String :=
  ["        \x7d",
    "        return this." ++ slotName name,
    "      \x7d,",
    "      set(this: any, value: unknown) \x7b",
    "        this." ++ slotName name ++ " = value",
    "      \x7d,",
    "    \x7d,",
    "    " ++ slotName name ++ ": \x7b",
    "      value: undefined,",
    "      writable: true,",
    "    \x7d,"]

/-- The line that ends a property. -/
def propertyEnd : String := "  \x7d)"

/-- The lines of a property. -/
def Property.lines (property : Property) : List String :=
  getterLines property.name ++ property.defaultLine :: (setterLines property.name ++ [propertyEnd])

/-- The lines of the object that an emitted record starts from. -/
def startLines (type : String) : (typename : Option String) → List String
  | some name =>
    ["  const fixture: Partial<" ++ type ++ "> = \x7b", "    __typename: '" ++ name ++ "',",
      "  \x7d"]
  | none => ["  const fixture: Partial<" ++ type ++ "> = \x7b\x7d"]

/-- The line with which the method of a record returns it. -/
def recordEnd (type : String) : String := "  return fixture as " ++ type

/-- The lines of a method's body. -/
def Form.lines (type : String) : Form → List String
  | expression source => ["  return " ++ source]
  | enum value => ["  return '" ++ value ++ "' as " ++ type]
  | record typename properties =>
    startLines type typename ++ (properties.flatMap (·.lines) ++ [recordEnd type])

/-- The line with which a member starts. -/
def Member.header (member : Member) : String := member.name ++ "(): " ++ member.type ++ " \x7b"

/-- The line that ends a member. -/
def memberEnd : String := "\x7d,"

/-- The lines of a member, without indentation. A default may hold line ends of its own. -/
def Member.lines (member : Member) : List String :=
  member.header :: (member.form.lines member.type ++ [memberEnd])

/-- The text of a member, without indentation. -/
def Member.text (member : Member) : String := "\n".intercalate member.lines

end SchemaFixtures.Emission
