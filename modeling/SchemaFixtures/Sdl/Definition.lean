import SchemaFixtures.Schema.Document

/-!
# Definitions as they are written

What the grammar recognises, one constructor per form. Only what a document keeps is
carried: names, descriptions, fields with their types, values and members. Lowering
turns each form into a definition of the schema; schema declarations, operations and
fragments declare no type and lower to nothing.
-/

namespace SchemaFixtures.Sdl

/-- A type as it is written: the mark that excludes null follows a name or a list, and
at most once. -/
inductive WrittenType where
  | named (name : String)
  | nonNullNamed (name : String)
  | list (item : WrittenType)
  | nonNullList (item : WrittenType)
deriving DecidableEq, Repr

namespace WrittenType

/-- The text of the type. -/
def text : WrittenType → String
  | named name => name
  | nonNullNamed name => name ++ "!"
  | list item => "[" ++ item.text ++ "]"
  | nonNullList item => "[" ++ item.text ++ "]!"

/-- The name inside all wrappers. -/
def innerName : WrittenType → String
  | named name => name
  | nonNullNamed name => name
  | list item => item.innerName
  | nonNullList item => item.innerName

/-- The reference with its wrappers taken apart. -/
def lower : WrittenType → Schema.TypeRef
  | named name => .named name
  | nonNullNamed name => .nonNull (.named name)
  | list item => .list item.lower
  | nonNullList item => .nonNull (.list item.lower)

end WrittenType

/-- A field or an input field with its type. -/
structure WrittenField where
  name : String
  type : WrittenType
deriving DecidableEq, Repr

/-- The field of the schema. -/
def WrittenField.lower (field : WrittenField) : Schema.Field := ⟨field.name, field.type.lower⟩

/-- A definition as it is written. -/
inductive Definition where
  | scalar (description : Option String) (name : String)
  | object (description : Option String) (name : String) (fields : List WrittenField)
  | interface (description : Option String) (name : String) (fields : List WrittenField)
  | union (description : Option String) (name : String) (members : List String)
  | enum (description : Option String) (name : String) (values : List String)
  | inputObject (description : Option String) (name : String) (fields : List WrittenField)
  | directive (description : Option String) (name : String)
  | scalarExtension (name : String)
  | objectExtension (name : String) (fields : List WrittenField)
  | interfaceExtension (name : String) (fields : List WrittenField)
  | unionExtension (name : String) (members : List String)
  | enumExtension (name : String) (values : List String)
  | inputObjectExtension (name : String) (fields : List WrittenField)
  | schema
  | schemaExtension
  | operation
  | fragment
deriving DecidableEq, Repr

/-- The definition of the schema, if the form declares or extends one. -/
def Definition.lower? : Definition → Option Schema.Definition
  | scalar description name => some { name, kind := .scalar, description }
  | object description name fields =>
    some { name, kind := .object, fields := fields.map (·.lower), description }
  | interface description name fields =>
    some { name, kind := .interface, fields := fields.map (·.lower), description }
  | union description name members =>
    some { name, kind := .union, unionMembers := members, description }
  | enum description name values => some { name, kind := .enum, enumValues := values, description }
  | inputObject description name fields =>
    some { name, kind := .inputObject, fields := fields.map (·.lower), description }
  | directive description name => some { name, kind := .directive, description }
  | scalarExtension name => some { name, kind := .scalar, isExtension := true }
  | objectExtension name fields =>
    some { name, kind := .object, fields := fields.map (·.lower), isExtension := true }
  | interfaceExtension name fields =>
    some { name, kind := .interface, fields := fields.map (·.lower), isExtension := true }
  | unionExtension name members =>
    some { name, kind := .union, unionMembers := members, isExtension := true }
  | enumExtension name values =>
    some { name, kind := .enum, enumValues := values, isExtension := true }
  | inputObjectExtension name fields =>
    some { name, kind := .inputObject, fields := fields.map (·.lower), isExtension := true }
  | schema => none
  | schemaExtension => none
  | operation => none
  | fragment => none

end SchemaFixtures.Sdl
