import SchemaFixtures.Schema.TypeRef

/-!
# Definitions of a schema

One declaration of a type or of a directive. An extension is a definition too, marked
as such, until a document folds it into the declaration that it extends. The three
lists of contents belong to different kinds; a definition that is put together by
hand may fill any of them.
-/

namespace SchemaFixtures.Schema

/-- What a definition declares. -/
inductive Kind where
  | scalar
  | object
  | interface
  | union
  | enum
  | inputObject
  | directive
deriving DecidableEq, Repr

/-- The words for a kind. -/
def Kind.text : Kind → String
  | .scalar => "scalar"
  | .object => "object"
  | .interface => "interface"
  | .union => "union"
  | .enum => "enum"
  | .inputObject => "input object"
  | .directive => "directive"

/-- All kinds. -/
def Kind.all : List Kind := [.scalar, .object, .interface, .union, .enum, .inputObject, .directive]

/-- The kind with these words. -/
def Kind.ofText? (words : String) : Option Kind := Kind.all.find? (·.text == words)

/-- The words tell the kinds apart. -/
theorem Kind.ofText?_text (kind : Kind) : Kind.ofText? kind.text = some kind := by
  cases kind <;> decide

/-- A field with its type. -/
structure Field where
  name : String
  type : TypeRef
deriving DecidableEq, Repr

/-- One declaration or extension. -/
structure Definition where
  name : String
  kind : Kind
  fields : List Field := []
  enumValues : List String := []
  unionMembers : List String := []
  description : Option String := none
  isExtension : Bool := false
deriving DecidableEq, Repr

/-- The definition with the contents of an extension after its own. -/
def Definition.extend (base extension : Definition) : Definition :=
  { base with
    fields := base.fields ++ extension.fields
    enumValues := base.enumValues ++ extension.enumValues
    unionMembers := base.unionMembers ++ extension.unionMembers }

end SchemaFixtures.Schema
