/-!
# Type references

A reference to a type as a field states it: a name, a list of a type, or a type
that excludes null. The wrappers are independent of each other here; a schema text
never writes one exclusion of null directly inside another.
-/

namespace SchemaFixtures.Schema

/-- A reference to a type. -/
inductive TypeRef where
  | named (name : String)
  | list (item : TypeRef)
  | nonNull (inner : TypeRef)
deriving DecidableEq, Repr

namespace TypeRef

/-- The reference as a schema writes it: a list in brackets, a mark after a type
that excludes null. -/
def text : TypeRef → String
  | named name => name
  | list item => "[" ++ item.text ++ "]"
  | nonNull inner => inner.text ++ "!"

/-- The name inside all wrappers. -/
def innerName : TypeRef → String
  | named name => name
  | list item => item.innerName
  | nonNull inner => inner.innerName

/-- Whether the outermost wrapper excludes null. -/
def isNonNull : TypeRef → Bool
  | nonNull _ => true
  | _ => false

end TypeRef

end SchemaFixtures.Schema
