import SchemaFixtures.Schema.Definition

/-!
# Schema documents

A document holds one definition per name. Types and directives have name spaces of
their own. Of several declarations of a name the first counts. An extension is folded
into the definition of its name when that is already known; the others wait until all
declarations are read, are folded in then, and stand for a declaration where there is
none.
-/

namespace SchemaFixtures.Schema

/-- The name space and the name under which a definition is known. -/
structure Key where
  isDirective : Bool
  name : String
deriving DecidableEq, Repr

/-- The key of a definition's own name space. -/
def Definition.key (definition : Definition) : Key :=
  ⟨definition.kind == .directive, definition.name⟩

/-- The key of a type, whatever the definition is. -/
def Definition.typeKey (definition : Definition) : Key := ⟨false, definition.name⟩

/-- Definitions under their keys, in the order in which the keys became known. -/
abbrev Known := List (Key × Definition)

namespace Known

/-- Whether a key has a definition. -/
def has (known : Known) (key : Key) : Bool := known.any (·.1 == key)

/-- Folds an extension into the definition of a key. -/
def extend (known : Known) (key : Key) (extension : Definition) : Known :=
  known.map fun entry => if entry.1 = key then (key, entry.2.extend extension) else entry

end Known

/-- What is read so far: the definitions known, and the extensions that wait for one. -/
structure Gathering where
  known : Known := []
  waiting : List Definition := []
deriving DecidableEq, Repr

/-- Takes one more definition. -/
def Gathering.add (gathering : Gathering) (definition : Definition) : Gathering :=
  if definition.isExtension then
    if gathering.known.has definition.key then
      { gathering with known := gathering.known.extend definition.key definition }
    else { gathering with waiting := gathering.waiting ++ [definition] }
  else if gathering.known.has definition.key then gathering
  else { gathering with known := gathering.known ++ [(definition.key, definition)] }

/-- Places an extension that waited: in the type of its name, or as that type. -/
def Known.settle (known : Known) (extension : Definition) : Known :=
  if known.has extension.typeKey then known.extend extension.typeKey extension
  else known ++ [(extension.typeKey, extension)]

/-- One definition per name, in document order. -/
structure Document where
  definitions : List Definition := []
deriving DecidableEq, Repr

namespace Document

/-- The document of a list of definitions and extensions. -/
def ofDefinitions (definitions : List Definition) : Document :=
  let gathering := definitions.foldl Gathering.add {}
  ⟨(gathering.waiting.foldl Known.settle gathering.known).map (·.2)⟩

/-- The definition of a type; directives are passed over. -/
def type? (document : Document) (name : String) : Option Definition :=
  document.definitions.find? fun definition =>
    definition.kind != .directive && definition.name == name

/-- The number of definitions. -/
def size (document : Document) : Nat := document.definitions.length

end Document

end SchemaFixtures.Schema
