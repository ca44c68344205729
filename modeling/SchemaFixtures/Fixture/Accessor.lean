import SchemaFixtures.Config.Options
import SchemaFixtures.Fixture.Write

/-!
# Accessors and recipes

An accessor looks fixtures up by the name of their type. A recipe edits a draft of a
value; it may answer another value, which then replaces the draft. The draft starts as a
copy, so the value it was drafted from stays as it was.
-/

namespace SchemaFixtures.Fixture

/-- What a recipe does to its draft: an answer, and a replacement for the draft if it
gives one. -/
abbrev Recipe (α : Type) := Edit (α × Option Value)

/-- Applies a recipe to a draft of a value. -/
def produce {α : Type} (base : Value) (recipe : Recipe α) (store : Store) : α × Value × Store :=
  let ((answer, replacement), draft, store) := recipe base store
  (answer, replacement.getD draft, store)

/-- The lookup that the options select: with recipes or without. -/
inductive Accessor where
  | plain (registry : Registry)
  | recipe (registry : Registry)
deriving DecidableEq, Repr

namespace Accessor

/-- The accessor of a registry under the settings. -/
def ofSettings (registry : Registry) (settings : Config.Settings) : Accessor :=
  if settings.immer then .recipe registry else .plain registry

/-- The factories of the accessor. -/
def registry : Accessor → Registry
  | .plain registry => registry
  | .recipe registry => registry

/-- Whether recipes can be applied. -/
def takesRecipes : Accessor → Bool
  | .plain _ => false
  | .recipe _ => true

/-- A fresh fixture of a type; none if the type has no factory. -/
def fixture? (accessor : Accessor) (name : String) (store : Store) : Option (Value × Store) :=
  accessor.registry.instantiate? name store

end Accessor

/-- A fresh fixture of a type with a recipe applied; none if the type has no factory. -/
def fixtureWith? {α : Type} (registry : Registry) (name : String) (recipe : Recipe α)
    (store : Store) : Option (α × Value × Store) :=
  (registry.instantiate? name store).map fun (fixture, store) => produce fixture recipe store

end SchemaFixtures.Fixture
