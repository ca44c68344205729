import SchemaFixtures.Entries
import SchemaFixtures.Text.Blank

/-!
# Options of a config file

The options as a file states them, before anything is decided. The scalar table and the
naming convention are shared with other plugins; the fixture options are this program's
own.
-/

namespace SchemaFixtures.Config

/-- The type of a scalar: one for both directions, or one for each. -/
inductive ScalarType where
  | single (type : String)
  | split (input output : String)
deriving DecidableEq, Repr

/-- The type of the values that a schema produces. -/
def ScalarType.output : ScalarType → String
  | single type => type
  | split _ output => output

/-- The scalar option: a table of types, or a module that says nothing about them. -/
inductive Scalars where
  | table (types : Entries ScalarType)
  | module (path : String)
deriving DecidableEq, Repr

/-- How type names are written when they are taken from the type module. -/
inductive NamingConvention where
  | pascalCase
  | keep
deriving DecidableEq, Repr

/-- The options of the fixture section. -/
structure FixtureOptions where
  typeDefinitionModule : Option String := none
  scalarDefaults : Entries String := []
  immer : Bool := false
deriving DecidableEq, Repr

/-- The options of the plugin. -/
structure PluginOptions where
  scalars : Option Scalars := none
  namingConvention : Option NamingConvention := none
  fixtures : Option FixtureOptions := none
deriving DecidableEq, Repr

/-- The shape of a scalar's values. -/
inductive ScalarShape where
  | string
  | number
  | other
deriving DecidableEq, Repr

/-- The shape that the name of a type stands for; blanks around it do not count. -/
def ScalarShape.ofTypeName (type : String) : ScalarShape :=
  let name := Text.trimmed type
  if name = "string" then .string else if name = "number" then .number else .other

/-- What generation needs to know. -/
structure Settings where
  typeDefinitionModule : Option String := none
  scalarDefaults : Entries String := []
  immer : Bool := false
  scalarAliases : Entries ScalarShape := []
  namingConvention : NamingConvention := .pascalCase
deriving DecidableEq, Repr

namespace Settings

/-- The configured default of a scalar. A blank one counts as not configured. -/
def scalarDefault? (settings : Settings) (name : String) : Option String :=
  (settings.scalarDefaults.value? name).filter (!Text.allBlank ·)

/-- The shape of a scalar; one that is not in the table is neither text nor number. -/
def scalarShape (settings : Settings) (name : String) : ScalarShape :=
  (settings.scalarAliases.value? name).getD .other

end Settings

/-- The shapes of the scalars in the table. -/
def Scalars.shapes : Scalars → Entries ScalarShape
  | table types => types.mapValues fun type => .ofTypeName type.output
  | module _ => []

/-- The settings that options amount to. -/
def PluginOptions.settings (options : PluginOptions) : Settings :=
  let fixtures := options.fixtures.getD {}
  { typeDefinitionModule := fixtures.typeDefinitionModule
    scalarDefaults := fixtures.scalarDefaults
    immer := fixtures.immer
    scalarAliases := (options.scalars.map (·.shapes)).getD []
    namingConvention := options.namingConvention.getD .pascalCase }

end SchemaFixtures.Config
