import SchemaFixtures.Config.Options
import SchemaFixtures.Json.Basic

/-!
# Options as JSON

Options are read from a JSON value and written as one. The plugin options and the fixture
options may be given as an object, whose unknown members are passed over, or as an array
that holds the members in order and may end early. Null stands for an option that is not
given, where that is possible. Writing leaves out what is not given.
-/

namespace SchemaFixtures.Config

/-- Reads the values of all entries. -/
def decodeEntries {α : Type} (decode : Json → Option α) :
    List (String × Json) → Option (Entries α)
  | [] => some []
  | (name, member) :: rest => do
    let value ← decode member
    let others ← decodeEntries decode rest
    return (name, value) :: others

/-- Reads an option that null leaves out. -/
def decodeOptional {α : Type} (decode : Json → Option α) : Json → Option (Option α)
  | .null => some none
  | json => (decode json).map some

/-- Reads a member if there is one, and else keeps a default. -/
def decodeMember {α : Type} (decode : Json → Option α) (default : α) (member : Option Json) :
    Option α :=
  match member with
  | some json => decode json
  | none => some default

/-- Reads a truth value. -/
def decodeFlag : Json → Option Bool
  | .bool value => some value
  | _ => none

namespace ScalarType

/-- Reads the type of a scalar: a text, or an object with both directions. -/
def decode : Json → Option ScalarType
  | .string type => some (.single type)
  | .object members => do
    let input ← (Entries.value? members "input").bind (·.text?)
    let output ← (Entries.value? members "output").bind (·.text?)
    return .split input output
  | _ => none

/-- Writes the type of a scalar. -/
def encode : ScalarType → Json
  | single type => .string type
  | split input output => .object [("input", .string input), ("output", .string output)]

end ScalarType

namespace Scalars

/-- Reads the scalar option: an object of types, or the path of a module. -/
def decode : Json → Option Scalars
  | .object members => (decodeEntries ScalarType.decode members).map .table
  | .string path => some (.module path)
  | _ => none

/-- Writes the scalar option. -/
def encode : Scalars → Json
  | table types => .object (types.mapValues (·.encode))
  | module path => .string path

end Scalars

namespace NamingConvention

/-- The convention of a name. -/
def ofName? (name : String) : Option NamingConvention :=
  if name = "pascalCase" ∨ name = "change-case-all#pascalCase" then some .pascalCase
  else if name = "keep" then some .keep
  else none

/-- The name of the convention. -/
def name : NamingConvention → String
  | pascalCase => "pascalCase"
  | keep => "keep"

/-- Reads a convention: its name, or an object with the name as its only member and null
in it. -/
def decode : Json → Option NamingConvention
  | .string name => ofName? name
  | .object [(name, .null)] => ofName? name
  | _ => none

end NamingConvention

namespace FixtureOptions

/-- Reads the fixture options from their members. -/
def decodeMembers (typeDefinitionModule scalarDefaults immer : Option Json) :
    Option FixtureOptions := do
  let typeDefinitionModule ← decodeMember (decodeOptional Json.text?) none typeDefinitionModule
  let scalarDefaults ←
    decodeMember (fun json => json.members?.bind (decodeEntries Json.text?)) [] scalarDefaults
  let immer ← decodeMember decodeFlag false immer
  return { typeDefinitionModule, scalarDefaults, immer }

/-- Reads the fixture options. -/
def decode : Json → Option FixtureOptions
  | .object members =>
    decodeMembers (Entries.value? members "typeDefinitionModule")
      (Entries.value? members "scalarDefaults") (Entries.value? members "immer")
  | .array items => if items.length ≤ 3 then decodeMembers items[0]? items[1]? items[2]? else none
  | _ => none

/-- Writes the fixture options. -/
def encode (options : FixtureOptions) : Json :=
  .object <|
    options.typeDefinitionModule.toList.map (fun path => ("typeDefinitionModule", .string path))
      ++ (if options.scalarDefaults.isEmpty then []
        else [("scalarDefaults", .object (options.scalarDefaults.mapValues .string))])
      ++ [("immer", .bool options.immer)]

end FixtureOptions

namespace PluginOptions

/-- Reads the plugin options from their members. -/
def decodeMembers (scalars namingConvention fixtures : Option Json) : Option PluginOptions := do
  let scalars ← decodeMember (decodeOptional Scalars.decode) none scalars
  let namingConvention ←
    decodeMember (decodeOptional NamingConvention.decode) none namingConvention
  let fixtures ← decodeMember (decodeOptional FixtureOptions.decode) none fixtures
  return { scalars, namingConvention, fixtures }

/-- Reads the plugin options. -/
def decode : Json → Option PluginOptions
  | .object members =>
    decodeMembers (Entries.value? members "scalars") (Entries.value? members "namingConvention")
      (Entries.value? members "fixtures")
  | .array items => if items.length ≤ 3 then decodeMembers items[0]? items[1]? items[2]? else none
  | _ => none

/-- Writes the plugin options. -/
def encode (options : PluginOptions) : Json :=
  .object <|
    options.scalars.toList.map (fun scalars => ("scalars", scalars.encode))
      ++ options.namingConvention.toList.map (fun convention =>
        ("namingConvention", .string convention.name))
      ++ options.fixtures.toList.map (fun fixtures => ("fixtures", fixtures.encode))

end PluginOptions

end SchemaFixtures.Config
