import SchemaFixtures.Json.Basic
import SchemaFixtures.Text.Blank
import SchemaFixtures.Text.Similarity

/-!
# Problems of a configuration

Problems are found in the raw value, before options are read from it, so that an option
that does not exist is reported and not passed over. They are listed in the order in
which they stand: unknown options first, then a blank type module, then for each scalar
default its name before its value.
-/

namespace SchemaFixtures.Config

/-- A problem of a configuration. -/
inductive Problem where
  | unknownOption (key : String) (suggestion : Option String)
  | blankTypeDefinitionModule
  | invalidScalarName (name : String)
  | scalarDefaultNotText (name : String)
deriving DecidableEq, Repr

/-- The options of the fixture section. -/
def fixtureKeys : List String := ["typeDefinitionModule", "scalarDefaults", "immer"]

namespace Problem

/-- The code of the problem. -/
def code : Problem → String
  | unknownOption _ _ => "unknown-option"
  | blankTypeDefinitionModule => "empty-type-definition-module"
  | invalidScalarName _ => "invalid-scalar-name"
  | scalarDefaultNotText _ => "non-string-scalar-default"

/-- The message of the problem. -/
def message : Problem → String
  | unknownOption key (some suggestion) =>
    "Unknown fixtures option '" ++ key ++ "'. Did you mean '" ++ suggestion ++ "'?"
  | unknownOption key none =>
    "Unknown fixtures option '" ++ key ++ "'. Expected one of: " ++ ", ".intercalate fixtureKeys
  | blankTypeDefinitionModule => "'typeDefinitionModule' must not be empty"
  | invalidScalarName name => "'" ++ name ++ "' in 'scalarDefaults' is not a valid GraphQL name"
  | scalarDefaultNotText name =>
    "Default for scalar '" ++ name ++ "' must be a string of source text, e.g. \"'value'\""

end Problem

/-- Whether a text is a name of the schema language. -/
def isName (text : String) : Bool :=
  match text.toList with
  | [] => false
  | first :: rest =>
    (first == '_' || first.isAlpha) && rest.all fun c => c == '_' || c.isAlphanum

/-- The problem of a key of the fixture section. -/
def keyProblem? (key : String) : Option Problem :=
  if fixtureKeys.contains key then none
  else some (.unknownOption key (Text.suggestion? key fixtureKeys))

/-- The problem of the type module. -/
def moduleProblem? (member : Option Json) : Option Problem :=
  match member.bind (·.text?) with
  | some path => if Text.allBlank path then some .blankTypeDefinitionModule else none
  | none => none

/-- The problems of a scalar default. -/
def scalarDefaultProblems (entry : String × Json) : List Problem :=
  (if isName entry.1 then [] else [.invalidScalarName entry.1])
    ++ if entry.2.isString then [] else [.scalarDefaultNotText entry.1]

/-- The problems of a fixture section. -/
def sectionProblems (fixtures : Entries Json) : List Problem :=
  fixtures.names.filterMap keyProblem?
    ++ (moduleProblem? (fixtures.value? "typeDefinitionModule")).toList
    ++ (((fixtures.value? "scalarDefaults").bind (·.members?)).getD []).flatMap
      scalarDefaultProblems

/-- The problems of the plugin options. Only a fixture section that is an object has
any. -/
def problems (plugin : Json) : List Problem :=
  match (plugin.member? "fixtures").bind (·.members?) with
  | some fixtures => sectionProblems fixtures
  | none => []

end SchemaFixtures.Config
