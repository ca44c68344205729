import SchemaFixtures.Emission.Member
import SchemaFixtures.Fixture.Resolver

/-!
# The emitted module

A module has three parts: the imports and the opening of the fixture map, the members of
the map, and the function that looks a fixture up in it. The members are indented line
by line; a line end inside a default counts like any other.
-/

namespace SchemaFixtures.Emission

/-- An emitted module in its three parts. -/
structure Module where
  opening : List String
  content : String
  closing : List String
deriving DecidableEq, Repr

/-- The lines of a text. A line feed ends a line, with a carriage return right before it;
after the last line feed a line follows only if it is not empty. -/
def lines : List Char → List (List Char)
  | [] => []
  | '\n' :: rest => [] :: lines rest
  | '\r' :: '\n' :: rest => [] :: lines rest
  | c :: rest =>
    match lines rest with
    | line :: others => (c :: line) :: others
    | [] => [[c]]

/-- A line two places to the right; an empty line stays empty. -/
def indentLine (line : List Char) : List Char :=
  if line.isEmpty then [] else ' ' :: ' ' :: line

/-- A text with every line indented. -/
def indent (text : String) : String :=
  String.ofList (['\n'].intercalate ((lines text.toList).map indentLine))

/-- The imports and the opening of the map. -/
def opening (settings : Config.Settings) : List String :=
  (if settings.immer then
    ["import produce from 'immer'", "import \x7b Produced \x7d from 'immer/dist/internal'\n"]
  else [])
    ++ settings.typeDefinitionModule.toList.map (fun path =>
      "import * as types from '" ++ path ++ "'\n")
    ++ ["const fixtureMap = \x7b"]

/-- The type parameters of the lookup. -/
def lookupGenerics (recipes : Bool) : List String :=
  ["Name extends keyof typeof fixtureMap", "Fixture extends ReturnType<typeof fixtureMap[Name]>"]
    ++ if recipes then ["ProduceReturn = void"] else []

/-- The parameters of the lookup. -/
def lookupParameters (recipes : Bool) : List String :=
  "name: Name" :: if recipes then ["recipe?: (draft: Fixture) => ProduceReturn"] else []

/-- The function that looks a fixture up, with or without a recipe to apply. -/
def lookupText (recipes : Bool) : String :=
  let type := if recipes then "Fixture | Produced<Fixture, ProduceReturn>" else "Fixture"
  let result :=
    if recipes then "return recipe ? produce(fixture, recipe) : fixture" else "return fixture"
  "const fixture = <\n  " ++ ",\n  ".intercalate (lookupGenerics recipes)
    ++ "\n>(\n  " ++ ",\n  ".intercalate (lookupParameters recipes)
    ++ "\n): " ++ type ++ " => \x7b\n  const fixture = fixtureMap[name]() as Fixture\n  "
    ++ result ++ "\n\x7d"

/-- The end of the map, the lookup and its export. -/
def closing (settings : Config.Settings) : List String :=
  ["\x7d\n", lookupText settings.immer ++ "\n", "export default fixture\n"]

/-- The members of a registry, in order. -/
def members (settings : Config.Settings) (registry : Fixture.Registry) : List Member :=
  registry.factories.map (member settings registry)

/-- The text of all members. -/
def contentText (settings : Config.Settings) (registry : Fixture.Registry) : String :=
  indent ("\n".intercalate ((members settings registry).map (·.text)))

/-- The module of a schema. -/
def Module.generate (document : Schema.Document) (settings : Config.Settings) : Module :=
  { opening := Emission.opening settings
    content := contentText settings (.build document settings)
    closing := Emission.closing settings }

/-- The whole module as text. -/
def Module.text (module : Module) : String :=
  "\n".intercalate module.opening ++ "\n" ++ module.content ++ "\n"
    ++ "\n".intercalate module.closing

end SchemaFixtures.Emission
