import SchemaFixtures.Command.Run

/-!
# Help, version and refusals

Texts that a command line may ask for, and the answer to every command line.
-/

namespace SchemaFixtures.Command

/-- The name and the version of the program. -/
def versionText : String := "graphql-fixtures 0.1.0\n"

/-- How the program is called. -/
def usageText : String := "Usage: graphql-fixtures [OPTIONS] <COMMAND>\n"

/-- The help text of the program. -/
def programHelp : String :=
  "Generate default fixtures for every type of a GraphQL schema\n\n" ++ usageText ++ "
Commands:
  generate  Generate the TypeScript fixtures module
  show      Print the default fixture of a type as JSON
  list      List every type that has a fixture
  help      Print this message or the help of the given subcommand(s)

Options:
  -c, --config <FILE>  Path to fixtures or codegen config file
      --color          Force colored output even when not a TTY
      --no-color       Disable colored output
  -q, --quiet          Suppress all output except errors
  -h, --help           Print help
  -V, --version        Print version
"

/-- The help text of the command that generates a module. -/
def generateHelp : String :=
  "Generate the TypeScript fixtures module

Usage: graphql-fixtures generate [OPTIONS] --schema <FILE>

Options:
  -c, --config <FILE>                  Path to fixtures or codegen config file
  -s, --schema <FILE>                  Schema file (SDL)
      --color                          Force colored output even when not a TTY
  -o, --output <FILE>                  Output file path (writes to stdout if not specified)
      --immer                          Emit the recipe accessor (overrides config)
      --no-color                       Disable colored output
  -q, --quiet                          Suppress all output except errors
      --type-definition-module <PATH>  Module to import type definitions from (overrides config)
  -h, --help                           Print help
"

/-- The help text of the command that shows a fixture. -/
def displayHelp : String :=
  "Print the default fixture of a type as JSON

Usage: graphql-fixtures show [OPTIONS] --schema <FILE> <TYPE>

Arguments:
  <TYPE>  Type name

Options:
  -c, --config <FILE>  Path to fixtures or codegen config file
  -s, --schema <FILE>  Schema file (SDL)
      --color          Force colored output even when not a TTY
  -d, --depth <DEPTH>  Levels of nested objects to resolve [default: 1]
      --no-color       Disable colored output
  -q, --quiet          Suppress all output except errors
  -h, --help           Print help
"

/-- The help text of the command that lists fixtures, in short. -/
def listHelp : String :=
  "List every type that has a fixture

Usage: graphql-fixtures list [OPTIONS] --schema <FILE>

Options:
  -c, --config <FILE>    Path to fixtures or codegen config file
  -s, --schema <FILE>    Schema file (SDL)
      --color            Force colored output even when not a TTY
  -f, --format <FORMAT>  Output format [default: human] [possible values: human, json]
      --no-color         Disable colored output
  -q, --quiet            Suppress all output except errors
  -h, --help             Print help (see more with '--help')
"

/-- The help text of the command that lists fixtures, at length. -/
def longListHelp : String :=
  "List every type that has a fixture

Usage: graphql-fixtures list [OPTIONS] --schema <FILE>

Options:
  -c, --config <FILE>
          Path to fixtures or codegen config file

  -s, --schema <FILE>
          Schema file (SDL)

      --color
          Force colored output even when not a TTY

  -f, --format <FORMAT>
          Output format

          Possible values:
          - human: Human-readable output with colors
          - json:  JSON output for tooling
          
          [default: human]

      --no-color
          Disable colored output

  -q, --quiet
          Suppress all output except errors

  -h, --help
          Print help (see a summary with '-h')
"

/-- The help text on a topic. -/
def Topic.text (topic : Topic) : String :=
  match topic.verb with
  | none => programHelp
  | some .generate => generateHelp
  | some .display => displayHelp
  | some .list => if topic.atLength then longListHelp else listHelp

/-- What a refused command line leaves behind. -/
def refusal : Outcome := { exit := 2, report := "error: invalid command line\n\n" ++ usageText }

/-- Answers a command line. -/
def answer {m : Type → Type} [Monad m] (host : Files.Host m) (directory : String)
    (environment : ColorEnvironment) (terminal : Bool) (arguments : List String) : m Outcome :=
  match Request.ofArguments arguments with
  | .run invocation => run host directory (isColored invocation environment terminal) invocation
  | .help topic => return { output := topic.text }
  | .version => return { output := versionText }
  | .refused => return refusal

end SchemaFixtures.Command
