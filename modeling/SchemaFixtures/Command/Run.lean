import SchemaFixtures.Command.Arguments
import SchemaFixtures.Command.Paint
import SchemaFixtures.Config.Discovery
import SchemaFixtures.Config.Load
import SchemaFixtures.Emission.Module
import SchemaFixtures.Fixture.Materialize
import SchemaFixtures.Json.Writer
import SchemaFixtures.Sdl.Parse
import SchemaFixtures.Text.Similarity

/-!
# Running a command

A run reads the configuration, then the schema, and then does its task. The first of these
that fails ends the run with a report and an exit code of its own. A run that does not
fail reports nothing.
-/

namespace SchemaFixtures.Command

/-- What a run leaves behind: its exit code, its output and its report. -/
structure Outcome where
  exit : Nat := 0
  output : String := ""
  report : String := ""
deriving DecidableEq, Repr

/-- Why a run fails. -/
inductive Failure where
  | config (error : Config.LoadError)
  | schemaFile (path : String) (error : Files.FileError)
  | schemaSyntax (error : Sdl.SchemaError)
  | unknownType (name : String) (suggestion : Option String)
  | output (path : String) (error : Files.FileError)
deriving DecidableEq, Repr

namespace Failure

/-- The exit code of the failure. -/
def exit : Failure → Nat
  | unknownType _ _ => 1
  | config _ => 2
  | schemaFile _ _ => 3
  | output _ _ => 4
  | schemaSyntax _ => 5

/-- The report on a configuration that cannot be loaded. -/
def configReport (colored : Bool) : Config.LoadError → String
  | .problems path found =>
    paint colored .red "✗ Invalid configuration in" ++ " " ++ path ++ "\n"
      ++ String.join (found.map fun problem =>
        "  " ++ paint colored .dimmed ("[" ++ problem.code ++ "]") ++ " " ++ problem.message ++ "\n")
  | error => paint colored .red "✗ Failed to load config:" ++ " " ++ error.message ++ "\n"

/-- The report on a schema with syntax errors. -/
def syntaxReport (colored : Bool) (error : Sdl.SchemaError) : String :=
  paint colored .red "✗ Syntax errors in" ++ " " ++ error.path ++ "\n"
    ++ String.join (error.errors.map fun found =>
      "  " ++ paint colored .dimmed "-" ++ " " ++ found.text ++ "\n")

/-- The report on a type without a fixture. -/
def unknownTypeReport (colored : Bool) (name : String) (suggestion : Option String) : String :=
  paint colored .red "✗ No fixture for type" ++ " " ++ paint colored .bold name ++ "\n"
    ++ match suggestion with
      | some known => "  Did you mean '" ++ paint colored .cyan known ++ "'?\n"
      | none => ""

/-- The report on the failure. -/
def report (colored : Bool) : Failure → String
  | config error => configReport colored error
  | schemaFile path error =>
    paint colored .red "✗ Failed to read schema" ++ " " ++ path ++ ": " ++ error.message ++ "\n"
  | schemaSyntax error => syntaxReport colored error
  | unknownType name suggestion => unknownTypeReport colored name suggestion
  | output path error =>
    paint colored .red "✗ Failed to write" ++ " " ++ path ++ ": " ++ error.message ++ "\n"

end Failure

/-! ## Reading -/

/-- What every task works on. -/
structure Context where
  settings : Config.Settings
  document : Schema.Document

section

variable {m : Type → Type} [Monad m]

/-- The settings of a config file, or the ones that hold without any. -/
def settingsOf (host : Files.Host m) (path : Option String) :
    m (Except Config.LoadError Config.Settings) :=
  match path with
  | some path => Config.load host path
  | none => return .ok {}

/-- The settings: of the config file that is named, else of the one that is found. -/
def loadSettings (host : Files.Host m) (directory : String) (path : Option String) :
    m (Except Config.LoadError Config.Settings) :=
  match path with
  | some path => settingsOf host (some path)
  | none => do settingsOf host (← Config.find? host directory)

/-- The schema in a file. -/
def loadSchema (host : Files.Host m) (path : String) : m (Except Failure Schema.Document) := do
  match ← host.read path with
  | .error error => return .error (.schemaFile path error)
  | .ok source =>
    match Sdl.parseSchema source path with
    | .ok document => return .ok document
    | .error error => return .error (.schemaSyntax error)

/-- The settings and the schema; the settings come first. -/
def loadContext (host : Files.Host m) (directory : String) (invocation : Invocation) :
    m (Except Failure Context) := do
  match ← loadSettings host directory invocation.config with
  | .error error => return .error (.config error)
  | .ok settings =>
    match ← loadSchema host invocation.task.schema with
    | .ok document => return .ok ⟨settings, document⟩
    | .error failure => return .error failure

/-! ## Tasks -/

/-- Hundredths of a second as seconds with two places. -/
def secondsText (hundredths : Nat) : String :=
  let rest := hundredths % 100
  toString (hundredths / 100) ++ "." ++ (if rest < 10 then "0" else "") ++ toString rest

/-- The settings under the options of the generate command. -/
def overridden (settings : Config.Settings) (immer : Bool) (typeDefinitionModule : Option String) :
    Config.Settings :=
  { settings with
    immer := settings.immer || immer
    typeDefinitionModule := typeDefinitionModule.or settings.typeDefinitionModule }

/-- The text of the module of a schema. -/
def moduleText (context : Context) (immer : Bool) (typeDefinitionModule : Option String) : String :=
  (Emission.Module.generate context.document
    (overridden context.settings immer typeDefinitionModule)).text

/-- What is said about a module that was written. -/
def writtenText (colored : Bool) (path : String) (hundredths : Nat) : String :=
  paint colored .green "✓ Fixtures written to" ++ " " ++ paint colored .bold path ++ "\n"
    ++ "  " ++ paint colored .dimmed "⏱" ++ " total: " ++ secondsText hundredths ++ "s\n"

/-- Writes a module to a file, or gives it as the output. -/
def generate (host : Files.Host m) (colored quiet : Bool) (text : String)
    (output : Option String) : m (Except Failure String) :=
  match output with
  | none => return .ok text
  | some path => do
    match ← host.write path text with
    | .error error => return .error (.output path error)
    | .ok () =>
      let hundredths ← host.elapsed
      return .ok (if quiet then "" else writtenText colored path hundredths)

end

/-- The registry of a context. -/
def Context.registry (context : Context) : Fixture.Registry :=
  .build context.document context.settings

/-- The fixture of a type as JSON. -/
def displayText (registry : Fixture.Registry) (type : String) (depth : Nat) :
    Except Failure String :=
  match registry.instantiate? type {} with
  | some (fixture, store) => .ok ((fixture.materialize registry depth store).1.pretty ++ "\n")
  | none => .error (.unknownType type (Text.suggestion? type registry.names))

/-- A text with spaces behind it up to a number of characters. -/
def padded (width : Nat) (text : String) : String :=
  text ++ String.ofList (List.replicate (width - text.length) ' ')

/-- The room that the widest name takes, in bytes. -/
def nameWidth (registry : Fixture.Registry) : Nat :=
  (registry.names.map (·.utf8ByteSize)).foldl max 0

/-- The list of factories for a reader: a name and a kind per line, and their number. -/
def listText (colored : Bool) (registry : Fixture.Registry) : String :=
  let width := nameWidth registry
  let lines := registry.factories.map fun factory =>
    paint colored .bold (padded width factory.name) ++ "  "
      ++ paint colored .dimmed factory.kind.text ++ "\n"
  String.join lines ++ "\n" ++ paint colored .bold (toString registry.size)
    ++ (if registry.size = 1 then " fixture\n" else " fixtures\n")

/-- The list of factories as JSON. -/
def listJson (registry : Fixture.Registry) : Json :=
  .array (registry.factories.map fun factory =>
    .object [("name", .string factory.name), ("kind", .string factory.kind.text)])

/-- Does a task; gives its output. -/
def perform {m : Type → Type} [Monad m] (host : Files.Host m) (colored quiet : Bool)
    (context : Context) : Task → m (Except Failure String)
  | .generate _ output immer typeDefinitionModule =>
    generate host colored quiet (moduleText context immer typeDefinitionModule) output
  | .display _ type depth => return displayText context.registry type depth
  | .list _ .human => return .ok (listText colored context.registry)
  | .list _ .json => return .ok ((listJson context.registry).compact ++ "\n")

/-- What a run that ended in this way leaves behind. -/
def Outcome.ofResult (colored : Bool) : Except Failure String → Outcome
  | .ok output => { output }
  | .error failure => { exit := failure.exit, report := failure.report colored }

/-- Runs an invocation from a directory. -/
def run {m : Type → Type} [Monad m] (host : Files.Host m) (directory : String) (colored : Bool)
    (invocation : Invocation) : m Outcome := do
  match ← loadContext host directory invocation with
  | .error failure => return .ofResult colored (.error failure)
  | .ok context =>
    return .ofResult colored (← perform host colored invocation.quiet context invocation.task)

end SchemaFixtures.Command
