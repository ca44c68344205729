import SchemaFixtures.Proofs.Command.Site
import SchemaFixtures.Proofs.Files.Writing
import SchemaFixtures.Proofs.Fixture.Delegation

/-!
# The first stage that fails ends a run

A run goes through stages: the configuration, the file of the schema, its syntax, and then the
type that is to be shown or the file that is to be written. Whether a stage would fail can be
told from the files alone. The exit code of a run is that of the first stage that fails, and then
nothing is put out, something is reported, and all files are as they were. A run without such a
stage reports nothing. The only file that it changes is the one it was told to write, and that
file then holds what the run puts out when it is told of none.
-/

namespace SchemaFixtures.Command

/-- What a run can fail at. -/
inductive Stage where
  | config
  | schemaFile
  | schemaSyntax
  | unknownType
  | output
deriving DecidableEq, Repr

namespace Stage

/-- The stages in the order in which a run comes to them. -/
def inOrder : List Stage := [config, schemaFile, schemaSyntax, unknownType, output]

/-- The exit code of a run that ends at the stage. -/
def exit : Stage → Nat
  | config => 2
  | schemaFile => 3
  | schemaSyntax => 5
  | unknownType => 1
  | output => 4

end Stage

/-- The file that a task is told to write. -/
def Task.outputFile? : Task → Option String
  | .generate _ output _ _ => output
  | .display _ _ _ => none
  | .list _ _ => none

namespace Site

/-- Whether an invocation would fail at a stage if it came there. A file that cannot be written
cannot be written with any text. -/
def fails (site : Site) (invocation : Invocation) : Stage → Bool
  | .config =>
    match site.configPath? invocation.config with
    | some path =>
      match site.read path with
      | .ok contents => !(Config.loadText contents path).isOk
      | .error _ => true
    | none => false
  | .schemaFile => !(site.read invocation.task.schema).isOk
  | .schemaSyntax =>
    match site.read invocation.task.schema with
    | .ok source => !(Sdl.parseSchema source invocation.task.schema).isOk
    | .error _ => false
  | .unknownType =>
    match invocation.task, site.schema invocation.task.schema with
    | .display _ type _, .ok document => (Fixture.declaration? document type).isNone
    | _, _ => false
  | .output =>
    match invocation.task.outputFile? with
    | some path => !(site.tree.write site.location path "").isOk
    | none => false

variable {site : Site} {invocation : Invocation}

/-! ## Reading -/

theorem generate_run (site : Site) (hundredths : Nat) (colored quiet : Bool) (text path : String) :
    (generate (site.host hundredths) colored quiet text (some path)).run site.tree =
      match site.tree.write site.location path text with
      | .ok after => (.ok (if quiet then "" else writtenText colored path hundredths), after)
      | .error error => (.error (.output path error), site.tree) := by
  rw [generate, StateT.run_bind, write_run]
  cases site.tree.write site.location path text <;> rfl

/-- A directory with a schema of one type and nothing else. -/
def userSite : Site :=
  { tree := ⟨[(["schema.graphql"], .file "type User { id: ID! }".toUTF8)]⟩
    location := []
    directory := "/" }

end Site

end SchemaFixtures.Command
