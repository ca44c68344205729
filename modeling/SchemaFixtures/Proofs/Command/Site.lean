import SchemaFixtures.Command.Help
import SchemaFixtures.Files.Tree

/-!
# Runs on a file tree

A run reads the files of a tree from a directory and may write one of them. What it reads is a
function of the tree: the config file that is named or found, the settings in it, and the schema.
Reading changes nothing, so a run comes down to what it makes of the settings and the schema.
-/

namespace SchemaFixtures.Command

/-- Where a run takes place: the files, and the directory it starts from, as a place in the tree
and as text. -/
structure Site where
  tree : Files.Tree
  location : Files.Location
  directory : String

namespace Site

/-- Access to the files, when so many hundredths of a second have passed. -/
def host (site : Site) (hundredths : Nat) : Files.Host (StateM Files.Tree) :=
  { Files.Tree.host site.location with elapsed := return hundredths }

/-- What a run of an invocation leaves behind: its outcome and the files. -/
def run (site : Site) (hundredths : Nat) (colored : Bool) (invocation : Invocation) :
    Outcome × Files.Tree :=
  (Command.run (site.host hundredths) site.directory colored invocation).run site.tree

/-- What a command line leaves behind: its outcome and the files. -/
def answer (site : Site) (hundredths : Nat) (environment : ColorEnvironment) (terminal : Bool)
    (arguments : List String) : Outcome × Files.Tree :=
  (Command.answer (site.host hundredths) site.directory environment terminal arguments).run
    site.tree

/-! ## What a run reads -/

/-- The text of a file. -/
def read (site : Site) (path : String) : Except Files.FileError String :=
  site.tree.read site.location path

/-- The config file: the one that is named, else the first candidate that is a file. -/
def configPath? (site : Site) (named : Option String) : Option String :=
  named.or ((Config.candidates site.directory).find? (site.tree.isFile site.location))

/-- The settings in a config file, or the ones that hold without any. -/
def settings (site : Site) (named : Option String) : Except Config.LoadError Config.Settings :=
  match site.configPath? named with
  | some path =>
    match site.read path with
    | .ok contents => Config.loadText contents path
    | .error error => .error (.unreadable error)
  | none => .ok {}

/-- The schema in a file. -/
def schema (site : Site) (path : String) : Except Failure Schema.Document :=
  match site.read path with
  | .ok source =>
    match Sdl.parseSchema source path with
    | .ok document => .ok document
    | .error error => .error (.schemaSyntax error)
  | .error error => .error (.schemaFile path error)

/-- What the task of an invocation works on. -/
def context (site : Site) (invocation : Invocation) : Except Failure Context :=
  match site.settings invocation.config with
  | .ok settings =>
    match site.schema invocation.task.schema with
    | .ok document => .ok ⟨settings, document⟩
    | .error failure => .error failure
  | .error error => .error (.config error)

/-! ## Reading changes nothing -/

/-- After a step that changes nothing a run goes on with what the step gave. -/
theorem run_after {α β : Type} {first : StateM Files.Tree α} {next : α → StateM Files.Tree β}
    {tree : Files.Tree} {value : α} (quiet : first.run tree = (value, tree)) :
    (first >>= next).run tree = (next value).run tree := by
  rw [StateT.run_bind, quiet]
  rfl

theorem read_run (site : Site) (hundredths : Nat) (path : String) :
    ((site.host hundredths).read path).run site.tree = (site.read path, site.tree) := rfl

theorem firstFile?_run (site : Site) (hundredths : Nat) (paths : List String) :
    ((site.host hundredths).firstFile? paths).run site.tree =
      (paths.find? (site.tree.isFile site.location), site.tree) := by
  induction paths with
  | nil => rfl
  | cons path rest inductionHypothesis =>
    have asked : ((site.host hundredths).isFile path).run site.tree =
        (site.tree.isFile site.location path, site.tree) := rfl
    rw [Files.Host.firstFile?, run_after asked, List.find?_cons]
    cases site.tree.isFile site.location path with
    | true => rfl
    | false => exact inductionHypothesis

theorem settingsOf_run (site : Site) (hundredths : Nat) (named : Option String) :
    (settingsOf (site.host hundredths) (site.configPath? named)).run site.tree =
      (site.settings named, site.tree) := by
  rw [settings]
  cases site.configPath? named with
  | none => rfl
  | some path =>
    rw [settingsOf, Config.load, run_after (site.read_run hundredths path)]
    dsimp only
    cases site.read path <;> rfl

theorem loadSettings_run (site : Site) (hundredths : Nat) (named : Option String) :
    (loadSettings (site.host hundredths) site.directory named).run site.tree =
      (site.settings named, site.tree) := by
  rw [← settingsOf_run site hundredths]
  cases named with
  | some path => rfl
  | none =>
    rw [loadSettings, Config.find?, run_after (site.firstFile?_run hundredths _)]
    rfl

theorem loadSchema_run (site : Site) (hundredths : Nat) (path : String) :
    (loadSchema (site.host hundredths) path).run site.tree = (site.schema path, site.tree) := by
  rw [loadSchema, run_after (site.read_run hundredths path), schema]
  cases site.read path with
  | error error => rfl
  | ok source =>
    cases parsed : Sdl.parseSchema source path <;> simp only [parsed] <;> rfl

theorem loadContext_run (site : Site) (hundredths : Nat) (invocation : Invocation) :
    (loadContext (site.host hundredths) site.directory invocation).run site.tree =
      (site.context invocation, site.tree) := by
  rw [loadContext, run_after (site.loadSettings_run hundredths _), context]
  cases site.settings invocation.config with
  | error error => rfl
  | ok settings =>
    simp only []
    rw [run_after (site.loadSchema_run hundredths _)]
    cases site.schema invocation.task.schema <;> rfl

/-- A write that fails changes nothing either. -/
theorem write_run (site : Site) (hundredths : Nat) (path text : String) :
    ((site.host hundredths).write path text).run site.tree =
      match site.tree.write site.location path text with
      | .ok after => (.ok (), after)
      | .error error => (.error error, site.tree) := by
  simp only [host, Files.Tree.host]
  cases written : site.tree.write site.location path text <;> simp [written] <;> rfl

/-! ## Runs -/

/-- A run that cannot read what it works on ends there. -/
theorem run_of_failure {site : Site} {invocation : Invocation} {failure : Failure}
    (failed : site.context invocation = .error failure) (hundredths : Nat) (colored : Bool) :
    site.run hundredths colored invocation =
      (.ofResult colored (.error failure), site.tree) := by
  rw [run, Command.run, run_after (site.loadContext_run hundredths invocation), failed]
  rfl

/-- A run that has read what it works on does its task. -/
theorem run_of_context {site : Site} {invocation : Invocation} {context : Context}
    (loaded : site.context invocation = .ok context) (hundredths : Nat) (colored : Bool) :
    site.run hundredths colored invocation =
      let (result, after) := (perform (site.host hundredths) colored invocation.quiet context
        invocation.task).run site.tree
      (.ofResult colored result, after) := by
  rw [run, Command.run, run_after (site.loadContext_run hundredths invocation), loaded]
  rfl

theorem answer_run {arguments : List String} {invocation : Invocation}
    (asked : Request.ofArguments arguments = .run invocation) (site : Site) (hundredths : Nat)
    (environment : ColorEnvironment) (terminal : Bool) :
    site.answer hundredths environment terminal arguments =
      site.run hundredths (isColored invocation environment terminal) invocation := by
  rw [answer, Command.answer, asked]
  rfl

end Site

end SchemaFixtures.Command
