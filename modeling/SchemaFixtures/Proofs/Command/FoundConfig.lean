import SchemaFixtures.Proofs.Command.AddedOption
import SchemaFixtures.Proofs.Command.Site
import SchemaFixtures.Proofs.Config.Nearest
import SchemaFixtures.Proofs.Files.Writing

/-!
# The config file of a run

A search on a file tree finds the nearest config file. A place that is no file is passed over, a
directory with the name of a config file too, and the start need not be there. A run that is told
of no config file is the run that is told of the one that is found from its directory, however
that is told, or else the run with the settings that hold without a file.
-/

namespace SchemaFixtures

/-! ## Files of a tree -/

namespace Files.Tree

/-- A path leads to a place that holds a file. -/
def HoldsFile (tree : Tree) (directory : Location) (path : String) : Prop :=
  ∃ place bytes, tree.locate directory path = .ok place ∧ tree.node? place = some (.file bytes)

theorem isFile_iff (tree : Tree) (directory : Location) (path : String) :
    tree.isFile directory path = true ↔ tree.HoldsFile directory path := by
  rw [isFile, HoldsFile, readBytes]
  cases tree.locate directory path with
  | error error => simp [bind, Except.bind]
  | ok place =>
    cases held : tree.node? place with
    | none => simp [bind, Except.bind, held]
    | some node => cases node <;> simp [bind, Except.bind, held]

end Files.Tree

namespace Command

open Files

/-- Runs an invocation with settings that are there already. -/
def runWith {m : Type → Type} [Monad m] (host : Host m) (colored : Bool)
    (invocation : Invocation) (settings : Config.Settings) : m Outcome := do
  match ← loadSchema host invocation.task.schema with
  | .error failure => return .ofResult colored (.error failure)
  | .ok document =>
    let context : Context := ⟨settings, document⟩
    return .ofResult colored (← perform host colored invocation.quiet context invocation.task)

namespace Site

variable {site : Site} {invocation : Invocation}

/-- A path leads to a file from where the run takes place. -/
def HoldsFile (site : Site) (path : String) : Prop := site.tree.HoldsFile site.location path

/-- The config file that a search from a start finds. -/
def foundConfig? (site : Site) (hundredths : Nat) (start : String) : Option String :=
  ((Config.find? (site.host hundredths) start).run site.tree).1

/-- What a run leaves behind that reads no config file and has these settings. -/
def runWith (site : Site) (hundredths : Nat) (colored : Bool) (invocation : Invocation)
    (settings : Config.Settings) : Outcome × Files.Tree :=
  (Command.runWith (site.host hundredths) colored invocation settings).run site.tree

/-! ## Searching -/

theorem foundConfig?_eq (site : Site) (hundredths : Nat) (start : String) :
    site.foundConfig? hundredths start =
      (Config.candidates start).find? (site.tree.isFile site.location) :=
  congrArg Prod.fst (site.firstFile?_run hundredths (Config.candidates start))

theorem holdsFile_eq (site : Site) :
    site.HoldsFile = (site.tree.isFile site.location · = true) :=
  funext fun path => propext (Tree.isFile_iff site.tree site.location path).symm

theorem foundConfig?_eq_some_iff {hundredths : Nat} {start path : String} :
    site.foundConfig? hundredths start = some path ↔
      ∃ steps rank directory name,
        Config.Nearest site.HoldsFile start steps rank directory name ∧
          path = Path.join directory name := by
  rw [foundConfig?_eq, holdsFile_eq]
  exact Config.find?_candidates_iff

theorem foundConfig?_eq_none_iff {hundredths : Nat} {start : String} :
    site.foundConfig? hundredths start = none ↔
      ∀ steps directory, Path.above? steps start = some directory →
        ∀ name ∈ Config.fileNames, ¬site.HoldsFile (Path.join directory name) := by
  rw [foundConfig?_eq, holdsFile_eq]
  exact Config.find?_candidates_eq_none_iff

/-- What is found has a name. -/
theorem foundConfig?_ne_empty {hundredths : Nat} {start path : String}
    (found : site.foundConfig? hundredths start = some path) : path ≠ "" := by
  obtain ⟨steps, rank, directory, name, nearest, rfl⟩ := foundConfig?_eq_some_iff.mp found
  have names : ∀ name ∈ Config.fileNames, name ≠ "" := by decide
  have named := names name (List.mem_of_getElem? nearest.ranked)
  rw [Path.join]
  repeat' split
  all_goals simp [named]

/-! ## Running -/

/-- Which config file is read is all that counts of how it is told. -/
theorem run_of_same_config {named : Option String}
    (same : site.configPath? named = site.configPath? invocation.config) (hundredths : Nat)
    (colored : Bool) :
    site.run hundredths colored { invocation with config := named } =
      site.run hundredths colored invocation := by
  have contexts : site.context { invocation with config := named } = site.context invocation := by
    rw [context, context, settings, settings, same]
  cases reads : site.context invocation with
  | error failure => rw [run_of_failure reads, run_of_failure (contexts.trans reads)]
  | ok loaded => rw [run_of_context reads, run_of_context (contexts.trans reads)]

/-- A run whose settings can be read is the run with these settings. -/
theorem run_of_settings {settings : Config.Settings}
    (settled : site.settings invocation.config = .ok settings) (hundredths : Nat)
    (colored : Bool) :
    site.run hundredths colored invocation =
      site.runWith hundredths colored invocation settings := by
  rw [runWith, Command.runWith, run_after (site.loadSchema_run hundredths _)]
  cases parsed : site.schema invocation.task.schema with
  | error failure =>
    have reads : site.context invocation = .error failure := by rw [context, settled, parsed]
    rw [run_of_failure reads]
    rfl
  | ok document =>
    have reads : site.context invocation = .ok ⟨settings, document⟩ := by
      rw [context, settled, parsed]
    rw [run_of_context reads]
    rfl

/-- A command line that tells of no config file is answered like the one that tells of the file
that is found, in whatever way it does so. -/
theorem answer_of_found {arguments : List String}
    (asks : Request.ofArguments arguments = .run invocation) (unnamed : invocation.config = none)
    {hundredths : Nat} {path : String}
    (found : site.foundConfig? hundredths site.directory = some path)
    (environment : ColorEnvironment) (terminal : Bool) {named : List String}
    (names : Request.ofArguments named = .run { invocation with config := some path }) :
    site.answer hundredths environment terminal named =
      site.answer hundredths environment terminal arguments := by
  rw [foundConfig?_eq] at found
  have told : site.configPath? (some path) = site.configPath? invocation.config := by
    rw [configPath?, configPath?, unnamed, found]
    rfl
  rw [answer_run asks, answer_run names]
  exact run_of_same_config told hundredths (isColored invocation environment terminal)

/-- If none is found, it is answered with the settings that hold without a file. -/
theorem answer_of_not_found {arguments : List String}
    (asks : Request.ofArguments arguments = .run invocation) (unnamed : invocation.config = none)
    {hundredths : Nat} (nothing : site.foundConfig? hundredths site.directory = none)
    (environment : ColorEnvironment) (terminal : Bool) :
    site.answer hundredths environment terminal arguments =
      site.runWith hundredths (isColored invocation environment terminal) invocation {} := by
  rw [foundConfig?_eq] at nothing
  rw [answer_run asks]
  refine run_of_settings ?_ hundredths _
  rw [settings, configPath?, unnamed, nothing]
  rfl

/-- The nearest config file is found and used. There are as many steps up from a start as it has
names, and each leaves it without its last one. A search finds the path of a name in a directory
so many steps up exactly if that leads to a file, no name before it in the directory does, and no
name in a nearer directory does; this path has the fewest steps up of all that lead to files, and
of those with as many the first name. Nothing is found exactly if no name leads to a file in any
directory above the start. A command line that names no config file is answered like every one
that asks for the same and names the one that is found, as the same command line does with the
option in front, or else with the settings that hold without a file. -/
theorem nearest_config_is_used (site : Site) (hundredths : Nat) :
    (∀ start,
      (∀ steps,
        ((∃ directory, Path.above? steps start = some directory) ↔
          steps ≤ (Path.names start).length) ∧
        ∀ directory, Path.above? steps start = some directory →
          (∃ dropped, dropped.length = steps ∧
            Path.names start = Path.names directory ++ dropped) ∧
          Path.isAbsolute directory = Path.isAbsolute start) ∧
      (∀ path, site.foundConfig? hundredths start = some path ↔
        ∃ steps rank directory name,
          Config.Nearest site.HoldsFile start steps rank directory name ∧
            path = Path.join directory name) ∧
      (∀ steps rank directory name,
        Config.Nearest site.HoldsFile start steps rank directory name →
          ∀ otherSteps otherRank otherDirectory otherName,
            Path.above? otherSteps start = some otherDirectory →
              Config.fileNames[otherRank]? = some otherName →
                site.HoldsFile (Path.join otherDirectory otherName) →
                  steps < otherSteps ∨ steps = otherSteps ∧ rank ≤ otherRank) ∧
      (site.foundConfig? hundredths start = none ↔
        ∀ steps directory, Path.above? steps start = some directory →
          ∀ name ∈ Config.fileNames, ¬site.HoldsFile (Path.join directory name))) ∧
    ∀ arguments invocation, Request.ofArguments arguments = .run invocation →
      invocation.config = none → ∀ environment terminal,
        match site.foundConfig? hundredths site.directory with
        | some path =>
          Request.ofArguments (configArgument path :: arguments) =
              .run { invocation with config := some path } ∧
            ∀ named, Request.ofArguments named = .run { invocation with config := some path } →
              site.answer hundredths environment terminal named =
                site.answer hundredths environment terminal arguments
        | none =>
          site.answer hundredths environment terminal arguments =
            site.runWith hundredths (isColored invocation environment terminal) invocation {} := by
  constructor
  · intro start
    refine ⟨fun _ => ⟨Path.exists_above?_iff, fun _ => Path.names_of_above?⟩,
      fun _ => foundConfig?_eq_some_iff, ?_, foundConfig?_eq_none_iff⟩
    intro steps rank directory name nearest _ _ _ _
    exact nearest.least
  · intro arguments invocation asks unnamed environment terminal
    cases found : site.foundConfig? hundredths site.directory with
    | none => exact answer_of_not_found asks unnamed found environment terminal
    | some path =>
      refine ⟨ofArguments_config asks unnamed (foundConfig?_ne_empty found), ?_⟩
      exact fun named names => answer_of_found asks unnamed found environment terminal names

/-- A directory with a schema, a config file, and a directory with a preferred name of one. -/
def crowdedSite : Site :=
  { tree := ⟨[(["codegen.yml"], .directory), (["codegen.yaml"], .file "\x7b\x7d".toUTF8),
      (["schema.graphql"], .file "scalar Url".toUTF8)]⟩
    location := []
    directory := "/" }

/-- The directory with the preferred name does not hide the file, and neither does a start that
is not there. The file is used as if it was named. -/
theorem crowdedSite_uses_nearest :
    (∃ steps rank directory name,
      Config.Nearest crowdedSite.HoldsFile "/no" steps rank directory name ∧
        "/codegen.yaml" = Path.join directory name) ∧
      Request.ofArguments ["--config=/codegen.yaml", "list", "-s", "schema.graphql"] =
        .run { config := some "/codegen.yaml", task := .list "schema.graphql" .human } ∧
      crowdedSite.answer 0 {} false ["list", "-s", "schema.graphql", "-c", "/codegen.yaml"] =
        crowdedSite.answer 0 {} false ["list", "-s", "schema.graphql"] := by
  have asks : Request.ofArguments ["list", "-s", "schema.graphql"] =
      .run { task := .list "schema.graphql" .human } := by decide +kernel
  have behind : Request.ofArguments ["list", "-s", "schema.graphql", "-c", "/codegen.yaml"] =
      .run { config := some "/codegen.yaml", task := .list "schema.graphql" .human } := by
    decide +kernel
  have below : crowdedSite.foundConfig? 0 "/no" = some "/codegen.yaml" := by decide +kernel
  have found : crowdedSite.foundConfig? 0 crowdedSite.directory = some "/codegen.yaml" := by
    decide +kernel
  obtain ⟨searches, runs⟩ := nearest_config_is_used crowdedSite 0
  have told := runs _ _ asks rfl {} false
  rw [found] at told
  obtain ⟨inFront, alike⟩ := told
  exact ⟨((searches "/no").2.1 _).mp below, inFront, alike _ behind⟩

end Site

end Command

end SchemaFixtures
