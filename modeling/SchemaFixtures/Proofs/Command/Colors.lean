import Mathlib.Data.List.Permutation
import SchemaFixtures.Proofs.Command.ArgumentTexts
import SchemaFixtures.Proofs.Command.Painting
import SchemaFixtures.Proofs.Command.Stages
import SchemaFixtures.Proofs.Emission.Printing
import SchemaFixtures.Proofs.Files.Printing
import SchemaFixtures.Proofs.Json.Printing
import SchemaFixtures.Proofs.Sdl.Names

/-!
# Colours are decoration

Colours put escape sequences into what a run says and change nothing else. What a run says comes
from arguments, from the configuration and from the names of the schema. None of these holds an
escape character if the arguments, the directory and the strings of the configuration hold none.
Emitted modules and JSON are not painted at all.
-/

namespace SchemaFixtures.Command

open Text

/-! ## What a run reads -/

/-- No text that a run takes from its site holds an escape character: neither the directory nor a
string in the value of the config file. -/
structure Site.Unmarked (site : Site) (invocation : Invocation) : Prop where
  directory : Text.Unmarked site.directory
  config : ∀ path contents format json, site.configPath? invocation.config = some path →
    site.read path = .ok contents → Config.Format.ofPath? path = some format →
    format.parse contents.toList = some json → json.Unmarked

/-- The settings hold no escape character, and the schema has names of the schema language. -/
structure Context.Unmarked (context : Context) : Prop where
  settings : context.settings.Unmarked
  named : Emission.Named context.document

namespace Site

variable {site : Site} {invocation : Invocation}

theorem configPath?_unmarked (plain : site.Unmarked invocation) (asked : invocation.Unmarked)
    {path : String} (found : site.configPath? invocation.config = some path) :
    Text.Unmarked path := by
  rcases Option.or_eq_some_iff.mp found with named | ⟨-, candidate⟩
  · exact asked.config path named
  · exact Files.candidates_unmarked plain.directory path (List.mem_of_find?_eq_some candidate)

theorem settings_unmarked (plain : site.Unmarked invocation) (asked : invocation.Unmarked) :
    Config.LoadsUnmarked (site.settings invocation.config) := by
  rw [settings]
  cases found : site.configPath? invocation.config with
  | none =>
    refine ⟨?_, List.forall_mem_nil _⟩
    intro _ none
    cases none
  | some path =>
    dsimp only
    cases contents : site.read path with
    | error error =>
      have known : error.Known := Files.Tree.read_fails _ _ _ error contents
      exact Text.Unmarked.append (unmarked_literal (by decide)) known.message
    | ok text =>
      exact Config.loadText_unmarked (configPath?_unmarked plain asked found)
        fun format json isFormat parsed => plain.config path text format json found contents
          isFormat parsed

theorem schema_unmarked (site : Site) {path : String} (unmarked : Text.Unmarked path) :
    match site.schema path with
    | .ok document => Emission.Named document
    | .error failure => failure.Unmarked := by
  rw [schema]
  cases contents : site.read path with
  | error error =>
    have known : error.Known := Files.Tree.read_fails _ _ _ error contents
    exact ⟨unmarked, known.message⟩
  | ok source =>
    dsimp only
    cases parsed : Sdl.parseSchema source path with
    | ok document => exact Sdl.parseSchema_named parsed
    | error error =>
      obtain ⟨same, texts⟩ := Sdl.parseSchema_error parsed
      exact ⟨same ▸ unmarked, texts⟩

theorem schema_of_task {task : Task} (unmarked : task.Unmarked) : Text.Unmarked task.schema := by
  cases task with
  | generate _ _ _ _ => exact unmarked.1
  | display _ _ _ => exact unmarked.1
  | list _ _ => exact unmarked

theorem context_unmarked (plain : site.Unmarked invocation) (asked : invocation.Unmarked) :
    match site.context invocation with
    | .ok loaded => loaded.Unmarked
    | .error failure => failure.Unmarked := by
  have settled := settings_unmarked plain asked
  have parsed := schema_unmarked site (schema_of_task asked.task)
  rw [context]
  cases settings : site.settings invocation.config with
  | error error =>
    rw [settings] at settled
    exact settled
  | ok settings =>
    rw [settings] at settled
    dsimp only
    cases schema : site.schema invocation.task.schema with
    | error failure =>
      rw [schema] at parsed
      exact parsed
    | ok document =>
      rw [schema] at parsed
      exact ⟨settled, parsed⟩

end Site

/-! ## Runs -/

/-- One outcome is another one with escape sequences in its texts. -/
structure Outcome.Paints (painted plain : Outcome) : Prop where
  exit : painted.exit = plain.exit
  output : Command.Paints painted.output plain.output
  report : Command.Paints painted.report plain.report

theorem ofResult_ok_paints (colored : Bool) {painted plain : String}
    (paints : Paints painted plain) :
    (Outcome.ofResult colored (.ok painted)).Paints (.ofResult false (.ok plain)) :=
  ⟨rfl, paints, .nil⟩

theorem ofResult_error_paints (colored : Bool) {failure : Failure} (unmarked : failure.Unmarked) :
    (Outcome.ofResult colored (.error failure)).Paints (.ofResult false (.error failure)) :=
  ⟨rfl, .nil, report_paints colored unmarked⟩

theorem moduleText_unmarked {loaded : Context} (unmarked : loaded.Unmarked) (immer : Bool)
    {module : Option String} (plain : ∀ path ∈ module, Unmarked path) :
    Unmarked (moduleText loaded immer module) := by
  refine Emission.generate_unmarked unmarked.named ⟨?_, unmarked.settings.defaults⟩
  intro path given
  rcases Option.or_eq_some_iff.mp given with asked | ⟨-, settled⟩
  · exact plain path asked
  · exact unmarked.settings.module path settled

theorem names_unmarked {loaded : Context} (unmarked : loaded.Unmarked) :
    ∀ name ∈ loaded.registry.names, Unmarked name :=
  fun name listed => unmarked_of_isName (Emission.isName_of_names unmarked.named name listed)

theorem displayText_unmarked {loaded : Context} (unmarked : loaded.Unmarked) {type : String}
    (plain : Unmarked type) (depth : Nat) :
    match displayText loaded.registry type depth with
    | .ok text => Unmarked text
    | .error failure => failure.Unmarked := by
  rw [displayText]
  cases loaded.registry.instantiate? type {} with
  | some made => exact (Json.unmarked_prettyAt 0 _).append (by decide : Unmarked "\n")
  | none =>
    refine ⟨plain, fun known suggested => ?_⟩
    exact names_unmarked unmarked known (Config.suggestion?_mem suggested)

namespace Site

variable {site : Site} {invocation : Invocation}

/-- A task is done alike with colours and without, but for the sequences in its texts. -/
theorem perform_paints (site : Site) (hundredths : Nat) (colored quiet : Bool) {loaded : Context}
    (unmarked : loaded.Unmarked) {task : Task} (plain : task.Unmarked) :
    let painted := (perform (site.host hundredths) colored quiet loaded task).run site.tree
    let bare := (perform (site.host hundredths) false quiet loaded task).run site.tree
    (Outcome.ofResult colored painted.1).Paints (.ofResult false bare.1) ∧ painted.2 = bare.2 := by
  cases task with
  | generate schema output immer module =>
    obtain ⟨-, outputPlain, modulePlain⟩ := plain
    cases output with
    | none =>
      have text := moduleText_unmarked unmarked immer modulePlain
      exact ⟨ofResult_ok_paints colored (.refl text), rfl⟩
    | some path =>
      simp only [perform, generate_run]
      cases written : site.tree.write site.location path (moduleText loaded immer module) with
      | error error =>
        have known : error.Known := Files.Tree.write_fails _ _ _ _ error written
        exact ⟨ofResult_error_paints colored ⟨outputPlain path rfl, known.message⟩, rfl⟩
      | ok after =>
        refine ⟨ofResult_ok_paints colored ?_, rfl⟩
        split
        · exact .refl (by decide)
        · exact writtenText_paints colored (outputPlain path rfl) hundredths
  | display schema type depth =>
    have shown := displayText_unmarked unmarked plain.2 depth
    dsimp only [perform]
    cases result : displayText loaded.registry type depth with
    | ok text =>
      rw [result] at shown
      exact ⟨ofResult_ok_paints colored (.refl shown), rfl⟩
    | error failure =>
      rw [result] at shown
      exact ⟨ofResult_error_paints colored shown, rfl⟩
  | list schema format =>
    cases format with
    | human =>
      have rows := listText_paints colored (names_unmarked unmarked)
      exact ⟨ofResult_ok_paints colored rows, rfl⟩
    | json =>
      have text : Text.Unmarked ((listJson loaded.registry).compact ++ "\n") :=
        (Json.unmarked_compact _).append (by decide)
      exact ⟨ofResult_ok_paints colored (.refl text), rfl⟩

theorem run_paints (plain : site.Unmarked invocation) (asked : invocation.Unmarked)
    (hundredths : Nat) (colored : Bool) :
    (site.run hundredths colored invocation).1.Paints (site.run hundredths false invocation).1 ∧
      (site.run hundredths colored invocation).2 = (site.run hundredths false invocation).2 := by
  have reads := context_unmarked plain asked
  cases loaded : site.context invocation with
  | error failure =>
    rw [loaded] at reads
    rw [run_of_failure loaded, run_of_failure loaded]
    exact ⟨ofResult_error_paints colored reads, rfl⟩
  | ok context =>
    rw [loaded] at reads
    rw [run_of_context loaded, run_of_context loaded]
    exact perform_paints site hundredths colored _ reads asked.task

end Site

/-! ## Time and columns -/

/-- Runs at different times that differ in nothing but a time that is told, if it is. -/
def AlikeButTime (runs : Nat → Outcome × Files.Tree) : Prop :=
  (∃ left, ∀ hundredths, runs hundredths = left) ∨
    ∃ before after files, ∀ hundredths,
      runs hundredths = ({ output := before ++ secondsText hundredths ++ after }, files)

theorem AlikeButTime.same {runs : Nat → Outcome × Files.Tree} (alike : AlikeButTime runs)
    (hundredths later : Nat) :
    (runs hundredths).1.exit = (runs later).1.exit ∧ (runs hundredths).2 = (runs later).2 := by
  rcases alike with ⟨left, all⟩ | ⟨before, after, files, all⟩
  · rw [all, all]
    exact ⟨rfl, rfl⟩
  · rw [all, all]
    exact ⟨rfl, rfl⟩

namespace Site

variable {site : Site} {invocation : Invocation}

theorem exit_ne_zero (failure : Failure) : failure.exit ≠ 0 := by
  cases failure <;> simp [Failure.exit]

/-- What is put out for a program holds no escape character. -/
theorem machine_unmarked (plain : site.Unmarked invocation) (asked : invocation.Unmarked)
    (hundredths : Nat) (colored : Bool)
    (forProgram : ∀ schema, invocation.task ≠ .list schema .human)
    (noFile : invocation.task.outputFile? = none) :
    Text.Unmarked (site.run hundredths colored invocation).1.output := by
  have reads := context_unmarked plain asked
  cases loaded : site.context invocation with
  | error failure =>
    rw [run_of_failure loaded]
    exact (by decide : Text.Unmarked "")
  | ok context =>
    rw [loaded] at reads
    rw [run_of_context loaded]
    have taskPlain := asked.task
    cases task : invocation.task with
    | generate schema output immer module =>
      rw [task] at noFile taskPlain
      cases output with
      | some path => cases noFile
      | none => exact moduleText_unmarked reads immer taskPlain.2.2
    | display schema type depth =>
      rw [task] at taskPlain
      have shown := displayText_unmarked reads taskPlain.2 depth
      dsimp only [perform]
      cases result : displayText context.registry type depth with
      | ok text =>
        rw [result] at shown
        exact shown
      | error failure => exact (by decide : Text.Unmarked "")
    | list schema format =>
      cases format with
      | human => exact absurd task (forProgram schema)
      | json => exact (Json.unmarked_compact _).append (by decide : Text.Unmarked "\n")

end Site

end SchemaFixtures.Command
