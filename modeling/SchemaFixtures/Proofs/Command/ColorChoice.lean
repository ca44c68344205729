import SchemaFixtures.Proofs.Command.Colors

/-!
# When there are colours

Away from a terminal there are colours only for the option that asks for them, or for the variable
that forces them where neither the other option nor the variable against colours is there. The
variable that turns colours off with a zero has no say: without a terminal nothing is left to it.

The variable that forces colours is read twice. The first reading takes neither the empty text nor
a zero for a wish, and leaves the decision open with both. The second reading, which then decides,
takes everything but a zero for one. So a variable that is set to the empty text forces colours.
-/

namespace SchemaFixtures.Command

open Text

/-! ## The decision -/

/-- Colours are asked for: by the option, or, where nothing is against them, by a value of the
forcing variable that is neither empty nor a zero. -/
def AsksForColor (invocation : Invocation) (environment : ColorEnvironment) : Prop :=
  invocation.color = true ∨
    invocation.noColor = false ∧ environment.noColor = none ∧
      ∃ force, environment.cliColorForce = some force ∧ force ≠ "" ∧ force ≠ "0"

/-- The forcing variable is set to the empty text, and nothing that comes before it decides. -/
def HasEmptyForce (invocation : Invocation) (environment : ColorEnvironment) : Prop :=
  invocation.color = false ∧ invocation.noColor = false ∧ environment.noColor = none ∧
    environment.cliColorForce = some ""

variable {invocation : Invocation} {environment : ColorEnvironment}

/-- Options and environment decide for colours exactly if they are asked for. -/
theorem colorDecision_eq_true_iff :
    colorDecision invocation.color invocation.noColor environment = some true ↔
      AsksForColor invocation environment := by
  rw [colorDecision, AsksForColor]
  cases invocation.color with
  | true => simp
  | false =>
    cases invocation.noColor with
    | true => simp
    | false =>
      cases environment.noColor with
      | some _ => simp
      | none =>
        cases environment.cliColorForce with
        | none => simp
        | some force => simp

/-- They leave the decision open to a forcing variable only where its value is empty or a zero. -/
theorem colorDecision_of_force {force : String} (given : environment.cliColorForce = some force) :
    colorDecision invocation.color invocation.noColor environment = none ↔
      invocation.color = false ∧ invocation.noColor = false ∧ environment.noColor = none ∧
        (force = "" ∨ force = "0") := by
  rw [colorDecision, given]
  cases invocation.color with
  | true => simp
  | false =>
    cases invocation.noColor with
    | true => simp
    | false =>
      cases environment.noColor with
      | some _ => simp
      | none => simp [or_iff_not_imp_left]

/-- Where nothing else decides and there is no terminal, only a forcing variable brings colours,
with any value but a zero. -/
theorem colorByDefault_iff :
    colorByDefault environment false = true ↔
      ∃ force, environment.cliColorForce = some force ∧ force ≠ "0" := by
  rw [colorByDefault]
  cases environment.cliColorForce <;> simp

/-- Away from a terminal there are colours if they are asked for, or if the variable that forces
them is empty. -/
theorem isColored_iff :
    isColored invocation environment false = true ↔
      AsksForColor invocation environment ∨ HasEmptyForce invocation environment := by
  have split : isColored invocation environment false = true ↔
      colorDecision invocation.color invocation.noColor environment = some true ∨
        colorDecision invocation.color invocation.noColor environment = none ∧
          colorByDefault environment false = true := by
    rw [isColored]
    cases colorDecision invocation.color invocation.noColor environment <;> simp
  rw [split, colorDecision_eq_true_iff]
  refine or_congr_right ?_
  rw [colorByDefault_iff]
  constructor
  · rintro ⟨left, force, given, notZero⟩
    obtain ⟨color, noColor, unset, short⟩ := (colorDecision_of_force given).mp left
    obtain rfl := short.resolve_right notZero
    exact ⟨color, noColor, unset, given⟩
  · rintro ⟨color, noColor, unset, given⟩
    exact ⟨(colorDecision_of_force given).mpr ⟨color, noColor, unset, .inl rfl⟩, "", given,
      by decide⟩

/-! ## What shows them -/

/-- The run has put out or reported an escape character. -/
def Outcome.Marked (outcome : Outcome) : Prop :=
  ¬(Unmarked outcome.output ∧ Unmarked outcome.report)

/-- A run that ends with the exit code tells a reader something: that it failed, a list in
columns, or where a module was written. -/
def Invocation.TellsReader (invocation : Invocation) (exit : Nat) : Prop :=
  exit ≠ 0 ∨ (∃ schema, invocation.task = .list schema .human) ∨
    invocation.task.outputFile? ≠ none ∧ invocation.quiet = false

@[simp] theorem not_unmarked_paint (style : Style) (text : String) :
    ¬Unmarked (paint true style text) := by
  intro unmarked
  rw [paint, if_pos rfl, unmarked_ofList] at unmarked
  exact unmarked List.mem_cons_self

theorem not_unmarked_report (failure : Failure) : ¬Unmarked (failure.report true) := by
  cases failure with
  | config error => cases error <;> simp [Failure.report, Failure.configReport]
  | schemaFile path error => simp [Failure.report]
  | schemaSyntax error => simp [Failure.report, Failure.syntaxReport]
  | unknownType name suggestion => simp [Failure.report, Failure.unknownTypeReport]
  | output path error => simp [Failure.report]

/-- A failure is marked and told. -/
theorem failure_marked_iff (invocation : Invocation) (failure : Failure) :
    let outcome := Outcome.ofResult true (.error failure)
    outcome.Marked ↔ invocation.TellsReader outcome.exit :=
  iff_of_true (fun unmarked => not_unmarked_report failure unmarked.2)
    (.inl (Site.exit_ne_zero failure))

/-- Without a failure it is the output that is marked. -/
theorem output_marked_iff {output : String}
    (marked : ¬Unmarked output ↔ invocation.TellsReader 0) :
    let outcome := Outcome.ofResult true (.ok output)
    outcome.Marked ↔ invocation.TellsReader outcome.exit := by
  have unreported : Unmarked "" := by decide
  refine Iff.trans ?_ marked
  simp [Outcome.Marked, Outcome.ofResult, unreported]

theorem Decorates.unmarked {painted plain : List Char} (decorates : Decorates painted plain) :
    escapeMark ∉ plain := by
  induction decorates with
  | nil => exact List.not_mem_nil
  | character free _ inductionHypothesis =>
    exact List.not_mem_cons_of_ne_of_not_mem free.symm inductionHypothesis
  | sequence _ _ inductionHypothesis => exact inductionHypothesis

namespace Site

variable {site : Site}

/-- A run ends with a failure or with an output. -/
theorem run_result (site : Site) (hundredths : Nat) (colored : Bool) (invocation : Invocation) :
    ∃ result, (site.run hundredths colored invocation).1 = .ofResult colored result := by
  cases reads : site.context invocation with
  | error failure => exact ⟨.error failure, by rw [run_of_failure reads]⟩
  | ok loaded => exact ⟨_, congrArg Prod.fst (run_of_context reads hundredths colored)⟩

/-- A run that puts something out for a program tells a reader of a failure only. -/
theorem machine_run_marked (plain : site.Unmarked invocation) (asked : invocation.Unmarked)
    (hundredths : Nat) (forProgram : ∀ schema, invocation.task ≠ .list schema .human)
    (noFile : invocation.task.outputFile? = none) :
    (site.run hundredths true invocation).1.Marked ↔
      invocation.TellsReader (site.run hundredths true invocation).1.exit := by
  have unmarked := machine_unmarked plain asked hundredths true forProgram noFile
  obtain ⟨result, ends⟩ := site.run_result hundredths true invocation
  rw [ends] at unmarked ⊢
  cases result with
  | error failure => exact failure_marked_iff invocation failure
  | ok output =>
    refine output_marked_iff (iff_of_false (not_not_intro unmarked) ?_)
    simp [Invocation.TellsReader, forProgram, noFile]

/-- A run in colours shows them exactly where it tells a reader something. -/
theorem colored_run_marked (plain : site.Unmarked invocation) (asked : invocation.Unmarked)
    (hundredths : Nat) :
    (site.run hundredths true invocation).1.Marked ↔
      invocation.TellsReader (site.run hundredths true invocation).1.exit := by
  have forProgram := machine_run_marked plain asked hundredths
  cases reads : site.context invocation with
  | error failure =>
    rw [run_of_failure reads]
    exact failure_marked_iff invocation failure
  | ok loaded =>
    cases task : invocation.task with
    | display schema type depth => exact forProgram (by simp [task]) (by rw [task]; rfl)
    | list schema format =>
      cases format with
      | json => exact forProgram (by simp [task]) (by rw [task]; rfl)
      | human =>
        rw [run_of_context reads, task]
        refine output_marked_iff ?_
        simp [Invocation.TellsReader, task, listText]
    | generate schema output immer module =>
      cases output with
      | none => exact forProgram (by simp [task]) (by rw [task]; rfl)
      | some path =>
        rw [run_of_context reads, task]
        simp only [perform, generate_run]
        cases site.tree.write site.location path (moduleText loaded immer module) with
        | error error => exact failure_marked_iff invocation _
        | ok after =>
          refine output_marked_iff ?_
          have nothing : Text.Unmarked "" := by decide
          cases quiet : invocation.quiet with
          | true => simp [Invocation.TellsReader, task, quiet, nothing]
          | false => simp [Invocation.TellsReader, task, Task.outputFile?, quiet, writtenText]

/-- A run shows colours exactly if it has them and tells a reader something. -/
theorem run_marked (plain : site.Unmarked invocation) (asked : invocation.Unmarked)
    (hundredths : Nat) (colored : Bool) :
    let left := (site.run hundredths colored invocation).1
    left.Marked ↔ colored = true ∧ invocation.TellsReader left.exit := by
  intro left
  cases colored with
  | true => simpa using colored_run_marked plain asked hundredths
  | false =>
    obtain ⟨paints, -⟩ := run_paints plain asked hundredths false
    have unmarked : ¬left.Marked :=
      not_not_intro ⟨paints.output.unmarked, paints.report.unmarked⟩
    exact iff_of_false unmarked fun colors => Bool.false_ne_true colors.1

/-- Away from a terminal a command line is answered in colours exactly if they are asked for, or
if the variable that forces them is empty and nothing before it decides. In colours or without,
the answer is that of the run. With arguments and files that hold no escape character, the answer
holds one exactly if it is in colours and tells a reader something. -/
theorem colors_are_asked_for_unless_force_is_empty {arguments : List String}
    (asked : Request.ofArguments arguments = .run invocation) (site : Site) (hundredths : Nat)
    (environment : ColorEnvironment) :
    let left := site.answer hundredths environment false arguments
    let colored := isColored invocation environment false
    left = site.run hundredths colored invocation ∧
      (colored = true ↔
        AsksForColor invocation environment ∨ HasEmptyForce invocation environment) ∧
      ((∀ argument ∈ arguments, Text.Unmarked argument) → site.Unmarked invocation →
        (left.1.Marked ↔ colored = true ∧ invocation.TellsReader left.1.exit)) := by
  intro left colored
  have runs : left = site.run hundredths colored invocation :=
    answer_run asked site hundredths environment false
  refine ⟨runs, isColored_iff, fun plainArguments plainSite => ?_⟩
  rw [runs]
  exact run_marked plainSite (ofArguments_unmarked plainArguments asked) hundredths colored

/-- With an empty forcing variable a list is in colours that nobody asked for, and that another
variable turns off. -/
theorem empty_force_colors_list :
    let invocation : Invocation := { task := .list "schema.graphql" .human }
    let environment : ColorEnvironment := { cliColor := some "0", cliColorForce := some "" }
    ¬AsksForColor invocation environment ∧ isColored invocation environment false = true ∧
      (userSite.answer 0 environment false ["list", "-s", "schema.graphql"]).1.Marked := by
  intro invocation environment
  have asked : Request.ofArguments ["list", "-s", "schema.graphql"] = .run invocation := by
    decide +kernel
  have plainSite : userSite.Unmarked invocation := by
    refine ⟨by decide, fun path contents format json found => ?_⟩
    have noFile : userSite.configPath? none = none := by decide +kernel
    cases noFile.symm.trans found
  obtain ⟨-, chosen, shows⟩ :=
    colors_are_asked_for_unless_force_is_empty asked userSite 0 environment
  have colored := chosen.mpr (.inr ⟨rfl, rfl, rfl, rfl⟩)
  refine ⟨?_, colored, (shows (by decide) plainSite).mpr ⟨colored, .inr (.inl ⟨_, rfl⟩)⟩⟩
  rintro (color | ⟨-, -, force, given, notEmpty, -⟩)
  · cases color
  · exact notEmpty (Option.some.inj given).symm

end Site

end SchemaFixtures.Command
