import SchemaFixtures.Command.Arguments
import SchemaFixtures.Proofs.Text.Unmarked

/-!
# Texts of an invocation

The paths and names that an invocation holds are arguments or end an argument: a value stands
behind an equals sign, behind a letter, or by itself. So an escape character in an invocation
stands in an argument.
-/

namespace SchemaFixtures.Command

open Text

/-- No text of the task holds an escape character. -/
def Task.Unmarked : Task → Prop
  | generate schema output _ typeDefinitionModule =>
    Text.Unmarked schema ∧ (∀ path ∈ output, Text.Unmarked path) ∧
      ∀ path ∈ typeDefinitionModule, Text.Unmarked path
  | display schema type _ => Text.Unmarked schema ∧ Text.Unmarked type
  | list schema _ => Text.Unmarked schema

/-- No text of the invocation holds an escape character. -/
structure Invocation.Unmarked (invocation : Invocation) : Prop where
  config : ∀ path ∈ invocation.config, Text.Unmarked path
  task : invocation.task.Unmarked

/-- No value that was given holds an escape character. -/
def Given.Unmarked (given : Given) : Prop := ∀ entry ∈ given, Text.Unmarked entry.2

variable {given : Given} {choices : List Choice}

theorem Given.Unmarked.value {name value : String} (unmarked : Given.Unmarked given)
    (found : given.value? name = some value) : Text.Unmarked value :=
  unmarked _ (Entries.mem_of_value? found)

/-! ## Reading -/

/-- What is read is good, if reading does not stop. -/
def Reads {α : Type} (good : α → Prop) (result : Except Stop α) : Prop :=
  ∀ value, result = .ok value → good value

variable {α β : Type} {good : α → Prop}

theorem Reads.ok {value : α} (holds : good value) : Reads good (.ok value) := by
  rintro _ ⟨⟩
  exact holds

theorem Reads.stop (stop : Stop) : Reads good (.error stop) := by
  rintro _ ⟨⟩

theorem Reads.map {better : β → Prop} {result : Except Stop α} {change : α → β}
    (reads : Reads good result) (changed : ∀ value, good value → better (change value)) :
    Reads better (result.map change) := by
  cases result with
  | error stop => exact .stop stop
  | ok value => exact .ok (changed value (reads value rfl))

/-! ## Options -/

theorem give_reads {choice : Choice} {value : String} (unmarked : Given.Unmarked given)
    (plain : Text.Unmarked value) : Reads Given.Unmarked (give given choice value) := by
  have put : Given.Unmarked (given.put choice.name value) := by
    intro entry member
    rcases Entries.mem_put member with before | rfl
    · exact unmarked entry before
    · exact plain
  rw [give]
  split
  · exact .stop _
  · split
    · split
      · exact .ok put
      · exact .stop _
    · exact .ok put

/-- The options that were taken hold no escape character. -/
def Taken.Unmarked : Taken → Prop
  | done given => Given.Unmarked given
  | needsValue given _ => Given.Unmarked given

theorem takeLetters_reads {top : Bool} {letters : List Char} (unmarked : Given.Unmarked given)
    (plain : escapeMark ∉ letters) :
    Reads Taken.Unmarked (takeLetters choices top given letters) := by
  induction letters generalizing given with
  | nil => exact .ok unmarked
  | cons letter rest inductionHypothesis =>
    have restPlain : escapeMark ∉ rest := fun found => plain (List.mem_cons_of_mem _ found)
    rw [takeLetters]
    split
    · exact .stop _
    · split
      · exact .stop _
      · split
        · exact .stop _
        · split
          · split
            · exact .ok unmarked
            · refine (give_reads unmarked (unmarked_literal ?_)).map fun _ given => given
              exact fun found => restPlain (List.mem_cons_of_mem _ found)
            · exact (give_reads unmarked (unmarked_literal restPlain)).map fun _ given => given
          · split
            · next after given' =>
              exact inductionHypothesis (give_reads unmarked (by decide) _ given') restPlain
            · exact .stop _

theorem takeLong_reads {top : Bool} {text : List Char} (unmarked : Given.Unmarked given)
    (plain : escapeMark ∉ text) : Reads Taken.Unmarked (takeLong choices top given text) := by
  have value : Text.Unmarked (((text.dropWhile (· != '=')).tail?.map String.ofList).getD "") := by
    cases behind : text.dropWhile (· != '=') with
    | nil => decide
    | cons mark value =>
      refine unmarked_literal fun found => plain ?_
      have inside : escapeMark ∈ text.dropWhile (· != '=') := by
        rw [behind]
        exact List.mem_cons_of_mem _ found
      exact (List.dropWhile_sublist _).subset inside
  rw [takeLong]
  split
  · exact .stop _
  · split
    · exact .stop _
    · split
      · exact .stop _
      · split
        · exact .ok unmarked
        · exact .stop _
        · exact (give_reads unmarked value).map fun _ given => given

/-- What an argument is read as holds no escape character. -/
def Argument.Unmarked : Argument → Prop
  | endOfOptions => True
  | taken found => found.Unmarked
  | operand => True

theorem readArgument_reads {top : Bool} {argument : String} (unmarked : Given.Unmarked given)
    (plain : Text.Unmarked argument) :
    Reads Argument.Unmarked (readArgument choices top given argument) := by
  have characters : escapeMark ∉ argument.toList := plain
  rw [readArgument]
  split
  · exact .ok trivial
  · next text spelled =>
    rw [spelled] at characters
    refine (takeLong_reads unmarked fun found => characters ?_).map fun _ taken => taken
    exact List.mem_cons_of_mem _ (List.mem_cons_of_mem _ found)
  · next letter text spelled =>
    rw [spelled] at characters
    refine (takeLetters_reads unmarked fun found => characters ?_).map fun _ taken => taken
    exact List.mem_cons_of_mem _ found
  · exact .ok trivial

/-! ## Command lines -/

/-- No text of what was read holds an escape character. -/
structure Reading.Unmarked (reading : Reading) : Prop where
  given : Given.Unmarked reading.given
  operands : ∀ operand ∈ reading.operands, Text.Unmarked operand

theorem readOptions_reads {arguments : List String} {room : Nat}
    (plain : ∀ argument ∈ arguments, Text.Unmarked argument) (unmarked : Given.Unmarked given) :
    Reads Reading.Unmarked (readOptions choices given room arguments) := by
  fun_induction readOptions choices given room arguments with
  | case1 given => exact .ok ⟨unmarked, List.forall_mem_nil _⟩
  | case2 | case4 | case5 | case8 | case9 | case11 => exact .stop _
  | case3 given room argument rest => exact .ok ⟨unmarked, (List.forall_mem_cons.mp plain).2⟩
  | case6 given argument rest _ room inductionHypothesis =>
    obtain ⟨first, others⟩ := List.forall_mem_cons.mp plain
    refine (inductionHypothesis others unmarked).map fun reading held => ?_
    exact ⟨held.given, List.forall_mem_cons.mpr ⟨first, held.operands⟩⟩
  | case7 given room argument rest after read inductionHypothesis =>
    obtain ⟨first, others⟩ := List.forall_mem_cons.mp plain
    exact inductionHypothesis others (readArgument_reads unmarked first _ read)
  | case10 given room argument after choice read value rest _ later taken inductionHypothesis =>
    obtain ⟨first, second⟩ := List.forall_mem_cons.mp plain
    obtain ⟨valuePlain, others⟩ := List.forall_mem_cons.mp second
    have held : Given.Unmarked after := readArgument_reads unmarked first _ read
    exact inductionHypothesis others (give_reads held valuePlain _ taken)

theorem readShared_reads {arguments : List String}
    (plain : ∀ argument ∈ arguments, Text.Unmarked argument) (unmarked : Given.Unmarked given) :
    Reads (fun read => Given.Unmarked read.1 ∧ ∀ argument ∈ read.2.2, Text.Unmarked argument)
      (readShared given arguments) := by
  fun_induction readShared given arguments with
  | case1 | case2 | case3 | case6 | case7 | case9 => exact .stop _
  | case4 given argument rest => exact .ok ⟨unmarked, (List.forall_mem_cons.mp plain).2⟩
  | case5 given argument rest after read inductionHypothesis =>
    obtain ⟨first, others⟩ := List.forall_mem_cons.mp plain
    exact inductionHypothesis others (readArgument_reads unmarked first _ read)
  | case8 given argument after choice read value rest _ later taken inductionHypothesis =>
    obtain ⟨first, second⟩ := List.forall_mem_cons.mp plain
    obtain ⟨valuePlain, others⟩ := List.forall_mem_cons.mp second
    have held : Given.Unmarked after := readArgument_reads unmarked first _ read
    exact inductionHypothesis others (give_reads held valuePlain _ taken)

theorem task?_unmarked {verb : Verb} {reading : Reading} {task : Task}
    (unmarked : reading.Unmarked) (complete : task? verb reading = some task) : task.Unmarked := by
  obtain ⟨schema, isSchema, complete⟩ := Option.bind_eq_some_iff.mp complete
  have schemaPlain := unmarked.given.value isSchema
  cases verb with
  | generate =>
    obtain rfl := Option.some.inj complete
    exact ⟨schemaPlain, fun _ found => unmarked.given.value found,
      fun _ found => unmarked.given.value found⟩
  | display =>
    obtain ⟨type, isType, complete⟩ := Option.bind_eq_some_iff.mp complete
    obtain rfl := Option.some.inj complete
    exact ⟨schemaPlain, unmarked.operands type (List.mem_of_mem_head? isType)⟩
  | list =>
    obtain rfl := Option.some.inj complete
    exact schemaPlain

theorem readCommand_unmarked {before : Given} {verb : Verb} {arguments : List String}
    {invocation : Invocation} (unmarked : Given.Unmarked before)
    (plain : ∀ argument ∈ arguments, Text.Unmarked argument)
    (asked : readCommand before verb arguments = .run invocation) : invocation.Unmarked := by
  have nothing : Given.Unmarked [] := List.forall_mem_nil _
  rw [readCommand] at asked
  split at asked
  · next stop _ => cases stop <;> cases asked
  · next reading read =>
    have held := readOptions_reads plain nothing _ read
    split at asked
    · cases asked
    · split at asked
      · next task complete =>
        cases asked
        refine ⟨?_, task?_unmarked held complete⟩
        intro path given
        rcases Option.or_eq_some_iff.mp given with later | ⟨-, earlier⟩
        · exact held.given.value later
        · exact unmarked.value earlier
      · cases asked

/-- The texts of what a command line asks for are texts of its arguments. -/
theorem ofArguments_unmarked {arguments : List String} {invocation : Invocation}
    (plain : ∀ argument ∈ arguments, Text.Unmarked argument)
    (asked : Request.ofArguments arguments = .run invocation) : invocation.Unmarked := by
  have nothing : Given.Unmarked [] := List.forall_mem_nil _
  rw [Request.ofArguments] at asked
  split at asked
  · next stop _ => cases stop <;> cases asked
  · next before name rest read =>
    obtain ⟨held, restPlain⟩ := readShared_reads plain nothing _ read
    split at asked
    · exact readCommand_unmarked held restPlain asked
    · split at asked
      · rw [helpRequest.eq_def] at asked
        repeat' split at asked
        all_goals cases asked
      · cases asked

end SchemaFixtures.Command
