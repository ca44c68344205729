import SchemaFixtures.Command.Arguments

/-!
# An option that is put in front

A command line that asks for a run and does not give an option is read in the same way after that
option was given. So the config file of a run can be named in front of a command line that names
none, and nothing else about what is asked for changes.
-/

namespace SchemaFixtures.Command

variable {given after : Given} {choices : List Choice} {name : String} (value : String)

/-! ## Options -/

/-- An option is taken if it was not given before and its value is accepted. -/
theorem give_eq_ok_iff {choice : Choice} {text : String} :
    give given choice text = .ok after ↔
      given.value? choice.name = none ∧ (∀ accepts ∈ choice.accepts, accepts text = true) ∧
        after = given.put choice.name text := by
  rw [give]
  cases given.value? choice.name with
  | some _ => simp
  | none =>
    cases choice.accepts with
    | none => simpa using eq_comm
    | some accepts =>
      cases accepted : accepts text with
      | false => simp [accepted]
      | true => simpa [accepted] using eq_comm

/-- An option that is not among those taken can be given before them. -/
theorem give_preceded {choice : Choice} {text : String}
    (taken : give given choice text = .ok after) (lacks : after.value? name = none) :
    given.value? name = none ∧
      give ((name, value) :: given) choice text = .ok ((name, value) :: after) := by
  obtain ⟨fresh, accepted, rfl⟩ := give_eq_ok_iff.mp taken
  have apart : choice.name ≠ name := by
    rintro rfl
    rw [Entries.value?_put_self] at lacks
    cases lacks
  refine ⟨(Entries.value?_put_other given text apart).symm.trans lacks, ?_⟩
  refine give_eq_ok_iff.mpr ⟨?_, accepted, ?_⟩
  · rw [Entries.value?, if_neg apart.symm, fresh]
  · rw [Entries.put, if_neg apart.symm]

/-- The options that were taken. -/
def Taken.options : Taken → Given
  | done given => given
  | needsValue given _ => given

/-- What was taken, after an option that was given before. -/
def Taken.preceded (name value : String) : Taken → Taken
  | done given => done ((name, value) :: given)
  | needsValue given choice => needsValue ((name, value) :: given) choice

theorem giveMap_preceded {choice : Choice} {text : String} {taken : Taken}
    (read : (give given choice text).map .done = .ok taken)
    (lacks : taken.options.value? name = none) :
    given.value? name = none ∧
      (give ((name, value) :: given) choice text).map .done = .ok (taken.preceded name value) := by
  cases gives : give given choice text with
  | error stop =>
    rw [gives] at read
    cases read
  | ok after =>
    rw [gives] at read
    cases read
    obtain ⟨before, later⟩ := give_preceded value gives lacks
    rw [later]
    exact ⟨before, rfl⟩

theorem takeLetters_preceded {top : Bool} {letters : List Char} {taken : Taken}
    (read : takeLetters choices top given letters = .ok taken)
    (lacks : taken.options.value? name = none) :
    given.value? name = none ∧
      takeLetters choices top ((name, value) :: given) letters =
        .ok (taken.preceded name value) := by
  induction letters generalizing given with
  | nil =>
    cases read
    exact ⟨lacks, rfl⟩
  | cons letter rest inductionHypothesis =>
    rw [takeLetters] at read ⊢
    split at read
    · cases read
    · next noHelp =>
      rw [if_neg noHelp]
      split at read
      · cases read
      · next noVersion =>
        rw [if_neg noVersion]
        cases known : choices.find? (·.letter == some letter) with
        | none => rw [known] at read; cases read
        | some choice =>
          rw [known] at read
          dsimp only at read ⊢
          split at read
          · next needs =>
            rw [if_pos needs]
            split at read
            · cases read
              exact ⟨lacks, rfl⟩
            · exact giveMap_preceded value read lacks
            · exact giveMap_preceded value read lacks
          · next needsNone =>
            rw [if_neg needsNone]
            cases gives : give given choice "" with
            | error stop => rw [gives] at read; cases read
            | ok after =>
              rw [gives] at read
              obtain ⟨afterLacks, further⟩ := inductionHypothesis read
              obtain ⟨before, later⟩ := give_preceded value gives afterLacks
              rw [later]
              exact ⟨before, further⟩

theorem takeLong_preceded {top : Bool} {text : List Char} {taken : Taken}
    (read : takeLong choices top given text = .ok taken)
    (lacks : taken.options.value? name = none) :
    given.value? name = none ∧
      takeLong choices top ((name, value) :: given) text = .ok (taken.preceded name value) := by
  rw [takeLong] at read ⊢
  split at read
  · cases read
  · next noHelp =>
    rw [if_neg noHelp]
    split at read
    · cases read
    · next noVersion =>
      rw [if_neg noVersion]
      split at read
      · cases read
      · split at read
        · cases read
          exact ⟨lacks, rfl⟩
        · cases read
        · exact giveMap_preceded value read lacks

/-! ## Arguments -/

/-- What an argument is read as, after an option that was given before. -/
def Argument.preceded (name value : String) : Argument → Argument
  | endOfOptions => endOfOptions
  | taken found => taken (found.preceded name value)
  | operand => operand

/-- The options that are left after an argument was read. -/
def Argument.options (given : Given) : Argument → Given
  | endOfOptions => given
  | taken found => found.options
  | operand => given

theorem readArgument_preceded {top : Bool} {argument : String} {found : Argument}
    (read : readArgument choices top given argument = .ok found)
    (lacks : (found.options given).value? name = none) :
    given.value? name = none ∧
      readArgument choices top ((name, value) :: given) argument =
        .ok (found.preceded name value) := by
  have taken {result other : Except Stop Taken}
      (read : result.map Argument.taken = .ok found)
      (follows : ∀ taken, result = .ok taken → taken.options.value? name = none →
        given.value? name = none ∧ other = .ok (taken.preceded name value)) :
      given.value? name = none ∧ other.map .taken = .ok (found.preceded name value) := by
    cases result with
    | error stop => cases read
    | ok taken =>
      cases read
      obtain ⟨before, rfl⟩ := follows taken rfl lacks
      exact ⟨before, rfl⟩
  rw [readArgument] at read ⊢
  split at read
  · cases read
    exact ⟨lacks, rfl⟩
  · exact taken read fun _ => takeLong_preceded value
  · exact taken read fun _ => takeLetters_preceded value
  · cases read
    exact ⟨lacks, rfl⟩

/-- The arguments up to the name of a command are read alike after an option that none of them
gives. -/
theorem readShared_preceded {arguments rest : List String} {command : String}
    (read : readShared given arguments = .ok (after, command, rest))
    (lacks : after.value? name = none) :
    given.value? name = none ∧
      readShared ((name, value) :: given) arguments =
        .ok ((name, value) :: after, command, rest) := by
  fun_induction readShared given arguments with
  | case1 | case2 | case3 | case6 | case7 | case9 => cases read
  | case4 given argument rest found =>
    cases read
    obtain ⟨before, later⟩ := readArgument_preceded value found lacks
    rw [readShared, later]
    exact ⟨before, rfl⟩
  | case5 given argument rest next found inductionHypothesis =>
    obtain ⟨nextLacks, further⟩ := inductionHypothesis read
    obtain ⟨before, later⟩ := readArgument_preceded value found nextLacks
    rw [readShared, later]
    exact ⟨before, further⟩
  | case8 given argument next choice found text rest noOption last gives inductionHypothesis =>
    obtain ⟨lastLacks, further⟩ := inductionHypothesis read
    obtain ⟨nextLacks, taken⟩ := give_preceded value gives lastLacks
    obtain ⟨before, later⟩ := readArgument_preceded value found nextLacks
    rw [readShared, later]
    dsimp only [Argument.preceded, Taken.preceded]
    rw [if_neg noOption, taken]
    exact ⟨before, further⟩

/-! ## Command lines -/

/-- The option for a config file, with its value in the same argument. -/
def configArgument (path : String) : String := "--config=" ++ path

theorem takeLong_config {path : String} (nonempty : path ≠ "") :
    takeLong sharedChoices true [] ("config".toList ++ '=' :: path.toList) =
      .ok (.done [("config", path)]) := by
  let choice : Choice := { name := "config", letter := some 'c', accepts := some acceptsPath }
  have gives : give [] choice path = .ok [("config", path)] := by
    refine give_eq_ok_iff.mpr ⟨rfl, ?_, rfl⟩
    rintro accepts ⟨⟩
    simpa [acceptsPath] using nonempty
  have name : String.ofList (("config".toList ++ '=' :: path.toList).takeWhile (· != '=')) =
      "config" := rfl
  have value : ((("config".toList ++ '=' :: path.toList).dropWhile (· != '=')).tail?.map
      String.ofList) = some path := congrArg some (String.ofList_toList)
  have known : sharedChoices.find? (·.name == "config") = some choice := rfl
  rw [takeLong, name, value, known, if_neg (by decide), if_neg (by decide)]
  exact congrArg (Except.map Taken.done) gives

/-- The option for a config file is read in front of all other arguments. -/
theorem readShared_config {path : String} (nonempty : path ≠ "") (arguments : List String) :
    readShared [] (configArgument path :: arguments) =
      readShared [("config", path)] arguments := by
  have characters : (configArgument path).toList =
      '-' :: '-' :: ("config".toList ++ '=' :: path.toList) := by
    rw [configArgument, String.toList_append]
    rfl
  have read : readArgument sharedChoices true [] (configArgument path) =
      .ok (.taken (.done [("config", path)])) := by
    rw [readArgument, characters]
    exact congrArg (Except.map Argument.taken) (takeLong_config nonempty)
  rw [readShared, read]

/-- A command that names no config file asks for the same run with one if it was named before. -/
theorem readCommand_config {before : Given} {verb : Verb} {arguments : List String}
    {asked : Invocation} (asks : readCommand before verb arguments = .run asked)
    (unnamed : asked.config = none) (path : String) :
    before.value? "config" = none ∧
      readCommand (("config", path) :: before) verb arguments =
        .run { asked with config := some path } := by
  have conflict : conflicts (("config", path) :: before) = conflicts before := rfl
  rw [readCommand] at asks ⊢
  rw [conflict]
  split at asks
  · next stop _ => cases stop <;> cases asks
  · split at asks
    · cases asks
    · next noConflict =>
      rw [if_neg noConflict]
      split at asks
      · cases asks
        obtain ⟨later, earlier⟩ := Option.or_eq_none_iff.mp unnamed
        refine ⟨earlier, ?_⟩
        dsimp only [invocation]
        rw [later]
        rfl
      · cases asks

/-- A command line that asks for a run and names no config file asks for the same run with one if
it is named in front. -/
theorem ofArguments_config {arguments : List String} {asked : Invocation}
    (asks : Request.ofArguments arguments = .run asked) (unnamed : asked.config = none)
    {path : String} (nonempty : path ≠ "") :
    Request.ofArguments (configArgument path :: arguments) =
      .run { asked with config := some path } := by
  rw [Request.ofArguments] at asks
  rw [Request.ofArguments, readShared_config nonempty]
  split at asks
  · next stop _ => cases stop <;> cases asks
  · next before command rest read =>
    split at asks
    · next verb isVerb =>
      obtain ⟨lacks, named⟩ := readCommand_config asks unnamed path
      obtain ⟨-, again⟩ := readShared_preceded path read lacks
      rw [again]
      dsimp only
      rw [isVerb]
      exact named
    · split at asks
      · rw [helpRequest.eq_def] at asks
        repeat' split at asks
        all_goals cases asks
      · cases asks

end SchemaFixtures.Command
