import Mathlib.Data.List.TakeDrop
import Mathlib.Data.List.TakeWhile
import SchemaFixtures.Proofs.Schema.Contents
import SchemaFixtures.Proofs.Text.Unmarked
import SchemaFixtures.Sdl.Parse

/-!
# Names in a schema text

Every name that a rule of the grammar gives comes from a name token, and a name token is a name of
the schema language. A rule asks of the tokens before it only that their names are names, and
leaves such tokens behind. What it gives has such names, or it refuses the text with a message
without an escape character. Rules are put together from rules, and so are the proofs about them.
-/

namespace SchemaFixtures.Sdl

open Text

/-- What a computation gives is good, unless it is refused with an unmarked message. -/
def Yields {α : Type} (good : α → Prop) : Except Failure α → Prop
  | .ok value => good value
  | .error failure => Unmarked failure.message

theorem Yields.bind {α β : Type} {good : α → Prop} {better : β → Prop}
    {first : Except Failure α} {next : α → Except Failure β} (begins : Yields good first)
    (goesOn : ∀ value, good value → Yields better (next value)) :
    Yields better (first >>= next) := by
  cases first with
  | ok value => exact goesOn value begins
  | error failure => exact begins

theorem Yields.refused {α : Type} {good : α → Prop} {message : String} {rest : List Char}
    (unmarked : Unmarked message) : Yields good (.error ⟨message, rest⟩) := unmarked

/-! ## Tokens -/

/-- A name in the token is a name of the schema language. -/
def Token.Named : Token → Prop
  | .name text => Config.isName text = true
  | _ => True

/-- Names in the tokens are names of the schema language. -/
def AllNamed (tokens : List Located) : Prop := ∀ located ∈ tokens, located.token.Named

theorem isName_word {c : Char} {rest : List Char} (start : isNameStart c = true) :
    Config.isName (String.ofList ((c :: rest).span isNamePart).1) = true := by
  have part : isNamePart c = true := by
    rcases Bool.or_eq_true_iff.mp start with letter | underscore
    · rw [isNamePart, Char.isAlphanum, letter, Bool.true_or, Bool.true_or]
    · rw [isNamePart, underscore, Bool.or_true]
  rw [List.span_eq_takeWhile_dropWhile, List.takeWhile_cons, if_pos part, Config.isName,
    String.toList_ofList]
  refine Bool.and_eq_true_iff.mpr ⟨?_, List.all_eq_true.mpr ?_⟩
  · rwa [Bool.or_comm]
  · intro other member
    have goesOn : isNamePart other = true := List.mem_takeWhile_imp member
    rwa [Bool.or_comm]

/-- A number holds no name. -/
theorem number?_named {text rest : List Char} {token : Token}
    (found : number? text = some (token, rest)) : token.Named := by
  obtain ⟨⟨whole, afterWhole⟩, -, found⟩ := Option.bind_eq_some_iff.mp found
  obtain ⟨⟨fraction, afterFraction⟩, -, found⟩ := Option.bind_eq_some_iff.mp found
  obtain ⟨⟨exponent, afterExponent⟩, -, found⟩ := Option.bind_eq_some_iff.mp found
  dsimp only at found
  split at found
  · cases found
  · split at found
    · cases found
      trivial
    · cases found
      trivial

/-- A text is cut into a token with a name, or it is refused with an unmarked message. -/
theorem next_named (text : List Char) : Yields (fun cut => cut.1.Named) (next text) := by
  fun_cases next text with
  | case8 c rest _ _ _ _ start => exact isName_word start
  | case9 c rest _ _ _ _ _ _ found number =>
    simp only [number]
    exact number?_named number
  | case10 c rest _ _ _ _ _ _ missing =>
    simp only [missing]
    exact .refused (by decide)
  | case1 | case4 | case6 | case7 => exact True.intro
  | case2 | case3 | case5 | case11 | case12 => exact .refused (by decide)

theorem scanWithin_named (steps : Nat) (text : List Char) :
    Yields AllNamed (scanWithin steps text) := by
  induction steps generalizing text with
  | zero => exact List.forall_mem_nil _
  | succ steps inductionHypothesis =>
    rw [scanWithin]
    split
    · exact List.forall_mem_nil _
    · refine (next_named _).bind ?_
      intro cut named
      refine (inductionHypothesis _).bind ?_
      intro others othersNamed
      exact List.forall_mem_cons.mpr ⟨named, othersNamed⟩

/-! ## Readers -/

/-- From tokens with names a reader gives something good and leaves tokens with names, unless it
refuses with an unmarked message. -/
def Gives {α : Type} (good : α → Prop) (reader : Reader α) : Prop :=
  ∀ tokens, AllNamed tokens →
    Yields (fun result => good result.1 ∧ AllNamed result.2) (reader.run tokens)

/-- A reader of whose result nothing is asked. -/
abbrev Safe {α : Type} (reader : Reader α) : Prop := Gives (fun _ => True) reader

namespace Gives

variable {α β : Type} {good : α → Prop} {better : β → Prop}

theorem pure {value : α} (holds : good value) : Gives good (pure value : Reader α) :=
  fun _ named => ⟨holds, named⟩

theorem bind {first : Reader α} {next : α → Reader β} (begins : Gives good first)
    (goesOn : ∀ value, good value → Gives better (next value)) : Gives better (first >>= next) := by
  intro tokens named
  refine (begins tokens named).bind ?_
  rintro ⟨value, rest⟩ ⟨holds, restNamed⟩
  exact goesOn value holds rest restNamed

theorem weaken {reader : Reader α} {other : α → Prop} (gives : Gives good reader)
    (implies : ∀ value, good value → other value) : Gives other reader := by
  intro tokens named
  have result := gives tokens named
  cases read : reader.run tokens with
  | ok outcome =>
    rw [read] at result
    exact ⟨implies _ result.1, result.2⟩
  | error failure =>
    rw [read] at result
    exact result

theorem safe {reader : Reader α} (gives : Gives good reader) : Safe reader :=
  gives.weaken fun _ _ => True.intro

theorem refuse {message : String} (unmarked : Unmarked message) :
    Gives good (Reader.refuse message : Reader α) := fun _ _ => unmarked

/-- Nothing follows a refusal. -/
theorem refuse_bind {message : String} {next : α → Reader β} (unmarked : Unmarked message) :
    Gives better (Reader.refuse message >>= next) := fun _ _ => unmarked

theorem ite {condition : Prop} [Decidable condition] {first second : Reader α}
    (holds : condition → Gives good first) (fails : ¬condition → Gives good second) :
    Gives good (if condition then first else second) := by
  split
  · exact holds ‹_›
  · exact fails ‹_›

theorem peek : Gives (fun token? => ∀ token ∈ token?, token.Named) Reader.peek := by
  intro tokens named
  refine ⟨?_, named⟩
  intro token found
  obtain ⟨located, first, rfl⟩ := Option.map_eq_some_iff.mp found
  exact named located (List.mem_of_mem_head? first)

theorem peekAdjoined : Gives (fun token? => ∀ token ∈ token?, token.Named) Reader.peekAdjoined := by
  intro tokens named
  refine ⟨?_, named⟩
  intro token found
  obtain ⟨located, first, rfl⟩ := Option.map_eq_some_iff.mp found
  exact named located (List.mem_of_mem_head? (Option.filter_eq_some_iff.mp first).1)

theorem advance : Safe Reader.advance := by
  intro tokens named
  exact ⟨True.intro, fun located member => named located (List.mem_of_mem_drop member)⟩

theorem accept (mark : Char) : Safe (Reader.accept mark) := by
  refine peek.bind fun _ _ => ite (fun _ => ?_) (fun _ => pure True.intro)
  exact advance.bind fun _ _ => pure True.intro

theorem acceptWord (word : String) : Safe (Reader.acceptWord word) := by
  refine peek.bind fun _ _ => ite (fun _ => ?_) (fun _ => pure True.intro)
  exact advance.bind fun _ _ => pure True.intro

theorem expect {mark : Char} (unmarked : mark ≠ Command.escapeMark) :
    Safe (Reader.expect mark) := by
  refine (accept mark).bind fun _ _ => ite (fun _ => pure True.intro) (fun _ => refuse ?_)
  exact (unmarked_append _ _).mpr ⟨by decide, by simpa [Unmarked] using unmarked.symm⟩

theorem name : Gives (fun text => Config.isName text = true) Reader.name := by
  refine peek.bind fun token? named => ?_
  split
  · exact advance.bind fun _ _ => pure (named _ rfl)
  · exact refuse (by decide)

theorem manyWithin {starts : Token → Bool} {item : Reader α} (one : Gives good item) (turns : Nat) :
    Gives (fun items => ∀ item ∈ items, good item) (Reader.manyWithin starts item turns) := by
  have nothing : Gives (fun items => ∀ item ∈ items, good item) (Pure.pure [] : Reader (List α)) :=
    pure (List.forall_mem_nil _)
  induction turns with
  | zero => exact nothing
  | succ turns inductionHypothesis =>
    refine peek.bind fun token? _ => ?_
    split
    · refine ite (fun _ => ?_) (fun _ => nothing)
      refine one.bind fun first holds => inductionHypothesis.bind fun others othersHold => ?_
      exact pure (List.forall_mem_cons.mpr ⟨holds, othersHold⟩)
    · exact nothing

theorem many {starts : Token → Bool} {item : Reader α} (one : Gives good item) :
    Gives (fun items => ∀ item ∈ items, good item) (Reader.many starts item) :=
  fun tokens => manyWithin one tokens.length tokens

theorem many_safe {starts : Token → Bool} {item : Reader α} (one : Safe item) :
    Safe (Reader.many starts item) := (many one).safe

theorem many1 {starts : Token → Bool} {item : Reader α} (one : Gives good item) :
    Gives (fun items => ∀ item ∈ items, good item) (Reader.many1 starts item) := by
  refine one.bind fun first holds => (many one).bind fun others othersHold => ?_
  exact pure (List.forall_mem_cons.mpr ⟨holds, othersHold⟩)

theorem enclosed {opening closing : Char} {starts : Token → Bool} {item : Reader α}
    (opens : opening ≠ Command.escapeMark) (closes : closing ≠ Command.escapeMark)
    (one : Gives good item) :
    Gives (fun items => ∀ item ∈ items, good item)
      (Reader.enclosed opening closing starts item) := by
  refine (expect opens).bind fun _ _ => (many1 one).bind fun items hold => ?_
  exact (expect closes).bind fun _ _ => pure hold

theorem enclosed_safe {opening closing : Char} {starts : Token → Bool} {item : Reader α}
    (opens : opening ≠ Command.escapeMark) (closes : closing ≠ Command.escapeMark)
    (one : Safe item) : Safe (Reader.enclosed opening closing starts item) :=
  (enclosed opens closes one).safe

theorem separated {mark : Char} {item : Reader α} (one : Gives good item) :
    Gives (fun items => ∀ item ∈ items, good item) (Reader.separated mark item) := by
  refine (accept mark).bind fun _ _ => one.bind fun first holds => ?_
  refine (many (advance.bind fun _ _ => one)).bind fun others othersHold => ?_
  exact pure (List.forall_mem_cons.mpr ⟨holds, othersHold⟩)

end Gives

open Gives

/-! ## Types and values -/

theorem description_safe : Safe description := by
  refine peek.bind fun token? _ => ?_
  split
  · exact advance.bind fun _ _ => .pure True.intro
  · exact .pure True.intro

theorem writtenType_safe (nesting : Nat) : Safe (writtenType nesting) := by
  induction nesting with
  | zero => exact name.bind fun _ _ => (accept _).bind fun _ _ => .pure True.intro
  | succ nesting inductionHypothesis =>
    refine (accept _).bind fun _ _ => .ite (fun _ => ?_) (fun _ => ?_)
    · refine inductionHypothesis.bind fun _ _ => (expect (by decide)).bind fun _ _ => ?_
      exact (accept _).bind fun _ _ => .pure True.intro
    · exact name.bind fun _ _ => (accept _).bind fun _ _ => .pure True.intro

theorem namedValue_safe {value : Reader Unit} (safe : Safe value) : Safe (namedValue value) := by
  refine name.bind fun _ _ => (accept _).bind fun _ _ => ?_
  exact .ite (fun _ => safe) (fun _ => .pure True.intro)

theorem valueAround_safe (constant : Bool) {inner : Reader Unit} (safe : Safe inner) :
    Safe (valueAround constant inner) := by
  refine peek.bind fun token? _ => ?_
  split
  · refine .ite (fun _ => .refuse (by decide)) (fun _ => ?_)
    exact advance.bind fun _ _ => name.bind fun _ _ => .pure True.intro
  · exact advance.bind fun _ _ => (many safe).bind fun _ _ => expect (by decide)
  · refine advance.bind fun _ _ => (many (namedValue_safe safe)).bind fun _ _ => ?_
    exact expect (by decide)
  · exact advance
  · exact advance
  · exact advance
  · exact advance
  · exact .refuse (by decide)

theorem value_safe (constant : Bool) (nesting : Nat) : Safe (value constant nesting) := by
  induction nesting with
  | zero => exact valueAround_safe constant (.refuse (by decide))
  | succ nesting inductionHypothesis => exact valueAround_safe constant inductionHypothesis

theorem arguments_safe (constant : Bool) (nesting : Nat) : Safe (arguments constant nesting) := by
  refine peek.bind fun _ _ => .ite (fun _ => ?_) (fun _ => .pure True.intro)
  refine (enclosed (by decide) (by decide) (namedValue_safe (value_safe _ _))).bind fun _ _ => ?_
  exact .pure True.intro

theorem directives_safe (constant : Bool) (nesting : Nat) : Safe (directives constant nesting) := by
  refine (many_safe ?_).bind fun _ _ => .pure True.intro
  exact advance.bind fun _ _ => name.bind fun _ _ => arguments_safe constant nesting

theorem defaultValue_safe : Safe defaultValue :=
  (accept _).bind fun _ _ => .ite (fun _ => value_safe _ _) (fun _ => .pure True.intro)

/-! ## Parts of definitions -/

/-- The name of the field is a name. -/
def WrittenField.Named (field : WrittenField) : Prop := Config.isName field.name = true

theorem inputField_named : Gives WrittenField.Named inputField := by
  refine description_safe.bind fun _ _ => name.bind fun _ isName => ?_
  refine (expect (by decide)).bind fun _ _ => (writtenType_safe _).bind fun _ _ => ?_
  exact defaultValue_safe.bind fun _ _ => (directives_safe _ _).bind fun _ _ => .pure isName

theorem argumentDefinitions_safe : Safe argumentDefinitions := by
  refine peek.bind fun _ _ => .ite (fun _ => ?_) (fun _ => .pure True.intro)
  exact (enclosed (by decide) (by decide) inputField_named).bind fun _ _ => .pure True.intro

theorem outputField_named : Gives WrittenField.Named outputField := by
  refine description_safe.bind fun _ _ => name.bind fun _ isName => ?_
  refine argumentDefinitions_safe.bind fun _ _ => (expect (by decide)).bind fun _ _ => ?_
  exact (writtenType_safe _).bind fun _ _ => (directives_safe _ _).bind fun _ _ => .pure isName

theorem enumValue_named : Gives (fun value => Config.isName value = true) enumValue := by
  refine description_safe.bind fun _ _ => name.bind fun _ isName => ?_
  dsimp only
  refine .ite (fun _ => ?_) (fun _ => ?_)
  · exact .refuse_bind (by decide)
  · exact (directives_safe _ _).bind fun _ _ => .pure isName

theorem implemented_safe : Safe implemented := by
  refine (acceptWord _).bind fun _ _ => .ite (fun _ => ?_) (fun _ => .pure True.intro)
  exact (separated name).bind fun _ _ => .pure True.intro

theorem body_gives {α : Type} {good : α → Prop} {item : Reader α} (one : Gives good item) :
    Gives (fun items? => ∀ item ∈ items?.getD [], good item) (body item) := by
  refine peek.bind fun _ _ => .ite (fun _ => ?_) (fun _ => ?_)
  · exact (enclosed (by decide) (by decide) one).bind fun _ hold => .pure hold
  · exact .pure (List.forall_mem_nil _)

theorem unionMembers_safe : Safe unionMembers := by
  refine (accept _).bind fun _ _ => .ite (fun _ => ?_) (fun _ => .pure True.intro)
  exact (separated name).bind fun _ _ => .pure True.intro

theorem directivePlace_safe : Safe directivePlace := by
  refine name.bind fun _ _ => .ite (fun _ => .pure True.intro) (fun _ => .refuse (by decide))

theorem rootOperation_safe : Safe rootOperation := by
  refine name.bind fun _ _ => .ite (fun _ => ?_) (fun _ => .refuse_bind (by decide))
  refine (expect (by decide)).bind fun _ _ => peek.bind fun _ _ => ?_
  exact .ite (fun _ => name.bind fun _ _ => .pure True.intro) (fun _ => .pure True.intro)

theorem rootOperations_safe : Safe rootOperations := by
  refine peek.bind fun _ _ => .ite (fun _ => ?_) (fun _ => .pure True.intro)
  exact (enclosed (by decide) (by decide) rootOperation_safe).bind fun _ _ => .pure True.intro

theorem addedRootOperations_safe : Safe addedRootOperations := by
  refine (accept _).bind fun _ _ => .ite (fun _ => ?_) (fun _ => .pure True.intro)
  refine (many rootOperation_safe).bind fun _ _ => (expect (by decide)).bind fun _ _ => ?_
  exact .pure True.intro

/-! ## Operations and fragments -/

theorem typeCondition_safe : Safe typeCondition := name.bind fun _ _ => .pure True.intro

theorem selections_safe (nesting : Nat) : Safe (selections nesting) := by
  induction nesting with
  | zero => exact .refuse (by decide)
  | succ nesting inductionHypothesis =>
    rw [selections]
    dsimp only
    refine (enclosed_safe (by decide) (by decide) ?_).bind fun _ _ => .pure True.intro
    refine peek.bind fun _ _ => .ite (fun _ => ?_) (fun _ => ?_)
    · refine advance.bind fun _ _ => peekAdjoined.bind fun _ _ => ?_
      split
      · refine advance.bind fun _ _ => typeCondition_safe.bind fun _ _ => ?_
        exact (directives_safe _ _).bind fun _ _ => inductionHypothesis
      · exact advance.bind fun _ _ => (directives_safe _ _).bind fun _ _ => .pure True.intro
      · exact (directives_safe _ _).bind fun _ _ => inductionHypothesis
      · exact .refuse (by decide)
    · have rest : Safe (do
          arguments false nesting
          let _ ← directives false nesting
          if (← Reader.peek) == some (.punctuator '\x7b') then selections nesting) := by
        refine (arguments_safe _ _).bind fun _ _ => (directives_safe _ _).bind fun _ _ => ?_
        exact peek.bind fun _ _ => .ite (fun _ => inductionHypothesis) (fun _ => .pure True.intro)
      refine name.bind fun _ _ => peekAdjoined.bind fun _ _ => .ite (fun _ => ?_) (fun _ => rest)
      exact advance.bind fun _ _ => name.bind fun _ _ => rest

theorem variableDefinitions_safe : Safe variableDefinitions := by
  refine peek.bind fun _ _ => .ite (fun _ => ?_) (fun _ => .pure True.intro)
  refine (enclosed_safe (by decide) (by decide) ?_).bind fun _ _ => .pure True.intro
  refine (expect (by decide)).bind fun _ _ => name.bind fun _ _ => ?_
  refine (expect (by decide)).bind fun _ _ => (writtenType_safe _).bind fun _ _ => ?_
  exact defaultValue_safe.bind fun _ _ => (directives_safe _ _).bind fun _ _ => .pure True.intro

theorem operation_safe : Safe operation := by
  have rest : Safe (do
      variableDefinitions
      let _ ← directives false nestingLimit
      selections nestingLimit) :=
    variableDefinitions_safe.bind fun _ _ =>
      (directives_safe _ _).bind fun _ _ => selections_safe _
  refine peek.bind fun _ _ => .ite (fun _ => ?_) (fun _ => rest)
  exact name.bind fun _ _ => rest

theorem fragmentBody_safe : Safe fragmentBody := by
  refine (acceptWord _).bind fun _ _ => .ite (fun _ => ?_) (fun _ => .refuse_bind (by decide))
  refine typeCondition_safe.bind fun _ _ => (directives_safe _ _).bind fun _ _ => ?_
  exact selections_safe _

theorem fragment_safe : Safe fragment :=
  name.bind fun _ _ => .ite (fun _ => .refuse_bind (by decide)) (fun _ => fragmentBody_safe)

/-! ## Definitions -/

/-- The definition of a schema, its fields and its values have names of the schema language. -/
def NamedParts (definition : Schema.Definition) : Prop :=
  Config.isName definition.name = true ∧
    (∀ field ∈ definition.fields, Config.isName field.name = true) ∧
    ∀ value ∈ definition.enumValues, Config.isName value = true

/-- What the definition declares has names of the schema language. -/
def Definition.Named (definition : Definition) : Prop :=
  ∀ lowered ∈ definition.lower?, NamedParts lowered

theorem requireAddition_safe (added : Bool) : Safe (requireAddition added) :=
  .ite (fun _ => .pure True.intro) (fun _ => .refuse (by decide))

theorem definitionWord_safe : Safe definitionWord := by
  refine peekAdjoined.bind fun _ _ => ?_
  split
  · exact advance.bind fun _ _ => .pure True.intro
  · exact .refuse (by decide)

/-- A definition of a name with nothing in it. -/
theorem namedParts_of_name {name : String} (isName : Config.isName name = true) {kind : Schema.Kind}
    {members : List String} {description : Option String} {isExtension : Bool} :
    NamedParts ⟨name, kind, [], [], members, description, isExtension⟩ :=
  ⟨isName, List.forall_mem_nil _, List.forall_mem_nil _⟩

theorem namedParts_of_fields {name : String} (isName : Config.isName name = true)
    {fields : List WrittenField} (named : ∀ field ∈ fields, field.Named) {kind : Schema.Kind}
    {description : Option String} {isExtension : Bool} :
    NamedParts ⟨name, kind, fields.map (·.lower), [], [], description, isExtension⟩ := by
  refine ⟨isName, ?_, List.forall_mem_nil _⟩
  intro field member
  obtain ⟨written, listed, rfl⟩ := List.mem_map.mp member
  exact named written listed

theorem Definition.Named.of_lower {definition : Definition} {lowered : Schema.Definition}
    (lowers : definition.lower? = some lowered) (named : NamedParts lowered) :
    definition.Named := by
  intro other found
  rw [lowers] at found
  cases found
  exact named

theorem extension_named : Gives Definition.Named extension := by
  refine definitionWord_safe.bind fun _ _ => ?_
  split
  · refine (directives_safe _ _).bind fun _ _ => addedRootOperations_safe.bind fun _ _ => ?_
    exact (requireAddition_safe _).bind fun _ _ => .pure fun _ none => nomatch none
  · refine name.bind fun _ isName => (directives_safe _ _).bind fun _ _ => ?_
    exact (requireAddition_safe _).bind fun _ _ => .pure (.of_lower rfl (namedParts_of_name isName))
  · refine name.bind fun _ isName => implemented_safe.bind fun _ _ => ?_
    refine (directives_safe _ _).bind fun _ _ => ?_
    refine (body_gives outputField_named).bind fun _ named => ?_
    refine (requireAddition_safe _).bind fun _ _ => ?_
    exact .pure (.of_lower rfl (namedParts_of_fields isName named))
  · refine name.bind fun _ isName => implemented_safe.bind fun _ _ => ?_
    refine (directives_safe _ _).bind fun _ _ => ?_
    refine (body_gives outputField_named).bind fun _ named => ?_
    refine (requireAddition_safe _).bind fun _ _ => ?_
    exact .pure (.of_lower rfl (namedParts_of_fields isName named))
  · refine name.bind fun _ isName => (directives_safe _ _).bind fun _ _ => ?_
    refine unionMembers_safe.bind fun _ _ => (requireAddition_safe _).bind fun _ _ => ?_
    exact .pure (.of_lower rfl (namedParts_of_name isName))
  · refine name.bind fun _ isName => (directives_safe _ _).bind fun _ _ => ?_
    refine (body_gives enumValue_named).bind fun _ named => ?_
    refine (requireAddition_safe _).bind fun _ _ => ?_
    exact .pure (.of_lower rfl ⟨isName, List.forall_mem_nil _, named⟩)
  · refine name.bind fun _ isName => (directives_safe _ _).bind fun _ _ => ?_
    refine (body_gives inputField_named).bind fun _ named => ?_
    refine (requireAddition_safe _).bind fun _ _ => ?_
    exact .pure (.of_lower rfl (namedParts_of_fields isName named))
  · exact .refuse (by decide)

theorem describedDefinition_named (description : Option String) (word : String) :
    Gives Definition.Named (describedDefinition description word) := by
  fun_cases describedDefinition description word
  · refine (directives_safe _ _).bind fun _ _ => rootOperations_safe.bind fun _ _ => ?_
    exact .pure fun _ none => nomatch none
  · refine name.bind fun _ isName => (directives_safe _ _).bind fun _ _ => ?_
    exact .pure (.of_lower rfl (namedParts_of_name isName))
  · refine name.bind fun _ isName => implemented_safe.bind fun _ _ => ?_
    refine (directives_safe _ _).bind fun _ _ => ?_
    refine (body_gives outputField_named).bind fun _ named => ?_
    exact .pure (.of_lower rfl (namedParts_of_fields isName named))
  · refine name.bind fun _ isName => implemented_safe.bind fun _ _ => ?_
    refine (directives_safe _ _).bind fun _ _ => ?_
    refine (body_gives outputField_named).bind fun _ named => ?_
    exact .pure (.of_lower rfl (namedParts_of_fields isName named))
  · refine name.bind fun _ isName => (directives_safe _ _).bind fun _ _ => ?_
    exact unionMembers_safe.bind fun _ _ => .pure (.of_lower rfl (namedParts_of_name isName))
  · refine name.bind fun _ isName => (directives_safe _ _).bind fun _ _ => ?_
    refine (body_gives enumValue_named).bind fun _ named => ?_
    exact .pure (.of_lower rfl ⟨isName, List.forall_mem_nil _, named⟩)
  · refine name.bind fun _ isName => (directives_safe _ _).bind fun _ _ => ?_
    refine (body_gives inputField_named).bind fun _ named => ?_
    exact .pure (.of_lower rfl (namedParts_of_fields isName named))
  · refine (expect (by decide)).bind fun _ _ => name.bind fun _ isName => ?_
    refine argumentDefinitions_safe.bind fun _ _ => (acceptWord _).bind fun _ _ => ?_
    refine (acceptWord _).bind fun _ _ => .ite (fun _ => ?_) (fun _ => .refuse_bind (by decide))
    refine (separated directivePlace_safe).bind fun _ _ => ?_
    exact .pure (.of_lower rfl (namedParts_of_name isName))
  · exact .refuse (by decide)

theorem definition_named : Gives Definition.Named definition := by
  refine peek.bind fun token? _ => ?_
  split
  · refine advance.bind fun _ _ => definitionWord_safe.bind fun word _ => ?_
    refine .ite (fun _ => ?_) (fun _ => ?_)
    · exact fragmentBody_safe.bind fun _ _ => .pure fun _ none => nomatch none
    · exact describedDefinition_named _ _
  · exact advance.bind fun _ _ => extension_named
  · exact advance.bind fun _ _ => fragment_safe.bind fun _ _ => .pure fun _ none => nomatch none
  · refine advance.bind fun _ _ => .ite (fun _ => ?_) (fun _ => ?_)
    · exact operation_safe.bind fun _ _ => .pure fun _ none => nomatch none
    · exact describedDefinition_named _ _
  · exact (selections_safe _).bind fun _ _ => .pure fun _ none => nomatch none
  · exact .refuse (by decide)

/-- The definitions of a text have names of the schema language, or the text is refused with an
unmarked message. -/
theorem definitions_named (text : List Char) :
    Yields (fun found => ∀ definition ∈ found, definition.Named) (definitions text) := by
  refine (scanWithin_named _ text).bind fun tokens named => ?_
  refine (many1 definition_named tokens named).bind ?_
  rintro ⟨found, rest⟩ ⟨holds, -⟩
  exact holds

/-! ## Documents -/

theorem namedParts_grows : Schema.Grows NamedParts := by
  rintro base extension ⟨isName, fields, values⟩ ⟨-, moreFields, moreValues⟩
  exact ⟨isName, List.forall_mem_append.mpr ⟨fields, moreFields⟩,
    List.forall_mem_append.mpr ⟨values, moreValues⟩⟩

/-- The document of a text has names of the schema language. -/
theorem parseSchema_named {source path : String} {document : Schema.Document}
    (parsed : parseSchema source path = .ok document) :
    ∀ definition ∈ document.definitions, NamedParts definition := by
  obtain ⟨written, found, rfl⟩ := parseSchema_eq_ok_iff.mp parsed
  have read := definitions_named source.toList
  rw [found] at read
  refine Schema.ofDefinitions_each namedParts_grows ?_
  intro definition member
  obtain ⟨original, listed, lowers⟩ := List.mem_filterMap.mp member
  exact read original listed definition lowers

/-- A text is refused at its path, and nothing that is said about it is marked. -/
theorem parseSchema_error {source path : String} {error : SchemaError}
    (refused : parseSchema source path = .error error) :
    error.path = path ∧ ∀ found ∈ error.errors, Unmarked found.text := by
  have read := definitions_named source.toList
  rw [parseSchema, parse] at refused
  cases found : definitions source.toList with
  | error failure =>
    rw [found] at refused read
    cases refused
    refine ⟨rfl, List.forall_mem_singleton.mpr ?_⟩
    have message : Unmarked failure.message := read
    show Unmarked (failure.message ++ " (at byte " ++ toString _ ++ ")")
    simp only [unmarked_append, unmarked_natText, message, true_and]
    decide
  | ok written =>
    rw [found] at refused
    cases refused

end SchemaFixtures.Sdl
