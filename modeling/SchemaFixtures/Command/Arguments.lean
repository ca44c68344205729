import SchemaFixtures.Command.Invocation
import SchemaFixtures.Entries
import SchemaFixtures.Text.CodePoint

/-!
# Command lines

Arguments are read from left to right. An option has a long name and perhaps a letter; its
value stands behind an equals sign, behind the letter, or in the next argument, which must
not look like an option. Letters may stand together. Two hyphens end the options. Shared
options stand before or after the name of the command, each once on either side; on both
sides the later value counts. The first argument that is refused, or asks for help or the
version, decides.
-/

namespace SchemaFixtures.Command

/-- An option: its names, and which values it takes if it takes one. -/
structure Choice where
  name : String
  letter : Option Char := none
  accepts : Option (String → Bool) := none

/-- Whether a path can be a value. -/
def acceptsPath (value : String) : Bool := !value.isEmpty

/-- The options that all commands share. -/
def sharedChoices : List Choice :=
  [{ name := "config", letter := some 'c', accepts := some acceptsPath },
    { name := "color" },
    { name := "no-color" },
    { name := "quiet", letter := some 'q' }]

/-- The option for the schema file. -/
def schemaChoice : Choice := { name := "schema", letter := some 's', accepts := some acceptsPath }

/-- The number that a depth is: digits, perhaps after a plus, within a 64-bit word. -/
def depth? (value : String) : Option Nat :=
  let digits := match value.toList with
    | '+' :: rest => rest
    | text => text
  if digits.isEmpty || !digits.all (·.isDigit) then none
  else
    let number := Text.decimalNumber digits
    if number < UInt64.size then some number else none

/-- The format with a name. -/
def format? (value : String) : Option ListFormat :=
  if value = "human" then some .human else if value = "json" then some .json else none

namespace Verb

/-- The command with a name. -/
def ofName? (name : String) : Option Verb :=
  if name = "generate" then some .generate
  else if name = "show" then some .display
  else if name = "list" then some .list
  else none

/-- The options of the command beside the shared ones. -/
def choices : Verb → List Choice
  | generate =>
    [schemaChoice, { name := "output", letter := some 'o', accepts := some acceptsPath },
      { name := "immer" }, { name := "type-definition-module", accepts := some fun _ => true }]
  | display =>
    [schemaChoice,
      { name := "depth", letter := some 'd', accepts := some fun value => (depth? value).isSome }]
  | list =>
    [schemaChoice,
      { name := "format", letter := some 'f', accepts := some fun value => (format? value).isSome }]

/-- The number of arguments of the command that are no options. -/
def operandCount : Verb → Nat
  | display => 1
  | _ => 0

end Verb

/-- Why reading stops before the end. -/
inductive Stop where
  | help (atLength : Bool)
  | version
  | refused
deriving DecidableEq, Repr

/-- Options with their values; a flag has an empty one. -/
abbrev Given := Entries String

/-- Takes an option with its value; a second time is refused. -/
def give (given : Given) (choice : Choice) (value : String) : Except Stop Given :=
  if (given.value? choice.name).isSome then .error .refused
  else
    match choice.accepts with
    | some accepts => if accepts value then .ok (given.put choice.name value) else .error .refused
    | none => .ok (given.put choice.name value)

/-- Whether an argument looks like an option and so is no value. -/
def looksLikeOption (argument : String) : Bool :=
  match argument.toList with
  | '-' :: _ :: _ => true
  | _ => false

/-- An option that is taken, or one that still needs the next argument as its value. -/
inductive Taken where
  | done (given : Given)
  | needsValue (given : Given) (choice : Choice)

/-- Takes the letters of one argument. -/
def takeLetters (choices : List Choice) (top : Bool) : Given → List Char → Except Stop Taken
  | given, [] => .ok (.done given)
  | given, letter :: rest =>
    if letter = 'h' then .error (.help false)
    else if letter = 'V' ∧ top = true then .error .version
    else
      match choices.find? (·.letter == some letter) with
      | none => .error .refused
      | some choice =>
        if choice.accepts.isSome then
          match rest with
          | [] => .ok (.needsValue given choice)
          | '=' :: value => (give given choice (String.ofList value)).map .done
          | value => (give given choice (String.ofList value)).map .done
        else
          match give given choice "" with
          | .ok given => takeLetters choices top given rest
          | .error stop => .error stop

/-- Takes an option by its long name, perhaps with a value behind an equals sign. -/
def takeLong (choices : List Choice) (top : Bool) (given : Given) (text : List Char) :
    Except Stop Taken :=
  let name := String.ofList (text.takeWhile (· != '='))
  let value := (text.dropWhile (· != '=')).tail?.map String.ofList
  if name = "help" then .error (if value.isNone then .help true else .refused)
  else if name = "version" ∧ top = true then .error (if value.isNone then .version else .refused)
  else
    match choices.find? (·.name == name) with
    | none => .error .refused
    | some choice =>
      match choice.accepts, value with
      | some _, none => .ok (.needsValue given choice)
      | none, some _ => .error .refused
      | _, _ => (give given choice (value.getD "")).map .done

/-- What one argument is. -/
inductive Argument where
  | endOfOptions
  | taken (taken : Taken)
  | operand

/-- Reads one argument. -/
def readArgument (choices : List Choice) (top : Bool) (given : Given) (argument : String) :
    Except Stop Argument :=
  match argument.toList with
  | ['-', '-'] => .ok .endOfOptions
  | '-' :: '-' :: text => (takeLong choices top given text).map .taken
  | '-' :: letter :: text => (takeLetters choices top given (letter :: text)).map .taken
  | _ => .ok .operand

/-- The arguments of a command: its options, and the arguments that are none. -/
structure Reading where
  given : Given
  operands : List String

/-- Reads the arguments after the name of a command that takes so many operands. -/
def readOptions (choices : List Choice) :
    (given : Given) → (room : Nat) → List String → Except Stop Reading
  | given, _, [] => .ok ⟨given, []⟩
  | given, room, argument :: rest =>
    match readArgument choices false given argument with
    | .error stop => .error stop
    | .ok .endOfOptions => if rest.length ≤ room then .ok ⟨given, rest⟩ else .error .refused
    | .ok .operand =>
      match room with
      | 0 => .error .refused
      | room + 1 =>
        (readOptions choices given room rest).map fun reading =>
          { reading with operands := argument :: reading.operands }
    | .ok (.taken (.done given)) => readOptions choices given room rest
    | .ok (.taken (.needsValue given choice)) =>
      match rest with
      | [] => .error .refused
      | value :: rest =>
        if looksLikeOption value then .error .refused
        else
          match give given choice value with
          | .ok given => readOptions choices given room rest
          | .error stop => .error stop

/-- The arguments up to the name of the command: the shared options, the name, and the
arguments after it. -/
def readShared : (given : Given) → List String → Except Stop (Given × String × List String)
  | _, [] => .error .refused
  | given, argument :: rest =>
    match readArgument sharedChoices true given argument with
    | .error stop => .error stop
    | .ok .endOfOptions => .error .refused
    | .ok .operand => .ok (given, argument, rest)
    | .ok (.taken (.done given)) => readShared given rest
    | .ok (.taken (.needsValue given choice)) =>
      match rest with
      | [] => .error .refused
      | value :: rest =>
        if looksLikeOption value then .error .refused
        else
          match give given choice value with
          | .ok given => readShared given rest
          | .error stop => .error stop

/-- Whether both directions of colour are asked for. -/
def conflicts (given : Given) : Bool :=
  (given.value? "color").isSome && (given.value? "no-color").isSome

/-- The task of a command, if nothing that it needs is missing. -/
def task? (verb : Verb) (reading : Reading) : Option Task := do
  let given := reading.given
  let schema ← given.value? "schema"
  match verb with
  | .generate =>
    return .generate schema (given.value? "output") (given.value? "immer").isSome
      (given.value? "type-definition-module")
  | .display =>
    let type ← reading.operands.head?
    return .display schema type (((given.value? "depth").bind depth?).getD 1)
  | .list => return .list schema (((given.value? "format").bind format?).getD .human)

/-- The invocation with options before and after the name of the command. -/
def invocation (before after : Given) (task : Task) : Invocation :=
  let isGiven (name : String) : Bool :=
    (before.value? name).isSome || (after.value? name).isSome
  { config := (after.value? "config").or (before.value? "config")
    color := isGiven "color"
    noColor := isGiven "no-color"
    quiet := isGiven "quiet"
    task }

/-- What the arguments after the command for help ask about: the program, or the command
that they name. -/
def helpRequest (arguments : List String) : Request :=
  match arguments with
  | [] => .help ⟨none, true⟩
  | [name] =>
    match Verb.ofName? name with
    | some verb => .help ⟨some verb, true⟩
    | none => if name = "help" then .help ⟨none, true⟩ else .refused
  | _ => .refused

/-- What is asked for where reading stops. -/
def Stop.request (verb : Option Verb) : Stop → Request
  | help atLength => .help ⟨verb, atLength⟩
  | version => .version
  | refused => .refused

/-- What the arguments after the name of a command ask for. -/
def readCommand (before : Given) (verb : Verb) (arguments : List String) : Request :=
  match readOptions (sharedChoices ++ verb.choices) [] verb.operandCount arguments with
  | .error stop => stop.request (some verb)
  | .ok reading =>
    if conflicts before || conflicts reading.given then .refused
    else
      match task? verb reading with
      | some task => .run (invocation before reading.given task)
      | none => .refused

/-- What a command line asks for. -/
def Request.ofArguments (arguments : List String) : Request :=
  match readShared [] arguments with
  | .error stop => stop.request none
  | .ok (before, name, rest) =>
    match Verb.ofName? name with
    | some verb => readCommand before verb rest
    | none => if name = "help" then helpRequest rest else .refused

end SchemaFixtures.Command
