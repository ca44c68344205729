import SchemaFixtures.Sdl.Definition
import SchemaFixtures.Sdl.Token

/-!
# The grammar of schema texts

A reader takes tokens from the front of a list or refuses them. The rules below follow
the grammar of documents with type-system definitions, type-system extensions,
operations and fragments. A definition may end before its body, but a body in braces is
never empty; an extension has to add something. Values, directives and selections are
recognised and dropped, and an argument or a field of an object may go without its value.

List types, and selections together with the values inside them, nest at most
`nestingLimit` deep. Repetitions take at least one token per turn, so the number of tokens
left bounds them.
-/

namespace SchemaFixtures.Sdl

/-- A step of reading: it takes tokens from the front or refuses the text. -/
abbrev Reader := StateT (List Located) (Except Failure)

/-- How deep types, values and selections may nest. -/
def nestingLimit : Nat := 500

namespace Reader

/-- Refuses the text at the next token. -/
def refuse {α : Type} (message : String) : Reader α := fun tokens =>
  .error ⟨message, (tokens.head?.map (·.suffix)).getD []⟩

/-- The next token. -/
def peek : Reader (Option Token) := return (← get).head?.map (·.token)

/-- The next token, unless a comma stands before it. -/
def peekAdjoined : Reader (Option Token) :=
  return ((← get).head?.filter (!·.afterComma)).map (·.token)

/-- Passes over the next token. -/
def advance : Reader Unit := modify (·.drop 1)

/-- Takes a mark if it is next, and tells whether it was. -/
def accept (mark : Char) : Reader Bool := do
  if (← peek) == some (.punctuator mark) then
    advance
    return true
  else return false

/-- Takes a mark that has to be next. -/
def expect (mark : Char) : Reader Unit := do
  unless ← accept mark do refuse ("expected " ++ String.singleton mark)

/-- Takes a word if it is next, and tells whether it was. -/
def acceptWord (word : String) : Reader Bool := do
  if (← peek) == some (.name word) then
    advance
    return true
  else return false

/-- Takes a name. -/
def name : Reader String := do
  match ← peek with
  | some (.name text) =>
    advance
    return text
  | _ => refuse "expected a name"

/-- Takes items as long as the next token may start one. -/
def manyWithin {α : Type} (starts : Token → Bool) (item : Reader α) : Nat → Reader (List α)
  | 0 => return []
  | turns + 1 => do
    match ← peek with
    | some token =>
      if starts token then
        let first ← item
        return first :: (← manyWithin starts item turns)
      else return []
    | none => return []

/-- Takes items as long as the next token may start one. -/
def many {α : Type} (starts : Token → Bool) (item : Reader α) : Reader (List α) := do
  manyWithin starts item (← get).length

/-- Takes at least one item. -/
def many1 {α : Type} (starts : Token → Bool) (item : Reader α) : Reader (List α) := do
  return (← item) :: (← many starts item)

/-- Takes items between two marks, at least one. -/
def enclosed {α : Type} (opening closing : Char) (starts : Token → Bool) (item : Reader α) :
    Reader (List α) := do
  expect opening
  let items ← many1 starts item
  expect closing
  return items

/-- Takes items that a mark separates; the mark may also stand before the first. -/
def separated {α : Type} (mark : Char) (item : Reader α) : Reader (List α) := do
  let _ ← accept mark
  let first ← item
  let others ← many (· == .punctuator mark) do
    advance
    item
  return first :: others

end Reader

open Reader

/-- Whether the token is a name. -/
def Token.isName : Token → Bool
  | .name _ => true
  | _ => false

/-- Whether the token is a name or a string. -/
def Token.isNameOrString : Token → Bool
  | .name _ => true
  | .string _ => true
  | _ => false

/-- A description, if a string is next. -/
def description : Reader (Option String) := do
  match ← peek with
  | some (.string contents) =>
    advance
    return some contents
  | _ => return none

/-- A type, with lists nested at most the given number of times. -/
def writtenType : (nesting : Nat) → Reader WrittenType
  | 0 => do
    let inner ← name
    return if ← accept '!' then .nonNullNamed inner else .named inner
  | nesting + 1 => do
    if ← accept '[' then
      let item ← writtenType nesting
      expect ']'
      return if ← accept '!' then .nonNullList item else .list item
    else
      let inner ← name
      return if ← accept '!' then .nonNullNamed inner else .named inner

/-- A name, and a value after a colon if there is a colon. -/
def namedValue (value : Reader Unit) : Reader Unit := do
  let _ ← name
  if ← accept ':' then value

/-- A value, given how the items of a list and the fields of an object are read. A variable
is refused in a constant. -/
def valueAround (constant : Bool) (inner : Reader Unit) : Reader Unit := do
  match ← peek with
  | some (.punctuator '$') =>
    if constant then refuse "a variable stands in a constant"
    else
      advance
      let _ ← name
  | some (.punctuator '[') =>
    advance
    let _ ← many (· != .punctuator ']') inner
    expect ']'
  | some (.punctuator '\x7b') =>
    advance
    let _ ← many Token.isName (namedValue inner)
    expect '\x7d'
  | some (.int _) => advance
  | some (.float _) => advance
  | some (.string _) => advance
  | some (.name _) => advance
  | _ => refuse "expected a value"

/-- A value in which values nest at most the given number of times. -/
def value (constant : Bool) : (nesting : Nat) → Reader Unit
  | 0 => valueAround constant (refuse "values nest too deep")
  | nesting + 1 => valueAround constant (value constant nesting)

/-- Arguments in parentheses, if there are any. -/
def arguments (constant : Bool) (nesting : Nat) : Reader Unit := do
  if (← peek) == some (.punctuator '(') then
    let _ ← enclosed '(' ')' Token.isName (namedValue (value constant nesting))

/-- Directives, in whose arguments values nest at most the given number of times; tells
whether there was one. -/
def directives (constant : Bool) (nesting : Nat) : Reader Bool := do
  let found ← many (· == .punctuator '@') do
    advance
    let _ ← name
    arguments constant nesting
  return !found.isEmpty

/-- Directives of a definition; tells whether there was one. -/
def constantDirectives : Reader Bool := directives true nestingLimit

/-- A default value, if there is one. -/
def defaultValue : Reader Unit := do
  if ← accept '=' then value true nestingLimit

/-- An argument definition or an input field. -/
def inputField : Reader WrittenField := do
  let _ ← description
  let name ← name
  expect ':'
  let type ← writtenType nestingLimit
  defaultValue
  let _ ← constantDirectives
  return ⟨name, type⟩

/-- Argument definitions in parentheses, if there are any. -/
def argumentDefinitions : Reader Unit := do
  if (← peek) == some (.punctuator '(') then
    let _ ← enclosed '(' ')' Token.isNameOrString inputField

/-- A field of an object or an interface. -/
def outputField : Reader WrittenField := do
  let _ ← description
  let name ← name
  argumentDefinitions
  expect ':'
  let type ← writtenType nestingLimit
  let _ ← constantDirectives
  return ⟨name, type⟩

/-- A value of an enum; the words of the other constants are refused. -/
def enumValue : Reader String := do
  let _ ← description
  let value ← name
  if value == "true" || value == "false" || value == "null" then
    refuse "an enum value is a reserved word"
  let _ ← constantDirectives
  return value

/-- The names of interfaces; tells whether there was one. -/
def implemented : Reader Bool := do
  if ← acceptWord "implements" then
    let _ ← separated '&' name
    return true
  else return false

/-- A body in braces, if there is one. -/
def body {α : Type} (item : Reader α) : Reader (Option (List α)) := do
  if (← peek) == some (.punctuator '\x7b') then
    return some (← enclosed '\x7b' '\x7d' Token.isNameOrString item)
  else return none

/-- The members of a union, if there are any. -/
def unionMembers : Reader (Option (List String)) := do
  if ← accept '=' then return some (← separated '|' name) else return none

/-- The places where a directive may stand. -/
def directivePlaces : List String :=
  ["QUERY", "MUTATION", "SUBSCRIPTION", "FIELD", "FRAGMENT_DEFINITION", "FRAGMENT_SPREAD",
    "INLINE_FRAGMENT", "VARIABLE_DEFINITION", "SCHEMA", "SCALAR", "OBJECT", "FIELD_DEFINITION",
    "ARGUMENT_DEFINITION", "INTERFACE", "UNION", "ENUM", "ENUM_VALUE", "INPUT_OBJECT",
    "INPUT_FIELD_DEFINITION"]

/-- One of the places where a directive may stand. -/
def directivePlace : Reader Unit := do
  unless directivePlaces.contains (← name) do refuse "expected a directive location"

/-- A root operation, and its type if that is named. -/
def rootOperation : Reader Unit := do
  unless ["query", "mutation", "subscription"].contains (← name) do
    refuse "expected an operation type"
  expect ':'
  if (← peek).any (·.isName) then
    let _ ← name

/-- The root operations in braces, if there are braces. -/
def rootOperations : Reader Unit := do
  if (← peek) == some (.punctuator '\x7b') then
    let _ ← enclosed '\x7b' '\x7d' Token.isName rootOperation

/-- The root operations in braces that an extension adds; tells whether there is one. The
braces may be empty. -/
def addedRootOperations : Reader Bool := do
  if ← accept '\x7b' then
    let added ← many Token.isName rootOperation
    expect '\x7d'
    return !added.isEmpty
  else return false

/-! ## Operations and fragments -/

/-- A type condition without its word. -/
def typeCondition : Reader Unit := do
  let _ ← name

/-- Selections in braces, nested at most the given number of times. -/
def selections : (nesting : Nat) → Reader Unit
  | 0 => refuse "selections nest too deep"
  | nesting + 1 => do
    let startsSelection (token : Token) : Bool := token.isName || token == .spread
    let nested : Reader Unit := selections nesting
    let _ ← enclosed '\x7b' '\x7d' startsSelection do
      if (← peek) == some .spread then
        advance
        match ← peekAdjoined with
        | some (.name "on") =>
          advance
          typeCondition
          let _ ← directives false nesting
          nested
        | some (.name _) =>
          advance
          let _ ← directives false nesting
        | some _ =>
          let _ ← directives false nesting
          nested
        | none => refuse "expected a fragment"
      else
        let _ ← name
        if (← peekAdjoined) == some (.punctuator ':') then
          advance
          let _ ← name
        arguments false nesting
        let _ ← directives false nesting
        if (← peek) == some (.punctuator '\x7b') then nested

/-- The variables of an operation, if there are any. -/
def variableDefinitions : Reader Unit := do
  if (← peek) == some (.punctuator '(') then
    let _ ← enclosed '(' ')' (· == .punctuator '$') do
      expect '$'
      let _ ← name
      expect ':'
      let _ ← writtenType nestingLimit
      defaultValue
      let _ ← constantDirectives

/-- An operation after its kind. -/
def operation : Reader Unit := do
  if (← peek).any (·.isName) then
    let _ ← name
  variableDefinitions
  let _ ← directives false nestingLimit
  selections nestingLimit

/-- A fragment after its name. -/
def fragmentBody : Reader Unit := do
  unless ← acceptWord "on" do refuse "expected a type condition"
  typeCondition
  let _ ← directives false nestingLimit
  selections nestingLimit

/-- A fragment after its word. -/
def fragment : Reader Unit := do
  if (← name) == "on" then refuse "a fragment has no name"
  fragmentBody

/-! ## Definitions -/

/-- Refuses an extension that adds nothing. -/
def requireAddition (added : Bool) : Reader Unit := do
  unless added do refuse "an extension adds nothing"

/-- The word of a definition, right after what stands before it. -/
def definitionWord : Reader String := do
  match ← peekAdjoined with
  | some (.name word) =>
    advance
    return word
  | _ => refuse "expected a definition"

/-- An extension after its first word. -/
def extension : Reader Definition := do
  match ← definitionWord with
  | "schema" =>
    let decorated ← constantDirectives
    requireAddition ((← addedRootOperations) || decorated)
    return .schemaExtension
  | "scalar" =>
    let name ← name
    requireAddition (← constantDirectives)
    return .scalarExtension name
  | "type" =>
    let name ← name
    let inherits ← implemented
    let decorated ← constantDirectives
    let fields ← body outputField
    requireAddition (inherits || decorated || fields.isSome)
    return .objectExtension name (fields.getD [])
  | "interface" =>
    let name ← name
    let inherits ← implemented
    let decorated ← constantDirectives
    let fields ← body outputField
    requireAddition (inherits || decorated || fields.isSome)
    return .interfaceExtension name (fields.getD [])
  | "union" =>
    let name ← name
    let decorated ← constantDirectives
    let members ← unionMembers
    requireAddition (decorated || members.isSome)
    return .unionExtension name (members.getD [])
  | "enum" =>
    let name ← name
    let decorated ← constantDirectives
    let values ← body enumValue
    requireAddition (decorated || values.isSome)
    return .enumExtension name (values.getD [])
  | "input" =>
    let name ← name
    let decorated ← constantDirectives
    let fields ← body inputField
    requireAddition (decorated || fields.isSome)
    return .inputObjectExtension name (fields.getD [])
  | _ => refuse "expected a type to extend"

/-- A type-system definition after its description and its first word. -/
def describedDefinition (description : Option String) : String → Reader Definition
  | "schema" => do
    let _ ← constantDirectives
    rootOperations
    return .schema
  | "scalar" => do
    let name ← name
    let _ ← constantDirectives
    return .scalar description name
  | "type" => do
    let name ← name
    let _ ← implemented
    let _ ← constantDirectives
    return .object description name ((← body outputField).getD [])
  | "interface" => do
    let name ← name
    let _ ← implemented
    let _ ← constantDirectives
    return .interface description name ((← body outputField).getD [])
  | "union" => do
    let name ← name
    let _ ← constantDirectives
    return .union description name ((← unionMembers).getD [])
  | "enum" => do
    let name ← name
    let _ ← constantDirectives
    return .enum description name ((← body enumValue).getD [])
  | "input" => do
    let name ← name
    let _ ← constantDirectives
    return .inputObject description name ((← body inputField).getD [])
  | "directive" => do
    expect '@'
    let name ← name
    argumentDefinitions
    let _ ← acceptWord "repeatable"
    unless ← acceptWord "on" do refuse "expected the locations of a directive"
    let _ ← separated '|' directivePlace
    return .directive description name
  | _ => refuse "expected a definition"

/-- One definition of a document. Only type-system definitions have a description; a string
before the word `fragment` stands for that word, which is then the name. -/
def definition : Reader Definition := do
  match ← peek with
  | some (.string contents) =>
    advance
    let word ← definitionWord
    if word == "fragment" then
      fragmentBody
      return .fragment
    else describedDefinition (some contents) word
  | some (.name "extend") =>
    advance
    extension
  | some (.name "fragment") =>
    advance
    fragment
    return .fragment
  | some (.name word) =>
    advance
    if ["query", "mutation", "subscription"].contains word then
      operation
      return .operation
    else describedDefinition none word
  | some (.punctuator '\x7b') =>
    selections nestingLimit
    return .operation
  | _ => refuse "expected a definition"

/-- A document: one definition after another, at least one. -/
def document : Reader (List Definition) := many1 (fun _ => true) definition

end SchemaFixtures.Sdl
