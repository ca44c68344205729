import SchemaFixtures.Json.Number
import SchemaFixtures.Text.Escape

/-!
# Reading JSON

A text is one value between blanks. Arrays and objects nest at most `nestingLimit`
deep. A member that repeats a name keeps the place of the first and the value of the
last. Strings hold no control characters, and a surrogate has to come with its other
half.
-/

namespace SchemaFixtures.Json

/-- How deep arrays and objects may nest. -/
def nestingLimit : Nat := 127

/-- The blanks between values. -/
def isBlank (c : Char) : Bool := c == ' ' || c == '\t' || c == '\n' || c == '\r'

/-- The text after its first blanks. -/
def skipBlanks (text : List Char) : List Char := text.dropWhile isBlank

/-- Cuts the body of a string at its closing quote; the body keeps its escapes. -/
def cutString : List Char → Option (List Char × List Char)
  | [] => none
  | '"' :: rest => some ([], rest)
  | '\\' :: c :: rest => (cutString rest).map fun (body, after) => ('\\' :: c :: body, after)
  | c :: rest => (cutString rest).map fun (body, after) => (c :: body, after)

/-- The text of a string body. -/
def unescape : List Char → Option (List Char)
  | [] => some []
  | '\\' :: 'u' :: a :: b :: c :: d :: rest =>
    match Text.hexNumber? [a, b, c, d] with
    | none => none
    | some code =>
      match Text.character? code with
      | some character => (unescape rest).map (character :: ·)
      | none =>
        match rest with
        | '\\' :: 'u' :: e :: f :: g :: h :: after =>
          match (Text.hexNumber? [e, f, g, h]).bind (Text.pairCharacter? code) with
          | some character => (unescape after).map (character :: ·)
          | none => none
        | _ => none
  | '\\' :: c :: rest =>
    match Text.simpleEscape? c with
    | some character => (unescape rest).map (character :: ·)
    | none => none
  | c :: rest =>
    if c = '\\' ∨ c.toNat < 0x20 then none else (unescape rest).map (c :: ·)

/-- The string after an opening quote and the text after it. -/
def readString (text : List Char) : Option (String × List Char) := do
  let (body, rest) ← cutString text
  let contents ← unescape body
  return (String.ofList contents, rest)

/-- The text after a word. -/
def afterWord (word : String) (text : List Char) : Option (List Char) :=
  if text.take word.length = word.toList then some (text.drop word.length) else none

mutual

/-- A value, at most `nesting` levels deep, and the text after it. -/
def readValue (nesting : Nat) : (steps : Nat) → List Char → Option (Json × List Char)
  | 0, _ => none
  | steps + 1, text =>
    match text with
    | '"' :: rest => (readString rest).map fun (contents, after) => (.string contents, after)
    | '[' :: rest =>
      match nesting with
      | 0 => none
      | inner + 1 =>
        match skipBlanks rest with
        | ']' :: after => some (.array [], after)
        | start => (readItems inner steps start).map fun (items, after) => (.array items, after)
    | '{' :: rest =>
      match nesting with
      | 0 => none
      | inner + 1 =>
        match skipBlanks rest with
        | '}' :: after => some (.object [], after)
        | start =>
          (readMembers inner steps start).map fun (members, after) =>
            (.object (Entries.ofPairs members), after)
    | 'n' :: _ => (afterWord "null" text).map fun after => (.null, after)
    | 't' :: _ => (afterWord "true" text).map fun after => (.bool true, after)
    | 'f' :: _ => (afterWord "false" text).map fun after => (.bool false, after)
    | _ => Number.read text

/-- The items of an array from the first one to the closing bracket. -/
def readItems (nesting : Nat) : (steps : Nat) → List Char → Option (List Json × List Char)
  | 0, _ => none
  | steps + 1, text =>
    match readValue nesting steps text with
    | none => none
    | some (first, rest) =>
      match skipBlanks rest with
      | ']' :: after => some ([first], after)
      | ',' :: more =>
        (readItems nesting steps (skipBlanks more)).map fun (others, after) =>
          (first :: others, after)
      | _ => none

/-- The members of an object from the first name to the closing brace. -/
def readMembers (nesting : Nat) :
    (steps : Nat) → List Char → Option (List (String × Json) × List Char)
  | 0, _ => none
  | steps + 1, text =>
    match text with
    | '"' :: rest =>
      match readString rest with
      | none => none
      | some (name, afterName) =>
        match skipBlanks afterName with
        | ':' :: start =>
          match readValue nesting steps (skipBlanks start) with
          | none => none
          | some (value, afterValue) =>
            match skipBlanks afterValue with
            | '}' :: after => some ([(name, value)], after)
            | ',' :: more =>
              (readMembers nesting steps (skipBlanks more)).map fun (others, after) =>
                ((name, value) :: others, after)
            | _ => none
        | _ => none
    | _ => none

end

/-- The value that a text is, if it nests at most the given number of times. Every second
step takes a character, so twice the length of the text is enough. -/
def parseNested (nesting : Nat) (text : List Char) : Option Json :=
  match readValue nesting (2 * text.length + 2) (skipBlanks text) with
  | some (value, rest) => if (skipBlanks rest).isEmpty then some value else none
  | none => none

/-- The value that a text is. -/
def parse (text : List Char) : Option Json := parseNested nestingLimit text

end SchemaFixtures.Json
