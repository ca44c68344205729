import SchemaFixtures.Json.Basic
import SchemaFixtures.Decimal.Layout
import SchemaFixtures.Text.CodePoint

/-!
# Writing JSON

Two forms: compact, without blanks, and pretty, with two blanks of indentation for each
level. In strings the quote, the backslash and the control characters are escaped and
nothing else is. A float that is no finite number is written as null.
-/

namespace SchemaFixtures.Json

/-- Floats from 1e-5 up to 1e16 are positional; an exponent has a sign. -/
def floatLayout : Decimal.Layout where
  leastPositional := -5
  greatestPositional := 15
  positiveMark := "e+"
  negativeMark := "e-"
  notANumber := "null"
  infinity := "null"
  negativeInfinity := "null"

/-- A character of a string, escaped where it has to be. -/
def escapeCharacter (c : Char) : List Char :=
  match c with
  | '"' => ['\\', '"']
  | '\\' => ['\\', '\\']
  | '\x08' => ['\\', 'b']
  | '\x0c' => ['\\', 'f']
  | '\n' => ['\\', 'n']
  | '\r' => ['\\', 'r']
  | '\t' => ['\\', 't']
  | c =>
    if c.toNat < 0x20 then
      ['\\', 'u', '0', '0', Text.hexDigit (c.toNat / 16), Text.hexDigit (c.toNat % 16)]
    else [c]

/-- A string in quotes. -/
def quote (text : String) : String :=
  String.ofList ('"' :: text.toList.flatMap escapeCharacter ++ ['"'])

/-- A value that has no parts. -/
def scalarText : Json → String
  | null => "null"
  | bool true => "true"
  | bool false => "false"
  | int value => toString value.toInt
  | float value => floatLayout.write value
  | string text => quote text
  | array _ => "[]"
  | object _ => "\x7b\x7d"

mutual

/-- The value without any blanks. -/
def compact : Json → String
  | array items => "[" ++ ",".intercalate (compactItems items) ++ "]"
  | object members => "\x7b" ++ ",".intercalate (compactMembers members) ++ "\x7d"
  | json => scalarText json

/-- The items of an array, each compact. -/
def compactItems : List Json → List String
  | [] => []
  | item :: rest => compact item :: compactItems rest

/-- The members of an object, each compact. -/
def compactMembers : List (String × Json) → List String
  | [] => []
  | (name, value) :: rest => (quote name ++ ":" ++ compact value) :: compactMembers rest

end

/-- A line break and the indentation of a level. -/
def lineBreak (level : Nat) : String := "\n" ++ String.ofList (List.replicate (2 * level) ' ')

/-- Parts in brackets, each on a line of its own at the level inside. -/
def block (opening closing : String) (level : Nat) (parts : List String) : String :=
  if parts.isEmpty then opening ++ closing
  else
    opening ++ lineBreak (level + 1) ++ ("," ++ lineBreak (level + 1)).intercalate parts
      ++ lineBreak level ++ closing

mutual

/-- The value in pretty form, inside the given level. -/
def prettyAt (level : Nat) : Json → String
  | array items => block "[" "]" level (prettyItems (level + 1) items)
  | object members => block "\x7b" "\x7d" level (prettyMembers (level + 1) members)
  | json => scalarText json

/-- The items of an array in pretty form. -/
def prettyItems (level : Nat) : List Json → List String
  | [] => []
  | item :: rest => prettyAt level item :: prettyItems level rest

/-- The members of an object in pretty form. -/
def prettyMembers (level : Nat) : List (String × Json) → List String
  | [] => []
  | (name, value) :: rest =>
    (quote name ++ ": " ++ prettyAt level value) :: prettyMembers level rest

end

/-- The value in pretty form. -/
def pretty (json : Json) : String := prettyAt 0 json

end SchemaFixtures.Json
