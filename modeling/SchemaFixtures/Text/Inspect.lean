import SchemaFixtures.Text.CodePoint
import SchemaFixtures.Text.InvisibleTable

/-!
# Text for inspection

A text between double quotes with every character visible: the quote and the backslash
are escaped, so are line feed, carriage return, tab and null by a letter or digit, and
every other character without a picture of its own is given by its code point in braces.
-/

namespace SchemaFixtures.Text

/-- Whether the character has no picture of its own. -/
def isInvisible (c : Char) : Bool :=
  if c.toNat < 128 then decide (c.toNat < 0x20) || c.toNat == 0x7f
  else invisibles.any (·.holds c.toNat)

/-- The character as it shows in an inspected text. -/
def inspectCharacter (c : Char) : List Char :=
  match c with
  | '"' => ['\\', '"']
  | '\\' => ['\\', '\\']
  | '\n' => ['\\', 'n']
  | '\r' => ['\\', 'r']
  | '\t' => ['\\', 't']
  | '\x00' => ['\\', '0']
  | c => if isInvisible c then ['\\', 'u', '{'] ++ hexDigits c.toNat ++ ['}'] else [c]

/-- The text for inspection. -/
def inspect (text : String) : String :=
  String.ofList ('"' :: text.toList.flatMap inspectCharacter ++ ['"'])

end SchemaFixtures.Text
