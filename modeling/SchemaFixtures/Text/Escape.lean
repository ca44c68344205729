/-!
# One-letter escapes

The escapes that strings of schema texts and of JSON share: a backslash and one letter
for a quote, a backslash, a slash or a control character.
-/

namespace SchemaFixtures.Text

/-- The character that a one-letter escape stands for. -/
def simpleEscape? : Char → Option Char
  | '"' => some '"'
  | '\\' => some '\\'
  | '/' => some '/'
  | 'b' => some '\x08'
  | 'f' => some '\x0c'
  | 'n' => some '\n'
  | 'r' => some '\r'
  | 't' => some '\t'
  | _ => none

end SchemaFixtures.Text
