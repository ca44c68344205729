import SchemaFixtures.Text.CodePoint

/-!
# Quoted source text

A string between two quotes of one kind. A backslash escapes: some letters stand for
control characters, `x` takes two hexadecimal digits, `u` takes four or any number in
braces, a zero that no digit follows is the null character, a line feed is dropped, and
any other character stands for itself. A malformed escape or a quote that is not
escaped makes the text unreadable.
-/

namespace SchemaFixtures.Fixture.Quoted

/-- The text between an opening and a closing quote. -/
def between? (opening closing : Char) : List Char → Option (List Char)
  | [] => none
  | first :: rest =>
    if first = opening ∧ rest.getLast? = some closing then some rest.dropLast else none

/-- What a letter after a backslash stands for, given the character after it. Escapes
that take digits are not among them. -/
def letterEscape? (letter : Char) (following : Option Char) : Option (List Char) :=
  match letter with
  | 'n' => some ['\n']
  | 't' => some ['\t']
  | 'r' => some ['\r']
  | 'b' => some ['\x08']
  | 'f' => some ['\x0c']
  | 'v' => some ['\x0b']
  | '0' => some (if following.any (·.isDigit) then ['0'] else ['\x00'])
  | 'x' => none
  | 'u' => none
  | '\n' => some []
  | other => some [other]

mutual

/-- What the body of a quoted string stands for. -/
def decode (quote : Char) : List Char → Option (List Char)
  | [] => some []
  | '\\' :: 'x' :: a :: b :: rest =>
    match Text.hexCharacter? [a, b] with
    | some character => (decode quote rest).map (character :: ·)
    | none => none
  | '\\' :: 'u' :: '{' :: rest => decodeBraced quote [] rest
  | '\\' :: 'u' :: a :: b :: c :: d :: rest =>
    match Text.hexCharacter? [a, b, c, d] with
    | some character => (decode quote rest).map (character :: ·)
    | none => none
  | '\\' :: letter :: rest =>
    match letterEscape? letter rest.head? with
    | some meaning => (decode quote rest).map (meaning ++ ·)
    | none => none
  | c :: rest => if c = '\\' ∨ c = quote then none else (decode quote rest).map (c :: ·)

/-- What a body stands for from inside the braces of an escape on; the digits met so far
stand in reverse. -/
def decodeBraced (quote : Char) (digits : List Char) : List Char → Option (List Char)
  | [] => none
  | '}' :: rest =>
    match Text.hexCharacter? digits.reverse with
    | some character => (decode quote rest).map (character :: ·)
    | none => none
  | c :: rest => decodeBraced quote (c :: digits) rest

end

/-- What a text in quotes of one kind stands for. -/
def read? (quote : Char) (source : List Char) : Option (List Char) :=
  (between? quote quote source).bind (decode quote)

/-- Whether the opening of a substitution stands in a text. -/
def hasSubstitution : List Char → Bool
  | '$' :: '{' :: _ => true
  | _ :: rest => hasSubstitution rest
  | [] => false

/-- The quote of templates. -/
def templateQuote : Char := '\x60'

/-- What a template without substitutions stands for. -/
def readTemplate? (source : List Char) : Option (List Char) :=
  if hasSubstitution source then none else read? templateQuote source

end SchemaFixtures.Fixture.Quoted
