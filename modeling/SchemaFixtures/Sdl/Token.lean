import SchemaFixtures.Text.CodePoint
import SchemaFixtures.Text.Escape

/-!
# Tokens of a schema text

Names, numbers, strings and punctuation of the schema language. Spaces, tabs, line
ends, commas, byte-order marks and comments separate tokens and are nothing
themselves. A string token holds the text it stands for: escapes are replaced, and a
block string loses its common indentation and its blank first and last lines.
-/

namespace SchemaFixtures.Sdl

/-- A lexical unit. -/
inductive Token where
  | punctuator (mark : Char)
  | spread
  | name (text : String)
  | int (text : String)
  | float (text : String)
  | string (contents : String)
deriving DecidableEq, Repr

/-- Why a text is refused, and what was left of the text there. -/
structure Failure where
  message : String
  rest : List Char
deriving DecidableEq, Repr

/-- A token and the text from its first character on. A comma before a token separates
nothing, but where a rule looks at two tokens together it keeps them apart. -/
structure Located where
  token : Token
  suffix : List Char
  /-- Whether a comma stands between the token and the one before it. -/
  afterComma : Bool
deriving DecidableEq, Repr

/-- Whether a name may start with the character. -/
def isNameStart (c : Char) : Bool := c.isAlpha || c == '_'

/-- Whether a name may go on with the character. -/
def isNamePart (c : Char) : Bool := c.isAlphanum || c == '_'

/-- Whether the character only separates tokens. -/
def isIgnored (c : Char) : Bool :=
  c == ' ' || c == '\t' || c == '\n' || c == '\r' || c == ',' || c == '\ufeff'

/-- Whether the character ends a line. -/
def isLineEnd (c : Char) : Bool := c == '\n' || c == '\r'

/-- The marks that are tokens of one character. -/
def isPunctuator (c : Char) : Bool := "!$&():=@[]\x7b|\x7d".toList.contains c

/-! ## Strings -/

/-- Cuts the rest of a string's body at its closing quote; a line end before it refuses
the string. The body keeps its escapes. -/
def cutStringRest : List Char → Option (List Char × List Char)
  | [] => none
  | '"' :: rest => some ([], rest)
  | '\\' :: c :: rest =>
    if isLineEnd c then none
    else (cutStringRest rest).map fun (body, after) => ('\\' :: c :: body, after)
  | c :: rest =>
    if isLineEnd c then none else (cutStringRest rest).map fun (body, after) => (c :: body, after)

/-- Cuts the body of a string at its closing quote. Only its first character may be a line
end. -/
def cutString : List Char → Option (List Char × List Char)
  | [] => none
  | c :: rest =>
    if isLineEnd c then (cutStringRest rest).map fun (body, after) => (c :: body, after)
    else cutStringRest (c :: rest)

mutual

/-- The text of a string body. Four digits name a character or, twice, a surrogate
pair; digits in braces name a character. -/
def unescape : List Char → Option (List Char)
  | [] => some []
  | '\\' :: 'u' :: '{' :: rest => unescapeBraced [] rest
  | '\\' :: 'u' :: a :: b :: c :: d :: rest =>
    match Text.hexNumber? [a, b, c, d] with
    | none => none
    | some code =>
      match Text.character? code with
      | some character => (unescape rest).map (character :: ·)
      | none =>
        match rest with
        | '\\' :: 'u' :: e :: f :: g :: h :: after =>
          match (Text.hexNumber? [e, f, g, h]).bind (Text.pairCharacter? code) with
          | some character => (unescape after).map (character :: ·)
          | none => none
        | _ => none
  | '\\' :: c :: rest =>
    match Text.simpleEscape? c with
    | some character => (unescape rest).map (character :: ·)
    | none => none
  | c :: rest => if c = '\\' then none else (unescape rest).map (c :: ·)

/-- The text of a string body from inside the braces of an escape on; the digits met
so far stand in reverse. -/
def unescapeBraced (digits : List Char) : List Char → Option (List Char)
  | [] => none
  | '}' :: rest =>
    match Text.hexCharacter? digits.reverse with
    | some character => (unescape rest).map (character :: ·)
    | none => none
  | c :: rest => unescapeBraced (c :: digits) rest

end

/-! ## Block strings -/

/-- Cuts a block string at its three closing quotes; three quotes after a backslash
are part of the body. -/
def cutBlock : List Char → Option (List Char × List Char)
  | [] => none
  | '"' :: '"' :: '"' :: rest => some ([], rest)
  | '\\' :: '"' :: '"' :: '"' :: rest =>
    (cutBlock rest).map fun (body, after) => ('"' :: '"' :: '"' :: body, after)
  | c :: rest => (cutBlock rest).map fun (body, after) => (c :: body, after)

/-- The lines of a text; a carriage return, a line feed, and both together end one. -/
def lines : List Char → List (List Char)
  | [] => [[]]
  | '\r' :: '\n' :: rest => [] :: lines rest
  | c :: rest =>
    if isLineEnd c then [] :: lines rest
    else
      match lines rest with
      | line :: others => (c :: line) :: others
      | [] => [[c]]

/-- Whether the character counts as indentation. -/
def isIndentation (c : Char) : Bool := c == ' ' || c == '\t'

/-- Whether a line holds nothing but indentation. -/
def isBlankLine (line : List Char) : Bool := line.all isIndentation

/-- The indentation that all lines but the first share, blank lines left out. -/
def commonIndentation (others : List (List Char)) : Nat :=
  let widths := (others.filter (!isBlankLine ·)).map (·.takeWhile isIndentation |>.length)
  widths.min?.getD 0

/-- The text of a block string's body. -/
def blockText (body : List Char) : List Char :=
  match lines body with
  | [] => []
  | first :: others =>
    let width := commonIndentation others
    let dedented := first :: others.map (·.drop width)
    let trimmed := ((dedented.dropWhile isBlankLine).reverse.dropWhile isBlankLine).reverse
    ['\n'].intercalate trimmed

/-! ## Numbers -/

/-- Whether a number must not be followed by the character. -/
def extendsNumber (c : Char) : Bool := c.isDigit || c == '.' || isNameStart c

/-- Cuts the digits of a whole number: a single zero, or digits without a leading zero. -/
def cutInteger (text : List Char) : Option (List Char × List Char) :=
  let (sign, unsigned) := match text with
    | '-' :: rest => (['-'], rest)
    | _ => ([], text)
  match unsigned with
  | '0' :: rest => some (sign ++ ['0'], rest)
  | _ =>
    let (digits, rest) := unsigned.span (·.isDigit)
    if digits.isEmpty then none else some (sign ++ digits, rest)

/-- Cuts a point and the digits after it, or nothing. -/
def cutFraction : List Char → Option (List Char × List Char)
  | '.' :: rest =>
    let (digits, after) := rest.span (·.isDigit)
    if digits.isEmpty then none else some ('.' :: digits, after)
  | text => some ([], text)

/-- Cuts an exponent, or nothing. -/
def cutExponent : List Char → Option (List Char × List Char)
  | [] => some ([], [])
  | mark :: rest =>
    if mark == 'e' || mark == 'E' then
      let (sign, unsigned) := match rest with
        | '+' :: after => (['+'], after)
        | '-' :: after => (['-'], after)
        | _ => ([], rest)
      let (digits, after) := unsigned.span (·.isDigit)
      if digits.isEmpty then none else some (mark :: sign ++ digits, after)
    else some ([], mark :: rest)

/-- The number token at the start of a text. -/
def number? (text : List Char) : Option (Token × List Char) := do
  let (whole, rest) ← cutInteger text
  let (fraction, rest) ← cutFraction rest
  let (exponent, rest) ← cutExponent rest
  if rest.head?.any extendsNumber then none
  else if fraction.isEmpty && exponent.isEmpty then some (.int (String.ofList whole), rest)
  else some (.float (String.ofList (whole ++ fraction ++ exponent)), rest)

/-! ## Scanning -/

/-- The token at the start of a text that is neither empty nor begins with something
ignored, and the text after it. -/
def next (text : List Char) : Except Failure (Token × List Char) :=
  match text with
  | '"' :: '"' :: '"' :: rest =>
    match cutBlock rest with
    | some (body, after) => .ok (.string (String.ofList (blockText body)), after)
    | none => .error ⟨"unterminated block string", text⟩
  | '"' :: rest =>
    match cutString rest with
    | none => .error ⟨"unterminated string", text⟩
    | some (body, after) =>
      match unescape body with
      | some contents => .ok (.string (String.ofList contents), after)
      | none => .error ⟨"invalid escape in a string", text⟩
  | '.' :: '.' :: '.' :: rest => .ok (.spread, rest)
  | c :: rest =>
    if isPunctuator c then .ok (.punctuator c, rest)
    else if isNameStart c then
      let (word, after) := text.span isNamePart
      .ok (.name (String.ofList word), after)
    else if c.isDigit || c == '-' then
      match number? text with
      | some found => .ok found
      | none => .error ⟨"malformed number", text⟩
    else .error ⟨"unexpected character", text⟩
  | [] => .error ⟨"unexpected end of the text", text⟩

/-- The text after separators and comments, and whether a comma is among the separators. -/
def skipIgnored : (steps : Nat) → List Char → Bool × List Char
  | 0, text => (false, text)
  | steps + 1, text =>
    let (separators, rest) := text.span isIgnored
    let comma := separators.contains ','
    match rest with
    | '#' :: commented =>
      let (later, start) := skipIgnored steps (commented.dropWhile (!isLineEnd ·))
      (comma || later, start)
    | _ => (comma, rest)

/-- All tokens of a text, in at most the given number of steps; every token takes at
least one character, so the length of the text is enough. -/
def scanWithin : (steps : Nat) → List Char → Except Failure (List Located)
  | 0, _ => .ok []
  | steps + 1, text =>
    match skipIgnored steps text with
    | (_, []) => .ok []
    | (afterComma, suffix) => do
      let (token, rest) ← next suffix
      let others ← scanWithin steps rest
      return { token, suffix, afterComma } :: others

/-- All tokens of a text. -/
def scan (text : List Char) : Except Failure (List Located) := scanWithin (text.length + 1) text

end SchemaFixtures.Sdl
