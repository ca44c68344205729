import SchemaFixtures.Toml.Item
import SchemaFixtures.Toml.Scalar

/-!
# Reading TOML

A document is a sequence of lines: blank ones, keys with their values, and headers, each
perhaps with a comment at its end. Keys are bare words or strings, joined by points.
Arrays and inline tables go over several lines, may hold comments, and may end in a
comma; together they nest at most `nestingLimit` deep, and a key has at most as many parts.
A line ends with a line feed, perhaps with a carriage return right before it;
other control characters than the tab stand nowhere.
-/

namespace SchemaFixtures.Toml

/-- How deep arrays and inline tables may nest, and how many parts a key may have. -/
def nestingLimit : Nat := 80

/-- Whether the character is a blank within a line. -/
def isBlank (c : Char) : Bool := c == ' ' || c == '\t'

/-- Whether the character may stand in a comment or a string. -/
def isPlain (c : Char) : Bool := c == '\t' || (decide (0x20 ≤ c.toNat) && c.toNat != 0x7f)

/-- The text after its first blanks. -/
def skipBlanks (text : List Char) : List Char := text.dropWhile isBlank

/-- The text after a line end, if it starts with one. -/
def afterLineEnd? : List Char → Option (List Char)
  | '\n' :: rest => some rest
  | '\r' :: '\n' :: rest => some rest
  | _ => none

/-- The text after a comment, if there is one. -/
def skipComment : List Char → List Char
  | '#' :: rest => rest.dropWhile isPlain
  | text => text

/-- The text after the end of a line: blanks, a comment, and a line end or the end of
everything. -/
def endLine (text : List Char) : Option (List Char) :=
  match skipComment (skipBlanks text) with
  | [] => some []
  | rest => afterLineEnd? rest

/-- The text after blanks, comments and line ends, in at most the given number of
lines. -/
def skipLines : (lines : Nat) → List Char → List Char
  | 0, text => text
  | lines + 1, text =>
    let rest := skipComment (skipBlanks text)
    match afterLineEnd? rest with
    | some after => skipLines lines after
    | none => rest

/-- The text after blanks, comments and line ends. -/
def skipSpace (text : List Char) : List Char := skipLines text.length text

/-! ## Strings -/

/-- The character that an escape stands for, after its backslash, and the text after it. -/
def escape? : List Char → Option (Char × List Char)
  | 'b' :: rest => some ('\x08', rest)
  | 't' :: rest => some ('\t', rest)
  | 'n' :: rest => some ('\n', rest)
  | 'f' :: rest => some ('\x0c', rest)
  | 'r' :: rest => some ('\r', rest)
  | 'e' :: rest => some ('\x1b', rest)
  | '"' :: rest => some ('"', rest)
  | '\\' :: rest => some ('\\', rest)
  | 'x' :: rest => coded 2 rest
  | 'u' :: rest => coded 4 rest
  | 'U' :: rest => coded 8 rest
  | _ => none
where
  /-- The character named by so many hexadecimal digits. -/
  coded (count : Nat) (text : List Char) : Option (Char × List Char) :=
    let digits := text.take count
    if digits.length = count then
      (Text.hexCharacter? digits).map fun character => (character, text.drop count)
    else none

/-- The contents of a string with escapes on one line, in at most the given number of
steps, and the text after it. -/
def basicString : (steps : Nat) → List Char → Option (List Char × List Char)
  | 0, _ => none
  | steps + 1, text =>
    match text with
    | '"' :: rest => some ([], rest)
    | '\\' :: rest => do
      let (character, rest) ← escape? rest
      let (contents, after) ← basicString steps rest
      return (character :: contents, after)
    | c :: rest =>
      if isPlain c then (basicString steps rest).map fun (contents, after) => (c :: contents, after)
      else none
    | [] => none

/-- The contents of a string without escapes on one line, and the text after it. -/
def literalString : List Char → Option (List Char × List Char)
  | '\'' :: rest => some ([], rest)
  | c :: rest =>
    if isPlain c then (literalString rest).map fun (contents, after) => (c :: contents, after)
    else none
  | [] => none

/-- Takes the quotes that close a string of several lines: three, and up to two before
them that belong to the contents. -/
def closing? (quote : Char) (text : List Char) : Option (List Char × List Char) :=
  let quotes := text.takeWhile (· == quote)
  let rest := text.dropWhile (· == quote)
  if quotes.length < 3 then none
  else if quotes.length ≤ 5 then some (quotes.drop 3, rest)
  else some (quotes.take 2, text.drop 5)

/-- The text after the line end that may follow the opening of a string of several
lines. -/
def skipFirstLineEnd (text : List Char) : List Char := (afterLineEnd? text).getD text

/-- The text after blanks and line ends, in at most the given number of lines. -/
def skipBlankLines : (lines : Nat) → List Char → List Char
  | 0, text => text
  | lines + 1, text =>
    match afterLineEnd? (skipBlanks text) with
    | some after => skipBlankLines lines after
    | none => skipBlanks text

/-- The text after a backslash at the end of a line, if there is one: the line end and
all blanks after it are passed over. -/
def afterContinuation? (text : List Char) : Option (List Char) :=
  (afterLineEnd? (skipBlanks text)).map fun after => skipBlankLines after.length after

/-- The contents of a string of several lines, in at most the given number of steps, and
the text after it. -/
def longString (quote : Char) : (steps : Nat) → List Char → Option (List Char × List Char)
  | 0, _ => none
  | steps + 1, text =>
    match closing? quote text with
    | some found => some found
    | none =>
      match text with
      | '\\' :: rest =>
        if quote == '"' then
          match afterContinuation? rest with
          | some after => longString quote steps after
          | none => do
            let (character, rest) ← escape? rest
            let (contents, after) ← longString quote steps rest
            return (character :: contents, after)
        else (longString quote steps rest).map fun (contents, after) => ('\\' :: contents, after)
      | '\r' :: '\n' :: rest =>
        (longString quote steps rest).map fun (contents, after) => ('\r' :: '\n' :: contents, after)
      | c :: rest =>
        if isPlain c || c == '\n' then
          (longString quote steps rest).map fun (contents, after) => (c :: contents, after)
        else none
      | [] => none

/-- A string of one line after its opening quote. -/
def shortString (quote : Char) (text : List Char) : Option (List Char × List Char) :=
  if quote == '"' then basicString (text.length + 1) text else literalString text

/-- A string after its opening quote. -/
def string? (quote : Char) (text : List Char) : Option (String × List Char) := do
  let (contents, rest) ← match text with
    | a :: b :: rest =>
      if a == quote && b == quote then
        longString quote (rest.length + 1) (skipFirstLineEnd rest)
      else shortString quote text
    | _ => shortString quote text
  return (String.ofList contents, rest)

/-! ## Keys -/

/-- Whether a bare key may hold the character. -/
def isKeyCharacter (c : Char) : Bool := c.isAlphanum || c == '-' || c == '_'

/-- Whether the character is a quote. -/
def isQuote (c : Char) : Bool := c == '"' || c == '\''

/-- A part of a key, and the text after it. -/
def keyPart (text : List Char) : Option (String × List Char) :=
  match text with
  | c :: rest =>
    if isQuote c then
      (shortString c rest).map fun (contents, after) => (String.ofList contents, after)
    else
      let word := text.takeWhile isKeyCharacter
      if word.isEmpty then none else some (String.ofList word, text.dropWhile isKeyCharacter)
  | [] => none

/-- A key of at most the given number of parts, and the text after it and its blanks. -/
def keyWithin : (parts : Nat) → List Char → Option (List String × List Char)
  | 0, _ => none
  | parts + 1, text => do
    let (part, rest) ← keyPart (skipBlanks text)
    match skipBlanks rest with
    | '.' :: more =>
      let (others, after) ← keyWithin parts more
      return (part :: others, after)
    | after => return ([part], after)

/-- A key, and the text after it and its blanks. -/
def key (text : List Char) : Option (List String × List Char) := keyWithin nestingLimit text

/-! ## Values -/

/-- Whether a bare value may hold the character. -/
def isWordCharacter (c : Char) : Bool :=
  c.isAlphanum || c == '_' || c == '+' || c == '-' || c == '.' || c == ':'

/-- The word of a bare value, and the text after it. A blank between a date and a time
belongs to the word. -/
def word (text : List Char) : List Char × List Char :=
  let first := text.takeWhile isWordCharacter
  let rest := text.dropWhile isWordCharacter
  match rest with
  | ' ' :: c :: _ =>
    if isDate first && c.isDigit then
      let second := (rest.drop 1).takeWhile isWordCharacter
      (first ++ ' ' :: second, (rest.drop 1).dropWhile isWordCharacter)
    else (first, rest)
  | _ => (first, rest)

mutual

/-- A value in which arrays and inline tables nest at most the given number of times, in at
most the given number of steps, and the text after it. -/
def value : (nesting steps : Nat) → List Char → Option (Json × List Char)
  | _, 0, _ => none
  | nesting, steps + 1, text =>
    match text with
    | '[' :: rest =>
      if nesting = 0 then none
      else (items (nesting - 1) steps (skipSpace rest)).map fun (found, after) =>
        (.array found, after)
    | '\x7b' :: rest =>
      if nesting = 0 then none
      else (members (nesting - 1) steps (skipSpace rest) []).map fun (table, after) =>
        (table.json, after)
    | c :: rest =>
      if isQuote c then (string? c rest).map fun (contents, after) => (.string contents, after)
      else
        let (bare, after) := word text
        (scalar? bare).map fun json => (json, after)
    | [] => none
termination_by structural _ steps => steps

/-- The items of an array up to its closing bracket. -/
def items : (nesting steps : Nat) → List Char → Option (List Json × List Char)
  | _, 0, _ => none
  | nesting, steps + 1, text =>
    match text with
    | ']' :: after => some ([], after)
    | _ =>
      match value nesting steps text with
      | none => none
      | some (first, rest) =>
        match skipSpace rest with
        | ',' :: more => (items nesting steps (skipSpace more)).map fun (others, after) =>
          (first :: others, after)
        | ']' :: after => some ([first], after)
        | _ => none
termination_by structural _ steps => steps

/-- The members of an inline table up to its closing brace. -/
def members : (nesting steps : Nat) → List Char → Table → Option (Table × List Char)
  | _, 0, _, _ => none
  | nesting, steps + 1, text, table =>
    match text with
    | '\x7d' :: after => some (table, after)
    | _ => do
      let (path, afterKey) ← key text
      match skipSpace afterKey with
      | '=' :: start =>
        let (json, rest) ← value nesting steps (skipSpace start)
        let table ← table.assign json path
        match skipSpace rest with
        | ',' :: more => members nesting steps (skipSpace more) table
        | '\x7d' :: after => some (table, after)
        | _ => none
      | _ => none
termination_by structural _ steps => steps

end

/-! ## Documents -/

/-- The tables so far, and the header under which keys stand. -/
structure Progress where
  root : Table := []
  header : List String := []

/-- Takes a line that is not blank. -/
def line (progress : Progress) (text : List Char) : Option (Progress × List Char) :=
  match text with
  | '[' :: '[' :: rest => do
    let (path, after) ← key rest
    let root ← progress.root.place openElement path
    match after with
    | ']' :: ']' :: after => return ({ root, header := path }, ← endLine after)
    | _ => none
  | '[' :: rest => do
    let (path, after) ← key rest
    let root ← progress.root.place openTable path
    match after with
    | ']' :: after => return ({ root, header := path }, ← endLine after)
    | _ => none
  | _ => do
    match ← key text with
    | (path, '=' :: start) =>
      let start := skipBlanks start
      let (json, after) ← value nestingLimit (2 * start.length + 2) start
      let root ← progress.root.within (Table.assign json path) progress.header
      return ({ progress with root }, ← endLine after)
    | _ => none

/-- Takes lines up to the end of the text, at most the given number. -/
def linesWithin : (lines : Nat) → Progress → List Char → Option Progress
  | 0, _, _ => none
  | lines + 1, progress, text =>
    match skipSpace text with
    | [] => some progress
    | start => do
      let (progress, rest) ← line progress start
      linesWithin lines progress rest

/-- The text without a byte-order mark at its start. -/
def withoutMark : List Char → List Char
  | '\ufeff' :: rest => rest
  | text => text

/-- The JSON value of a document. -/
def parse (text : List Char) : Option Json :=
  let start := withoutMark text
  (linesWithin (start.length + 1) {} start).map (·.root.json)

end SchemaFixtures.Toml
