import SchemaFixtures.Text.CodePoint
import SchemaFixtures.Yaml.Source

/-!
# Plain and quoted scalars of YAML

A scalar that goes over several lines is folded: a single line end becomes a space, and of
several the first is dropped. Outside of flow collections a plain scalar ends before a
line that starts left of its indentation, and the lines of a quoted one have to start
right of what is around it.
-/

namespace SchemaFixtures.Yaml

/-! ## Gaps between pieces of text -/

/-- What separates two pieces of a scalar: blanks on one line, or line ends. -/
structure Gap where
  lineEnds : Nat := 0
  blanks : List Char := []
deriving DecidableEq, Repr

/-- What a gap is folded into. -/
def Gap.folded (gap : Gap) : List Char :=
  match gap.lineEnds with
  | 0 => gap.blanks
  | 1 => [' ']
  | more + 2 => List.replicate (more + 1) '\n'

/-- Passes over blanks and line ends in at most the given number of steps. Blanks after a
line end are dropped; of a tab among them a function tells where the source goes on. -/
def gapWithin (afterTab? : Source → Option Source) :
    (steps : Nat) → (crossed : Bool) → Gap → Source → Option (Gap × Source)
  | 0, _, gap, source => some (gap, source)
  | steps + 1, crossed, gap, source =>
    match source.first? with
    | some '\n' =>
      gapWithin afterTab? steps true { gap with lineEnds := gap.lineEnds + 1 } source.advance
    | some c =>
      if !isBlank c then some (gap, source)
      else if !crossed then
        gapWithin afterTab? steps false { gap with blanks := gap.blanks ++ [c] } source.advance
      else if c == '\t' then
        (afterTab? source).bind (gapWithin afterTab? steps true gap)
      else gapWithin afterTab? steps true gap source.advance
    | none => some (gap, source)

/-- The gap at the front of a source, and the source after it. -/
def gap? (afterTab? : Source → Option Source) (crossed : Bool) (source : Source) :
    Option (Gap × Source) :=
  gapWithin afterTab? (source.rest.length + 1) crossed {} source

/-! ## Plain scalars -/

/-- Whether plain text goes on with a character, given what follows it. -/
def continuesPlain (flow : Bool) (c : Char) (rest : List Char) : Bool :=
  let endsKey := startsBlank rest || (flow && rest.head?.any isFlowMark)
  !isBlank c && c != '\n' && !(c == ':' && endsKey) && !(flow && isFlowMark c)

/-- The piece of plain text at the front: it holds no blank. -/
def plainPiece (flow : Bool) : List Char → List Char
  | [] => []
  | c :: rest => if continuesPlain flow c rest then c :: plainPiece flow rest else []

/-- Where a plain scalar goes on after a tab that follows a line end. Left of the
indentation such a line holds nothing but a comment. -/
def afterPlainTab? (indent : Nat) (source : Source) : Option Source :=
  if source.column < indent then do
    let (_, rest) ← source.finishLine?
    if rest.endsLine then some rest else none
  else some source.advance

/-- A plain scalar in at most the given number of pieces, given what is between the next
piece and the one before it. -/
def plainWithin (flow : Bool) (indent : Nat) :
    (pieces : Nat) → Gap → Source → Option (List Char × Source)
  | 0, _, _ => none
  | pieces + 1, gap, source =>
    let second? := source.rest[1]?
    if (source.fresh && source.startsDocumentMark) || source.first? == some '#' then
      some ([], source)
    else if flow && source.first? == some '-' && second?.any isFlowMark then none
    else
      let piece := plainPiece flow source.rest
      let rest := source.skip piece.length
      let text := if piece.isEmpty then [] else gap.folded ++ piece
      if rest.rest.isEmpty || !startsBlank rest.rest then some (text, rest)
      else do
        let (gap, next) ← gap? (afterPlainTab? indent) false rest
        if !flow && decide (next.column < indent) then some (text, next)
        else
          let (more, after) ← plainWithin flow indent pieces gap next
          return (text ++ more, after)

/-- A plain scalar from the given column on, and the source after it and the blanks and
line ends that follow it. -/
def plainScalar? (flow : Bool) (indent : Nat) (source : Source) :
    Option (List Char × Source) := do
  if flow && decide (source.column < indent) then none
  else
    let (text, rest) ← plainWithin flow indent (source.rest.length + 1) {} source
    if text.isEmpty then none else some (text, rest)

/-! ## Quoted scalars -/

/-- The character of an escape by a letter. -/
def letterEscape? : Char → Option Char
  | '0' => some '\x00'
  | 'a' => some '\x07'
  | 'b' => some '\x08'
  | 't' => some '\t'
  | '\t' => some '\t'
  | 'n' => some '\n'
  | 'v' => some '\x0b'
  | 'f' => some '\x0c'
  | 'r' => some '\r'
  | 'e' => some '\x1b'
  | ' ' => some ' '
  | '"' => some '"'
  | '/' => some '/'
  | '\\' => some '\\'
  | 'N' => some '\u0085'
  | '_' => some '\u00a0'
  | 'L' => some '\u2028'
  | 'P' => some '\u2029'
  | _ => none

/-- The number that a count of hexadecimal digits at the front of a text is. -/
def hexDigits? (count : Nat) (text : List Char) : Option Nat :=
  let digits := text.take count
  if digits.length = count then Text.hexNumber? digits else none

/-- The character that four digits name, or twice four digits as a surrogate pair, and the
number of characters they take. -/
def shortEscape? (digits : List Char) : Option (Char × Nat) := do
  let code ← hexDigits? 4 digits
  if Text.isLeadingSurrogate code then
    match digits.drop 4 with
    | '\\' :: 'u' :: rest => return (← Text.pairCharacter? code (← hexDigits? 4 rest), 10)
    | _ => none
  else return (← Text.character? code, 4)

/-- The character of an escape after its backslash, and the number of characters that it
takes there. -/
def escape? : List Char → Option (Char × Nat)
  | [] => none
  | 'x' :: digits => do return (← Text.character? (← hexDigits? 2 digits), 3)
  | 'u' :: digits => (shortEscape? digits).map fun (character, size) => (character, size + 1)
  | 'U' :: digits => do return (← Text.character? (← hexDigits? 8 digits), 9)
  | c :: _ => (letterEscape? c).map (·, 1)

/-- A piece of quoted text: it ends before a blank, a line end or the closing quote, or
with a backslash that joins it to the next line. -/
structure QuotedPiece where
  text : List Char
  joined : Bool := false
  rest : Source

/-- The piece of quoted text at the front of a source. -/
def quotedPiece (quote : Char) : (steps : Nat) → Source → Option QuotedPiece
  | 0, rest => some { text := [], rest }
  | steps + 1, source =>
    let prepend? (c : Char) (rest : Source) : Option QuotedPiece := do
      let piece ← quotedPiece quote steps rest
      return { piece with text := c :: piece.text }
    match source.rest with
    | [] => some { text := [], rest := source }
    | c :: rest =>
      if isBlank c || c == '\n' then some { text := [], rest := source }
      else if c == quote then
        if quote == '\'' && rest.head? == some '\'' then prepend? '\'' (source.skip 2)
        else some { text := [], rest := source }
      else if quote == '"' && c == '\\' then
        if rest.head? == some '\n' then
          some { text := [], joined := true, rest := source.skip 2 }
        else do
          let (character, size) ← escape? rest
          prepend? character (source.skip (size + 1))
      else prepend? c source.advance

/-- Where a quoted scalar goes on after a tab that follows a line end: not left of what is
around the scalar. -/
def afterQuotedTab? (indent : Int) (source : Source) : Option Source :=
  if (source.column : Int) < indent then none else some source.advance

/-- The text of a quoted scalar after its opening quote, in at most the given number of
pieces, and the source after its closing quote. Outside of flow collections a line that
goes on with text starts right of what is around the scalar. -/
def quotedWithin (quote : Char) (flow : Bool) (indent : Int) :
    (pieces : Nat) → Source → Option (List Char × Source)
  | 0, _ => none
  | pieces + 1, source =>
    if (source.column == 0 && source.startsDocumentMark) || source.rest.isEmpty then none
    else do
      let piece ← quotedPiece quote (source.rest.length + 1) source
      if piece.rest.first? == some quote then return (piece.text, piece.rest.advance)
      else
        let (gap, next) ← gap? (afterQuotedTab? indent) piece.joined piece.rest
        let crossed := !piece.joined && decide (0 < gap.lineEnds)
        let isClosing := next.first? == some quote
        if crossed && !flow && !isClosing && decide ((next.column : Int) ≤ indent) then none
        else
          let between :=
            if piece.joined then List.replicate gap.lineEnds '\n' else gap.folded
          let (more, after) ← quotedWithin quote flow indent pieces next
          return (piece.text ++ between ++ more, after)

/-- A quoted scalar from its opening quote on, and the source after it and the blanks that
follow it. Only a line end, the marks of a flow collection, or the colon of a key comes
next; a key outside of flow collections stands on one line. -/
def quotedScalar? (quote : Char) (flow : Bool) (indent : Int) (source : Source) :
    Option (List Char × Source) := do
  let (text, rest) ← quotedWithin quote flow indent (source.rest.length + 1) source.advance
  let (_, after) ← rest.finishLine?
  let oneLine := source.place.line == after.place.line
  match after.first? with
  | none => return (text, after)
  | some '\n' => return (text, after)
  | some ':' => if flow || oneLine then return (text, after) else none
  | some c => if flow && (c == ',' || c == ']' || c == '\x7d') then return (text, after) else none

end SchemaFixtures.Yaml
