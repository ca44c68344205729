/-!
# Source text of a YAML document

A source is the text that is left to read, together with where it starts: the line, the
column and the offset of its first character, and whether anything but blanks stands
before it on its line. All line ends are line feeds. Blanks, comments and line ends
separate what is written; three hyphens or three points at the start of a line mark where
a document starts or ends.
-/

namespace SchemaFixtures.Yaml

/-- Where a character stands; columns and offsets count characters. -/
structure Place where
  line : Nat := 0
  column : Nat := 0
  offset : Nat := 0
deriving DecidableEq, Repr

/-- Text that is left to read. -/
structure Source where
  rest : List Char
  place : Place := {}
  /-- Whether nothing but blanks stands before it on its line. -/
  fresh : Bool := true
deriving DecidableEq, Repr

/-- Whether the character is a blank. -/
def isBlank (c : Char) : Bool := c == ' ' || c == '\t'

/-- Whether a blank, a line end or nothing comes first in a text. -/
def startsBlank : List Char → Bool
  | [] => true
  | c :: _ => isBlank c || c == '\n'

/-- The marks of flow collections. -/
def isFlowMark (c : Char) : Bool := ",[]\x7b\x7d".toList.contains c

/-- A text with line feeds for all its line ends. -/
def unifyLineEnds : List Char → List Char
  | '\r' :: '\n' :: rest => '\n' :: unifyLineEnds rest
  | '\r' :: rest => '\n' :: unifyLineEnds rest
  | c :: rest => c :: unifyLineEnds rest
  | [] => []

/-- A text without the byte-order mark at its start. -/
def withoutMark : List Char → List Char
  | '\ufeff' :: rest => rest
  | text => text

/-- The source of a text. Up to two byte-order marks at its start are passed over, and a
character of code zero ends it. -/
def sourceOf (text : List Char) : Source :=
  { rest := unifyLineEnds ((withoutMark (withoutMark text)).takeWhile (· != '\x00')) }

namespace Source

/-- The first character. -/
def first? (source : Source) : Option Char := source.rest.head?

/-- The column of the first character. -/
def column (source : Source) : Nat := source.place.column

/-- The source after its first character. -/
def advance (source : Source) : Source :=
  let ⟨line, column, offset⟩ := source.place
  match source.rest with
  | [] => source
  | '\n' :: rest => { rest, place := ⟨line + 1, 0, offset + 1⟩, fresh := true }
  | c :: rest =>
    { rest, place := ⟨line, column + 1, offset + 1⟩, fresh := source.fresh && isBlank c }

/-- The source after a number of characters. -/
def skip (source : Source) : (count : Nat) → Source
  | 0 => source
  | count + 1 => source.advance.skip count

/-- The characters at the front as long as they belong, and the source after them. -/
def span (belongs : Char → Bool) (source : Source) : List Char × Source :=
  let run := source.rest.takeWhile belongs
  (run, source.skip run.length)

/-- The source after its first blanks. -/
def skipBlanks (source : Source) : Source := (source.span isBlank).2

/-- Whether a line end or nothing comes first. -/
def endsLine (source : Source) : Bool := source.first?.all (· == '\n')

/-- Whether a certain character comes first, and then a blank. -/
def startsMark (mark : Char) (source : Source) : Bool :=
  source.first? == some mark && startsBlank (source.rest.drop 1)

/-- Whether three of a character stand alone. -/
def startsTriple (mark : Char) (source : Source) : Bool :=
  source.rest.take 3 == [mark, mark, mark] && startsBlank (source.rest.drop 3)

/-- Whether the mark of a document's start or end comes first. -/
def startsDocumentMark (source : Source) : Bool :=
  source.startsTriple '-' || source.startsTriple '.'

/-- The source from its first line end on. -/
def skipLine (source : Source) : Source := (source.span (· != '\n')).2

/-- The blanks at the front, and the source after them and after a comment. A comment
follows a blank. -/
def finishLine? (source : Source) : Option (List Char × Source) :=
  let (blanks, rest) := source.span isBlank
  if rest.first? == some '#' then
    if blanks.isEmpty then none else some (blanks, rest.skipLine)
  else some (blanks, rest)

/-- Passes over blanks, comments and line ends in at most the given number of steps; tells
whether there was a line end. A tab does not indent: before the given column nothing but a
comment follows it on its line. -/
def separateWithin (indent : Nat) : (steps : Nat) → (crossed : Bool) → Source →
    Option (Bool × Source)
  | 0, crossed, source => some (crossed, source)
  | steps + 1, crossed, source =>
    match source.first? with
    | some '\t' =>
      if source.fresh && decide (source.column < indent) then do
        let (_, rest) ← source.finishLine?
        if rest.endsLine then separateWithin indent steps crossed rest else none
      else separateWithin indent steps crossed source.advance
    | some ' ' => separateWithin indent steps crossed source.advance
    | some '\n' => separateWithin indent steps true source.advance
    | some '#' => separateWithin indent steps crossed source.skipLine
    | _ => some (crossed, source)

/-- The source after blanks, comments and line ends, and whether there was a line end. -/
def separate? (indent : Nat) (source : Source) : Option (Bool × Source) :=
  separateWithin indent (source.rest.length + 1) false source

end Source

end SchemaFixtures.Yaml
