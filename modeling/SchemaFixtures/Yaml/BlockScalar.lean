import SchemaFixtures.Yaml.Scalar

/-!
# Block scalars of YAML

A header says whether line ends are kept or folded, what becomes of those at the end, and
by how much the text is indented. Where it does not say so, the first line of text, or a
wider blank line before it, gives the indentation. The text ends before a line that is
indented less.
-/

namespace SchemaFixtures.Yaml

/-- What becomes of the line ends at the end of a block scalar. -/
inductive Chomping where
  | strip
  | clip
  | keep
deriving DecidableEq, Repr

/-- What the header of a block scalar says. -/
structure BlockHeader where
  isLiteral : Bool
  chomping : Chomping := .clip
  /-- By how much the text is indented, where that is said. -/
  increment : Option Nat := none
deriving DecidableEq, Repr

/-- The header of a block scalar after its first mark, and the source after it: a sign and
a digit, each at most once and in either order. -/
def blockHeader? (header : BlockHeader) : (marks : Nat) → Source → Option (BlockHeader × Source)
  | 0, source => some (header, source)
  | marks + 1, source =>
    match source.first? with
    | some '-' =>
      if header.chomping = .clip then
        blockHeader? { header with chomping := .strip } marks source.advance
      else some (header, source)
    | some '+' =>
      if header.chomping = .clip then
        blockHeader? { header with chomping := .keep } marks source.advance
      else some (header, source)
    | some c =>
      if c.isDigit && header.increment.isNone then
        if c == '0' then none
        else
          let increment := c.toNat - '0'.toNat
          blockHeader? { header with increment := some increment } marks source.advance
      else some (header, source)
    | none => some (header, source)

/-- Blank lines and indentation before a line of text. -/
structure Indentation where
  lineEnds : Nat := 0
  /-- The widest indentation. -/
  width : Nat := 0
  rest : Source

/-- Passes over blank lines and over spaces, in at most the given number of steps and up to
a column if there is one. -/
def indentationWithin (limit? : Option Nat) :
    (steps : Nat) → (lineEnds width : Nat) → Source → Indentation
  | 0, lineEnds, width, rest => { lineEnds, width, rest }
  | steps + 1, lineEnds, width, source =>
    let width := max width source.column
    let isInside := limit?.all (decide <| source.column < ·)
    match source.first? with
    | some ' ' =>
      if isInside then indentationWithin limit? steps lineEnds width source.advance
      else { lineEnds, width, rest := source }
    | some '\n' => indentationWithin limit? steps (lineEnds + 1) width source.advance
    | _ => { lineEnds, width, rest := source }

/-- The blank lines and the spaces at the front of a source, up to a column if there is
one. -/
def indentation (limit? : Option Nat) (source : Source) : Indentation :=
  indentationWithin limit? (source.rest.length + 1) 0 0 source

/-- A line of a block scalar: the number of line ends before it, and its text. -/
structure BlockLine where
  lineEnds : Nat
  text : List Char
deriving DecidableEq, Repr

/-- The text of a block scalar in lines, the line ends after the last of them, and the
source after those. -/
structure BlockText where
  lines : List BlockLine
  lineEnds : Nat
  rest : Source

/-- The lines of a block scalar that stand in a column, at most the given number, given the
line ends before the first. -/
def blockLines (indent : Nat) : (count lineEnds : Nat) → Source → BlockText
  | 0, lineEnds, rest => ⟨[], lineEnds, rest⟩
  | count + 1, lineEnds, source =>
    let isMark := indent == 0 && source.startsTriple '.'
    if source.rest.isEmpty || source.column != indent || isMark then ⟨[], lineEnds, source⟩
    else
      let (line, rest) := source.span (· != '\n')
      let next := indentation (some indent) rest
      let text := blockLines indent count next.lineEnds next.rest
      { text with lines := ⟨lineEnds, line⟩ :: text.lines }

/-- Whether a line of a block scalar starts with a blank; such lines are not folded. -/
def startsWithBlank (line : List Char) : Bool := line.head?.any isBlank

/-- The lines of a block scalar after one that may start with a blank. -/
def joinBlockLines (isLiteral : Bool) : (afterBlank : Bool) → List BlockLine → List Char
  | _, [] => []
  | afterBlank, line :: rest =>
    let blank := startsWithBlank line.text
    let between :=
      if !isLiteral && !afterBlank && !blank then Gap.folded { lineEnds := line.lineEnds }
      else List.replicate line.lineEnds '\n'
    between ++ line.text ++ joinBlockLines isLiteral blank rest

/-- The text of a block scalar without the line ends at its end. -/
def blockBody (isLiteral : Bool) : List BlockLine → List Char
  | [] => []
  | line :: rest =>
    List.replicate line.lineEnds '\n' ++ line.text
      ++ joinBlockLines isLiteral (startsWithBlank line.text) rest

/-- The line ends at the end of a block scalar. The end of the source ends one more line,
if that is indented like the text. -/
def blockEnd (chomping : Chomping) (indent : Nat) (text : BlockText) : List Char :=
  let isOpen := text.rest.rest.isEmpty && decide (max indent 1 ≤ text.rest.column)
  let clipped := List.replicate (min text.lineEnds 1 + isOpen.toNat) '\n'
  match chomping with
  | .strip => []
  | .clip => clipped
  | .keep => clipped ++ List.replicate (text.lineEnds - 1) '\n'

/-- What a block scalar without text at the end of the source stands for, given the line
ends after that of its header. -/
def emptyBlock (chomping : Chomping) (lineEnds : Nat) : List Char :=
  match chomping with
  | .strip => []
  | .clip => ['\n']
  | .keep => List.replicate (max lineEnds 1) '\n'

/-- A block scalar after its header and the line end of that, inside something in the
column `around`, or inside nothing. -/
def blockAfterHeader? (header : BlockHeader) (around : Int) (start : Source) :
    Option (List Char × Source) :=
  let least := (around + 1).toNat
  let said? := header.increment.map fun increment => (max around 0).toNat + increment
  let before := indentation said? start
  let indent := said?.getD (max before.width least)
  if before.rest.rest.isEmpty then
    some (emptyBlock header.chomping before.lineEnds, before.rest)
  else if before.rest.column < indent && around < before.rest.column then none
  else
    let text := blockLines indent (before.rest.rest.length + 1) before.lineEnds before.rest
    if text.lines.isEmpty then
      some (if header.chomping = .keep then List.replicate before.lineEnds '\n' else [], text.rest)
    else
      some (blockBody header.isLiteral text.lines ++ blockEnd header.chomping indent text,
        text.rest)

/-- A block scalar from its first mark on, and the source after it. -/
def blockScalar? (isLiteral : Bool) (around : Int) (source : Source) :
    Option (List Char × Source) := do
  let (header, afterHeader) ← blockHeader? { isLiteral } 2 source.advance
  let (_, rest) ← afterHeader.finishLine?
  if !rest.endsLine then none
  else if rest.rest.isEmpty then return ([], rest)
  else
    let start := rest.advance
    if start.first? == some '\t' then none else blockAfterHeader? header around start

end SchemaFixtures.Yaml
