import SchemaFixtures.Yaml.BlockScalar
import SchemaFixtures.Yaml.Tag
import SchemaFixtures.Yaml.Token

/-!
# The layout of a YAML document

Tokens of a text, found from its columns. A block collection starts where its first entry
stands further right than what is around it, and ends where something stands further left.
Only a colon shows that what stands before it was a key, so a node that may be a key is
remembered with its place, and the tokens that announce a key are put in front of it later.
A key outside of flow collections stands on one line and is followed by its colon within
`keyReach` characters.

When a text is refused, the tokens that had been settled before are still tokens of it: all
of them up to the first one that might yet have become a key.
-/

namespace SchemaFixtures.Yaml

/-- How far the colon of a key may stand from its start. -/
def keyReach : Nat := 1024

/-- How deep flow collections may nest. -/
def flowLimit : Nat := 255

/-- The indentation around something, and whether that something is a block collection. An
entry holds the column after its own, until it turns out what stands in it. -/
structure Indent where
  around : Int
  isBlock : Bool
deriving DecidableEq, Repr

/-- A node that may turn out to be a key. -/
structure PossibleKey where
  place : Place
  /-- The number of tokens in front of it. -/
  position : Nat
  /-- Whether nothing but a key can stand there. -/
  required : Bool
deriving DecidableEq, Repr

/-- The layout as far as it has been found. -/
structure Layout where
  source : Source
  tokens : Array Token := #[]
  /-- The column of the innermost block collection. -/
  indent : Int := -1
  indents : List Indent := []
  /-- Whether a key, or an entry of a block collection, may start here. -/
  mayStartKey : Bool := true
  /-- The possible key outside of flow collections, and of each open flow collection. -/
  keys : List (Option PossibleKey) := [none]
  /-- Whether the mapping of the next pair in a flow collection is announced without its
  colon. -/
  announced : Bool := false
  /-- For each open flow sequence the depth at which a colon has opened a mapping. -/
  pairs : List (Option Nat) := []
  /-- The offset at which a colon ends a key whatever follows it. -/
  adjacent : Nat := 0

namespace Layout

/-- The number of open flow collections. -/
def depth (layout : Layout) : Nat := layout.keys.length - 1

/-- Whether a flow collection is open. -/
def inFlow (layout : Layout) : Bool := decide (0 < layout.depth)

/-- The column before which tabs do not indent. -/
def tabLimit (layout : Layout) : Nat := if layout.indents.isEmpty then 0 else layout.indent.toNat

/-- Whether a possible key has been passed by: its line has ended, or it is out of reach. -/
def hasPassed (layout : Layout) (key : PossibleKey) : Bool :=
  let place := layout.source.place
  !layout.inFlow && (key.place.line < place.line || key.place.offset + keyReach < place.offset)

/-- The tokens that are settled: no possible key stands among them. -/
def settled (layout : Layout) : List Token :=
  let isPending (key : PossibleKey) : Bool := key.required || !layout.hasPassed key
  let pending := (layout.keys.filterMap id).filter isPending
  layout.tokens.toList.take ((pending.map (·.position)).min?.getD layout.tokens.size)

end Layout

/-- A step that finds more of the layout, or refuses the text. -/
abbrev Finding := StateT Layout Option

namespace Finding

/-! ## Tokens and keys -/

/-- The source that is left. -/
def source : Finding Source := return (← get).source

/-- Goes on at another place. -/
def moveTo (source : Source) : Finding Unit := modify fun layout => { layout with source }

/-- Adds a token at the end. -/
def push (token : Token) : Finding Unit := modify fun layout =>
  { layout with tokens := layout.tokens.push token }

/-- Puts a token behind a number of others. -/
def insert (position : Nat) (token : Token) : Finding Unit := modify fun layout =>
  let tokens := layout.tokens
  { layout with tokens := (tokens.extract 0 position).push token ++ tokens.extract position }

/-- Allows or forbids that a key starts here. -/
def allowKey (mayStartKey : Bool) : Finding Unit := modify fun layout =>
  { layout with mayStartKey }

/-- Sets the possible key of the innermost flow collection, or outside of all. -/
def setKey (key? : Option PossibleKey) : Finding Unit := modify fun layout =>
  { layout with keys := key? :: layout.keys.drop 1 }

/-- The possible key of the innermost flow collection, or outside of all. -/
def possibleKey? : Finding (Option PossibleKey) := return (← get).keys.head?.join

/-- Remembers that what comes next may be a key, if one may start here. -/
def saveKey : Finding Unit := do
  let layout ← get
  if layout.mayStartKey then
    let atIndent := layout.indent == layout.source.column
    setKey (some {
      place := layout.source.place
      position := layout.tokens.size
      required := !layout.inFlow && atIndent && layout.indents.head?.any (·.isBlock) })

/-- Gives up the possible key; one that is required cannot be given up. -/
def dropKey : Finding Unit := do
  if (← possibleKey?).any (·.required) then failure
  setKey none

/-- Gives up a possible key that has been passed by. -/
def dropPassedKey : Finding Unit := do
  let layout ← get
  if (← possibleKey?).any layout.hasPassed then dropKey

/-! ## Indentation -/

/-- Starts a block collection in a column, unless that is the column of the one around.
Its first token goes to a position, or to the end. -/
def indentTo (column : Nat) (position? : Option Nat) (token : Token) : Finding Unit := do
  unless (← get).inFlow do
    modify fun layout =>
      match layout.indents with
      | last :: rest =>
        if !last.isBlock && decide (layout.indent ≤ column) then
          { layout with indent := last.around, indents := rest }
        else layout
      | [] => layout
    if (← get).indent < column then
      modify fun layout => { layout with
        indent := column
        indents := ⟨layout.indent, true⟩ :: layout.indents }
      match position? with
      | some position => insert position token
      | none => push token

/-- Holds the column after that of the innermost block collection. -/
def holdColumn : Finding Unit := modify fun layout =>
  if !layout.inFlow && layout.indents.head?.any (·.isBlock) then
    { layout with
      indent := layout.indent + 1
      indents := ⟨layout.indent, false⟩ :: layout.indents }
  else layout

/-- The indentation that is left when all that stands right of a column has ended, and the
number of block collections among that. -/
def leftOf (column : Int) : (indent : Int) → List Indent → Int × List Indent × Nat
  | indent, [] => (indent, [], 0)
  | indent, last :: rest =>
    if column < indent then
      let (left, indents, ended) := leftOf column last.around rest
      (left, indents, if last.isBlock then ended + 1 else ended)
    else (indent, last :: rest, 0)

/-- Ends the block collections right of a column. -/
def unindentTo (column : Int) : Finding Unit := modify fun layout =>
  if layout.inFlow then layout
  else
    let (indent, indents, ended) := leftOf column layout.indent layout.indents
    let tokens := layout.tokens ++ Array.replicate ended Token.blockEnd
    { layout with indent, indents, tokens }

/-- Releases a column that is held. -/
def releaseColumn : Finding Unit := modify fun layout =>
  match layout.indents with
  | last :: _ => if last.isBlock then layout else
    let held := layout.indents.takeWhile (!·.isBlock)
    { layout with
      indent := (held.getLast?.map (·.around)).getD layout.indent
      indents := layout.indents.dropWhile (!·.isBlock) }
  | [] => layout

/-! ## Separation -/

/-- Passes over blanks, comments and line ends. A key may start on a new line. -/
def separate : Finding Unit := do
  let layout ← get
  match layout.source.separate? layout.tabLimit with
  | some (crossed, source) =>
    moveTo source
    if crossed && !layout.inFlow then allowKey true
  | none => failure

/-- Passes over blanks and a comment; gives the blanks. -/
def finishLine : Finding (List Char) := do
  match (← source).finishLine? with
  | some (blanks, rest) =>
    moveTo rest
    return blanks
  | none => failure

/-- Takes a piece of text. -/
def take {α : Type} (scan : Source → Option (α × Source)) : Finding α := do
  match scan (← source) with
  | some (found, rest) =>
    moveTo rest
    return found
  | none => failure

/-! ## Documents -/

/-- Ends all that is open before a directive or the mark of a document. -/
def endDocument : Finding Unit := do
  unindentTo (-1)
  dropKey
  allowKey false

/-- A directive. -/
def directive : Finding Unit := do
  endDocument
  match ← take directive? with
  | .version => push .version
  | .handle name stem => push (.handle name stem)
  | .reserved => push .reserved

/-- The mark of a document's start or end; no flow collection is open there. Nothing stands
on the line after the mark of an end. -/
def documentMark (token : Token) : Finding Unit := do
  if (← get).inFlow then failure
  endDocument
  moveTo ((← source).skip 3)
  push token
  if token == .documentEnd then
    let _ ← finishLine
    unless (← source).endsLine do failure

/-- The end of the text; no flow collection is open there. -/
def streamEnd : Finding Unit := do
  if (← get).inFlow then failure
  dropKey
  endDocument
  push .streamEnd

/-! ## Flow collections -/

/-- The start of a flow collection. -/
def flowStart (token : Token) : Finding Unit := do
  saveKey
  holdColumn
  if flowLimit ≤ (← get).depth then failure
  modify fun layout => { layout with keys := none :: layout.keys, mayStartKey := true }
  moveTo (← source).advance
  if token == .flowMappingStart then
    modify fun layout => { layout with announced := true }
  else
    modify fun layout => { layout with pairs := none :: layout.pairs }
  let _ ← finishLine
  push token

/-- Ends the mapping that a colon has opened in a flow sequence of a depth. -/
def endPair (depth : Nat) : Finding Unit := do
  match (← get).pairs with
  | some opened :: rest =>
    if opened = depth then
      modify fun layout => { layout with announced := false, pairs := none :: rest }
      push .flowMappingEnd
  | _ => return ()

/-- The end of a flow collection. A colon right after one may end a key. -/
def flowEnd (token : Token) : Finding Unit := do
  let depth := (← get).depth
  if depth = 0 then failure
  dropKey
  if token == .flowSequenceEnd then
    endPair depth
    modify fun layout => { layout with pairs := layout.pairs.drop 1 }
  modify fun layout => { layout with keys := layout.keys.drop 1, mayStartKey := false }
  moveTo (← source).advance
  let _ ← finishLine
  if (← get).inFlow then
    modify fun layout => { layout with adjacent := layout.source.place.offset }
  push token

/-- The comma between the items of a flow collection. -/
def flowEntry : Finding Unit := do
  dropKey
  allowKey true
  endPair (← get).depth
  moveTo (← source).advance
  let _ ← finishLine
  push .flowEntry

/-! ## Entries -/

/-- The hyphen of an item. -/
def blockEntry : Finding Unit := do
  let layout ← get
  if layout.inFlow || !layout.mayStartKey then failure
  let column := layout.source.column
  moveTo layout.source.advance
  indentTo column none .blockSequenceStart
  let blanks ← finishLine
  let rest ← source
  if blanks.contains '\t' && rest.startsMark '-' then failure
  if rest.first?.any fun c => c == '\n' || isFlowMark c then holdColumn
  dropKey
  allowKey true
  push .blockEntry

/-- The source after the blanks, comments and line ends behind the mark of a key, in at
most the given number of steps, and whether there was more than comments. Tabs are none of
them. -/
def afterKeyMark : (steps : Nat) → (found : Bool) → Source → Bool × Source
  | 0, found, source => (found, source)
  | steps + 1, found, source =>
    match source.first? with
    | some ' ' => afterKeyMark steps true source.advance
    | some '\n' => afterKeyMark steps true source.advance
    | some '#' => afterKeyMark steps found source.skipLine
    | _ => (found, source)

/-- The mark of a key that is written as such. -/
def keyMark : Finding Unit := do
  let layout ← get
  if layout.inFlow then
    modify fun layout => { layout with announced := true }
  else
    if !layout.mayStartKey then failure
    indentTo layout.source.column none .blockMappingStart
  dropKey
  allowKey (!layout.inFlow)
  let (found, rest) := afterKeyMark layout.source.rest.length false layout.source.advance
  if !found || rest.first? == some '\t' then failure
  moveTo rest
  push .key

/-- The colon of a value. What stands in front of it is a key if it may be one; else the
key is written as such, or is left out. -/
def valueMark : Finding Unit := do
  let layout ← get
  let key? ← possibleKey?
  let opensPair := !layout.pairs.isEmpty && !layout.announced
  if opensPair then
    modify fun layout => { layout with pairs := some layout.depth :: layout.pairs.drop 1 }
  moveTo layout.source.advance
  if (← source).first? == some '\t' then
    let blanks ← finishLine
    let startsWord := (← source).first?.any isHandlePart
    if !blanks.contains ' ' && startsWord then failure
  match key? with
  | some key =>
    insert key.position .key
    if opensPair then
      if key.place.line < layout.source.place.line then failure
      insert key.position .flowMappingStart
    indentTo key.place.column (some key.position) .blockMappingStart
    holdColumn
    setKey none
    allowKey false
  | none =>
    if opensPair then push .flowMappingStart
    unless layout.inFlow do
      if !layout.mayStartKey then failure
      indentTo layout.source.column none .blockMappingStart
    holdColumn
    allowKey (!layout.inFlow)
  push .value

/-- A colon in a flow collection that no blank follows. Before another collection it ends
only a key right in front of it. -/
def adjacentValue : Finding Unit := do
  let layout ← get
  let next? := layout.source.rest[1]?
  let opens := next? == some '[' || next? == some '\x7b'
  if layout.source.place.offset != layout.adjacent && opens then failure
  valueMark

/-! ## Nodes -/

/-- An alias. -/
def reference : Finding Unit := do
  saveKey
  allowKey false
  push (.reference (← take anchor?))

/-- An anchor. -/
def anchor : Finding Unit := do
  saveKey
  allowKey false
  push (.anchor (← take anchor?))

/-- A tag. -/
def tag : Finding Unit := do
  saveKey
  allowKey false
  let ⟨handle, suffix⟩ ← take (tag? (← get).inFlow)
  push (.tag handle suffix)

/-- A block scalar. -/
def blockScalar (isLiteral : Bool) : Finding Unit := do
  saveKey
  allowKey true
  releaseColumn
  let text ← take (blockScalar? isLiteral (← get).indent)
  push (.scalar false (String.ofList text))

/-- A quoted scalar. A colon right after one may end a key. -/
def quotedScalar (quote : Char) : Finding Unit := do
  saveKey
  allowKey false
  let layout ← get
  let text ← take (quotedScalar? quote layout.inFlow layout.indent)
  separate
  modify fun layout => { layout with adjacent := layout.source.place.offset }
  push (.scalar false (String.ofList text))

/-- A plain scalar. A key may start after the line end behind it. -/
def plainScalar : Finding Unit := do
  saveKey
  allowKey false
  releaseColumn
  let layout ← get
  let text ← take (plainScalar? layout.inFlow (layout.indent + 1).toNat)
  if (← source).fresh then allowKey true
  push (.scalar true (String.ofList text))

/-! ## The whole text -/

/-- What a token starts with decides over it. -/
def content (c : Char) : Finding Unit := do
  let layout ← get
  let rest := layout.source.rest.drop 1
  let beforeBlank := startsBlank rest
  let beforeFlow := rest.head?.any isFlowMark
  let isAdjacent := layout.source.place.offset == layout.adjacent
  if layout.source.column < layout.indent then failure
  else if c == '[' then flowStart .flowSequenceStart
  else if c == '\x7b' then flowStart .flowMappingStart
  else if c == ']' then flowEnd .flowSequenceEnd
  else if c == '\x7d' then flowEnd .flowMappingEnd
  else if c == ',' then flowEntry
  else if c == '-' && beforeBlank then blockEntry
  else if c == '?' && beforeBlank then keyMark
  else if c == ':' && beforeBlank then valueMark
  else if c == ':' && layout.inFlow && (beforeFlow || isAdjacent) then adjacentValue
  else if c == '*' then reference
  else if c == '&' then anchor
  else if c == '!' then tag
  else if c == '|' && !layout.inFlow then blockScalar true
  else if c == '>' && !layout.inFlow then blockScalar false
  else if c == '\'' || c == '"' then quotedScalar c
  else if c == '%' || c == '@' || c == '\x60' then failure
  else plainScalar

/-- Finds the next token, and what has to stand in front of it. -/
def next : Finding Unit := do
  separate
  dropPassedKey
  let source ← source
  unindentTo source.column
  match source.first? with
  | none => streamEnd
  | some c =>
    if source.column == 0 && c == '%' then directive
    else if source.column == 0 && source.startsTriple '-' then documentMark .documentStart
    else if source.column == 0 && source.startsTriple '.' then documentMark .documentEnd
    else content c

end Finding

/-- The settled tokens of a layout, found in at most the given number of further steps. -/
def Layout.tokensWithin : (steps : Nat) → Layout → List Token
  | 0, layout => layout.settled
  | steps + 1, layout =>
    match Finding.next.run layout with
    | none => layout.settled
    | some (_, found) =>
      if found.tokens.back? == some .streamEnd then found.tokens.toList
      else found.tokensWithin steps

/-- The tokens of a source. They end with `streamEnd` unless the text is refused; every
step takes a character at least. -/
def tokens (source : Source) : List Token :=
  Layout.tokensWithin (source.rest.length + 2) { source }

end SchemaFixtures.Yaml
