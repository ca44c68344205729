import SchemaFixtures.Yaml.Node
import SchemaFixtures.Yaml.Token

/-!
# Nodes from the tokens of a YAML document

A reader takes tokens from the front or refuses them. An anchor names a node, and an alias
further down stands for the same node, but not inside of it. Where nothing is written for a
part of a collection an empty node stands.

The work that aliases ask for is bounded: collections nest at most `depthLimit` deep, what
all aliases stand for has at most `replayLimit` parts, and from `aliasCount` aliases on
there are at most `aliasRatio` of them for each anchor. Every reader takes a token before
it calls another one, so the number of tokens bounds the steps.
-/

namespace SchemaFixtures.Yaml

/-- How deep collections may nest. -/
def depthLimit : Nat := 2000

/-- How many parts all that aliases stand for may have. -/
def replayLimit : Nat := 1000000

/-- The number of aliases from which on they are compared with the anchors. -/
def aliasCount : Nat := 100

/-- How many aliases there may be for each anchor. -/
def aliasRatio : Nat := 10

/-- A node and the number of its parts: scalars, and the two ends of collections. -/
structure Sized where
  node : Node
  size : Nat

/-- The sizes of nodes together. -/
def totalSize (nodes : List Sized) : Nat := nodes.foldr (fun node total => node.size + total) 0

/-- A sequence of nodes. -/
def Sized.sequence (items : List Sized) : Sized :=
  ⟨.sequence (items.map (·.node)), totalSize items + 2⟩

/-- A mapping of pairs of nodes. -/
def Sized.mapping (pairs : List (Sized × Sized)) : Sized :=
  ⟨.mapping (pairs.map fun (key, value) => (key.node, value.node)),
    totalSize (pairs.map (·.1)) + totalSize (pairs.map (·.2)) + 2⟩

/-- The empty node. -/
def Sized.empty : Sized := ⟨.empty, 1⟩

/-- An anchor, and its node once that has been read. -/
structure Anchored where
  name : String
  node? : Option Sized := none

/-- The tokens that are left, and what has been met before. -/
structure Composition where
  tokens : List Token
  /-- What handles of tags stand for. -/
  handles : Entries String := []
  anchors : Array Anchored := #[]
  /-- The number of aliases, and the number of parts that they stand for. -/
  aliases : Nat := 0
  replayed : Nat := 0

/-- A step of reading: it takes tokens from the front or refuses the text. -/
abbrev Composer := StateT Composition Option

namespace Composer

/-- The next token; the text is refused where there is none. -/
def peek : Composer Token := do
  match (← get).tokens with
  | token :: _ => return token
  | [] => failure

/-- Passes over the next token. -/
def advance : Composer Unit := modify fun state => { state with tokens := state.tokens.drop 1 }

/-! ## Properties of nodes -/

/-- The properties in front of a node: what its tag says, and the number of its anchor. -/
structure Properties where
  marking? : Option Marking := none
  anchor? : Option Nat := none

/-- An anchor in front of a node, if one is next. -/
def takeAnchor (found : Properties) : Composer Properties := do
  match ← peek with
  | .anchor name =>
    advance
    let count := (← get).anchors.size
    modify fun state => { state with anchors := state.anchors.push { name } }
    return { found with anchor? := some count }
  | _ => return found

/-- A tag in front of a node, if one is next. -/
def takeTag (found : Properties) : Composer Properties := do
  match ← peek with
  | .tag handle suffix =>
    advance
    match WrittenTag.marking? (← get).handles ⟨handle, suffix⟩ with
    | some marking => return { found with marking? := some marking }
    | none => failure
  | _ => return found

/-- The properties in front of a node: an anchor and a tag in either order, each at most
once. -/
def properties : Composer Properties := do
  let first ← takeAnchor {}
  if first.anchor?.isSome then takeTag first
  else
    let second ← takeTag first
    if second.marking?.isSome then takeAnchor second else return second

/-- Lets the anchor of a node stand for it from here on. -/
def named (found : Properties) (node : Sized) : Composer Sized := do
  if let some number := found.anchor? then
    modify fun state => { state with
      anchors := state.anchors.modify number fun anchor => { anchor with node? := some node } }
  return node

/-- A scalar with its properties. -/
def scalar (found : Properties) (plain : Bool) (text : String) : Composer Sized :=
  named found ⟨.scalar (found.marking?.getD .none) plain text, 1⟩

/-- The node of the last anchor of a name; it has to end before an alias for it. -/
def reference (name : String) : Composer Sized := do
  let state ← get
  match (state.anchors.toList.reverse.find? (·.name == name)).bind (·.node?) with
  | none => failure
  | some node =>
    let replayed := state.replayed + node.size
    if replayLimit < replayed then failure
    set { state with aliases := state.aliases + 1, replayed }
    return node

/-! ## Nodes -/

mutual

/-- A node inside `depth` collections. Block collections, and sequences without a start of
their own, are admitted where it is said. -/
def node (block indentless : Bool) (depth : Nat) : (steps : Nat) → Composer Sized
  | 0 => failure
  | steps + 1 => do
    let collection (found : Properties) (read : Composer Sized) : Composer Sized := do
      if depthLimit ≤ depth then failure
      let node ← read
      named found node
    match ← peek with
    | .reference name =>
      advance
      reference name
    | _ =>
      let found ← properties
      match ← peek with
      | .scalar plain text =>
        advance
        scalar found plain text
      | .flowSequenceStart =>
        advance
        collection found do return .sequence (← flowItems true (depth + 1) steps)
      | .flowMappingStart =>
        advance
        collection found do return .mapping (← flowPairs true (depth + 1) steps)
      | .blockSequenceStart =>
        if !block then failure
        advance
        collection found do return .sequence (← blockItems (depth + 1) steps)
      | .blockMappingStart =>
        if !block then failure
        advance
        collection found do return .mapping (← blockPairs (depth + 1) steps)
      | .blockEntry =>
        if indentless then
          collection found do return .sequence (← indentlessItems (depth + 1) steps)
        else if found.marking?.isSome || found.anchor?.isSome then scalar found true ""
        else failure
      | _ =>
        if found.marking?.isSome || found.anchor?.isSome then scalar found true ""
        else failure
termination_by structural steps => steps

/-- The items of a block sequence up to its end. -/
def blockItems (depth : Nat) : (steps : Nat) → Composer (List Sized)
  | 0 => failure
  | steps + 1 => do
    match ← peek with
    | .blockEnd =>
      advance
      return []
    | .blockEntry =>
      advance
      let next ← peek
      let item ←
        if next == .blockEntry || next == .blockEnd then pure Sized.empty
        else node true false depth steps
      let others ← blockItems depth steps
      return item :: others
    | _ => failure
termination_by structural steps => steps

/-- The items of a sequence that starts in the column of its key; something other than an
item ends it. -/
def indentlessItems (depth : Nat) : (steps : Nat) → Composer (List Sized)
  | 0 => failure
  | steps + 1 => do
    if (← peek) != .blockEntry then return []
    advance
    let next ← peek
    let item ←
      if next == .blockEntry || next.endsBlockPart then pure Sized.empty
      else node true false depth steps
    let others ← indentlessItems depth steps
    return item :: others
termination_by structural steps => steps

/-- A key or a value of a block mapping after its mark. -/
def blockPart (depth : Nat) : (steps : Nat) → Composer Sized
  | 0 => failure
  | steps + 1 => do
    advance
    if (← peek).endsBlockPart then return .empty else node true true depth steps
termination_by structural steps => steps

/-- The pairs of a block mapping up to its end. -/
def blockPairs (depth : Nat) : (steps : Nat) → Composer (List (Sized × Sized))
  | 0 => failure
  | steps + 1 => do
    match ← peek with
    | .blockEnd =>
      advance
      return []
    | .key =>
      let key ← blockPart depth steps
      let value ← if (← peek) == .value then blockPart depth steps else pure Sized.empty
      let others ← blockPairs depth steps
      return (key, value) :: others
    | .value =>
      let value ← blockPart depth steps
      let others ← blockPairs depth steps
      return (.empty, value) :: others
    | _ => failure
termination_by structural steps => steps

/-- A key or a value in a flow collection after its mark; nothing is written for it before
the tokens that end it. -/
def flowPart (ends : Token → Bool) (depth : Nat) : (steps : Nat) → Composer Sized
  | 0 => failure
  | steps + 1 => do
    advance
    if ends (← peek) then return .empty else node false false depth steps
termination_by structural steps => steps

/-- The pairs of a flow mapping up to its end. A comma stands before each but the first. -/
def flowPairs (first : Bool) (depth : Nat) : (steps : Nat) → Composer (List (Sized × Sized))
  | 0 => failure
  | steps + 1 => do
    if !first && (← peek) != .flowMappingEnd then
      if (← peek) != .flowEntry then failure
      advance
    match ← peek with
    | .flowMappingEnd =>
      advance
      return []
    | .key =>
      let endsKey (token : Token) : Bool := token == .value || token.endsFlowPart
      let key ← flowPart endsKey depth steps
      let value ←
        if (← peek) == .value then flowPart Token.endsFlowPart depth steps else pure Sized.empty
      let others ← flowPairs false depth steps
      return (key, value) :: others
    | .value =>
      let value ← flowPart Token.endsFlowPart depth steps
      let others ← flowPairs false depth steps
      return (.empty, value) :: others
    | _ =>
      let key ← node false false depth steps
      let others ← flowPairs false depth steps
      return (key, .empty) :: others
termination_by structural steps => steps

/-- The items of a flow sequence up to its end. A comma stands before each but the first;
an item may be a single pair. -/
def flowItems (first : Bool) (depth : Nat) : (steps : Nat) → Composer (List Sized)
  | 0 => failure
  | steps + 1 => do
    if !first && (← peek) != .flowSequenceEnd then
      if (← peek) != .flowEntry then failure
      advance
    match ← peek with
    | .flowSequenceEnd =>
      advance
      return []
    | .key =>
      if depthLimit ≤ depth then failure
      let endsKey (token : Token) : Bool := token == .value || token.endsFlowItem
      let key ← flowPart endsKey (depth + 1) steps
      let value ←
        if (← peek) == .value then flowPart Token.endsFlowItem (depth + 1) steps
        else pure Sized.empty
      let others ← flowItems false depth steps
      return .mapping [(key, value)] :: others
    | _ =>
      let item ← node false false depth steps
      let others ← flowItems false depth steps
      return item :: others
termination_by structural steps => steps

end

/-! ## Documents -/

/-- Directives: one version at most, and each handle at most once. -/
def directives : (count : Nat) → (versioned : Bool) → Composer Unit
  | 0, _ => failure
  | count + 1, versioned => do
    match ← peek with
    | .version =>
      if versioned then failure
      advance
      directives count true
    | .handle name stem =>
      if ((← get).handles.value? name).isSome then failure
      modify fun state => { state with handles := state.handles.put name stem }
      advance
      directives count versioned
    | .reserved =>
      advance
      directives count versioned
    | _ => return ()

/-- Passes over marks of documents' ends, at most the given number. -/
def skipEnds : (count : Nat) → Composer Unit
  | 0 => return ()
  | count + 1 => do
    if (← peek) == .documentEnd then
      advance
      skipEnds count

/-- The root of a document, if there is a document. A document with directives has a mark
in front of it. -/
def root : Composer Node := do
  let steps := 2 * (← get).tokens.length + 2
  skipEnds steps
  let next ← peek
  if next == .streamEnd then return .empty
  else if next.isDirective || next == .documentStart then
    directives steps false
    if (← peek) != .documentStart then failure
    advance
    let next ← peek
    let isEmpty := next.isDirective || next == .documentStart || next == .documentEnd
    if isEmpty || next == .streamEnd then return .empty
    else return (← node true false 0 steps).node
  else return (← node true false 0 steps).node

/-- Whether another document follows, after the mark of an end or without one. Where what
follows is refused it is no document. -/
def anotherFollows (marked : Bool) : Composer Bool := fun state =>
  let afterEnds := skipEnds state.tokens.length
  let start : Composer Bool := do
    afterEnds
    let next ← peek
    if next == .streamEnd then return false
    else if next.isDirective || next == .documentStart then
      modify fun state => { state with handles := [] }
      directives (state.tokens.length + 1) false
      return (← peek) == .documentStart
    else return marked
  match start.run state with
  | some (found, _) => some (found, state)
  | none => some (false, state)

/-- The node of a text that is one document. -/
def document : Composer Node := do
  let node ← root
  let next ← peek
  if next.isDirective then failure
  let marked := next == .documentEnd
  if marked then advance
  if ← anotherFollows marked then failure
  let state ← get
  if aliasCount ≤ state.aliases && aliasRatio * state.anchors.size < state.aliases then failure
  return node

end Composer

/-- The node of tokens. -/
def Node.ofTokens? (tokens : List Token) : Option Node :=
  (Composer.document.run { tokens }).map (·.1)

end SchemaFixtures.Yaml
