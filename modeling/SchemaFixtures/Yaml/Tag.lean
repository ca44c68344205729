import SchemaFixtures.Entries
import SchemaFixtures.Text.CodePoint
import SchemaFixtures.Yaml.Source

/-!
# Anchors, tags and directives of YAML

An anchor or an alias is a mark and a name. A tag is written as a handle and a suffix, or in
full between angle brackets; the handle stands for the start of the tag, which is settled
by a directive or else is the handle itself. Of the tags that are known by name some decide
what a scalar stands for.
-/

namespace SchemaFixtures.Yaml

/-! ## Names -/

/-- Whether a handle or the name of a directive goes on with the character. -/
def isHandlePart (c : Char) : Bool := c.isAlphanum || c == '_' || c == '-'

/-- Whether a full tag goes on with the character. -/
def isTagPart (c : Char) : Bool := isHandlePart c || "#;/?:@&=+$,.!~*'()[]%".toList.contains c

/-- Whether the suffix of a tag goes on with the character. -/
def isSuffixPart (c : Char) : Bool := isTagPart c && !isFlowMark c && c != '!'

/-- Whether an anchor or an alias goes on with the character. -/
def isAnchorPart (c : Char) : Bool := !isBlank c && c != '\n' && c != '\ufeff' && !isFlowMark c

/-- The name of an anchor or an alias, from its mark on, and the source after it. -/
def anchor? (source : Source) : Option (String × Source) :=
  let (name, rest) := source.advance.span isAnchorPart
  if name.isEmpty then none else some (String.ofList name, rest)

/-! ## Tags as they are written -/

/-- The number of bytes of a character whose first byte is given. -/
def byteCount? (first : Nat) : Option Nat :=
  if first < 0x80 then some 1
  else if first / 0x20 = 6 then some 2
  else if first / 0x10 = 14 then some 3
  else if first / 8 = 30 then some 4
  else none

/-- The byte that a percent sign and two digits stand for. -/
def escapedByte? : List Char → Option Nat
  | '%' :: a :: b :: _ => Text.hexNumber? [a, b]
  | _ => none

/-- The number that the later bytes of an escaped character make with the first ones. -/
def escapedRest? : (bytes number : Nat) → List Char → Option Nat
  | 0, number, _ => some number
  | bytes + 1, number, text => do
    let byte ← escapedByte? text
    if byte / 0x40 = 2 then escapedRest? bytes (0x100 * number + byte) (text.drop 3) else none

/-- The character that percent signs and digits at the front of a text stand for, and the
number of characters that they take. All its bytes together are its code. -/
def escapedCharacter? (text : List Char) : Option (Char × Nat) := do
  let first ← escapedByte? text
  let count ← byteCount? first
  let number ← escapedRest? (count - 1) first (text.drop 3)
  return (← Text.character? number, 3 * count)

/-- A run of a tag in at most the given number of characters, and the source after it. -/
def tagRun? (belongs : Char → Bool) : (count : Nat) → Source → Option (List Char × Source)
  | 0, source => some ([], source)
  | count + 1, source =>
    match source.first? with
    | none => some ([], source)
    | some c =>
      if !belongs c then some ([], source)
      else do
        let (character, size) ← if c == '%' then escapedCharacter? source.rest else some (c, 1)
        let (more, after) ← tagRun? belongs count (source.skip size)
        return (character :: more, after)

/-- A run of a tag and the source after it. -/
def tagText? (belongs : Char → Bool) (source : Source) : Option (List Char × Source) :=
  tagRun? belongs source.rest.length source

/-- A handle from its first mark on, and the source after it; the second mark may be
missing. -/
def handle? (source : Source) : Option (List Char × Source) :=
  if source.first? != some '!' then none
  else
    let (name, rest) := source.advance.span isHandlePart
    if rest.first? == some '!' then some ('!' :: name ++ ['!'], rest.advance)
    else some ('!' :: name, rest)

/-- A tag as it is written. -/
structure WrittenTag where
  handle : String
  suffix : String
deriving DecidableEq, Repr

/-- A tag in full, between angle brackets. -/
def fullTag? (source : Source) : Option (WrittenTag × Source) := do
  let (text, rest) ← tagText? isTagPart (source.skip 2)
  if rest.first? == some '>' then return (⟨"", String.ofList text⟩, rest.advance) else none

/-- A tag of a handle and a suffix. A single mark alone is a tag of its own. -/
def shortTag? (source : Source) : Option (WrittenTag × Source) := do
  let (handle, afterHandle) ← handle? source
  let isHandle := 2 ≤ handle.length && handle.getLast? == some '!'
  let (more, rest) ← tagText? isSuffixPart afterHandle
  if isHandle then
    if more.isEmpty then none else return (⟨String.ofList handle, String.ofList more⟩, rest)
  else
    let suffix := handle.drop 1 ++ more
    if suffix.isEmpty then return (⟨"", "!"⟩, rest)
    else return (⟨"!", String.ofList suffix⟩, rest)

/-- A tag from its first mark on, and the source after it. A blank follows, or the mark of a
flow collection inside of one. -/
def tag? (flow : Bool) (source : Source) : Option (WrittenTag × Source) := do
  let isFull := source.rest[1]? == some '<'
  let (tag, rest) ← if isFull then fullTag? source else shortTag? source
  if startsBlank rest.rest || (flow && rest.first?.any isFlowMark) then return (tag, rest)
  else none

/-! ## Directives -/

/-- A directive of a document. -/
inductive Directive where
  | version
  | handle (name stem : String)
  | reserved
deriving DecidableEq, Repr

/-- A part of a version: at most nine digits, and at least one. -/
def versionPart? (source : Source) : Option Source :=
  let (digits, rest) := source.span (·.isDigit)
  if digits.isEmpty || 9 < digits.length then none else some rest

/-- A version after the name of its directive. -/
def version? (source : Source) : Option Source := do
  let rest ← versionPart? source.skipBlanks
  if rest.first? == some '.' then versionPart? rest.advance else none

/-- What a handle stands for: the start of a tag. -/
def stem? (source : Source) : Option (List Char × Source) :=
  match source.first? with
  | some '!' => do
    let (more, rest) ← tagText? isTagPart source.advance
    return ('!' :: more, rest)
  | some c => if isSuffixPart c then tagText? isTagPart source else none
  | none => none

/-- A handle and what it stands for, after the name of their directive. -/
def handleDirective? (source : Source) : Option (Directive × Source) := do
  let (handle, afterHandle) ← handle? source.skipBlanks
  if handle.getLast? == some '!' then
    let (stem, rest) ← stem? afterHandle.skipBlanks
    if startsBlank rest.rest then
      return (.handle (String.ofList handle) (String.ofList stem), rest)
    else none
  else none

/-- A directive from its mark on, and the source after its line. Directives of other names
are reserved. -/
def directive? (source : Source) : Option (Directive × Source) := do
  let (name, rest) := source.advance.span isHandlePart
  if name.isEmpty || !startsBlank rest.rest then none
  else
    let (directive, after) ←
      match String.ofList name with
      | "YAML" => (version? rest).map (Directive.version, ·)
      | "TAG" => handleDirective? rest
      | _ => some (.reserved, rest.skipLine)
    let (_, ended) ← after.finishLine?
    if ended.endsLine then return (directive, ended.advance) else none

/-! ## What tags mean -/

/-- What the tag of a scalar says about it. -/
inductive Marking where
  | none
  | null
  | bool
  | int
  | float
  | text
  | binary
  | timestamp
  | sequence
  | mapping
  | unspecific
  | other
deriving DecidableEq, Repr

/-- The start of the tags of the common schema. -/
def commonStem : String := "tag:yaml.org,2002:"

/-- The names of tags of the common schema that decide what a scalar stands for. -/
def commonMarkings : Entries Marking :=
  [("null", .null), ("bool", .bool), ("int", .int), ("float", .float), ("str", .text),
    ("binary", .binary), ("timestamp", .timestamp), ("seq", .sequence), ("map", .mapping)]

/-- What a tag says. -/
def Marking.ofTag (tag : String) : Marking :=
  if tag == "!" then .unspecific
  else ((commonMarkings.find? fun entry => commonStem ++ entry.1 == tag).map (·.2)).getD .other

/-- What a written tag says, given what handles stand for. Of the handles without a directive
two marks stand for the common schema, and one mark for itself; a named one is refused. -/
def WrittenTag.marking? (handles : Entries String) (tag : WrittenTag) : Option Marking :=
  match handles.value? tag.handle with
  | some stem => some (Marking.ofTag (stem ++ tag.suffix))
  | none =>
    if tag.handle == "!!" then some (Marking.ofTag (commonStem ++ tag.suffix))
    else if 2 ≤ tag.handle.length then none
    else some (Marking.ofTag (tag.handle ++ tag.suffix))

end SchemaFixtures.Yaml
