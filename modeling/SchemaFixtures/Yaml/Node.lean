import SchemaFixtures.Text.Base64
import SchemaFixtures.Yaml.Plain
import SchemaFixtures.Yaml.Tag

/-!
# Nodes of a YAML document

A node is a scalar, a sequence or a mapping; what an alias stands for is a node like any
other. Only a scalar keeps what its tag says. As JSON a mapping needs keys that are text,
each of them once. A merge key brings in the members of other mappings behind its own,
where their keys are new: those of a later merge key come first, and so do those of a later
mapping in a sequence.
-/

namespace SchemaFixtures.Yaml

/-- A node. -/
inductive Node where
  | scalar (marking : Marking) (plain : Bool) (text : String)
  | sequence (items : List Node)
  | mapping (pairs : List (Node × Node))

namespace Node

/-- The node that stands where nothing is written. -/
def empty : Node := .scalar .none true ""

/-- Whether a node is a scalar that stands for null. -/
def isNull : Node → Bool
  | scalar marking plain text => marking == .null || (plain && Yaml.isNull text.toList)
  | _ => false

/-- Whether a key asks for the members of other mappings. -/
def isMergeKey : Node → Bool
  | scalar .none true "<<" => true
  | _ => false

end Node

/-! ## Scalars -/

/-- The text of a scalar that is text, or may be taken for it. -/
def scalarText? (marking : Marking) (text : String) : Option String :=
  match marking with
  | .none => some text
  | .text => some text
  | .unspecific => some text
  | .other => some text
  | .binary => Text.Base64.text? (text.toList.filter (!Text.isBlank ·))
  | _ => none

/-- What a scalar stands for. Only a plain one without a tag is anything but null or
text. -/
def scalarJson? (marking : Marking) (plain : Bool) (text : String) : Option Json :=
  if (Node.scalar marking plain text).isNull then some .null
  else if plain && marking == .none then some (plainJson text.toList)
  else (scalarText? marking text).map .string

/-! ## Members -/

/-- What makes two keys the same: what is written, and what the tag says. -/
abbrev Key := Marking × String

/-- A member of a mapping. A key that is no text and a value that is none are refused where
the member counts. -/
structure Member where
  key? : Option Key
  value? : Option Json

/-- The key of a node. -/
def Node.key? (node : Node) : Option Key :=
  match node with
  | scalar marking _ text =>
    if node.isNull || (scalarText? marking text).isNone then .none else some (marking, text)
  | _ => .none

/-- The name of a key in JSON. -/
def keyName? (key : Key) : Option String := scalarText? key.1 key.2

/-- The members of a mapping in order, and the members that each merge key brings in. -/
structure Members where
  own : List Member := []
  merged : List (List Member) := []

namespace Members

/-- The members that a mapping brings into another one. -/
def all (members : Members) : List Member := members.own ++ members.merged.reverse.flatten

/-- Puts members into an object, given the keys that have been met. A key that has been met
is passed over, or refused. -/
def putAll? (passesOver : Bool) : (seen : List Key) → Entries Json → List Member →
    Option (List Key × Entries Json)
  | seen, entries, [] => some (seen, entries)
  | seen, entries, member :: rest => do
    let key ← member.key?
    if seen.contains key then
      if passesOver then putAll? passesOver seen entries rest else none
    else
      let name ← keyName? key
      putAll? passesOver (key :: seen) (entries.put name (← member.value?)) rest

/-- The JSON object of the members. -/
def json? (members : Members) : Option Json := do
  let (seen, own) ← putAll? false [] [] members.own
  let (_, entries) ← putAll? true seen own members.merged.reverse.flatten
  return .object entries

end Members

/-- What a node stands for, and the members that it brings in behind a merge key. -/
structure Meaning where
  json? : Option Json
  merged? : Option (List Member)

mutual

/-- What a node stands for. -/
def Node.meaning (node : Node) : Meaning :=
  match node with
  | .scalar marking plain text =>
    { json? := scalarJson? marking plain text
      merged? := if (Node.scalar marking plain text).isNull then some [] else none }
  | .sequence items =>
    let found := meanings items
    { json? := (found.mapM Meaning.json?).map .array
      merged? := (found.mapM Meaning.merged?).map (·.reverse.flatten) }
  | .mapping pairs =>
    match members? pairs with
    | some members => { json? := members.json?, merged? := some members.all }
    | none => { json? := none, merged? := none }

/-- What items stand for. -/
def meanings : List Node → List Meaning
  | [] => []
  | item :: rest => item.meaning :: meanings rest

/-- The members of pairs; none if a merge key brings in something without members. -/
def members? : List (Node × Node) → Option Members
  | [] => some {}
  | (key, value) :: rest => do
    let meaning := value.meaning
    let others ← members? rest
    if key.isMergeKey then
      return { others with merged := (← meaning.merged?) :: others.merged }
    else
      let member := { key? := key.key?, value? := meaning.json? }
      return { others with own := member :: others.own }

end

/-- The JSON value of a node. -/
def Node.json? (node : Node) : Option Json := node.meaning.json?

end SchemaFixtures.Yaml
