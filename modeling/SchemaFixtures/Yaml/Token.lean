/-!
# Tokens of a YAML document

What a text of YAML is made of once columns no longer matter: where documents and
collections start and end, the marks between their parts, and the names and texts of
nodes. A block collection has its start and its end marked like a flow collection.
-/

namespace SchemaFixtures.Yaml

/-- A lexical unit. -/
inductive Token where
  | version
  | handle (name stem : String)
  | reserved
  | documentStart
  | documentEnd
  | blockSequenceStart
  | blockMappingStart
  | blockEnd
  | flowSequenceStart
  | flowSequenceEnd
  | flowMappingStart
  | flowMappingEnd
  | blockEntry
  | flowEntry
  | key
  | value
  | reference (name : String)
  | anchor (name : String)
  | tag (handle suffix : String)
  | scalar (plain : Bool) (text : String)
  | streamEnd
deriving DecidableEq, Repr

namespace Token

/-- Whether the token is a directive. -/
def isDirective : Token → Bool
  | version => true
  | handle _ _ => true
  | reserved => true
  | _ => false

/-- Whether the token is an anchor or a tag. -/
def isProperty : Token → Bool
  | anchor _ => true
  | tag _ _ => true
  | _ => false

/-- Whether nothing is written for a key or a value of a block mapping before the token. -/
def endsBlockPart : Token → Bool
  | key => true
  | value => true
  | blockEnd => true
  | _ => false

/-- Whether nothing is written for a value of a flow mapping before the token. -/
def endsFlowPart : Token → Bool
  | flowEntry => true
  | flowMappingEnd => true
  | _ => false

/-- Whether nothing is written for a value of a pair in a flow sequence before the token. -/
def endsFlowItem : Token → Bool
  | flowEntry => true
  | flowSequenceEnd => true
  | _ => false

end Token

end SchemaFixtures.Yaml
