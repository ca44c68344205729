import SchemaFixtures.Yaml.Composition
import SchemaFixtures.Yaml.Layout

/-!
# Reading YAML

A text is one document: its layout gives tokens, the tokens make up a node, and the node
stands for a JSON value. What is refused behind the document does not matter.
-/

namespace SchemaFixtures.Yaml

/-- The node of a text. -/
def parseNode (text : List Char) : Option Node := Node.ofTokens? (tokens (sourceOf text))

/-- The JSON value of a text. -/
def parse (text : List Char) : Option Json := (parseNode text).bind (·.json?)

end SchemaFixtures.Yaml
