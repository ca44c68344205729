import SchemaFixtures.Fixture.Write

/-!
# Private trees

A fixture without cells: a tree in which a field holds its value or the default that will
give it. Reading a field whose value is not held evaluates the default anew, for this read
alone. Nothing refers to anything else, so a copy of a tree is the tree, and a write makes
another tree and leaves all others as they are.
-/

namespace SchemaFixtures.Fixture

mutual

/-- A fixture that shares nothing. -/
inductive Tree where
  | absent
  | null
  | boolean (value : Bool)
  | int (value : Int64)
  | float (value : Float)
  | string (text : String)
  | enum (name : String)
  | raw (source : String)
  | list (items : List Tree)
  | object (branches : List (String × Branch))

/-- A field of a tree: its value, or the default that gives it. -/
inductive Branch where
  | held (tree : Tree)
  | later (default : Default)

end

instance : Inhabited Tree := ⟨.absent⟩

mutual

/-- The tree of a JSON default. -/
def jsonTree : Json → Tree
  | .null => .null
  | .bool value => .boolean value
  | .int value => .int value
  | .float value => .float value
  | .string text => .string text
  | .array items => .list (jsonTrees items)
  | .object members => .object (Entries.ofPairs (jsonBranches members))

/-- The trees of the items of an array. -/
def jsonTrees : List Json → List Tree
  | [] => []
  | item :: rest => jsonTree item :: jsonTrees rest

/-- The branches for the members of an object. -/
def jsonBranches : List (String × Json) → List (String × Branch)
  | [] => []
  | (name, member) :: rest => (name, .held (jsonTree member)) :: jsonBranches rest

end

/-- The tree of a configured default. -/
def Literal.tree (literal : Literal) : Tree :=
  match literal.meaning with
  | .undefined => .absent
  | .quoted text => .string text
  | .json json => jsonTree json
  | .raw => .raw literal.source

/-- The tree of a default that calls no factory. -/
def Default.plainTree : Default → Tree
  | .absent => .absent
  | .emptyList => .list []
  | .emptyString => .string ""
  | .zeroInt => .int 0
  | .zeroFloat => .float 0.0
  | .false => .boolean Bool.false
  | .emptyObject => .object []
  | .literal configured => configured.tree
  | .factory _ => .absent

/-- The tree of what a factory makes that calls no other. -/
def Body.tree : Body → Tree
  | .scalar default => default.plainTree
  | .record typename fields =>
    .object <| Entries.ofPairs <|
      (typename.toList.map fun name => (typenameField, .held (.string name))) ++
        fields.map fun (name, default) => (name, .later default)
  | .union _ => .absent
  | .enum value => .enum value

/-- The tree of a default. -/
def Default.tree (registry : Registry) (default : Default) : Tree :=
  match default with
  | .factory name =>
    match registry.chain name with
    | some (.factory found) => found.body.tree
    | _ => .absent
  | other => other.plainTree

/-- The tree of a named type; none if the type has no factory. -/
def Registry.tree? (registry : Registry) (name : String) : Option Tree :=
  if registry.contains name then some ((Default.factory name).tree registry) else none

/-- The value of a field; a default is evaluated for this read alone. -/
def Branch.tree (registry : Registry) : Branch → Tree
  | .held tree => tree
  | .later default => default.tree registry

/-- What an edit does to the tree at the end of a path. -/
abbrev TreeEdit (α : Type) := Tree → α × Tree

namespace Tree

variable {α : Type} (registry : Registry)

/-- Reads along a path of names. -/
def get? : List String → Tree → Option Tree
  | [], tree => some tree
  | name :: rest, .object branches =>
    match Entries.value? branches name with
    | some branch => get? rest (branch.tree registry)
    | none => none
  | _ :: _, _ => none

/-- Edits the tree at the end of a path; none if the path leads nowhere. The fields along
the path hold their values afterwards. -/
def edit (change : TreeEdit α) : List String → Tree → Option α × Tree
  | [], tree =>
    let (answer, tree) := change tree
    (some answer, tree)
  | name :: rest, .object branches =>
    match Entries.value? branches name with
    | none => (none, .object branches)
    | some branch =>
      let (answer, tree) := edit change rest (branch.tree registry)
      (answer, .object (Entries.put branches name (.held tree)))
  | _ :: _, tree => (none, tree)

/-- Puts another tree in place. -/
def assign (replacement : Tree) : TreeEdit Unit := fun _ => ((), replacement)

/-- Adds an item to a list and tells its new length; none if the tree is no list. -/
def push (item : Tree) : TreeEdit (Option Nat)
  | .list items => (some (items.length + 1), .list (items ++ [item]))
  | tree => (none, tree)

/-- Puts kept and new items in the place of a list's items and tells the new length; none
if the tree is no list. -/
def arrange (slots : List (Slot Tree)) : TreeEdit (Option Nat)
  | .list items =>
    let arranged := slots.filterMap (·.item? items)
    (some arranged.length, .list arranged)
  | tree => (none, tree)

/-- Edits one item of a list; none if the tree is no list, and no answer if the list has no
such item. -/
def editItem (index : Nat) (change : TreeEdit α) : TreeEdit (Option (Option α))
  | .list items =>
    match items[index]? with
    | none => (some none, .list items)
    | some item =>
      let (answer, item) := change item
      (some (some answer), .list (items.set index item))
  | tree => (none, tree)

/-- Puts a tree into a field of an object; tells whether the tree is an object. -/
def setField (name : String) (content : Tree) : TreeEdit Bool
  | .object branches => (true, .object (Entries.put branches name (.held content)))
  | tree => (false, tree)

/-- Takes a field out of an object and gives its value; none if the tree is no object. -/
def removeField (name : String) : TreeEdit (Option (Option Tree))
  | .object branches =>
    (some ((Entries.value? branches name).map (·.tree registry)),
      .object (Entries.remove branches name))
  | tree => (none, tree)

/-- The text of a string. -/
def string? : Tree → Option String
  | string text => some text
  | _ => none

/-- The name of the type that an object states, if it states one. -/
def typename? (branches : Entries Branch) : Option String :=
  (branches.value? typenameField).bind fun branch => (branch.tree registry).string?

/-- The items of a list. -/
def items? : Tree → Option (List Tree)
  | list items => some items
  | _ => none

/-- Whether there is no value. -/
def isAbsent : Tree → Bool
  | absent => true
  | _ => false

end Tree

mutual

/-- Converts a tree, given how its objects are converted. -/
def treeJsonWith (convertObject : Entries Branch → Json) : Tree → Json
  | .absent => .null
  | .null => .null
  | .boolean value => .bool value
  | .int value => .int value
  | .float value => .float value
  | .string text => .string text
  | .enum name => .string name
  | .raw source => .string source
  | .list items => .array (treeJsonItems convertObject items)
  | .object branches => convertObject branches

/-- Converts the items of a list. -/
def treeJsonItems (convertObject : Entries Branch → Json) : List Tree → List Json
  | [] => []
  | item :: rest => treeJsonWith convertObject item :: treeJsonItems convertObject rest

end

/-- Converts an object whose nested objects are read to the given depth. An object that is
not read any further keeps the name of its type. -/
def treeJsonObject (registry : Registry) : (depth : Nat) → Entries Branch → Json
  | 0, branches =>
    .object ((Tree.typename? registry branches).toList.map fun name =>
      (typenameField, .string name))
  | depth + 1, branches =>
    .object <| branches.filterMap fun (name, branch) =>
      let tree := branch.tree registry
      if tree.isAbsent then none
      else some (name, treeJsonWith (treeJsonObject registry depth) tree)

/-- The JSON of a tree to a depth. -/
def Tree.materialize (registry : Registry) (depth : Nat) (tree : Tree) : Json :=
  treeJsonWith (treeJsonObject registry depth) tree

end SchemaFixtures.Fixture
