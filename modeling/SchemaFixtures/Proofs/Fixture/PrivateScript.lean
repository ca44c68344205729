import SchemaFixtures.Fixture.Script
import SchemaFixtures.Proofs.Fixture.Tree

/-!
# The machine that shares nothing

The operations, steps and scripts of a session, done on private trees. Every named value is
a tree of its own, copying copies the tree, and a default that is still to be evaluated is
evaluated for each read alone. There is no store: an operation on one name computes a new
tree for that name and has nothing else that it could change.

Questions whose answers exist only because values are shared get no answer here: whether a
field was evaluated already, the text that marks such fields, and whether two objects are
copies of one.
-/

namespace SchemaFixtures.Fixture

/-- The answer of the private machine to an operation. -/
inductive Reply where
  | missing
  | notObject
  | notList
  | done
  | value (found : Option Tree)
  | json (json : Json)
  | parts (tree : Tree)
  | flag (flag : Bool)
  | names (names : List String)
  | size (size : Nat)
  | length (length : Nat)
  | typename (name : Option String)
  | visited (fields : List (String × Tree))
  | unspoken

/-- The answer of the private machine to a step. -/
inductive StepReply where
  | made (tree : Option Tree)
  | produced (replies : List Reply) (tree : Option Tree)
  | operated (reply : Reply) (tree : Option Tree)
  | dropped (existed : Bool)
  | accessor (takesRecipes : Bool) (size : Nat)
  | unspoken

/-- The answer of the private machine to an instruction. -/
inductive ScriptReply where
  | step (reply : StepReply)
  | produced (replies : List ScriptReply) (tree : Option Tree)

section Contents

variable (registry : Registry) (bindings : Entries Tree)

/-- What a path finds in a named tree. -/
def treeOf (source : String) (path : List String) : Option Tree :=
  (bindings.value? source).bind (·.get? registry path)

mutual

/-- The tree of a content. A copy of nothing is no value. -/
def Content.tree : Content → Tree
  | .absent => .absent
  | .null => .null
  | .boolean value => .boolean value
  | .int value => .int value
  | .float value => .float value
  | .string text => .string text
  | .enum name => .enum name
  | .raw source => .raw source
  | .list items => .list (contentTrees items)
  | .object fields => .object (Entries.ofPairs (contentBranches fields))
  | .copy source path => (treeOf registry bindings source path).getD .absent

/-- The trees of the items of a list. -/
def contentTrees : List Content → List Tree
  | [] => []
  | item :: rest => Content.tree item :: contentTrees rest

/-- The branches of an object, each holding its tree. -/
def contentBranches : List (String × Content) → List (String × Branch)
  | [] => []
  | (name, content) :: rest => (name, .held (Content.tree content)) :: contentBranches rest

end

/-- The trees for the slots of a list. -/
def slotTree : Slot Content → Slot Tree
  | .kept index => .kept index
  | .fresh content => .fresh (content.tree registry bindings)

end Contents

/-- The reply about an object; another tree is none. -/
def aboutBranches (tree : Tree) (reply : Entries Branch → Reply) : Reply :=
  match tree with
  | .object branches => reply branches
  | _ => .notObject

/-- The reply to a question whose path leads nowhere. -/
def Reading.missingReply : Reading → Reply
  | .value => .value none
  | _ => .missing

/-- The reply to a change whose path leads nowhere. -/
def Writing.missingReply : Writing → Reply
  | .reach => .value none
  | _ => .missing

/-- The reply to a question about a tree. -/
def Reading.reply (registry : Registry) (reading : Reading) (tree : Tree) : Reply :=
  match reading with
  | .value => .value (some tree)
  | .materialize depth => .json (tree.materialize registry depth)
  | .text => .unspoken
  | .parts => .parts tree
  | .field name => aboutBranches tree fun branches =>
    .value ((branches.value? name).map (·.tree registry))
  | .isResolved _ => aboutBranches tree fun _ => .unspoken
  | .contains name => aboutBranches tree fun branches => .flag (branches.value? name).isSome
  | .names => aboutBranches tree fun branches => .names branches.names
  | .size => aboutBranches tree fun branches => .size branches.length
  | .typename => aboutBranches tree fun branches =>
    .typename (Tree.typename? registry branches)
  | .visit => aboutBranches tree fun branches =>
    .visited (branches.mapValues (·.tree registry))
  | .objectText => aboutBranches tree fun _ => .unspoken
  | .onItem index path reading =>
    match tree with
    | .list items =>
      match items[index]? with
      | none => .missing
      | some item =>
        match item.get? registry path with
        | some target => reading.reply registry target
        | none => reading.missingReply
    | _ => .notList

/-- The reply to a change of an item of a list. -/
def Writing.itemReply (writing : Writing) : Option (Option (Option Reply)) → Reply
  | none => .notList
  | some none => .missing
  | some (some reply) => reply.getD writing.missingReply

/-- The change that a writing makes to a tree. -/
def Writing.treeEdit (registry : Registry) (bindings : Entries Tree) :
    Writing → TreeEdit Reply
  | .reach => fun tree => (.value (some tree), tree)
  | .assign content => fun tree =>
    let (_, tree) := Tree.assign (content.tree registry bindings) tree
    (.done, tree)
  | .push content => fun tree =>
    let (length, tree) := Tree.push (content.tree registry bindings) tree
    ((length.map Reply.length).getD .notList, tree)
  | .set name content => fun tree =>
    let (isObject, tree) := Tree.setField name (content.tree registry bindings) tree
    (if isObject then .done else .notObject, tree)
  | .remove name => fun tree =>
    let (removed, tree) := Tree.removeField registry name tree
    ((removed.map Reply.value).getD .notObject, tree)
  | .arrange slots => fun tree =>
    let (length, tree) := Tree.arrange (slots.map (slotTree registry bindings)) tree
    ((length.map Reply.length).getD .notList, tree)
  | .onItem index path writing => fun tree =>
    let change := writing.treeEdit registry bindings
    let (found, tree) := Tree.editItem index (fun item => item.edit registry change path) tree
    (writing.itemReply found, tree)

/-- Does an operation on a tree. -/
def Operation.treeEdit (registry : Registry) (bindings : Entries Tree) :
    Operation → TreeEdit Reply
  | .read path reading => fun tree =>
    match tree.get? registry path with
    | some target => (reading.reply registry target, tree)
    | none => (reading.missingReply, tree)
  | .write path writing => fun tree =>
    let (reply, tree) := tree.edit registry (writing.treeEdit registry bindings) path
    (reply.getD writing.missingReply, tree)

/-- Does operations one after another. -/
def treeOperations (registry : Registry) (bindings : Entries Tree) :
    List Operation → TreeEdit (List Reply)
  | [], tree => ([], tree)
  | operation :: rest, tree =>
    let (reply, tree) := operation.treeEdit registry bindings tree
    let (others, tree) := treeOperations registry bindings rest tree
    (reply :: others, tree)

/-- Applies a recipe to a draft of a tree. -/
def produceTree {β : Type} (base : Tree) (recipe : TreeEdit (β × Option Tree)) : β × Tree :=
  let ((answer, replacement), draft) := recipe base
  (answer, replacement.getD draft)

/-- The recipe of a step. -/
def RecipeSteps.treeRecipe (registry : Registry) (bindings : Entries Tree)
    (steps : RecipeSteps) : TreeEdit (List Reply × Option Tree) := fun draft =>
  let (replies, draft) := treeOperations registry bindings steps.operations draft
  ((replies, steps.replacement.map (·.tree registry bindings)), draft)

/-- The named trees. -/
structure PrivateSession where
  accessor : Accessor
  bindings : Entries Tree := []

/-- What a path finds in one item of a list that a path finds in a named tree. -/
def itemTreeOf (registry : Registry) (bindings : Entries Tree) (source : String)
    (path : List String) (index : Nat) (rest : List String) : Option Tree :=
  match ((treeOf registry bindings source path).bind (·.items?)).bind (·[index]?) with
  | some item => item.get? registry rest
  | none => none

namespace PrivateSession

/-- The factories that fixtures are made by. -/
def registry (session : PrivateSession) : Registry := session.accessor.registry

/-- What a path finds in a named tree. -/
def found (session : PrivateSession) (source : String) (path : List String) : Option Tree :=
  treeOf session.registry session.bindings source path

/-- Names a tree that was made; where none was made the name keeps what it had. -/
def keep (session : PrivateSession) (target : String) : Option Tree → PrivateSession
  | some tree => { session with bindings := session.bindings.put target tree }
  | none => session

/-- Does one step. -/
def step (session : PrivateSession) : Step → StepReply × PrivateSession
  | .fixture type target =>
    let made := session.registry.tree? type
    (.made made, session.keep target made)
  | .content content target =>
    let tree := content.tree session.registry session.bindings
    (.made (some tree), session.keep target (some tree))
  | .copy source path target =>
    let copied := session.found source path
    (.made copied, session.keep target copied)
  | .produce source steps target =>
    match session.bindings.value? source with
    | none => (.produced [] none, session)
    | some base =>
      let (replies, tree) := produceTree base (steps.treeRecipe session.registry session.bindings)
      (.produced replies (some tree), session.keep target (some tree))
  | .fixtureWith type steps target =>
    match session.registry.tree? type with
    | none => (.produced [] none, session)
    | some base =>
      let (replies, tree) := produceTree base (steps.treeRecipe session.registry session.bindings)
      (.produced replies (some tree), session.keep target (some tree))
  | .operate source operation =>
    match session.bindings.value? source with
    | none =>
      let reply := match operation with
        | .read _ reading => reading.missingReply
        | .write _ writing => writing.missingReply
      (.operated reply none, session)
    | some tree =>
      let (reply, tree) := operation.treeEdit session.registry session.bindings tree
      (.operated reply (some tree), session.keep source (some tree))
  | .sameObject _ _ => (.unspoken, session)
  | .drop source =>
    (.dropped (session.bindings.value? source).isSome,
      { session with bindings := session.bindings.remove source })
  | .accessor => (.accessor session.accessor.takesRecipes session.registry.size, session)

/-- Gives a name back to the tree that it stood for before, if it stood for one. -/
def restore (session : PrivateSession) (name : String) : Option Tree → PrivateSession
  | some tree => { session with bindings := session.bindings.put name tree }
  | none => { session with bindings := session.bindings.remove name }

/-- The recipe that runs a script on its draft, which has a name in the script. -/
def recipe (session : PrivateSession) (draft : String)
    (script : PrivateSession → List ScriptReply × PrivateSession)
    (replacement : Option Content) :
    TreeEdit ((List ScriptReply × PrivateSession) × Option Tree) := fun tree =>
  let (replies, after) := script { session with bindings := session.bindings.put draft tree }
  let replaced := replacement.map (·.tree after.registry after.bindings)
  let drafted := (after.bindings.value? draft).getD .absent
  (((replies, after.restore draft (session.bindings.value? draft)), replaced), drafted)

/-- Names what a path finds in an item of a list. -/
def pick (session : PrivateSession) (source : String) (path : List String) (index : Nat)
    (rest : List String) (target : String) : StepReply × PrivateSession :=
  let picked := itemTreeOf session.registry session.bindings source path index rest
  (.made picked, session.keep target picked)

/-- Takes a field out of the object that a path finds and names its tree. -/
def take (session : PrivateSession) (source : String) (path : List String)
    (name target : String) : StepReply × PrivateSession :=
  match session.bindings.value? source with
  | none => (.made none, session)
  | some tree =>
    let (removed, tree) :=
      tree.edit session.registry (Tree.removeField session.registry name) path
    let taken := removed.join.join
    (.made taken, (session.keep source (some tree)).keep target taken)

end PrivateSession

mutual

/-- Follows one instruction. -/
def Instruction.runPrivately : Instruction → PrivateSession → ScriptReply × PrivateSession
  | .step step, session =>
    let (reply, session) := session.step step
    (.step reply, session)
  | .pick source path index rest target, session =>
    let (reply, session) := session.pick source path index rest target
    (.step reply, session)
  | .take source path name target, session =>
    let (reply, session) := session.take source path name target
    (.step reply, session)
  | .produce source draft recipe replacement target, session =>
    match session.bindings.value? source with
    | none => (.produced [] none, session)
    | some base =>
      let ((replies, after), tree) :=
        produceTree base (session.recipe draft (runScriptPrivately recipe) replacement)
      (.produced replies (some tree), after.keep target (some tree))
  | .fixtureWith type draft recipe replacement target, session =>
    match session.registry.tree? type with
    | none => (.produced [] none, session)
    | some base =>
      let ((replies, after), tree) :=
        produceTree base (session.recipe draft (runScriptPrivately recipe) replacement)
      (.produced replies (some tree), after.keep target (some tree))

/-- Follows the instructions of a script in order. -/
def runScriptPrivately :
    List Instruction → PrivateSession → List ScriptReply × PrivateSession
  | [], session => ([], session)
  | instruction :: rest, session =>
    let (reply, session) := instruction.runPrivately session
    let (replies, session) := runScriptPrivately rest session
    (reply :: replies, session)

end

end SchemaFixtures.Fixture
