import SchemaFixtures.Fixture.Accessor
import SchemaFixtures.Fixture.Materialize
import SchemaFixtures.Fixture.Snapshot

/-!
# Sessions

A session names values and works on them step by step: it makes fixtures, copies what is
found in one value into another, reads, writes, and applies recipes. Every step has an
answer. Values live in one store, so what one name works out another may see.
-/

namespace SchemaFixtures.Fixture

/-- A value as a step states it; a copy is of what a path finds in a named value. -/
inductive Content where
  | absent
  | null
  | boolean (value : Bool)
  | int (value : Int64)
  | float (value : Float)
  | string (text : String)
  | enum (name : String)
  | raw (source : String)
  | list (items : List Content)
  | object (fields : List (String × Content))
  | copy (source : String) (path : List String)

/-- What a path finds in a named value. -/
def copyOf (registry : Registry) (bindings : Entries Value) (source : String)
    (path : List String) (store : Store) : Option Value × Store :=
  match bindings.value? source with
  | some value => value.get? registry path store
  | none => (none, store)

mutual

/-- The value of a content. A copy of nothing is no value. -/
def Content.value (registry : Registry) (bindings : Entries Value) :
    Content → Store → Value × Store
  | .absent, store => (.absent, store)
  | .null, store => (.null, store)
  | .boolean value, store => (.boolean value, store)
  | .int value, store => (.int value, store)
  | .float value, store => (.float value, store)
  | .string text, store => (.string text, store)
  | .enum name, store => (.enum name, store)
  | .raw source, store => (.raw source, store)
  | .list items, store =>
    let (values, store) := contentItems registry bindings items store
    (.list values, store)
  | .object fields, store =>
    let (values, store) := contentFields registry bindings fields store
    store.newObject (Entries.ofPairs values)
  | .copy source path, store =>
    let (value, store) := copyOf registry bindings source path store
    (value.getD .absent, store)

/-- The values of the items of a list. -/
def contentItems (registry : Registry) (bindings : Entries Value) :
    List Content → Store → List Value × Store
  | [], store => ([], store)
  | item :: rest, store =>
    let (value, store) := Content.value registry bindings item store
    let (others, store) := contentItems registry bindings rest store
    (value :: others, store)

/-- The fields of an object, each holding its value. -/
def contentFields (registry : Registry) (bindings : Entries Value) :
    List (String × Content) → Store → List (String × Field) × Store
  | [], store => ([], store)
  | (name, content) :: rest, store =>
    let (value, store) := Content.value registry bindings content store
    let (others, store) := contentFields registry bindings rest store
    ((name, .held value) :: others, store)

end

/-- The value of a content, if there is one. -/
def contentValue? (registry : Registry) (bindings : Entries Value) :
    Option Content → Store → Option Value × Store
  | none, store => (none, store)
  | some content, store =>
    let (value, store) := content.value registry bindings store
    (some value, store)

/-- The items for the slots of a list. -/
def slotValues (registry : Registry) (bindings : Entries Value) :
    List (Slot Content) → Store → List (Slot Value) × Store
  | [], store => ([], store)
  | .kept index :: rest, store =>
    let (others, store) := slotValues registry bindings rest store
    (.kept index :: others, store)
  | .fresh content :: rest, store =>
    let (value, store) := content.value registry bindings store
    let (others, store) := slotValues registry bindings rest store
    (.fresh value :: others, store)

/-- A question about the value that a path finds. -/
inductive Reading where
  | value
  | materialize (depth : Nat)
  | text
  | parts
  | field (name : String)
  | isResolved (name : String)
  | contains (name : String)
  | names
  | size
  | typename
  | visit
  | objectText
  | onItem (index : Nat) (path : List String) (reading : Reading)

/-- A change of the value that a path finds. -/
inductive Writing where
  | reach
  | assign (content : Content)
  | push (content : Content)
  | set (name : String) (content : Content)
  | remove (name : String)
  | arrange (slots : List (Slot Content))
  | onItem (index : Nat) (path : List String) (writing : Writing)

/-- A question or a change, and the path to the value it is about. -/
inductive Operation where
  | read (path : List String) (reading : Reading)
  | write (path : List String) (writing : Writing)

/-- The answer to an operation. -/
inductive Answer where
  | missing
  | notObject
  | notList
  | done
  | value (snapshot : Option Snapshot)
  | json (json : Json)
  | text (text : String)
  | parts (value : Value)
  | flag (flag : Bool)
  | names (names : List String)
  | size (size : Nat)
  | length (length : Nat)
  | typename (name : Option String)
  | visited (fields : List (String × Snapshot))

/-- The answer about an object; another value is none. -/
def aboutObject (value : Value) (store : Store)
    (answer : Entries Field → Store → Answer × Store) : Answer × Store :=
  match value with
  | .object _ fields => answer fields store
  | _ => (.notObject, store)

/-- The answer to a question whose path leads nowhere. -/
def Reading.missing : Reading → Answer
  | .value => .value none
  | _ => .missing

/-- The answer to a question about a value. -/
def Reading.answer (registry : Registry) (reading : Reading) (value : Value) (store : Store) :
    Answer × Store :=
  match reading with
  | .value => (.value (some (store.snapshot value)), store)
  | .materialize depth =>
    let (json, store) := value.materialize registry depth store
    (.json json, store)
  | .text => (.text (store.snapshot value).text, store)
  | .parts => (.parts value, store)
  | .field name => aboutObject value store fun fields store =>
    let (found, store) := readField registry fields name store
    (.value (found.map store.snapshot), store)
  | .isResolved name => aboutObject value store fun fields store =>
    (.flag ((fields.value? name).any (·.isResolved store)), store)
  | .contains name => aboutObject value store fun fields store =>
    (.flag (fields.value? name).isSome, store)
  | .names => aboutObject value store fun fields store => (.names fields.names, store)
  | .size => aboutObject value store fun fields store => (.size fields.length, store)
  | .typename => aboutObject value store fun fields store =>
    let (name, store) := typename? registry fields store
    (.typename name, store)
  | .visit => aboutObject value store fun fields store =>
    let (visited, store) :=
      visitFields registry (fun name value store => ((name, store.snapshot value), store)) fields
        store
    (.visited visited, store)
  | .objectText => aboutObject value store fun fields store =>
    (.text (store.snapshotObject fields).text, store)
  | .onItem index path reading =>
    match value with
    | .list items =>
      match items[index]? with
      | none => (.missing, store)
      | some item =>
        match item.get? registry path store with
        | (some target, store) => reading.answer registry target store
        | (none, store) => (reading.missing, store)
    | _ => (.notList, store)

/-- The answer to a change whose path leads nowhere. -/
def Writing.missing : Writing → Answer
  | .reach => .value none
  | _ => .missing

/-- The answer to a change of an item of a list: there may be no list, or no such item, or
the path from the item may lead nowhere. -/
def Writing.itemAnswer (writing : Writing) : Option (Option (Option Answer)) → Answer
  | none => .notList
  | some none => .missing
  | some (some answer) => answer.getD writing.missing

/-- The change that a writing makes. The content is worked out before the path is
followed. -/
def Writing.edit (registry : Registry) (bindings : Entries Value) (writing : Writing)
    (store : Store) : Edit Answer × Store :=
  match writing with
  | .reach => (fun value store => (.value (some (store.snapshot value)), value, store), store)
  | .assign content =>
    let (replacement, store) := content.value registry bindings store
    (fun value store =>
      let (_, value, store) := Value.assign replacement value store
      (.done, value, store), store)
  | .push content =>
    let (item, store) := content.value registry bindings store
    (fun value store =>
      let (length, value, store) := Value.push item value store
      ((length.map Answer.length).getD .notList, value, store), store)
  | .set name content =>
    let (replacement, store) := content.value registry bindings store
    (fun value store =>
      let (isObject, value, store) := Value.setField name replacement value store
      (if isObject then .done else .notObject, value, store), store)
  | .remove name =>
    (fun value store =>
      let (removed, value, store) := Value.removeField registry name value store
      ((removed.map fun found => Answer.value (found.map store.snapshot)).getD .notObject, value,
        store), store)
  | .arrange slots =>
    let (slots, store) := slotValues registry bindings slots store
    (fun value store =>
      let (length, value, store) := Value.arrange slots value store
      ((length.map Answer.length).getD .notList, value, store), store)
  | .onItem index path writing =>
    let (change, store) := writing.edit registry bindings store
    (fun value store =>
      let (found, value, store) :=
        Value.editItem index (fun item => item.edit registry change path) value store
      (writing.itemAnswer found, value, store), store)

/-- Does an operation on a value. -/
def Operation.run (registry : Registry) (bindings : Entries Value) (operation : Operation) :
    Edit Answer := fun value store =>
  match operation with
  | .read path reading =>
    match value.get? registry path store with
    | (some target, store) =>
      let (answer, store) := reading.answer registry target store
      (answer, value, store)
    | (none, store) => (reading.missing, value, store)
  | .write path writing =>
    let (change, store) := writing.edit registry bindings store
    let (answer, value, store) := value.edit registry change path store
    (answer.getD writing.missing, value, store)

/-- Does operations one after another. -/
def runOperations (registry : Registry) (bindings : Entries Value) :
    List Operation → Edit (List Answer)
  | [], value, store => ([], value, store)
  | operation :: rest, value, store =>
    let (answer, value, store) := operation.run registry bindings value store
    let (others, value, store) := runOperations registry bindings rest value store
    (answer :: others, value, store)

/-- A recipe as a step states it: operations on the draft, and the content that replaces
the draft if there is one. -/
structure RecipeSteps where
  operations : List Operation
  replacement : Option Content := none

/-- The recipe. The replacement is worked out before the draft is edited. -/
def RecipeSteps.recipe (registry : Registry) (bindings : Entries Value) (steps : RecipeSteps)
    (store : Store) : Recipe (List Answer) × Store :=
  let (replacement, store) := contentValue? registry bindings steps.replacement store
  (fun draft store =>
    let (answers, draft, store) := runOperations registry bindings steps.operations draft store
    ((answers, replacement), draft, store), store)

/-- A step of a session. The steps that make a value name the variable it goes to. -/
inductive Step where
  | fixture (type target : String)
  | content (content : Content) (target : String)
  | copy (source : String) (path : List String) (target : String)
  | produce (source : String) (recipe : RecipeSteps) (target : String)
  | fixtureWith (type : String) (recipe : RecipeSteps) (target : String)
  | operate (source : String) (operation : Operation)
  | sameObject (left : String × List String) (right : String × List String)
  | drop (source : String)
  | accessor

/-- The answer to a step. -/
inductive StepAnswer where
  | made (snapshot : Option Snapshot)
  | produced (answers : List Answer) (snapshot : Option Snapshot)
  | operated (answer : Answer) (snapshot : Option Snapshot)
  | sameObject (same : Option Bool)
  | dropped (existed : Bool)
  | accessor (takesRecipes : Bool) (size : Nat)

/-- The named values and the store that they live in. -/
structure Session where
  accessor : Accessor
  bindings : Entries Value := []
  store : Store := {}

namespace Session

/-- The factories that fixtures are made by. -/
def registry (session : Session) : Registry := session.accessor.registry

/-- Names a value that was made; where none was made the name keeps what it had. -/
def keep (session : Session) (target : String) (value? : Option Value) (store : Store) :
    Option Snapshot × Session :=
  match value? with
  | some value =>
    (some (store.snapshot value),
      { session with bindings := session.bindings.put target value, store })
  | none => (none, { session with store })

/-- Does one step. -/
def step (session : Session) : Step → StepAnswer × Session
  | .fixture type target =>
    match session.accessor.fixture? type session.store with
    | some (value, store) =>
      let (snapshot, session) := session.keep target (some value) store
      (.made snapshot, session)
    | none => (.made none, session)
  | .content content target =>
    let (value, store) := content.value session.registry session.bindings session.store
    let (snapshot, session) := session.keep target (some value) store
    (.made snapshot, session)
  | .copy source path target =>
    let (value, store) := copyOf session.registry session.bindings source path session.store
    let (snapshot, session) := session.keep target value store
    (.made snapshot, session)
  | .produce source steps target =>
    match session.bindings.value? source with
    | none => (.produced [] none, session)
    | some base =>
      let (recipe, store) := steps.recipe session.registry session.bindings session.store
      let (answers, value, store) := Fixture.produce base recipe store
      let (snapshot, session) := session.keep target (some value) store
      (.produced answers snapshot, session)
  | .fixtureWith type steps target =>
    let (recipe, store) := steps.recipe session.registry session.bindings session.store
    match fixtureWith? session.registry type recipe store with
    | none => (.produced [] none, { session with store })
    | some (answers, value, store) =>
      let (snapshot, session) := session.keep target (some value) store
      (.produced answers snapshot, session)
  | .operate source operation =>
    match session.bindings.value? source with
    | none =>
      let answer := match operation with
        | .read _ reading => reading.missing
        | .write _ writing => writing.missing
      (.operated answer none, session)
    | some value =>
      let (answer, value, store) :=
        operation.run session.registry session.bindings value session.store
      let (snapshot, session) := session.keep source (some value) store
      (.operated answer snapshot, session)
  | .sameObject left right =>
    let (a, store) :=
      copyOf session.registry session.bindings left.1 left.2 session.store
    let (b, store) := copyOf session.registry session.bindings right.1 right.2 store
    (.sameObject (do Value.sameObject? (← a) (← b)), { session with store })
  | .drop source =>
    (.dropped (session.bindings.value? source).isSome,
      { session with bindings := session.bindings.remove source })
  | .accessor => (.accessor session.accessor.takesRecipes session.registry.size, session)

/-- Does steps one after another. -/
def run (session : Session) : List Step → List StepAnswer × Session
  | [] => ([], session)
  | next :: rest =>
    let (answer, session) := session.step next
    let (answers, session) := session.run rest
    (answer :: answers, session)

end Session

end SchemaFixtures.Fixture
