import SchemaFixtures.Fixture.Session
import SchemaFixtures.Proofs.Fixture.Writing

/-!
# Values that have appeared stay

A cell is filled once. Making fixtures only reserves cells, and a reserved cell is empty;
reading fills a cell that is empty; a write makes objects and leaves the cells alone. So whatever
is done to values, every value that has appeared in a cell is still there afterwards.

There is one lemma for each operation, composed along the store that the operation hands on.
Nothing is assumed of the store or of the values.
-/

namespace SchemaFixtures.Fixture

/-- The values that have appeared in one store are still there in another. -/
def Store.Persists (before after : Store) : Prop :=
  ∀ cell value, before.value? cell = some value → after.value? cell = some value

namespace Store.Persists

theorem refl (store : Store) : store.Persists store := fun _ _ known => known

theorem trans {before between after : Store} (first : before.Persists between)
    (second : between.Persists after) : before.Persists after :=
  fun cell value known => second cell value (first cell value known)

theorem of_values {before after : Store} (same : after.value? = before.value?) :
    before.Persists after := fun cell _ known => (congrFun same cell).trans known

theorem newObject (store : Store) (fields : Entries Field) :
    store.Persists (store.newObject fields).2 := of_values rfl

/-- Filling a cell that is empty takes no value away. -/
theorem fill {store : Store} {cell : Cell} (empty : store.value? cell = none) (value : Value) :
    store.Persists (store.fill cell value) := by
  intro other content known
  have apart : cell.index ≠ other.index := by
    intro same
    rw [show cell = other from congrArg Cell.mk same, known] at empty
    cases empty
  rw [Store.value?, Store.fill, Array.getElem?_setIfInBounds_ne apart]
  exact known

end Store.Persists

section Operations

variable (registry : Registry)

/-! ## Making values lets no value appear -/

/-- A new cell is empty, like a place where no cell was. -/
theorem value?_reserve (store : Store) : store.reserve.2.value? = store.value? := by
  funext cell
  show (store.cells.push none)[cell.index]?.join = store.cells[cell.index]?.join
  rw [Array.getElem?_push]
  by_cases last : cell.index = store.cells.size
  · rw [if_pos last, last, Array.getElem?_size]
    rfl
  · rw [if_neg last]

theorem value?_reserveFields (fields : List (String × Default)) (store : Store) :
    (store.reserveFields fields).2.value? = store.value? := by
  induction fields generalizing store with
  | nil => rfl
  | cons field rest inductionHypothesis =>
    exact (inductionHypothesis store.reserve.2).trans (value?_reserve store)

theorem value?_produce (default : Default) (store : Store) :
    (default.produce store).2.value? = store.value? := by
  have same : (default.produce store).2.cells = store.cells := (produce_stands [] default store).1
  funext cell
  rw [Store.value?, Store.value?, same]

theorem value?_body_produce (body : Body) (store : Store) :
    (body.produce store).2.value? = store.value? := by
  cases body with
  | scalar default => exact value?_produce default store
  | record typename fields => exact value?_reserveFields fields store
  | union _ | enum _ => rfl

theorem value?_evaluate (default : Default) (store : Store) :
    (default.evaluate registry store).2.value? = store.value? := by
  cases default with
  | factory name =>
    simp only [Default.evaluate]
    cases registry.chain name with
    | none => rfl
    | some chainEnd =>
      cases chainEnd with
      | missing => rfl
      | factory found => exact value?_body_produce found.body store
  | literal configured => exact value?_produce (.literal configured) store
  | absent | emptyList | emptyString | zeroInt | zeroFloat | false | emptyObject => rfl

theorem value?_instantiate? {name : String} {store : Store} {made : Value × Store}
    (instantiated : registry.instantiate? name store = some made) :
    made.2.value? = store.value? := by
  rw [Registry.instantiate?] at instantiated
  by_cases known : registry.contains name = true
  · rw [if_pos known] at instantiated
    exact Option.some.inj instantiated ▸ value?_evaluate registry (.factory name) store
  · rw [if_neg known] at instantiated
    cases instantiated

theorem value?_peek (field : Field) (store : Store) :
    (field.peek registry store).2.value? = store.value? := by
  cases field with
  | held value => rfl
  | later cell default =>
    simp only [Field.peek]
    cases store.value? cell with
    | some value => rfl
    | none => exact value?_evaluate registry default store

/-! ## Reading -/

/-- Working a default out fills no other cell, so the cell that the value goes into is still
empty then. -/
theorem read_persists (field : Field) (store : Store) :
    store.Persists (field.read registry store).2 := by
  cases field with
  | held value => exact .refl store
  | later cell default =>
    simp only [Field.read]
    cases empty : store.value? cell with
    | some value => exact .refl store
    | none =>
      have same := value?_evaluate registry default store
      have still : (default.evaluate registry store).2.value? cell = none :=
        (congrFun same cell).trans empty
      exact (Store.Persists.of_values same).trans (.fill still _)

theorem readField_persists (fields : Entries Field) (name : String) (store : Store) :
    store.Persists (readField registry fields name store).2 := by
  rw [readField]
  cases fields.value? name with
  | none => exact .refl store
  | some field => exact read_persists registry field store

theorem get?_persists (path : List String) (value : Value) (store : Store) :
    store.Persists (value.get? registry path store).2 := by
  induction path generalizing value store with
  | nil => exact .refl store
  | cons name rest inductionHypothesis =>
    cases value with
    | object identity fields =>
      have read := readField_persists registry fields name store
      rw [get?_object]
      cases found : (readField registry fields name store).1 with
      | none => exact read
      | some value => exact read.trans (inductionHypothesis value _)
    | absent | null | boolean _ | int _ | float _ | string _ | enum _ | raw _ | list _ =>
      exact .refl store

theorem visitFields_persists {α : Type} {visit : String → Value → Store → α × Store}
    (visited : ∀ name value (store : Store), store.Persists (visit name value store).2)
    (fields : List (String × Field)) (store : Store) :
    store.Persists (visitFields registry visit fields store).2 := by
  induction fields generalizing store with
  | nil => exact .refl store
  | cons entry rest inductionHypothesis =>
    exact ((read_persists registry entry.2 store).trans (visited entry.1 _ _)).trans
      (inductionHypothesis _)

theorem materializeFields_persists {convert : Value → Store → Json × Store}
    (converted : ∀ value (store : Store), store.Persists (convert value store).2)
    (fields : List (String × Field)) (store : Store) :
    store.Persists (materializeFields registry convert fields store).2 := by
  induction fields generalizing store with
  | nil => exact .refl store
  | cons entry rest inductionHypothesis =>
    have read := read_persists registry entry.2 store
    simp only [materializeFields]
    by_cases absent : (entry.2.read registry store).1.isAbsent = true
    · rw [if_pos absent]
      exact read.trans (inductionHypothesis _)
    · rw [if_neg absent]
      exact (read.trans (converted _ _)).trans (inductionHypothesis _)

mutual

theorem materializeWith_persists {convertObject : Entries Field → Store → Json × Store}
    (converted : ∀ fields (store : Store), store.Persists (convertObject fields store).2) :
    (value : Value) → (store : Store) →
      store.Persists (materializeWith convertObject value store).2
  | .list items, store => materializeItems_persists converted items store
  | .object _ fields, store => converted fields store
  | .absent, store | .null, store | .boolean _, store | .int _, store | .float _, store
  | .string _, store | .enum _, store | .raw _, store => .refl store

theorem materializeItems_persists {convertObject : Entries Field → Store → Json × Store}
    (converted : ∀ fields (store : Store), store.Persists (convertObject fields store).2) :
    (items : List Value) → (store : Store) →
      store.Persists (materializeItems convertObject items store).2
  | [], store => .refl store
  | item :: rest, store =>
    (materializeWith_persists converted item store).trans
      (materializeItems_persists converted rest _)

end

theorem materializeObject_persists (depth : Nat) (fields : Entries Field) (store : Store) :
    store.Persists (materializeObject registry depth fields store).2 := by
  induction depth generalizing fields store with
  | zero => exact readField_persists registry fields typenameField store
  | succ depth inductionHypothesis =>
    exact materializeFields_persists registry (materializeWith_persists inductionHypothesis)
      fields store

theorem materialize_persists (depth : Nat) (value : Value) (store : Store) :
    store.Persists (value.materialize registry depth store).2 :=
  materializeWith_persists (materializeObject_persists registry depth) value store

/-! ## Writing -/

/-- An edit that leaves the values that have appeared. -/
def Edit.Persists {α : Type} (change : Edit α) : Prop :=
  ∀ value (store : Store), store.Persists (change value store).2.2

variable {α : Type}

theorem edit_persists {change : Edit α} (changed : change.Persists) (path : List String) :
    Edit.Persists fun value store => value.edit registry change path store := by
  induction path with
  | nil => exact changed
  | cons name rest inductionHypothesis =>
    intro value store
    cases value with
    | object identity fields =>
      cases found : Entries.value? fields name with
      | none =>
        simp only [Value.edit, found]
        exact .newObject store fields
      | some field =>
        simp only [edit_object change identity fields name rest store found]
        have looked := Store.Persists.of_values (value?_peek registry field store)
        exact (looked.trans (inductionHypothesis _ _)).trans (.newObject _ _)
    | absent | null | boolean _ | int _ | float _ | string _ | enum _ | raw _ | list _ =>
      exact .refl store

theorem assign_persists (replacement : Value) : (Value.assign replacement).Persists :=
  fun _ store => .refl store

theorem push_persists (item : Value) : (Value.push item).Persists := by
  intro value store
  cases value <;> exact .refl store

theorem arrange_persists (slots : List (Slot Value)) : (Value.arrange slots).Persists := by
  intro value store
  cases value <;> exact .refl store

theorem editItem_persists {change : Edit α} (changed : change.Persists) (index : Nat) :
    (Value.editItem index change).Persists := by
  intro value store
  cases value with
  | list items =>
    simp only [Value.editItem]
    cases items[index]? with
    | none => exact .refl store
    | some item => exact changed item store
  | absent | null | boolean _ | int _ | float _ | string _ | enum _ | raw _ | object _ _ =>
    exact .refl store

theorem setField_persists (name : String) (content : Value) :
    (Value.setField name content).Persists := by
  intro value store
  cases value with
  | object identity fields => exact .newObject store _
  | absent | null | boolean _ | int _ | float _ | string _ | enum _ | raw _ | list _ =>
    exact .refl store

theorem removeField_persists (name : String) : (Value.removeField registry name).Persists := by
  intro value store
  cases value with
  | object identity fields =>
    simp only [Value.removeField]
    cases Entries.value? fields name with
    | none => exact .newObject store fields
    | some field => exact (read_persists registry field store).trans (.newObject _ _)
  | absent | null | boolean _ | int _ | float _ | string _ | enum _ | raw _ | list _ =>
    exact .refl store

/-! ## Contents, questions and changes -/

variable (bindings : Entries Value)

theorem copyOf_persists (source : String) (path : List String) (store : Store) :
    store.Persists (copyOf registry bindings source path store).2 := by
  rw [copyOf]
  cases bindings.value? source with
  | none => exact .refl store
  | some value => exact get?_persists registry path value store

mutual

theorem content_persists : (content : Content) → (store : Store) →
    store.Persists (content.value registry bindings store).2
  | .list items, store => contentItems_persists items store
  | .object fields, store => (contentFields_persists fields store).trans (.newObject _ _)
  | .copy source path, store => copyOf_persists registry bindings source path store
  | .absent, store | .null, store | .boolean _, store | .int _, store | .float _, store
  | .string _, store | .enum _, store | .raw _, store => .refl store

theorem contentItems_persists : (items : List Content) → (store : Store) →
    store.Persists (contentItems registry bindings items store).2
  | [], store => .refl store
  | item :: rest, store => (content_persists item store).trans (contentItems_persists rest _)

theorem contentFields_persists : (fields : List (String × Content)) → (store : Store) →
    store.Persists (contentFields registry bindings fields store).2
  | [], store => .refl store
  | (_, content) :: rest, store =>
    (content_persists content store).trans (contentFields_persists rest _)

end

theorem contentValue?_persists (content? : Option Content) (store : Store) :
    store.Persists (contentValue? registry bindings content? store).2 := by
  cases content? with
  | none => exact .refl store
  | some content => exact content_persists registry bindings content store

theorem slotValues_persists (slots : List (Slot Content)) (store : Store) :
    store.Persists (slotValues registry bindings slots store).2 := by
  induction slots generalizing store with
  | nil => exact .refl store
  | cons slot rest inductionHypothesis =>
    cases slot with
    | kept index => exact inductionHypothesis store
    | fresh content =>
      exact (content_persists registry bindings content store).trans (inductionHypothesis _)

theorem aboutObject_persists {answer : Entries Field → Store → Answer × Store}
    (answered : ∀ fields (store : Store), store.Persists (answer fields store).2) (value : Value)
    (store : Store) : store.Persists (aboutObject value store answer).2 := by
  cases value with
  | object identity fields => exact answered fields store
  | absent | null | boolean _ | int _ | float _ | string _ | enum _ | raw _ | list _ =>
    exact .refl store

theorem answer_persists (reading : Reading) (value : Value) (store : Store) :
    store.Persists (reading.answer registry value store).2 := by
  induction reading generalizing value store with
  | value | text | parts => exact .refl store
  | materialize depth => exact materialize_persists registry depth value store
  | field name =>
    exact aboutObject_persists (fun fields store => readField_persists registry fields name store)
      value store
  | isResolved _ | contains _ | names | size | objectText =>
    exact aboutObject_persists (fun _ store => .refl store) value store
  | typename =>
    exact aboutObject_persists
      (fun fields store => readField_persists registry fields typenameField store) value store
  | visit =>
    exact aboutObject_persists
      (visitFields_persists registry fun _ _ store => .refl store) value store
  | onItem index path reading inductionHypothesis =>
    cases value with
    | list items =>
      cases chosen : items[index]? with
      | none =>
        simp only [Reading.answer, chosen]
        exact .refl store
      | some item =>
        simp only [Reading.answer, chosen]
        have reached := get?_persists registry path item store
        generalize item.get? registry path store = found at reached ⊢
        obtain ⟨_ | target, after⟩ := found
        · exact reached
        · exact reached.trans (inductionHypothesis target after)
    | absent | null | boolean _ | int _ | float _ | string _ | enum _ | raw _ | object _ _ =>
      exact .refl store

/-- Working out the content of a change and making the change leave what has appeared. -/
theorem writing_persists (writing : Writing) (store : Store) :
    store.Persists (writing.edit registry bindings store).2 ∧
      (writing.edit registry bindings store).1.Persists := by
  induction writing generalizing store with
  | reach => exact ⟨.refl store, fun _ store => .refl store⟩
  | assign content =>
    exact ⟨content_persists registry bindings content store, assign_persists _⟩
  | push content => exact ⟨content_persists registry bindings content store, push_persists _⟩
  | set name content =>
    exact ⟨content_persists registry bindings content store, setField_persists name _⟩
  | remove name => exact ⟨.refl store, removeField_persists registry name⟩
  | arrange slots => exact ⟨slotValues_persists registry bindings slots store, arrange_persists _⟩
  | onItem index path writing inductionHypothesis =>
    obtain ⟨prepared, changed⟩ := inductionHypothesis store
    exact ⟨prepared, editItem_persists (edit_persists registry changed path) index⟩

theorem operation_persists (operation : Operation) :
    Edit.Persists (operation.run registry bindings) := by
  intro value store
  cases operation with
  | read path reading =>
    have reached := get?_persists registry path value store
    simp only [Operation.run]
    generalize value.get? registry path store = found at reached ⊢
    obtain ⟨_ | target, after⟩ := found
    · exact reached
    · exact reached.trans (answer_persists registry reading target after)
  | write path writing =>
    obtain ⟨prepared, changed⟩ := writing_persists registry bindings writing store
    exact prepared.trans (edit_persists registry changed path _ _)

theorem runOperations_persists (operations : List Operation) :
    Edit.Persists (runOperations registry bindings operations) := by
  induction operations with
  | nil => exact fun _ store => .refl store
  | cons operation rest inductionHypothesis =>
    exact fun value store =>
      (operation_persists registry bindings operation value store).trans (inductionHypothesis _ _)

/-- Working out the replacement of a recipe and applying the recipe leave what has appeared. -/
theorem recipe_persists (steps : RecipeSteps) (store : Store) :
    store.Persists (steps.recipe registry bindings store).2 ∧
      (steps.recipe registry bindings store).1.Persists :=
  ⟨contentValue?_persists registry bindings steps.replacement store,
    runOperations_persists registry bindings steps.operations⟩

end Operations

end SchemaFixtures.Fixture
