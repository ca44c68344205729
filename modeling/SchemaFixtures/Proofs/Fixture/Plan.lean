import SchemaFixtures.Proofs.Fixture.Tree

/-!
# What a value in a store stands for

A value stands for a private tree: a field with a cell stands for the default that is to
fill the cell, whether or not the cell is filled already. This reading of a value does not
look at the store, so nothing that happens to the store can change it.

It is the right reading as long as the store keeps to a plan. A plan lists the default of
every cell, in the order in which the cells were reserved. All fields with one cell agree
with the plan on its default, and a filled cell holds a value that stands for the tree of
its default. Plans only grow, so what was planned stays planned.
-/

namespace SchemaFixtures.Fixture

mutual

/-- The tree that a value stands for. -/
def Value.tree : Value → Tree
  | .absent => .absent
  | .null => .null
  | .boolean value => .boolean value
  | .int value => .int value
  | .float value => .float value
  | .string text => .string text
  | .enum name => .enum name
  | .raw source => .raw source
  | .list items => .list (valueTrees items)
  | .object _ fields => .object (fieldBranches fields)

/-- The trees that values stand for. -/
def valueTrees : List Value → List Tree
  | [] => []
  | item :: rest => item.tree :: valueTrees rest

/-- The branches that named fields stand for. -/
def fieldBranches : List (String × Field) → List (String × Branch)
  | [] => []
  | (name, field) :: rest => (name, field.branch) :: fieldBranches rest

/-- The branch that a field stands for: with a cell it is the default of the cell. -/
def Field.branch : Field → Branch
  | .held value => .held value.tree
  | .later _ default => .later default

end

theorem valueTrees_eq (items : List Value) : valueTrees items = items.map Value.tree := by
  induction items with
  | nil => rfl
  | cons item rest inductionHypothesis => rw [valueTrees, inductionHypothesis, List.map_cons]

theorem fieldBranches_eq (fields : List (String × Field)) :
    fieldBranches fields = Entries.mapValues Field.branch fields := by
  induction fields with
  | nil => rfl
  | cons entry rest inductionHypothesis =>
    rw [fieldBranches, inductionHypothesis]
    rfl

@[simp] theorem Value.tree_list (items : List Value) :
    (Value.list items).tree = .list (items.map Value.tree) := by
  rw [Value.tree, valueTrees_eq]

@[simp] theorem Value.tree_object (identity : Nat) (fields : List (String × Field)) :
    (Value.object identity fields).tree = .object (Entries.mapValues Field.branch fields) := by
  rw [Value.tree, fieldBranches_eq]

/-- The default of every cell, in the order in which the cells were reserved. -/
abbrev Plan := List Default

mutual

/-- All cells in a value are planned with the default that stands beside them. -/
def Value.Planned (plan : Plan) : Value → Prop
  | .list items => ItemsPlanned plan items
  | .object _ fields => FieldsPlanned plan fields
  | _ => True

/-- All items are planned. -/
def ItemsPlanned (plan : Plan) : List Value → Prop
  | [] => True
  | item :: rest => item.Planned plan ∧ ItemsPlanned plan rest

/-- All fields are planned. -/
def FieldsPlanned (plan : Plan) : List (String × Field) → Prop
  | [] => True
  | (_, field) :: rest => field.Planned plan ∧ FieldsPlanned plan rest

/-- A held value is planned, and a cell is planned with the default beside it. -/
def Field.Planned (plan : Plan) : Field → Prop
  | .held value => value.Planned plan
  | .later cell default => plan[cell.index]? = some default

end

theorem items_planned_iff (plan : Plan) (items : List Value) :
    ItemsPlanned plan items ↔ ∀ item ∈ items, item.Planned plan := by
  induction items with
  | nil => simp [ItemsPlanned]
  | cons item rest inductionHypothesis =>
    rw [ItemsPlanned, inductionHypothesis, List.forall_mem_cons]

theorem fields_planned_iff (plan : Plan) (fields : List (String × Field)) :
    FieldsPlanned plan fields ↔ ∀ entry ∈ fields, entry.2.Planned plan := by
  induction fields with
  | nil => simp [FieldsPlanned]
  | cons entry rest inductionHypothesis =>
    rw [FieldsPlanned, inductionHypothesis, List.forall_mem_cons]

@[simp] theorem planned_list (plan : Plan) (items : List Value) :
    (Value.list items).Planned plan ↔ ∀ item ∈ items, item.Planned plan := by
  rw [Value.Planned, items_planned_iff]

@[simp] theorem planned_object (plan : Plan) (identity : Nat) (fields : List (String × Field)) :
    (Value.object identity fields).Planned plan ↔ ∀ entry ∈ fields, entry.2.Planned plan := by
  rw [Value.Planned, fields_planned_iff]

/-- A cell keeps its place in a plan that grows. -/
theorem planned_cell_grows {plan grown : Plan} (grows : plan <+: grown) {index : Nat}
    {default : Default} (planned : plan[index]? = some default) :
    grown[index]? = some default := by
  obtain ⟨added, rfl⟩ := grows
  rw [List.getElem?_append_left (List.getElem?_eq_some_iff.mp planned).1]
  exact planned

mutual

/-- What is planned stays planned. -/
theorem Value.planned_grows {plan grown : Plan} (grows : plan <+: grown) :
    (value : Value) → value.Planned plan → value.Planned grown
  | .list items, planned => items_planned_grows grows items planned
  | .object _ fields, planned => fields_planned_grows grows fields planned
  | .absent, _ | .null, _ | .boolean _, _ | .int _, _ | .float _, _ | .string _, _
  | .enum _, _ | .raw _, _ => by simp only [Value.Planned]

theorem items_planned_grows {plan grown : Plan} (grows : plan <+: grown) :
    (items : List Value) → ItemsPlanned plan items → ItemsPlanned grown items
  | [], _ => trivial
  | item :: rest, planned =>
    ⟨item.planned_grows grows planned.1, items_planned_grows grows rest planned.2⟩

theorem fields_planned_grows {plan grown : Plan} (grows : plan <+: grown) :
    (fields : List (String × Field)) → FieldsPlanned plan fields → FieldsPlanned grown fields
  | [], _ => trivial
  | (_, field) :: rest, planned =>
    ⟨field.planned_grows grows planned.1, fields_planned_grows grows rest planned.2⟩

theorem Field.planned_grows {plan grown : Plan} (grows : plan <+: grown) :
    (field : Field) → field.Planned plan → field.Planned grown
  | .held value, planned => value.planned_grows grows planned
  | .later _ _, planned => planned_cell_grows grows planned

end

/-- A value is planned and stands for a tree. -/
structure Value.Stands (plan : Plan) (value : Value) (tree : Tree) : Prop where
  planned : value.Planned plan
  same : value.tree = tree

theorem Value.Stands.grows {plan grown : Plan} {value : Value} {tree : Tree}
    (stands : value.Stands plan tree) (grows : plan <+: grown) : value.Stands grown tree :=
  ⟨value.planned_grows grows stands.planned, stands.same⟩

/-- A store keeps to a plan: it has one cell for each default, and a filled cell holds a
value that stands for the tree of its default. -/
structure Store.Follows (registry : Registry) (plan : Plan) (store : Store) : Prop where
  size : store.cells.size = plan.length
  filled : ∀ cell value, store.value? cell = some value →
    ∃ default, plan[cell.index]? = some default ∧ value.Stands plan (default.tree registry)

/-- A store reached from one that followed a plan follows a plan that has grown, under
which something holds. -/
def Store.Continues (registry : Registry) (plan : Plan) (store : Store)
    (holds : Plan → Prop) : Prop :=
  ∃ grown, plan <+: grown ∧ store.Follows registry grown ∧ holds grown

namespace Store

variable {registry : Registry} {plan : Plan} {store : Store}

/-- The store of a new session has no cells to plan. -/
theorem empty_follows (registry : Registry) : Store.Follows registry [] {} :=
  ⟨rfl, fun cell value found => by simp [Store.value?] at found⟩

/-- A store that follows a plan continues it as it is. -/
theorem Follows.continues (follows : store.Follows registry plan) {holds : Plan → Prop}
    (here : holds plan) : store.Continues registry plan holds :=
  ⟨plan, List.prefix_refl plan, follows, here⟩

/-- What is reached from a store that continues a plan continues the plan. -/
theorem Continues.next {after : Store} {holds next : Plan → Prop}
    (continues : store.Continues registry plan holds)
    (onward : ∀ grown, plan <+: grown → store.Follows registry grown → holds grown →
      after.Continues registry grown next) : after.Continues registry plan next := by
  obtain ⟨grown, grows, follows, here⟩ := continues
  obtain ⟨last, growsOn, followsOn, there⟩ := onward grown grows follows here
  exact ⟨last, grows.trans growsOn, followsOn, there⟩

theorem Continues.imp {holds other : Plan → Prop}
    (continues : store.Continues registry plan holds)
    (implied : ∀ grown, plan <+: grown → holds grown → other grown) :
    store.Continues registry plan other := by
  obtain ⟨grown, grows, follows, here⟩ := continues
  exact ⟨grown, grows, follows, implied grown grows here⟩

/-- Only the cells of a store matter to its plan. -/
theorem Follows.of_cells {other : Store} (follows : store.Follows registry plan)
    (same : other.cells = store.cells) : other.Follows registry plan := by
  refine ⟨by rw [same]; exact follows.size, fun cell value found => ?_⟩
  have before : store.value? cell = some value := by simpa only [Store.value?, same] using found
  exact follows.filled cell value before

/-- A new object adds no cell. -/
theorem Follows.newObject (follows : store.Follows registry plan) (fields : Entries Field) :
    (store.newObject fields).2.Follows registry plan :=
  follows.of_cells rfl

/-- Reserving a cell appends its default to the plan. -/
theorem Follows.reserve (follows : store.Follows registry plan) (default : Default) :
    store.reserve.2.Follows registry (plan ++ [default]) := by
  refine ⟨by simp [Store.reserve, follows.size], fun cell value found => ?_⟩
  have pushed : (store.cells.push none)[cell.index]?.join = some value := found
  rw [Array.getElem?_push] at pushed
  by_cases last : cell.index = store.cells.size
  · simp [last] at pushed
  have before : store.value? cell = some value := by
    rw [if_neg last] at pushed
    exact pushed
  obtain ⟨planned, known, stands⟩ := follows.filled cell value before
  have grows : plan <+: plan ++ [default] := List.prefix_append plan [default]
  exact ⟨planned, planned_cell_grows grows known, stands.grows grows⟩

/-- Filling a cell with a value that stands for the tree of its default keeps to the plan. -/
theorem Follows.fill (follows : store.Follows registry plan) {cell : Cell} {default : Default}
    {value : Value} (known : plan[cell.index]? = some default)
    (stands : value.Stands plan (default.tree registry)) :
    (store.fill cell value).Follows registry plan := by
  refine ⟨by simp [Store.fill, follows.size], fun other content found => ?_⟩
  by_cases same : cell.index = other.index
  · have inside : other.index < store.cells.size := by
      rw [follows.size, ← same]
      exact (List.getElem?_eq_some_iff.mp known).1
    have equal : value = content := by
      simpa [Store.fill, Store.value?, Array.getElem?_setIfInBounds, same, inside] using found
    exact ⟨default, same ▸ known, equal ▸ stands⟩
  · have before : store.value? other = some content := by
      simpa [Store.fill, Store.value?, Array.getElem?_setIfInBounds, same] using found
    exact follows.filled other content before

end Store

end SchemaFixtures.Fixture
