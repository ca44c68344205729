import Mathlib.Data.List.Forall2
import SchemaFixtures.Fixture.Materialize
import SchemaFixtures.Proofs.Fixture.Showing

/-!
# Going through a fixture

The name that an object states for its type, the fields that an iteration hands on and the
JSON of a value are those of its private tree. A conversion reads fields on its way, so the
store changes under it; every field is read in a store that keeps to a grown plan, and gives
the tree of its branch there.
-/

namespace SchemaFixtures.Fixture

variable {registry : Registry} {plan : Plan} {store : Store}

theorem string?_tree (value : Value) : value.tree.string? = value.string? := by
  cases value <;> rfl

theorem isAbsent_tree (value : Value) : value.tree.isAbsent = value.isAbsent := by
  cases value <;> rfl

/-- The name that an object states for its type is the one that its tree states. -/
theorem typename?_stands (follows : store.Follows registry plan) (fields : Entries Field)
    (planned : ∀ entry ∈ fields, entry.2.Planned plan) :
    (typename? registry fields store).2.Continues registry plan fun _ =>
      (typename? registry fields store).1 =
        Tree.typename? registry (Entries.mapValues Field.branch fields) := by
  refine (readField_stands follows fields planned typenameField).imp fun grown _ read => ?_
  simp only [typename?, Tree.typename?]
  generalize (readField registry fields typenameField store).1 = found at read ⊢
  cases branch : Entries.value? (Entries.mapValues Field.branch fields) typenameField with
  | none =>
    rw [branch, Option.map_none] at read
    cases read with
    | none => rfl
  | some branch =>
    rw [branch, Option.map_some] at read
    cases read with
    | some stands =>
      rw [Option.bind_some, Option.bind_some, ← stands.same, string?_tree]

/-- An iteration that hands on snapshots shows the trees of all branches, in order. -/
theorem visitFields_show (follows : store.Follows registry plan) (fields : List (String × Field))
    (planned : ∀ entry ∈ fields, entry.2.Planned plan) :
    let visited := visitFields registry
      (fun name value store => ((name, store.snapshot value), store)) fields store
    visited.2.Continues registry plan fun _ =>
      List.Forall₂ (fun shown read => shown.1 = read.1 ∧ shown.2.Shows registry read.2) visited.1
        (Entries.mapValues (·.tree registry) (Entries.mapValues Field.branch fields)) := by
  induction fields generalizing store plan with
  | nil => exact follows.continues List.Forall₂.nil
  | cons entry rest inductionHypothesis =>
    obtain ⟨name, field⟩ := entry
    obtain ⟨fieldPlanned, restPlanned⟩ := List.forall_mem_cons.mp planned
    obtain ⟨read, grows, followsRead, stands⟩ := read_stands follows field fieldPlanned
    obtain ⟨last, growsOn, followsOn, others⟩ := inductionHypothesis followsRead
      fun entry member => entry.2.planned_grows grows (restPlanned entry member)
    exact ⟨last, grows.trans growsOn, followsOn,
      List.Forall₂.cons ⟨rfl, snapshot_shows followsRead stands⟩ others⟩

/-- A conversion of objects gives what a conversion of private objects gives. -/
def ConvertsObjects (registry : Registry) (convert : Entries Field → Store → Json × Store)
    (json : Entries Branch → Json) : Prop :=
  ∀ ⦃plan : Plan⦄ ⦃store : Store⦄ (fields : Entries Field), store.Follows registry plan →
    (∀ entry ∈ fields, entry.2.Planned plan) →
    (convert fields store).2.Continues registry plan fun _ =>
      (convert fields store).1 = json (Entries.mapValues Field.branch fields)

mutual

/-- Values are converted like their trees when their objects are. -/
theorem materializeWith_converts {convert : Entries Field → Store → Json × Store}
    {json : Entries Branch → Json} (converts : ConvertsObjects registry convert json)
    {plan : Plan} {store : Store} (follows : store.Follows registry plan) :
    (value : Value) → value.Planned plan →
    (materializeWith convert value store).2.Continues registry plan fun _ =>
      (materializeWith convert value store).1 = treeJsonWith json value.tree
  | .absent, _ | .null, _ | .boolean _, _ | .int _, _ | .float _, _ | .string _, _
  | .enum _, _ | .raw _, _ => follows.continues rfl
  | .list items, planned =>
    (materializeItems_convert converts follows items planned).imp fun _ _ same =>
      congrArg Json.array same
  | .object _ fields, planned => by
    rw [Value.tree_object]
    exact converts fields follows ((fields_planned_iff plan fields).mp planned)

theorem materializeItems_convert {convert : Entries Field → Store → Json × Store}
    {json : Entries Branch → Json} (converts : ConvertsObjects registry convert json)
    {plan : Plan} {store : Store} (follows : store.Follows registry plan) :
    (items : List Value) → ItemsPlanned plan items →
    (materializeItems convert items store).2.Continues registry plan fun _ =>
      (materializeItems convert items store).1 = treeJsonItems json (valueTrees items)
  | [], _ => follows.continues rfl
  | item :: rest, planned =>
    (materializeWith_converts converts follows item planned.1).next
      fun _ grows followsOn first =>
        (materializeItems_convert converts followsOn rest
          (items_planned_grows grows rest planned.2)).imp fun _ _ others =>
            congrArg₂ List.cons first others

end

/-- Fields are converted like their branches; a field without a value is left out of both. -/
theorem materializeFields_converts {convert : Entries Field → Store → Json × Store}
    {json : Entries Branch → Json} (converts : ConvertsObjects registry convert json)
    {plan : Plan} {store : Store} (follows : store.Follows registry plan)
    (fields : List (String × Field)) (planned : ∀ entry ∈ fields, entry.2.Planned plan) :
    (materializeFields registry (materializeWith convert) fields store).2.Continues registry plan
      fun _ => (materializeFields registry (materializeWith convert) fields store).1 =
        (Entries.mapValues Field.branch fields).filterMap fun (name, branch) =>
          let tree := branch.tree registry
          if tree.isAbsent then none else some (name, treeJsonWith json tree) := by
  induction fields generalizing store plan with
  | nil => exact follows.continues rfl
  | cons entry rest inductionHypothesis =>
    obtain ⟨name, field⟩ := entry
    obtain ⟨fieldPlanned, restPlanned⟩ := List.forall_mem_cons.mp planned
    refine (read_stands follows field fieldPlanned).next fun read grows followsRead stands => ?_
    have restGrown : ∀ entry ∈ rest, entry.2.Planned read :=
      fun entry member => entry.2.planned_grows grows (restPlanned entry member)
    have absence : (field.branch.tree registry).isAbsent =
        (field.read registry store).1.isAbsent := by
      rw [← stands.same, isAbsent_tree]
    by_cases absent : (field.read registry store).1.isAbsent = true
    · simp only [materializeFields, absent, if_true, Entries.mapValues, List.map_cons,
        List.filterMap_cons, absence]
      exact inductionHypothesis followsRead restGrown
    · refine (materializeWith_converts converts followsRead _ stands.planned).next
        fun converted grown followsOn first => ?_
      have others := inductionHypothesis followsOn
        fun entry member => entry.2.planned_grows grown (restGrown entry member)
      simp only [materializeFields, absent, Entries.mapValues, List.map_cons,
        List.filterMap_cons, absence]
      refine others.imp fun _ _ same => ?_
      rw [first, stands.same]
      exact congrArg _ same

/-- Objects are converted like private objects, to any depth. -/
theorem materializeObject_converts (registry : Registry) (depth : Nat) :
    ConvertsObjects registry (materializeObject registry depth)
      (treeJsonObject registry depth) := by
  induction depth with
  | zero =>
    intro plan store fields follows planned
    refine (typename?_stands follows fields planned).imp fun _ _ same => ?_
    simp only [materializeObject, materializeTypename, treeJsonObject, same]
  | succ depth inductionHypothesis =>
    intro plan store fields follows planned
    exact (materializeFields_converts inductionHypothesis follows fields planned).imp
      fun _ _ same => congrArg Json.object same

/-- The JSON of a value is the JSON of the tree that it stands for. -/
theorem materialize_stands (follows : store.Follows registry plan) {value : Value} {tree : Tree}
    (stands : value.Stands plan tree) (depth : Nat) :
    (value.materialize registry depth store).2.Continues registry plan fun _ =>
      (value.materialize registry depth store).1 = tree.materialize registry depth := by
  rw [← stands.same]
  exact materializeWith_converts (materializeObject_converts registry depth) follows value
    stands.planned

end SchemaFixtures.Fixture
