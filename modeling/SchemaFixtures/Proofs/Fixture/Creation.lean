import SchemaFixtures.Proofs.Fixture.Tree

/-!
# How objects are created

The objects in the tree of a default are of two kinds. Those of a literal hold all their values
from the start. Those of a record hold nothing but the name of the type, and that only if no field
has its name.
-/

namespace SchemaFixtures.Fixture

mutual

/-- The branches of every object that stands in a tree are allowed. -/
def Tree.All (allows : Entries Branch → Prop) : Tree → Prop
  | .list items => TreesAll allows items
  | .object branches => allows branches ∧ BranchesAll allows branches
  | _ => True

/-- The branches of every object that stands in trees are allowed. -/
def TreesAll (allows : Entries Branch → Prop) : List Tree → Prop
  | [] => True
  | item :: rest => item.All allows ∧ TreesAll allows rest

/-- The branches of every object that is held in branches are allowed. -/
def BranchesAll (allows : Entries Branch → Prop) : List (String × Branch) → Prop
  | [] => True
  | (_, branch) :: rest => branch.All allows ∧ BranchesAll allows rest

/-- The branches of every object that a branch holds are allowed. -/
def Branch.All (allows : Entries Branch → Prop) : Branch → Prop
  | .held tree => tree.All allows
  | .later _ => True

end

section All

variable {allows : Entries Branch → Prop}

theorem treesAll_iff {items : List Tree} :
    TreesAll allows items ↔ ∀ item ∈ items, item.All allows := by
  induction items with
  | nil => simp [TreesAll]
  | cons item rest inductionHypothesis =>
    rw [TreesAll, inductionHypothesis, List.forall_mem_cons]

theorem branchesAll_iff {branches : List (String × Branch)} :
    BranchesAll allows branches ↔ ∀ entry ∈ branches, entry.2.All allows := by
  induction branches with
  | nil => simp [BranchesAll]
  | cons entry rest inductionHypothesis =>
    rw [BranchesAll, inductionHypothesis, List.forall_mem_cons]

@[simp] theorem all_list {items : List Tree} :
    (Tree.list items).All allows ↔ ∀ item ∈ items, item.All allows := by
  rw [Tree.All, treesAll_iff]

@[simp] theorem all_object {branches : List (String × Branch)} :
    (Tree.object branches).All allows ↔
      allows branches ∧ ∀ entry ∈ branches, entry.2.All allows := by
  rw [Tree.All, branchesAll_iff]

@[simp] theorem all_held {tree : Tree} : (Branch.held tree).All allows ↔ tree.All allows := by
  rw [Branch.All]

end All

/-- The branches of an object as it is created: for a literal, or for a record. -/
inductive Created (registry : Registry) : Entries Branch → Prop where
  | literal {members : List (String × Branch)}
      (held : ∀ entry ∈ members, ∃ tree, entry.2 = .held tree) :
      Created registry (Entries.ofPairs members)
  | record {factory : Factory} {typename : Option String} {fields : List (String × Default)}
      (listed : factory ∈ registry.factories) (body : factory.body = .record typename fields) :
      Created registry <| Entries.ofPairs <|
        (typename.toList.map fun name => (typenameField, .held (.string name))) ++
          fields.map fun (name, default) => (name, .later default)

variable {registry : Registry}

/-- The names of the fields stand once. -/
theorem Created.once {branches : Entries Branch} (created : Created registry branches) :
    branches.names.Nodup := by
  cases created with
  | literal _ | record _ _ => exact Entries.nodup_ofPairs _

mutual

theorem jsonTree_created (registry : Registry) : (json : Json) →
    (jsonTree json).All (Created registry)
  | .null | .bool _ | .int _ | .float _ | .string _ => by simp only [jsonTree, Tree.All]
  | .array items => by
    rw [jsonTree, Tree.All]
    exact jsonTrees_created registry items
  | .object members => by
    have all := jsonBranches_created registry members
    rw [jsonTree, all_object]
    refine ⟨.literal fun entry member => (all entry member).imp fun _ both => both.1, ?_⟩
    intro entry member
    obtain ⟨tree, held, created⟩ := all entry (Entries.mem_of_mem_ofPairs member)
    rw [held]
    exact all_held.mpr created

theorem jsonTrees_created (registry : Registry) : (items : List Json) →
    TreesAll (Created registry) (jsonTrees items)
  | [] => trivial
  | item :: rest => ⟨jsonTree_created registry item, jsonTrees_created registry rest⟩

theorem jsonBranches_created (registry : Registry) : (members : List (String × Json)) →
    ∀ entry ∈ jsonBranches members, ∃ tree, entry.2 = .held tree ∧ tree.All (Created registry)
  | [] => fun _ none => absurd none List.not_mem_nil
  | (_, member) :: rest => List.forall_mem_cons.mpr
    ⟨⟨_, rfl, jsonTree_created registry member⟩, jsonBranches_created registry rest⟩

end

theorem plainTree_created (registry : Registry) (default : Default) :
    default.plainTree.All (Created registry) := by
  cases default with
  | literal configured =>
    simp only [Default.plainTree, Literal.tree]
    cases configured.meaning with
    | json json => exact jsonTree_created registry json
    | undefined | quoted _ | raw => trivial
  | emptyObject => exact ⟨.literal fun _ none => absurd none List.not_mem_nil, trivial⟩
  | absent | emptyList | emptyString | zeroInt | zeroFloat | false | factory _ => trivial

theorem factory_tree_created {factory : Factory} (listed : factory ∈ registry.factories) :
    factory.body.tree.All (Created registry) := by
  cases body : factory.body with
  | scalar default => exact plainTree_created registry default
  | record typename fields =>
    rw [Body.tree, all_object]
    refine ⟨.record listed body, fun entry member => ?_⟩
    rcases List.mem_append.mp (Entries.mem_of_mem_ofPairs member) with named | listed
    · obtain ⟨name, _, rfl⟩ := List.mem_map.mp named
      trivial
    · obtain ⟨field, _, rfl⟩ := List.mem_map.mp listed
      trivial
  | union _ | enum _ => trivial

theorem chainWithin_listed {calls : Nat} {name : String} {found : Factory}
    (ends : registry.chainWithin calls name = some (.factory found)) :
    found ∈ registry.factories := by
  induction calls generalizing name with
  | zero => cases ends
  | succ calls inductionHypothesis =>
    rw [Registry.chainWithin] at ends
    cases stands : registry.factory? name with
    | none => simp [stands] at ends
    | some factory =>
      cases passes : factory.body.delegate? with
      | some next =>
        simp only [stands, passes] at ends
        exact inductionHypothesis ends
      | none =>
        simp only [stands, passes, Option.some.injEq, ChainEnd.factory.injEq] at ends
        exact ends ▸ List.mem_of_find?_eq_some stands

/-- Every object in the tree of a default is created for a literal or for a record. -/
theorem default_tree_created (registry : Registry) (default : Default) :
    (default.tree registry).All (Created registry) := by
  cases default with
  | factory name =>
    simp only [Default.tree]
    cases ends : registry.chain name with
    | none => trivial
    | some chainEnd =>
      cases chainEnd with
      | missing => trivial
      | factory found => exact factory_tree_created (chainWithin_listed ends)
  | literal configured => exact plainTree_created registry (.literal configured)
  | emptyObject => exact plainTree_created registry .emptyObject
  | absent | emptyList | emptyString | zeroInt | zeroFloat | false => trivial

end SchemaFixtures.Fixture
