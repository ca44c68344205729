import Mathlib.Data.List.Perm.Basic
import SchemaFixtures.Proofs.Fixture.Eligibility
import SchemaFixtures.Proofs.Fixture.Instantiation
import SchemaFixtures.Proofs.Fixture.Traversal

/-!
# Definitions in another order

When definitions change places and those of one name keep their order, a document has the same
definitions, since what it makes of a name depends on the definitions of the name alone. Its
registry has the same factories in another order. Nothing but the lookup of a name and the
number of factories enters into a chain of calls, so all calls end alike, and a fixture stands
for the same private tree.
-/

namespace SchemaFixtures.Schema

/-- The same definitions in another order, in which those of one name keep theirs. -/
structure Rearranged (first second : List Definition) : Prop where
  perm : first.Perm second
  order : ∀ name, first.filter (·.name == name) = second.filter (·.name == name)

namespace Rearranged

variable {first second : List Definition}

/-- A definition can be moved behind definitions of other names. -/
theorem move {definition : Definition} {others rest : List Definition}
    (apart : ∀ other ∈ others, other.name ≠ definition.name) :
    Rearranged (definition :: (others ++ rest)) (others ++ definition :: rest) := by
  refine ⟨List.perm_middle.symm, fun name => ?_⟩
  rw [List.filter_append]
  by_cases named : definition.name = name
  · have none : others.filter (·.name == name) = [] :=
      List.filter_eq_nil_iff.mpr fun other member => by
        simpa [← named] using apart other member
    rw [List.filter_cons_of_pos (by simpa using named), List.filter_append, none,
      List.filter_cons_of_pos (by simpa using named)]
    rfl
  · rw [List.filter_cons_of_neg (by simpa using named), List.filter_append,
      List.filter_cons_of_neg (by simpa using named)]

theorem lowered (rearranged : Rearranged first second) (lowered : Lowered first) :
    Lowered second :=
  fun definition member => lowered definition (rearranged.perm.mem_iff.mpr member)

/-- The definitions of a key have their order too. -/
theorem ofKey_eq (rearranged : Rearranged first second) (key : Key) :
    ofKey first key = ofKey second key := by
  have own (definitions : List Definition) : ofKey definitions key =
      (definitions.filter (·.name == key.name)).filter (·.key == key) := by
    rw [List.filter_filter, ofKey]
    refine List.filter_congr fun definition _ => ?_
    by_cases same : definition.key = key
    · simp [← same, Definition.key]
    · simp [same]
  rw [own, own, rearranged.order]

end Rearranged

/-- A document has the definitions that are made of the definitions of each key. -/
theorem mem_document_iff {definitions : List Definition} (lowered : Lowered definitions)
    (definition : Definition) :
    definition ∈ (Document.ofDefinitions definitions).definitions ↔
      merged? (ofKey definitions definition.key) = some definition := by
  rw [← document_find? lowered]
  exact ⟨find?_of_mem (document_once lowered), List.mem_of_find?_eq_some⟩

theorem Rearranged.documents {first second : List Definition}
    (rearranged : Rearranged first second) (lowered : Lowered first) :
    (Document.ofDefinitions first).definitions.Perm
      (Document.ofDefinitions second).definitions := by
  have loweredToo := rearranged.lowered lowered
  refine (List.perm_ext_iff_of_nodup (document_once lowered).of_map
    (document_once loweredToo).of_map).mpr fun definition => ?_
  rw [mem_document_iff lowered, mem_document_iff loweredToo, rearranged.ofKey_eq]

end SchemaFixtures.Schema

namespace SchemaFixtures.Fixture

/-! ## Factories in another order -/

/-- The same factories in another order, one per name. -/
structure Registry.Alike (first second : Registry) : Prop where
  perm : first.factories.Perm second.factories
  once : first.names.Nodup

theorem build_alike {first second : List Schema.Definition}
    (rearranged : Schema.Rearranged first second) (lowered : Schema.Lowered first)
    (settings : Config.Settings) :
    (Registry.build (.ofDefinitions first) settings).Alike
      (Registry.build (.ofDefinitions second) settings) := by
  refine ⟨?_, names_once _⟩
  rw [build_factories, build_factories]
  exact (rearranged.documents lowered).filterMap _

theorem factory?_eq_some_iff {registry : Registry} (once : registry.names.Nodup) {name : String}
    {factory : Factory} :
    registry.factory? name = some factory ↔
      factory ∈ registry.factories ∧ factory.name = name := by
  constructor
  · intro found
    exact ⟨List.mem_of_find?_eq_some found, by simpa using List.find?_some found⟩
  · rintro ⟨listed, rfl⟩
    exact factory?_of_mem once listed

namespace Registry.Alike

variable {first second : Registry}

theorem names (alike : first.Alike second) : first.names.Perm second.names :=
  alike.perm.map _

theorem factory?_eq (alike : first.Alike second) (name : String) :
    first.factory? name = second.factory? name := by
  refine Option.ext fun factory => ?_
  rw [factory?_eq_some_iff alike.once, factory?_eq_some_iff (alike.names.nodup alike.once),
    alike.perm.mem_iff]

theorem contains_eq (alike : first.Alike second) (name : String) :
    first.contains name = second.contains name := by
  rw [Registry.contains_eq, Registry.contains_eq, alike.factory?_eq]

theorem chainWithin_eq (alike : first.Alike second) (calls : Nat) (name : String) :
    first.chainWithin calls name = second.chainWithin calls name := by
  induction calls generalizing name with
  | zero => rfl
  | succ calls inductionHypothesis =>
    simp only [chainWithin, alike.factory?_eq, inductionHypothesis]

/-- Every chain of calls ends alike, or goes round in both. -/
theorem chain_eq (alike : first.Alike second) (name : String) :
    first.chain name = second.chain name := by
  rw [chain, chain, size, size, alike.perm.length_eq, alike.chainWithin_eq]

theorem default_tree (alike : first.Alike second) (default : Default) :
    default.tree first = default.tree second := by
  cases default with
  | factory name => simp only [Default.tree, alike.chain_eq]
  | absent | emptyList | emptyString | zeroInt | zeroFloat | false | emptyObject | literal _ => rfl

theorem tree?_eq (alike : first.Alike second) (name : String) :
    first.tree? name = second.tree? name := by
  rw [tree?, tree?, alike.contains_eq, alike.default_tree]

theorem branch_tree (alike : first.Alike second) (branch : Branch) :
    branch.tree first = branch.tree second := by
  cases branch with
  | held tree => rfl
  | later default => exact alike.default_tree default

theorem get?_eq (alike : first.Alike second) (path : List String) (tree : Tree) :
    tree.get? first path = tree.get? second path := by
  induction path generalizing tree with
  | nil => rfl
  | cons name rest inductionHypothesis =>
    cases tree <;> simp only [Tree.get?, alike.branch_tree, inductionHypothesis]

theorem treeJsonObject_eq (alike : first.Alike second) (depth : Nat) :
    treeJsonObject first depth = treeJsonObject second depth := by
  induction depth with
  | zero =>
    funext branches
    simp only [treeJsonObject, Tree.typename?, alike.branch_tree]
  | succ depth inductionHypothesis =>
    funext branches
    simp only [treeJsonObject, alike.branch_tree, inductionHypothesis]

theorem materialize_eq (alike : first.Alike second) (depth : Nat) (tree : Tree) :
    tree.materialize first depth = tree.materialize second depth := by
  rw [Tree.materialize, Tree.materialize, alike.treeJsonObject_eq]

end Registry.Alike

/-! ## Fixtures of a registry -/

/-- What a path finds in a new fixture of a type, as a tree. -/
def fixtureYields (registry : Registry) (name : String) (path : List String) (store : Store) :
    Option (Option Tree) :=
  (registry.instantiate? name store).map fun (fixture, store) =>
    (fixture.get? registry path store).1.map Value.tree

/-- The JSON of a new fixture of a type. -/
def fixtureJson (registry : Registry) (name : String) (depth : Nat) (store : Store) :
    Option Json :=
  (registry.instantiate? name store).map fun (fixture, store) =>
    (fixture.materialize registry depth store).1

variable {registry : Registry} {plan : Plan} {store : Store}

theorem fixtureYields_eq (follows : store.Follows registry plan) (name : String)
    (path : List String) :
    fixtureYields registry name path store =
      (registry.tree? name).map (·.get? registry path) := by
  have stands := instantiate?_stands follows name
  rw [fixtureYields]
  generalize registry.instantiate? name store = made? at stands ⊢
  generalize registry.tree? name = tree? at stands ⊢
  cases stands with
  | none => rfl
  | some stands =>
    obtain ⟨_, _, followsOn, stands⟩ := stands
    obtain ⟨_, _, _, read⟩ := get?_stands followsOn stands path
    exact congrArg some (same_trees read)

theorem fixtureJson_eq (follows : store.Follows registry plan) (name : String) (depth : Nat) :
    fixtureJson registry name depth store =
      (registry.tree? name).map (·.materialize registry depth) := by
  have stands := instantiate?_stands follows name
  rw [fixtureJson]
  generalize registry.instantiate? name store = made? at stands ⊢
  generalize registry.tree? name = tree? at stands ⊢
  cases stands with
  | none => rfl
  | some stands =>
    obtain ⟨_, _, followsOn, stands⟩ := stands
    obtain ⟨_, _, _, same⟩ := materialize_stands followsOn stands depth
    exact congrArg some same

end SchemaFixtures.Fixture
