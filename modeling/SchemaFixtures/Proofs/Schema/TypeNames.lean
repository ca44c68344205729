import Mathlib.Data.List.Nodup
import SchemaFixtures.Proofs.Schema.Merging

/-!
# Each type has its name to itself

No two types of a document have one name, whatever list of definitions it is made of: even an
extension of a directive, which no schema text yields, only takes the place of a type. A
directive may have the name of a type.
-/

namespace SchemaFixtures.Schema

/-- Keys stand once, and a type stands under the key of its name. Under such a key a directive
may stand too: there an extension of a directive is placed that waited. -/
structure Known.Typed (known : Known) : Prop where
  once : known.keys.Nodup
  types : ∀ entry ∈ known, entry.2.kind ≠ .directive → entry.1 = entry.2.typeKey

namespace Known.Typed

variable {known : Known} {key : Key} {definition : Definition}

theorem nil : Known.Typed [] := ⟨List.nodup_nil, fun _ member => absurd member List.not_mem_nil⟩

/-- Folding an extension in changes no name and no kind. -/
theorem extend (typed : known.Typed) (key : Key) (extension : Definition) :
    (known.extend key extension).Typed := by
  refine ⟨by rw [keys_extend]; exact typed.once, ?_⟩
  intro entry member isType
  obtain ⟨before, stands, rfl⟩ := List.mem_map.mp member
  by_cases same : before.1 = key
  · rw [if_pos same] at isType ⊢
    exact same.symm.trans (typed.types before stands isType)
  · rw [if_neg same] at isType ⊢
    exact typed.types before stands isType

theorem append (typed : known.Typed) (missing : known.has key = false)
    (own : definition.kind ≠ .directive → key = definition.typeKey) :
    Known.Typed (known ++ [(key, definition)]) := by
  refine ⟨once_append typed.once missing definition, fun entry member isType => ?_⟩
  rcases List.mem_append.mp member with before | last
  · exact typed.types entry before isType
  · obtain rfl := List.mem_singleton.mp last
    exact own isType

theorem settle (typed : known.Typed) (extension : Definition) :
    (known.settle extension).Typed := by
  rw [Known.settle]
  cases present : known.has extension.typeKey with
  | true => exact typed.extend _ _
  | false => exact typed.append present fun _ => rfl

theorem foldl_settle (typed : known.Typed) (waiting : List Definition) :
    (waiting.foldl Known.settle known).Typed := by
  induction waiting generalizing known with
  | nil => exact typed
  | cons extension rest inductionHypothesis => exact inductionHypothesis (typed.settle extension)

end Known.Typed

theorem Gathering.add_typed {gathering : Gathering} (typed : gathering.known.Typed)
    (definition : Definition) : (gathering.add definition).known.Typed := by
  cases late : definition.isExtension <;>
    cases present : gathering.known.has definition.key <;>
    simp only [Gathering.add, late, present, if_true, if_false, Bool.false_eq_true]
  · exact typed.append present fun isType => (typeKey_eq isType).symm
  · exact typed
  · exact typed
  · exact typed.extend _ _

theorem Gathering.foldl_typed (definitions : List Definition) {gathering : Gathering}
    (typed : gathering.known.Typed) :
    (definitions.foldl Gathering.add gathering).known.Typed := by
  induction definitions generalizing gathering with
  | nil => exact typed
  | cons definition rest inductionHypothesis =>
    exact inductionHypothesis (gathering.add_typed typed definition)

theorem settled_typed (definitions : List Definition) : (settled definitions).Typed :=
  (Gathering.foldl_typed definitions .nil).foldl_settle _

/-- No two types of a document have one name. -/
theorem type_names_once (definitions : List Definition) :
    (((Document.ofDefinitions definitions).definitions.filter (·.kind ≠ .directive)).map
      (·.name)).Nodup := by
  have typed := settled_typed definitions
  let types := (settled definitions).filter (·.2.kind ≠ .directive)
  have listed : (Document.ofDefinitions definitions).definitions.filter (·.kind ≠ .directive) =
      types.map (·.2) := List.filter_map
  have keys : types.map (·.1) = (types.map (·.2.name)).map (Key.mk false) := by
    rw [List.map_map]
    refine List.map_congr_left fun entry member => ?_
    obtain ⟨stands, isType⟩ := List.mem_filter.mp member
    exact typed.types entry stands (of_decide_eq_true isType)
  rw [listed, List.map_map]
  refine List.Nodup.of_map (Key.mk false) ?_
  have once : (types.map (·.1)).Nodup := typed.once.sublist (List.filter_sublist.map _)
  exact keys ▸ once

end SchemaFixtures.Schema
