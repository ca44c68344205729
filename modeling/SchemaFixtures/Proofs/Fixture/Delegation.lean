import SchemaFixtures.Proofs.Fixture.Prescription
import SchemaFixtures.Proofs.Fixture.Tree
import SchemaFixtures.Proofs.Schema.Gathering

/-!
# Chains of calls follow the first members

The factories of a schema are those of its declarations, so a chain of calls is the chain
of first members that the schema states. It is followed for one call more than there are
factories. That is enough: on a longer way some name would come twice, and a name that
comes back loops. A chain that ends comes to the value that the schema prescribes.
-/

namespace SchemaFixtures.Fixture

/-! ## Factories and declarations -/

namespace Registry

theorem contains_eq (registry : Registry) (name : String) :
    registry.contains name = (registry.factory? name).isSome := by
  rw [factory?, List.isSome_find?]
  rfl

theorem factory?_add (registry : Registry) (factory : Factory) (name : String) :
    (registry.add factory).factory? name =
      (registry.factory? name).or (if factory.name == name then some factory else none) := by
  by_cases known : registry.contains factory.name = true
  · rw [add, if_pos known]
    by_cases named : factory.name = name
    · have found : (registry.factory? name).isSome = true := by
        rw [← named, ← contains_eq]
        exact known
      obtain ⟨first, same⟩ := Option.isSome_iff_exists.mp found
      rw [same, Option.some_or]
    · rw [if_neg (by simpa using named), Option.or_none]
  · rw [add, if_neg known, factory?, factory?, List.find?_append, List.find?_singleton]

/-- The first factory of a name counts. -/
theorem factory?_ofFactories (factories : List Factory) (name : String) :
    (ofFactories factories).factory? name = factories.find? (·.name == name) := by
  have onto (registry : Registry) : (factories.foldl add registry).factory? name =
      (registry.factory? name).or (factories.find? (·.name == name)) := by
    induction factories generalizing registry with
    | nil => rw [List.foldl_nil, List.find?_nil, Option.or_none]
    | cons factory rest inductionHypothesis =>
      rw [List.foldl_cons, inductionHypothesis, factory?_add, Option.or_assoc, List.find?_cons]
      cases factory.name == name <;> rfl
  exact onto {}

end Registry

theorem contains_iff (registry : Registry) (name : String) :
    registry.contains name = true ↔ name ∈ registry.names := by
  rw [Registry.contains, List.any_eq_true, Registry.names, List.mem_map]
  simp only [beq_iff_eq]

/-- Each name has one factory in a registry of factories. -/
theorem names_once (factories : List Factory) :
    (Registry.ofFactories factories).names.Nodup := by
  have onto (registry : Registry) (once : registry.names.Nodup) :
      (factories.foldl Registry.add registry).names.Nodup := by
    induction factories generalizing registry with
    | nil => exact once
    | cons factory rest inductionHypothesis =>
      refine inductionHypothesis _ ?_
      rw [Registry.add]
      split
      · exact once
      · next missing =>
        have fresh : factory.name ∉ registry.names := by rwa [← contains_iff]
        rw [Registry.names, List.map_append, List.map_singleton, List.nodup_append]
        refine ⟨once, by simp, fun name member other isNew same => ?_⟩
        exact fresh (List.mem_singleton.mp isNew ▸ same ▸ member)
  exact onto {} List.nodup_nil

/-- A listed factory is the one of its name. -/
theorem factory?_of_mem {registry : Registry} (once : registry.names.Nodup) {factory : Factory}
    (listed : factory ∈ registry.factories) :
    registry.factory? factory.name = some factory :=
  Schema.find?_of_mem once listed

theorem not_contains {before behind : List Factory} {factory : Factory}
    (once : ((before ++ factory :: behind).map (·.name)).Nodup) :
    Registry.contains ⟨before⟩ factory.name = false := by
  rw [List.map_append, List.map_cons, List.nodup_append] at once
  rw [← Bool.not_eq_true, contains_iff]
  exact fun met => once.2.2 _ met _ List.mem_cons_self rfl

/-- Factories whose names stand once are all kept. -/
theorem foldl_add_of_once {factories : List Factory} (registry : Registry)
    (once : ((registry.factories ++ factories).map (·.name)).Nodup) :
    factories.foldl Registry.add registry = ⟨registry.factories ++ factories⟩ := by
  induction factories generalizing registry with
  | nil => rw [List.foldl_nil, List.append_nil]
  | cons factory rest inductionHypothesis =>
    have added : registry.add factory = ⟨registry.factories ++ [factory]⟩ := by
      rw [Registry.add, not_contains once, if_neg Bool.false_ne_true]
    have onward : ((registry.factories ++ [factory] ++ rest).map (·.name)).Nodup := by
      rw [List.append_assoc, List.singleton_append]
      exact once
    rw [List.foldl_cons, added, inductionHypothesis _ onward, List.append_assoc,
      List.singleton_append]

variable {document : Schema.Document} {settings : Config.Settings}
  {definition : Schema.Definition} {factory : Factory} {name : String}

/-- The body that the resolver gives a declaration of each kind. -/
def bodyOf? (settings : Config.Settings) (definition : Schema.Definition) : Option Body :=
  match definition.kind with
  | .scalar => some (.scalar (scalarDefault settings definition.name))
  | .object => some (.record (some definition.name) (fieldDefaults settings definition))
  | .interface => some (.record none (fieldDefaults settings definition))
  | .inputObject => some (.record none (fieldDefaults settings definition))
  | .union => definition.unionMembers.head?.map .union
  | .enum => definition.enumValues.head?.map .enum
  | .directive => none

/-- The body of a declaration of a kind. -/
inductive StatesBody (settings : Config.Settings) (definition : Schema.Definition) :
    Schema.Kind → Body → Prop where
  | scalar : StatesBody settings definition .scalar (.scalar (scalarDefault settings definition.name))
  | object : StatesBody settings definition .object
      (.record (some definition.name) (fieldDefaults settings definition))
  | interface : StatesBody settings definition .interface
      (.record none (fieldDefaults settings definition))
  | inputObject : StatesBody settings definition .inputObject
      (.record none (fieldDefaults settings definition))
  | union {member : String} (first : definition.unionMembers.head? = some member) :
      StatesBody settings definition .union (.union member)
  | enum {value : String} (first : definition.enumValues.head? = some value) :
      StatesBody settings definition .enum (.enum value)

theorem bodyOf?_states {body : Body} (given : bodyOf? settings definition = some body) :
    StatesBody settings definition definition.kind body := by
  rw [bodyOf?] at given
  cases kind : definition.kind with
  | scalar =>
    rw [kind] at given
    exact Option.some.inj given ▸ .scalar
  | object =>
    rw [kind] at given
    exact Option.some.inj given ▸ .object
  | interface =>
    rw [kind] at given
    exact Option.some.inj given ▸ .interface
  | inputObject =>
    rw [kind] at given
    exact Option.some.inj given ▸ .inputObject
  | union =>
    rw [kind] at given
    obtain ⟨member, first, rfl⟩ := Option.map_eq_some_iff.mp given
    exact .union first
  | enum =>
    rw [kind] at given
    obtain ⟨value, first, rfl⟩ := Option.map_eq_some_iff.mp given
    exact .enum first
  | directive =>
    rw [kind] at given
    cases given

/-- A definition gets a factory exactly when it declares values. -/
theorem visit_eq (settings : Config.Settings) (definition : Schema.Definition) :
    (resolver settings).visit definition =
      if Declares definition then
        (bodyOf? settings definition).map (factoryOf definition definition.kind)
      else none := by
  cases reserved : isReserved definition.name with
  | true =>
    cases kind : definition.kind <;>
      simp [Visitor.visit, resolver, Declares, kind, reserved]
  | false =>
    cases kind : definition.kind with
    | scalar | object | interface | inputObject | directive =>
      simp [Visitor.visit, resolver, Declares, bodyOf?, kind, reserved]
    | union =>
      cases members : definition.unionMembers.head? <;>
        simp [Visitor.visit, resolver, Declares, bodyOf?, kind, reserved, members]
    | enum =>
      cases values : definition.enumValues.head? <;>
        simp [Visitor.visit, resolver, Declares, bodyOf?, kind, reserved, values]

/-- What declares values has a body. -/
theorem body_of_declares (declares : Declares definition = true) :
    (bodyOf? settings definition).isSome := by
  cases kind : definition.kind <;> simp_all [Declares, bodyOf?]

theorem visit_named (settings : Config.Settings) (definition : Schema.Definition)
    (name : String) : ((resolver settings).visit definition).any (·.name == name) =
      (Declares definition && definition.name == name) := by
  rw [visit_eq]
  cases declares : Declares definition with
  | true =>
    obtain ⟨body, given⟩ := Option.isSome_iff_exists.mp (@body_of_declares settings _ declares)
    simp [given, factoryOf]
  | false => rfl

/-- The factory of a name is that of its declaration. -/
theorem factory?_build (document : Schema.Document) (settings : Config.Settings) (name : String) :
    (Registry.build document settings).factory? name =
      (declaration? document name).bind (resolver settings).visit := by
  rw [Registry.build, Registry.factory?_ofFactories, walk, List.find?_filterMap, declaration?]
  simp only [visit_named]

/-- A declared name has the factory that its declaration is given. -/
theorem factory?_of_declaration (declared : declaration? document name = some definition) :
    ∃ body, bodyOf? settings definition = some body ∧
      (Registry.build document settings).factory? name =
        some (factoryOf definition definition.kind body) := by
  have declares : Declares definition = true := by
    have satisfied := List.find?_some declared
    exact (Bool.and_eq_true_iff.mp satisfied).1
  obtain ⟨body, given⟩ := Option.isSome_iff_exists.mp (@body_of_declares settings _ declares)
  refine ⟨body, given, ?_⟩
  rw [factory?_build, declared, Option.bind_some, visit_eq, if_pos declares, given, Option.map_some]

theorem contains_build (document : Schema.Document) (settings : Config.Settings) (name : String) :
    (Registry.build document settings).contains name = (declaration? document name).isSome := by
  rw [Registry.contains_eq]
  cases declared : declaration? document name with
  | none => rw [factory?_build, declared]; rfl
  | some definition =>
    obtain ⟨body, _, found⟩ := @factory?_of_declaration _ settings _ _ declared
    rw [found]
    rfl

/-! ## The trees of prescribed values -/

/-- The branch of a declared field. -/
def fieldBranch (settings : Config.Settings) (field : Schema.Field) : String × Branch :=
  (field.name, .later (fieldDefault settings field.type))

/-- The private tree of a prescribed value. -/
def Prescribed.tree (settings : Config.Settings) : Prescribed → Tree
  | .absent => .absent
  | .enum value => .enum value
  | .raw source => .raw source
  | .json value => jsonTree value
  | .record typename fields =>
    .object <| Entries.ofPairs <|
      (typename.toList.map fun name => (typenameField, .held (.string name))) ++
        fields.map (fieldBranch settings)

theorem Literal.tree_prescribed (literal : Literal) (settings : Config.Settings) :
    literal.tree = literal.prescribed.tree settings := by
  rw [Literal.tree, Literal.prescribed]
  cases literal.meaning <;> rfl

/-- The body of a scalar calls no factory and gives what is prescribed. -/
theorem scalar_body (settings : Config.Settings) (name : String) :
    (Body.scalar (scalarDefault settings name)).delegate? = none ∧
      (scalarDefault settings name).plainTree = (scalarPrescribed settings name).tree settings := by
  rw [scalarDefault, configured?, scalarPrescribed]
  cases settings.scalarDefault? name with
  | some source => exact ⟨rfl, Literal.tree_prescribed ⟨source⟩ settings⟩
  | none => cases settings.scalarShape name <;> exact ⟨rfl, rfl⟩

theorem record_body (settings : Config.Settings) (typename : Option String)
    (definition : Schema.Definition) :
    (Body.record typename (fieldDefaults settings definition)).tree =
      (Prescribed.record typename definition.fields).tree settings := by
  rw [Body.tree, Prescribed.tree, fieldDefaults, List.map_map]
  rfl

/-- A body passes calls on exactly when it is that of a union, and another body gives what
the declaration prescribes. -/
theorem body_cases {body : Body} (given : bodyOf? settings definition = some body) :
    (∃ member, definition.kind = .union ∧ definition.unionMembers.head? = some member ∧
      body.delegate? = some member) ∨
    (body.delegate? = none ∧ ∃ value, ownPrescribed? settings definition = some value ∧
      body.tree = value.tree settings) := by
  have states := bodyOf?_states given
  rw [ownPrescribed?]
  generalize definition.kind = kind at states ⊢
  cases states with
  | scalar =>
    obtain ⟨ends, same⟩ := scalar_body settings definition.name
    exact .inr ⟨ends, _, rfl, same⟩
  | object | interface | inputObject => exact .inr ⟨rfl, _, rfl, record_body settings _ definition⟩
  | union first => exact .inl ⟨_, rfl, first, rfl⟩
  | @enum value first => exact .inr ⟨rfl, .enum value, by rw [first]; rfl, rfl⟩

/-! ## Chains -/

/-- The tree of what stands at the end of a chain. -/
def ChainEnd.tree : ChainEnd → Tree
  | .factory found => found.body.tree
  | .missing => .absent

/-- A chain that ends comes to the prescribed value. -/
theorem chainWithin_value {calls : Nat} {chainEnd : ChainEnd}
    (followed : (Registry.build document settings).chainWithin calls name = some chainEnd) :
    ∃ value, TypeValue document settings name value ∧ chainEnd.tree = value.tree settings := by
  induction calls generalizing name with
  | zero => cases followed
  | succ calls inductionHypothesis =>
    cases declared : declaration? document name with
    | none =>
      have missing : (Registry.build document settings).factory? name = none := by
        rw [factory?_build, declared]
        rfl
      simp only [Registry.chainWithin, missing] at followed
      obtain rfl := Option.some.inj followed
      exact ⟨.absent, .undeclared declared, rfl⟩
    | some definition =>
      obtain ⟨body, given, found⟩ := @factory?_of_declaration _ settings _ _ declared
      rcases body_cases given with ⟨member, kind, listed, passes⟩ | ⟨ends, value, owns, same⟩
      · simp only [Registry.chainWithin, found, factoryOf, passes] at followed
        obtain ⟨value, stands, same⟩ := inductionHypothesis followed
        exact ⟨value, .union ⟨definition, declared, kind, listed⟩ stands, same⟩
      · simp only [Registry.chainWithin, found, factoryOf, ends] at followed
        obtain rfl := Option.some.inj followed
        exact ⟨value, .own declared owns, same⟩

/-- A chain that does not end within some calls has as many names without a repeat, all of
them declared: those that came before, each leading to the name, and those of the calls. -/
theorem chainWithin_ends {calls : Nat} {seen : List String} (ends : ¬ Loops document name)
    (distinct : seen.Nodup)
    (known : seen ⊆ (Registry.build document settings).names)
    (lead : ∀ earlier ∈ seen, Relation.TransGen (StandsFor document) earlier name)
    (enough : (Registry.build document settings).size < calls + seen.length) :
    ∃ chainEnd, (Registry.build document settings).chainWithin calls name = some chainEnd := by
  induction calls generalizing name seen with
  | zero =>
    have bounded := distinct.length_le_of_subset known
    simp only [Registry.names, List.length_map, Registry.size] at bounded enough
    omega
  | succ calls inductionHypothesis =>
    cases declared : declaration? document name with
    | none =>
      have missing : (Registry.build document settings).factory? name = none := by
        rw [factory?_build, declared]
        rfl
      exact ⟨.missing, by simp only [Registry.chainWithin, missing]⟩
    | some definition =>
      obtain ⟨body, given, found⟩ := @factory?_of_declaration _ settings _ _ declared
      rcases body_cases given with ⟨member, kind, listed, passes⟩ | ⟨single, _⟩
      · have stands : StandsFor document name member := ⟨definition, declared, kind, listed⟩
        have fresh : name ∉ seen := fun again => ends ⟨name, .refl, lead name again⟩
        have named : name ∈ (Registry.build document settings).names := by
          have same := List.find?_some found
          exact List.mem_map.mpr ⟨_, List.mem_of_find?_eq_some found, by simpa using same⟩
        obtain ⟨chainEnd, followed⟩ := @inductionHypothesis member (name :: seen)
          (fun loops => ends (loops.of_next stands)) (List.nodup_cons.mpr ⟨fresh, distinct⟩)
          (List.cons_subset.mpr ⟨named, known⟩)
          (fun earlier before => by
            rcases List.mem_cons.mp before with rfl | before
            · exact .single stands
            · exact (lead earlier before).tail stands)
          (by rw [List.length_cons]; omega)
        exact ⟨chainEnd, by simp only [Registry.chainWithin, found, factoryOf, passes, followed]⟩
      · refine ⟨.factory (factoryOf definition definition.kind body), ?_⟩
        simp only [Registry.chainWithin, found, factoryOf, single]

/-- A chain that does not loop ends within one call more than there are factories. -/
theorem chain_ends (settings : Config.Settings) (ends : ¬ Loops document name) :
    ∃ chainEnd, (Registry.build document settings).chain name = some chainEnd :=
  chainWithin_ends ends List.nodup_nil (List.nil_subset _)
    (fun _ earlier => absurd earlier List.not_mem_nil) (Nat.lt_succ_self _)

/-- A type that does not loop has a value, and calling its factory gives the tree of the
value. -/
theorem typeValue_exists (settings : Config.Settings) (ends : ¬ Loops document name) :
    ∃ value, TypeValue document settings name value ∧
      (Default.factory name).tree (Registry.build document settings) = value.tree settings := by
  obtain ⟨chainEnd, followed⟩ := chain_ends settings ends
  obtain ⟨value, stands, same⟩ := chainWithin_value followed
  refine ⟨value, stands, ?_⟩
  rw [Default.tree, followed, ← same]
  cases chainEnd <;> rfl

/-- Calling a factory gives the tree of the value that is prescribed for the name. -/
theorem factory_tree {value : Prescribed} (stands : TypeValue document settings name value) :
    (Default.factory name).tree (Registry.build document settings) = value.tree settings := by
  obtain ⟨other, again, same⟩ := typeValue_exists settings stands.ends
  rw [stands.unique again]
  exact same

end SchemaFixtures.Fixture
