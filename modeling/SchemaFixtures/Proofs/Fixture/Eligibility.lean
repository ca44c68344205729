import SchemaFixtures.Proofs.Fixture.Delegation
import SchemaFixtures.Proofs.Schema.TypeNames

/-!
# Which definitions have a factory

A walk hands every definition of a document to the handler of its kind, once and in order, and
the resolver makes a factory of every definition that is eligible. Types have distinct names and
a directive gets no factory, so no factory is dropped for its name: the registry has the
factories of all eligible definitions, as the document lists them.
-/

namespace SchemaFixtures.Fixture

/-- A definition that is to have a factory. -/
structure Eligible (definition : Schema.Definition) : Prop where
  isType : definition.kind ≠ .directive
  unreserved : ¬ "__".toList <+: definition.name.toList
  notBuiltin : definition.kind = .scalar → definition.name ∉ builtinScalars
  notRoot : definition.kind = .object → definition.name ∉ rootOperationTypes
  hasMember : definition.kind = .union → definition.unionMembers ≠ []
  hasValue : definition.kind = .enum → definition.enumValues ≠ []

theorem declares_iff (definition : Schema.Definition) :
    Declares definition = true ↔ Eligible definition := by
  have reserved : isReserved definition.name = true ↔ "__".toList <+: definition.name.toList :=
    List.isPrefixOf_iff_prefix
  rw [Declares, Bool.and_eq_true, Bool.not_eq_true', ← Bool.not_eq_true, reserved]
  constructor
  · rintro ⟨unreserved, ofKind⟩
    refine ⟨fun kind => by simp [kind] at ofKind, unreserved, ?_, ?_, ?_, ?_⟩ <;>
      intro kind <;> simpa [kind] using ofKind
  · rintro ⟨isType, unreserved, notBuiltin, notRoot, hasMember, hasValue⟩
    refine ⟨unreserved, ?_⟩
    cases kind : definition.kind with
    | scalar => simpa using notBuiltin kind
    | object => simpa using notRoot kind
    | interface | inputObject => rfl
    | union => simpa using hasMember kind
    | enum => simpa using hasValue kind
    | directive => exact absurd kind isType

instance : DecidablePred Eligible := fun definition => decidable_of_iff _ (declares_iff definition)

/-! ## Calls of handlers -/

/-- The handler for a kind. -/
def Visitor.handler {α : Type} (visitor : Visitor α) :
    Schema.Kind → Schema.Definition → Option α
  | .scalar => visitor.scalar
  | .object => visitor.object
  | .interface => visitor.interface
  | .union => visitor.union
  | .enum => visitor.enum
  | .inputObject => visitor.inputObject
  | .directive => visitor.directive

/-- Writes down every call of a handler: which handler, and for what definition. -/
def callRecorder : Visitor (Schema.Kind × Schema.Definition) where
  scalar definition := some (.scalar, definition)
  object definition := some (.object, definition)
  interface definition := some (.interface, definition)
  union definition := some (.union, definition)
  enum definition := some (.enum, definition)
  inputObject definition := some (.inputObject, definition)
  directive definition := some (.directive, definition)

/-- A walk calls the handler of its kind for each definition, and no other. -/
theorem walk_recorder (document : Schema.Document) :
    walk document callRecorder =
      document.definitions.map fun definition => (definition.kind, definition) := by
  rw [walk, ← List.filterMap_eq_map]
  congr 1
  funext definition
  rw [Visitor.visit]
  cases kind : definition.kind <;> simp [callRecorder, kind]

/-- What a walk gives is what the calls give. -/
theorem walk_calls {α : Type} (document : Schema.Document) (visitor : Visitor α) :
    walk document visitor =
      (walk document callRecorder).filterMap fun call => visitor.handler call.1 call.2 := by
  rw [walk_recorder, List.filterMap_map, walk]
  congr 1
  funext definition
  rw [Visitor.visit, Function.comp_apply]
  cases definition.kind <;> rfl

/-! ## The factories of a document -/

/-- An eligible definition gets a factory with its name and kind. -/
theorem visit_eligible (settings : Config.Settings) {definition : Schema.Definition}
    (eligible : Eligible definition) :
    ∃ factory, (resolver settings).visit definition = some factory ∧
      factory.name = definition.name ∧ factory.kind = definition.kind := by
  have declares := (declares_iff definition).mpr eligible
  obtain ⟨body, given⟩ := Option.isSome_iff_exists.mp (@body_of_declares settings _ declares)
  refine ⟨factoryOf definition definition.kind body, ?_, rfl, rfl⟩
  rw [visit_eq, if_pos declares, given, Option.map_some]

theorem visit_not_eligible (settings : Config.Settings) {definition : Schema.Definition}
    (not : ¬ Eligible definition) : (resolver settings).visit definition = none := by
  rw [visit_eq, if_neg (not ∘ (declares_iff definition).mp)]

/-- What depends on the name and the kind only is the same for the factories of a list of
definitions and for the eligible ones among them. -/
theorem map_resolved {α : Type} (settings : Config.Settings)
    (definitions : List Schema.Definition) (ofFactory : Factory → α)
    (ofDefinition : Schema.Definition → α)
    (same : ∀ factory definition, factory.name = definition.name →
      factory.kind = definition.kind → ofFactory factory = ofDefinition definition) :
    (definitions.filterMap (resolver settings).visit).map ofFactory =
      (definitions.filter (Eligible ·)).map ofDefinition := by
  induction definitions with
  | nil => rfl
  | cons definition rest inductionHypothesis =>
    by_cases eligible : Eligible definition
    · obtain ⟨factory, visited, name, kind⟩ := visit_eligible settings eligible
      rw [List.filterMap_cons_some visited, List.filter_cons_of_pos (by simpa using eligible),
        List.map_cons, List.map_cons, same _ _ name kind, inductionHypothesis]
    · rw [List.filterMap_cons_none (visit_not_eligible settings eligible),
        List.filter_cons_of_neg (by simpa using eligible), inductionHypothesis]

/-- The factories of a document have distinct names. -/
theorem walked_names_once (definitions : List Schema.Definition) (settings : Config.Settings) :
    ((walk (.ofDefinitions definitions) (resolver settings)).map (·.name)).Nodup := by
  rw [walk, map_resolved settings _ (·.name) (·.name) fun _ _ name _ => name]
  refine (Schema.type_names_once definitions).sublist (List.Sublist.map _ ?_)
  refine List.monotone_filter_right _ fun definition eligible => ?_
  simpa using (of_decide_eq_true eligible).isType

/-- A registry has all factories that are made of its document. -/
theorem build_factories (definitions : List Schema.Definition) (settings : Config.Settings) :
    (Registry.build (.ofDefinitions definitions) settings).factories =
      walk (.ofDefinitions definitions) (resolver settings) :=
  congrArg Registry.factories (foldl_add_of_once {} (walked_names_once definitions settings))

/-- The registry of a document lists the eligible definitions in the order of the document, each
with its kind. A walk calls one handler for each definition, that of its kind. No factory is met
whose name has one, so none is dropped, and every eligible definition has the factory that is
made of it. -/
theorem eligible_definitions_have_factories (definitions : List Schema.Definition)
    (settings : Config.Settings) :
    let document := Schema.Document.ofDefinitions definitions
    let registry := Registry.build document settings
    registry.names = (document.definitions.filter (Eligible ·)).map (·.name) ∧
    registry.factories.map (·.kind) =
      (document.definitions.filter (Eligible ·)).map (·.kind) ∧
    walk document callRecorder =
      document.definitions.map (fun definition => (definition.kind, definition)) ∧
    (∀ {α : Type} (visitor : Visitor α), walk document visitor =
      (walk document callRecorder).filterMap fun call => visitor.handler call.1 call.2) ∧
    registry.factories = walk document (resolver settings) ∧
    (∀ before factory behind, walk document (resolver settings) = before ++ factory :: behind →
      (Registry.ofFactories before).contains factory.name = false) ∧
    ∀ definition ∈ document.definitions, Eligible definition →
      ∃ factory, (resolver settings).visit definition = some factory ∧
        registry.factory? definition.name = some factory ∧
        factory.name = definition.name ∧ factory.kind = definition.kind := by
  intro document registry
  have once := walked_names_once definitions settings
  have all : registry.factories = walk document (resolver settings) :=
    build_factories definitions settings
  refine ⟨?_, ?_, walk_recorder document, walk_calls document, all, ?_, ?_⟩
  · rw [Registry.names, all]
    exact map_resolved settings _ _ _ fun _ _ name _ => name
  · rw [all]
    exact map_resolved settings _ _ _ fun _ _ _ kind => kind
  · intro before factory behind split
    rw [split] at once
    have kept : Registry.ofFactories before = ⟨before⟩ := by
      rw [List.map_append] at once
      exact foldl_add_of_once {} (List.nodup_append.mp once).1
    rw [kept]
    exact not_contains once
  · intro definition member eligible
    obtain ⟨factory, visited, name, kind⟩ := visit_eligible settings eligible
    have listed : factory ∈ registry.factories := by
      rw [all]
      exact List.mem_filterMap.mpr ⟨definition, member, visited⟩
    exact ⟨factory, visited, name ▸ factory?_of_mem (names_once _) listed, name, kind⟩

/-- A document with a directive that is called like a type, a root operation type, a union
without members and a name for introspection. -/
def crowdedSchema : List Schema.Definition := [
  { name := "User", kind := .directive },
  { name := "Query", kind := .object },
  { name := "Nobody", kind := .union },
  { name := "User", kind := .object, fields := [⟨"id", .nonNull (.named "ID")⟩] },
  { name := "__Meta", kind := .object },
  { name := "Role", kind := .enum, enumValues := ["ADMIN"] },
  { name := "Role", kind := .enum, enumValues := ["MEMBER"], isExtension := true }]

/-- Only the user and the role have factories in the crowded document, and the user has the one
that is made of the type. -/
theorem crowdedSchema_names :
    let registry := Registry.build (.ofDefinitions crowdedSchema) {}
    let user : Schema.Definition :=
      { name := "User", kind := .object, fields := [⟨"id", .nonNull (.named "ID")⟩] }
    registry.names = ["User", "Role"] ∧
      ∃ factory, (resolver {}).visit user = some factory ∧
        registry.factory? "User" = some factory ∧ factory.kind = .object := by
  intro registry user
  obtain ⟨names, -, -, -, -, -, given⟩ := eligible_definitions_have_factories crowdedSchema {}
  obtain ⟨factory, visited, found, -, kind⟩ := given user (by decide) (by decide)
  exact ⟨names.trans (by decide), factory, visited, found, kind⟩

end SchemaFixtures.Fixture
