import SchemaFixtures.Proofs.Fixture.Course
import SchemaFixtures.Proofs.Fixture.Instantiation
import SchemaFixtures.Proofs.Fixture.Traversal

/-!
# The name that an object states for its type

The first field of an object that is made for a type states the name of the type. The declared
fields are put behind it one after another, each under its name. A field that is declared under
the very name of the discriminator therefore takes the place of the stated name, and the object
states what that field comes to. Only names of types are kept from being reserved ones. Apart
from this an object states the name of its type, also when it is made for a union, and reading
changes nothing about it.
-/

namespace SchemaFixtures.Fixture

variable {document : Schema.Document} {settings : Config.Settings}
  {definition : Schema.Definition}

/-- The last field that is declared in the place of the discriminator. -/
def discriminatorField? (definition : Schema.Definition) : Option Schema.Field :=
  definition.fields.reverse.find? (·.name == typenameField)

/-- The text that an object of a type states as the name of its type: the name, or what the field
comes to that is declared in its place. -/
def States (document : Schema.Document) (settings : Config.Settings)
    (definition : Schema.Definition) (text : String) : Prop :=
  match discriminatorField? definition with
  | none => text = definition.name
  | some field => FieldValue document settings field.type (.json (.string text))

/-! ## Fields that come to a text -/

/-- A type that loops has no value to make a fixture of. -/
theorem Loops.tree {name : String} (loops : Loops document name) :
    (Default.factory name).tree (Registry.build document settings) = .absent := by
  rw [Default.tree]
  cases followed : (Registry.build document settings).chain name with
  | none => rfl
  | some chainEnd =>
    obtain ⟨value, stands, _⟩ := chainWithin_value followed
    exact absurd loops stands.ends

theorem Prescribed.json_of_tree {value : Prescribed} {text : String}
    (same : value.tree settings = .string text) : value = .json (.string text) := by
  cases value with
  | json json =>
    cases json with
    | string other => exact congrArg (Prescribed.json ∘ Json.string) (Tree.string.inj same)
    | null | bool _ | int _ | float _ | array _ | object _ => cases same
  | absent | enum _ | raw _ | record _ _ => cases same

/-- The default of a field gives a text exactly when the field comes to it. -/
theorem text_given_iff (document : Schema.Document) (settings : Config.Settings)
    (type : Schema.TypeRef) (text : String) :
    ((fieldDefault settings type).tree (Registry.build document settings)).string? = some text ↔
      FieldValue document settings type (.json (.string text)) := by
  constructor
  · intro given
    rcases fieldValue_exists document settings type with ⟨value, stands⟩ | ⟨name, calls, loops⟩
    · rw [stands.tree_same] at given
      have same : value.tree settings = .string text := by
        cases tree : value.tree settings <;> simp_all [Tree.string?]
      exact Prescribed.json_of_tree same ▸ stands
    · rw [calls.fieldDefault_eq, loops.tree] at given
      cases given
  · intro stands
    rw [stands.tree_same]
    rfl

/-! ## The branches of an object -/

/-- The branches of an object: the name of its type and the declared fields, put one after
another. -/
def objectBranches (settings : Config.Settings) (definition : Schema.Definition) :
    Entries Branch :=
  Entries.ofPairs (recordBranches settings (some definition.name) definition.fields)

/-- The discriminator keeps its place at the front. -/
theorem objectBranches_head (settings : Config.Settings) (definition : Schema.Definition) :
    (objectBranches settings definition).names.head? = some typenameField := by
  rw [objectBranches, Entries.names_ofPairs, recordBranches_names]
  show (typenameField :: _).eraseDups.head? = some typenameField
  rw [List.eraseDups_cons, List.head?_cons]

theorem value?_fieldBranches (settings : Config.Settings) (fields : List Schema.Field)
    (name : String) : Entries.value? (fields.map (fieldBranch settings)) name =
      (fields.find? (·.name == name)).map fun field => .later (fieldDefault settings field.type) := by
  induction fields with
  | nil => rfl
  | cons field rest inductionHypothesis =>
    rw [List.map_cons, fieldBranch, Entries.value?, inductionHypothesis, List.find?_cons]
    by_cases named : field.name = name
    · rw [if_pos named, beq_iff_eq.mpr named]
      rfl
    · rw [if_neg named, beq_eq_false_iff_ne.mpr named]

/-- The branches state what the objects of the type state. -/
theorem objectBranches_state (document : Schema.Document) (settings : Config.Settings)
    (definition : Schema.Definition) (text : String) :
    Tree.typename? (Registry.build document settings) (objectBranches settings definition) =
        some text ↔ States document settings definition text := by
  rw [Tree.typename?, objectBranches, Entries.value?_ofPairs, recordBranches,
    List.reverse_append, ← List.map_reverse, Entries.value?_append, value?_fieldBranches, States,
    discriminatorField?]
  cases definition.fields.reverse.find? (·.name == typenameField) with
  | none =>
    show some definition.name = some text ↔ text = definition.name
    rw [Option.some.injEq, eq_comm]
  | some field => exact text_given_iff document settings field.type text

/-- An object that is not read any further is converted to what it states. -/
theorem materialize_zero_iff (registry : Registry) (branches : Entries Branch) (text : String) :
    (Tree.object branches).materialize registry 0 =
        .object [(typenameField, .string text)] ↔
      Tree.typename? registry branches = some text := by
  rw [Tree.materialize, treeJsonWith, treeJsonObject]
  cases Tree.typename? registry branches with
  | none => simp
  | some name => simp

/-! ## Objects -/

/-- A name that leads to an object type has the value of the type. -/
theorem object_value {name last : String}
    (leads : Relation.ReflTransGen (StandsFor document) name last)
    (declared : declaration? document last = some definition)
    (isObject : definition.kind = .object) :
    TypeValue document settings name (.record (some definition.name) definition.fields) := by
  induction leads using Relation.ReflTransGen.head_induction_on with
  | refl => exact .own declared (by rw [ownPrescribed?, isObject])
  | head stands _ inductionHypothesis => exact .union stands inductionHypothesis

theorem leads_declared {name last : String}
    (leads : Relation.ReflTransGen (StandsFor document) name last)
    (declared : declaration? document last = some definition) :
    (declaration? document name).isSome = true := by
  rcases Relation.ReflTransGen.cases_head leads with rfl | ⟨member, stands, _⟩
  · rw [declared]
    rfl
  · exact Option.isSome_iff_ne_none.mpr stands.declared

/-- There is a fixture of a name that leads to an object type, and it is an object with the
branches of the type. -/
theorem object_made {name last : String} {store : Store} {plan : Plan}
    (leads : Relation.ReflTransGen (StandsFor document) name last)
    (declared : declaration? document last = some definition)
    (isObject : definition.kind = .object)
    (follows : store.Follows (Registry.build document settings) plan) :
    ∃ identity fields after,
      (Registry.build document settings).instantiate? name store =
        some (.object identity fields, after) ∧
      Entries.mapValues Field.branch fields = objectBranches settings definition := by
  have contained : (Registry.build document settings).contains name = true :=
    (contains_build document settings name).trans (leads_declared leads declared)
  have tree := factory_tree (@object_value _ settings _ _ _ leads declared isObject)
  have stands := instantiate?_stands follows name
  rw [Registry.tree?, if_pos contained, tree] at stands
  generalize (Registry.build document settings).instantiate? name store = made? at stands ⊢
  cases stands with
  | @some made _ stands =>
    obtain ⟨_, _, _, stands⟩ := stands
    obtain ⟨value, after⟩ := made
    have same : value.tree = .object (objectBranches settings definition) := stands.same
    cases value with
    | object identity fields =>
      rw [Value.tree_object] at same
      exact ⟨identity, fields, after, rfl, Tree.object.inj same⟩
    | absent | null | boolean _ | int _ | float _ | string _ | enum _ | raw _ | list _ =>
      cases same

theorem Session.Sound.registry_eq {registry : Registry} {session : Session}
    (sound : session.Sound (.ofSettings registry settings)) : session.registry = registry := by
  rw [Session.registry, sound.accessor_eq, ofSettings_registry]

/-- An object of a schema, made for its type or for a union that comes to it, has the discriminator
as its first field, and after anything that does not write it, it is the same object. What it
states as the name of its type, and what is left of it when it is converted to depth zero, is the
name of the type if no field is declared in the place of the discriminator. Otherwise it is the
text that the last such field comes to, and there is none where the field comes to no text. -/
theorem object_fixtures_state_names (document : Schema.Document) (settings : Config.Settings)
    {name last : String} {definition : Schema.Definition}
    (leads : Relation.ReflTransGen (StandsFor document) name last)
    (declared : declaration? document last = some definition)
    (isObject : definition.kind = .object) (script further : List Instruction) (target : String)
    (unwritten : scriptWrites target further = false) :
    let registry := Registry.build document settings
    let before := (runScript script { accessor := .ofSettings registry settings }).2
    let made := (before.step (.fixture name target)).2
    let after := (runScript further made).2
    ∃ identity fields,
      made.bindings.value? target = some (.object identity fields) ∧
      after.bindings.value? target = some (.object identity fields) ∧
      (Entries.names fields).head? = some typenameField ∧
      (∀ text, (typename? registry fields after.store).1 = some text ↔
        States document settings definition text) ∧
      (∀ text, ((Value.object identity fields).materialize registry 0 after.store).1 =
          .object [(typenameField, .string text)] ↔ States document settings definition text) ∧
      ((∀ field ∈ definition.fields, field.name ≠ typenameField) →
        (typename? registry fields after.store).1 = some definition.name) := by
  intro registry before made after
  have sound : before.Sound (.ofSettings registry settings) :=
    runScript_sound script (start_sound _)
  have soundMade : made.Sound (.ofSettings registry settings) :=
    runScript_sound [.step (.fixture name target)] sound
  have soundAfter : after.Sound (.ofSettings registry settings) :=
    runScript_sound further soundMade
  obtain ⟨_, follows, _⟩ := sound.planned
  rw [sound.registry_eq] at follows
  obtain ⟨identity, fields, store, instantiated, branches⟩ :=
    object_made leads declared isObject follows
  have named : made.bindings.value? target = some (.object identity fields) := by
    have given : before.accessor.fixture? name before.store =
        some (.object identity fields, store) := by
      rw [Accessor.fixture?, ← Session.registry, sound.registry_eq]
      exact instantiated
    simp only [made, Session.step, given, Session.keep]
    exact Entries.value?_put_self _ _ _
  have still : after.bindings.value? target = some (.object identity fields) :=
    ((runScript_leaves further made soundMade.once).same target unwritten).trans named
  obtain ⟨plan, followsAfter, planned⟩ := soundAfter.planned
  rw [soundAfter.registry_eq] at followsAfter
  have objectPlanned := planned target _ still
  have tree : (Value.object identity fields).tree =
      .object (objectBranches settings definition) := by
    rw [Value.tree_object, branches]
  have states (text : String) : (typename? registry fields after.store).1 = some text ↔
      States document settings definition text := by
    obtain ⟨_, _, _, read⟩ :=
      typename?_stands followsAfter fields ((planned_object plan identity fields).mp objectPlanned)
    rw [read, branches]
    exact objectBranches_state document settings definition text
  refine ⟨identity, fields, named, still, ?_, states, fun text => ?_, fun untold => ?_⟩
  · rw [← Entries.names_mapValues Field.branch, branches]
    exact objectBranches_head settings definition
  · obtain ⟨_, _, _, read⟩ := materialize_stands followsAfter ⟨objectPlanned, tree⟩ 0
    rw [read, materialize_zero_iff]
    exact objectBranches_state document settings definition text
  · have none : discriminatorField? definition = none := by
      rw [discriminatorField?, List.find?_eq_none]
      simpa using untold
    rw [states, States, none]

/-- A user who is found by a search and who declares a field in the place of the name. -/
def overriddenName : Schema.Document where
  definitions := [
    { name := "SearchResult", kind := .union, unionMembers := ["User"] },
    { name := "User", kind := .object, fields := [
      ⟨"__typename", .nonNull (.named "String")⟩, ⟨"name", .nonNull (.named "String")⟩] }]

/-- The user states no name, also after the result of the search was read. -/
theorem overriddenName_stated :
    let registry := Registry.build overriddenName {}
    let made := (Session.step { accessor := .ofSettings registry {} }
      (.fixture "SearchResult" "found")).2
    let after := (runScript [.step (.operate "found" (.read [] (.materialize 2)))] made).2
    ∃ identity fields, after.bindings.value? "found" = some (.object identity fields) ∧
      (typename? registry fields after.store).1 = some "" ∧
      ((Value.object identity fields).materialize registry 0 after.store).1 =
        .object [("__typename", .string "")] := by
  intro registry made after
  have leads : StandsFor overriddenName "SearchResult" "User" := ⟨_, rfl, rfl, rfl⟩
  have declared : declaration? overriddenName "User" = some overriddenName.definitions[1] := rfl
  have stated : States overriddenName {} overriddenName.definitions[1] "" := .builtin rfl rfl
  obtain ⟨identity, fields, -, still, -, names, converted, -⟩ :=
    object_fixtures_state_names overriddenName {} (.single leads) declared rfl []
      [.step (.operate "found" (.read [] (.materialize 2)))] "found" (by decide)
  exact ⟨identity, fields, still, (names "").mpr stated, (converted "").mpr stated⟩

end SchemaFixtures.Fixture
