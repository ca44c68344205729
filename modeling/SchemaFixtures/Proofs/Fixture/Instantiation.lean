import SchemaFixtures.Proofs.Fixture.Delegation
import SchemaFixtures.Proofs.Fixture.Isolation

/-!
# Fixtures are what the schema prescribes

Reading along a path from a fixture gives the value that the schema prescribes at the end of
the path. The private tree of a prescribed value is known, field by field; the induction is
on the path, and at each name the tree of the field is the tree of the value that the rules
give for the field. Values in a store stand for their private trees, so the same holds of
every fixture that is made in any state that scripts lead to.
-/

namespace SchemaFixtures.Fixture

variable {document : Schema.Document} {settings : Config.Settings}

/-! ## Fields -/

/-- The fields of a record are apart, and none states the name of a type. -/
def Prescribed.Apart : Prescribed → Prop
  | .record _ fields => (typenameField :: fields.map (·.name)).Nodup
  | _ => True

theorem Literal.prescribed_apart (literal : Literal) : literal.prescribed.Apart := by
  rw [Literal.prescribed]
  cases literal.meaning <;> trivial

theorem scalarPrescribed_apart (settings : Config.Settings) (name : String) :
    (scalarPrescribed settings name).Apart := by
  rw [scalarPrescribed]
  cases settings.scalarDefault? name with
  | some source => exact Literal.prescribed_apart ⟨source⟩
  | none => cases settings.scalarShape name <;> trivial

theorem TypeValue.apart (fieldsApart : FieldsApart document) {name : String} {value : Prescribed}
    (stands : TypeValue document settings name value) : value.Apart := by
  induction stands with
  | undeclared _ => trivial
  | union _ _ inductionHypothesis => exact inductionHypothesis
  | @own name definition value declared owns =>
    have once := fieldsApart definition (List.mem_of_find?_eq_some declared)
    rw [ownPrescribed?] at owns
    cases kind : definition.kind with
    | scalar =>
      rw [kind] at owns
      obtain rfl := Option.some.inj owns
      exact scalarPrescribed_apart settings definition.name
    | object | interface | inputObject =>
      rw [kind] at owns
      obtain rfl := Option.some.inj owns
      exact once
    | enum =>
      rw [kind] at owns
      obtain ⟨first, _, rfl⟩ := Option.map_eq_some_iff.mp owns
      trivial
    | union | directive =>
      rw [kind] at owns
      cases owns

/-- A name has a value that is built in for it, or its default is a call of its factory. -/
theorem builtin_cases (registry : Registry) (settings : Config.Settings) (name : String) :
    (∃ value, builtinPrescribed? name = some value ∧ value.Apart ∧
      (builtinDefault name).tree registry = value.tree settings) ∨
    (builtinPrescribed? name = none ∧ builtinDefault name = .factory name) := by
  rw [builtinPrescribed?, builtinDefault]
  by_cases text : name = "ID" ∨ name = "String"
  · rw [if_pos text, if_pos text]
    exact .inl ⟨_, rfl, trivial, rfl⟩
  rw [if_neg text, if_neg text]
  by_cases int : name = "Int"
  · rw [if_pos int, if_pos int]
    exact .inl ⟨_, rfl, trivial, rfl⟩
  rw [if_neg int, if_neg int]
  by_cases float : name = "Float"
  · rw [if_pos float, if_pos float]
    exact .inl ⟨_, rfl, trivial, rfl⟩
  rw [if_neg float, if_neg float]
  by_cases boolean : name = "Boolean"
  · rw [if_pos boolean, if_pos boolean]
    exact .inl ⟨_, rfl, trivial, rfl⟩
  rw [if_neg boolean, if_neg boolean]
  exact .inr ⟨rfl, rfl⟩

theorem CallsType.fieldDefault_eq {type : Schema.TypeRef} {name : String}
    (calls : CallsType settings type name) : fieldDefault settings type = .factory name := by
  obtain ⟨rfl, free, notBuiltin⟩ := calls
  rw [fieldDefault, namedDefault, configured?, free]
  rcases builtin_cases {} settings name with ⟨other, given, _⟩ | ⟨_, called⟩
  · cases notBuiltin.symm.trans given
  · exact called

/-- A field has the prescribed value. -/
theorem FieldValue.tree_same {type : Schema.TypeRef} {value : Prescribed}
    (stands : FieldValue document settings type value) :
    (fieldDefault settings type).tree (Registry.build document settings) =
      value.tree settings := by
  cases stands with
  | named _ | list _ | nonNullList _ | nonNullTwice _ => rfl
  | configured configured =>
    rw [fieldDefault, namedDefault, configured?, configured]
    exact Literal.tree_prescribed _ settings
  | builtin free builtin =>
    rw [fieldDefault, namedDefault, configured?, free]
    rcases builtin_cases (Registry.build document settings) settings _ with
      ⟨other, given, _, same⟩ | ⟨missing, _⟩
    · rw [Option.some.inj (builtin.symm.trans given)]
      exact same
    · cases missing.symm.trans builtin
  | typed calls stands =>
    rw [calls.fieldDefault_eq]
    exact factory_tree stands

theorem FieldValue.apart (fieldsApart : FieldsApart document) {type : Schema.TypeRef}
    {value : Prescribed} (stands : FieldValue document settings type value) : value.Apart := by
  cases stands with
  | named _ | list _ | nonNullList _ | nonNullTwice _ => trivial
  | configured _ => exact Literal.prescribed_apart _
  | builtin _ builtin =>
    rcases builtin_cases (Registry.build document settings) settings _ with
      ⟨other, given, apart, _⟩ | ⟨missing, _⟩
    · rw [Option.some.inj (builtin.symm.trans given)]
      exact apart
    · cases missing.symm.trans builtin
  | typed _ stands => exact stands.apart fieldsApart

/-- A field has a value unless its type loops. -/
theorem fieldValue_exists (document : Schema.Document) (settings : Config.Settings)
    (type : Schema.TypeRef) :
    (∃ value, FieldValue document settings type value) ∨
      ∃ name, CallsType settings type name ∧ Loops document name := by
  cases type with
  | named name => exact .inl ⟨_, .named name⟩
  | list item => exact .inl ⟨_, .list item⟩
  | nonNull inner =>
    cases inner with
    | list item => exact .inl ⟨_, .nonNullList item⟩
    | nonNull inner => exact .inl ⟨_, .nonNullTwice inner⟩
    | named name =>
      cases configured : settings.scalarDefault? name with
      | some source => exact .inl ⟨_, .configured configured⟩
      | none =>
        cases builtin : builtinPrescribed? name with
        | some value => exact .inl ⟨value, .builtin configured builtin⟩
        | none =>
          have calls : CallsType settings (.nonNull (.named name)) name :=
            ⟨rfl, configured, builtin⟩
          by_cases loops : Loops document name
          · exact .inr ⟨name, calls, loops⟩
          · obtain ⟨value, stands, _⟩ := typeValue_exists settings loops
            exact .inl ⟨value, .typed calls stands⟩

/-! ## Paths -/

/-- What a path comes to agrees with what was found; nothing is said about a field whose type
loops. -/
def Outcome.Meets (settings : Config.Settings) : Outcome → Option Tree → Prop
  | .found value, read => read = some (value.tree settings)
  | .nothing, read => read = none
  | .looping, _ => True

/-- The branches of a record, in order. -/
def recordBranches (settings : Config.Settings) (typename : Option String)
    (fields : List Schema.Field) : List (String × Branch) :=
  (typename.toList.map fun name => (typenameField, .held (.string name))) ++
    fields.map (fieldBranch settings)

theorem recordBranches_names (settings : Config.Settings) (typename : Option String)
    (fields : List Schema.Field) :
    Entries.names (recordBranches settings typename fields) =
      typename.toList.map (fun _ => typenameField) ++ fields.map (·.name) := by
  rw [Entries.names, recordBranches, List.map_append, List.map_map, List.map_map]
  rfl

/-- A record has the name of its type, if it states it, and the names of its fields. -/
theorem mem_recordNames_iff {typename : Option String} {fields : List Schema.Field}
    {name : String} :
    name ∈ typename.toList.map (fun _ => typenameField) ++ fields.map (·.name) ↔
      typename.isSome ∧ name = typenameField ∨ ∃ field ∈ fields, field.name = name := by
  rw [List.mem_append]
  refine or_congr ?_ List.mem_map
  cases typename <;> simp

theorem recordBranches_once {typename : Option String} {fields : List Schema.Field}
    (apart : (Prescribed.record typename fields).Apart) :
    (Entries.names (recordBranches settings typename fields)).Nodup := by
  rw [recordBranches_names]
  cases typename with
  | none => exact (List.nodup_cons.mp apart).2
  | some name => exact apart

/-- The tree of a record has the branches as they are declared. -/
theorem record_tree {typename : Option String} {fields : List Schema.Field}
    (apart : (Prescribed.record typename fields).Apart) :
    (Prescribed.record typename fields).tree settings =
      .object (recordBranches settings typename fields) :=
  congrArg Tree.object (Entries.ofPairs_of_nodup (recordBranches_once apart))

theorem jsonBranches_eq (members : List (String × Json)) :
    jsonBranches members = Entries.mapValues (fun member => .held (jsonTree member)) members := by
  induction members with
  | nil => rfl
  | cons member rest inductionHypothesis =>
    rw [jsonBranches, inductionHypothesis]
    rfl

theorem jsonMember_tree (members : List (String × Json)) (name : String) :
    Entries.value? (Entries.ofPairs (jsonBranches members)) name =
      ((Entries.ofPairs members).value? name).map fun member => .held (jsonTree member) := by
  rw [jsonBranches_eq, ← Entries.mapValues_ofPairs, Entries.value?_mapValues]

/-- Only records and objects of JSON have fields to follow. -/
theorem noObject_get? {value : Prescribed} (registry : Registry) (name : String)
    (rest : List String) (noRecord : ∀ typename fields, value ≠ .record typename fields)
    (noMembers : ∀ members, value ≠ .json (.object members)) :
    (value.tree settings).get? registry (name :: rest) = none := by
  cases value with
  | absent | enum _ | raw _ => rfl
  | record typename fields => exact absurd rfl (noRecord typename fields)
  | json json =>
    cases json with
    | object members => exact absurd rfl (noMembers members)
    | null | bool _ | int _ | float _ | string _ | array _ => rfl

/-- Reading along a path comes to what is prescribed, by induction on the path. -/
theorem Leads.meets (fieldsApart : FieldsApart document) {value : Prescribed}
    {path : List String} {outcome : Outcome}
    (leads : Leads document settings value path outcome) (apart : value.Apart) :
    outcome.Meets settings
      ((value.tree settings).get? (Registry.build document settings) path) := by
  induction leads with
  | here value => rfl
  | @typename name fields rest outcome _ inductionHypothesis =>
    have found : Entries.value? (recordBranches settings (some name) fields) typenameField =
        some (.held (.string name)) :=
      Entries.value?_of_mem (recordBranches_once apart) List.mem_cons_self
    rw [record_tree apart, Tree.get?, found]
    exact inductionHypothesis trivial
  | @field typename fields field rest value outcome declared stands _ inductionHypothesis =>
    have found : Entries.value? (recordBranches settings typename fields) field.name =
        some (.later (fieldDefault settings field.type)) :=
      Entries.value?_of_mem (recordBranches_once apart)
        (List.mem_append_right _ (List.mem_map.mpr ⟨field, declared, rfl⟩))
    have same : Branch.tree (Registry.build document settings)
        (.later (fieldDefault settings field.type)) = value.tree settings := stands.tree_same
    rw [record_tree apart, Tree.get?, found]
    simp only [same]
    exact inductionHypothesis (stands.apart fieldsApart)
  | loop _ _ _ => trivial
  | @undeclared typename fields name rest untold missing =>
    have absent : Entries.value? (recordBranches settings typename fields) name = none := by
      rw [Entries.value?_eq_none_iff, recordBranches_names, mem_recordNames_iff]
      rintro (⟨told, isName⟩ | ⟨field, declared, same⟩)
      · exact untold told isName
      · exact missing field declared same
    rw [record_tree apart, Tree.get?, absent]
    rfl
  | @member members name member rest outcome found _ inductionHypothesis =>
    rw [Prescribed.tree, jsonTree, Tree.get?, jsonMember_tree, found]
    exact inductionHypothesis trivial
  | @noMember members name rest missing =>
    rw [Prescribed.tree, jsonTree, Tree.get?, jsonMember_tree, missing]
    rfl
  | noObject noRecord noMembers => exact noObject_get? _ _ _ noRecord noMembers

/-- Every path in a prescribed value comes to something. -/
theorem leads_exists (document : Schema.Document) (settings : Config.Settings)
    (value : Prescribed) (path : List String) :
    ∃ outcome, Leads document settings value path outcome := by
  induction path generalizing value with
  | nil => exact ⟨_, .here value⟩
  | cons name rest inductionHypothesis =>
    cases value with
    | absent => exact ⟨.nothing, .noObject (by simp) (by simp)⟩
    | enum _ => exact ⟨.nothing, .noObject (by simp) (by simp)⟩
    | raw _ => exact ⟨.nothing, .noObject (by simp) (by simp)⟩
    | json json =>
      cases json with
      | object members =>
        cases found : (Entries.ofPairs members).value? name with
        | none => exact ⟨.nothing, .noMember found⟩
        | some member =>
          obtain ⟨outcome, leads⟩ := inductionHypothesis (.json member)
          exact ⟨outcome, .member found leads⟩
      | null | bool _ | int _ | float _ | string _ | array _ =>
        exact ⟨.nothing, .noObject (by simp) (by simp)⟩
    | record typename fields =>
      by_cases declared : ∃ field ∈ fields, field.name = name
      · obtain ⟨field, member, rfl⟩ := declared
        rcases fieldValue_exists document settings field.type with
          ⟨value, stands⟩ | ⟨type, calls, loops⟩
        · obtain ⟨outcome, leads⟩ := inductionHypothesis value
          exact ⟨outcome, .field member stands leads⟩
        · exact ⟨.looping, .loop member calls loops⟩
      have missing : ∀ field ∈ fields, field.name ≠ name :=
        fun field member same => declared ⟨field, member, same⟩
      by_cases told : typename.isSome ∧ name = typenameField
      · obtain ⟨stated, rfl⟩ := told
        obtain ⟨own, rfl⟩ := Option.isSome_iff_exists.mp stated
        obtain ⟨outcome, leads⟩ := inductionHypothesis (.json (.string own))
        exact ⟨outcome, .typename leads⟩
      · exact ⟨.nothing, .undeclared (fun stated same => told ⟨stated, same⟩) missing⟩

/-! ## Fixtures -/

/-- A value is what is prescribed: the whole of a JSON value, and of a record the names of
its fields in order. -/
def Value.Is (value : Value) : Prescribed → Prop
  | .absent => value = .absent
  | .enum name => value = .enum name
  | .raw source => value = .raw source
  | .json json => value.tree = jsonTree json
  | .record typename fields => ∃ identity entries, value = .object identity entries ∧
      Entries.names entries =
        typename.toList.map (fun _ => typenameField) ++ fields.map (·.name)

/-- What a path comes to is what was found: the value that is prescribed, or nothing where
nothing is. -/
def Outcome.Tells : Outcome → Option Value → Prop
  | .found prescribed, read => ∃ value, read = some value ∧ value.Is prescribed
  | .nothing, read => read = none
  | .looping, _ => True

/-- A value that stands for the tree of a prescribed value is what is prescribed. -/
theorem is_of_tree {value : Value} {prescribed : Prescribed} (apart : prescribed.Apart)
    (same : value.tree = prescribed.tree settings) : value.Is prescribed := by
  cases prescribed with
  | absent | enum _ | raw _ => cases value <;> simp_all [Value.Is, Value.tree, Prescribed.tree]
  | json json => exact same
  | record typename fields =>
    rw [record_tree apart] at same
    cases value with
    | object identity entries =>
      refine ⟨identity, entries, rfl, ?_⟩
      rw [Value.tree_object] at same
      rw [← recordBranches_names settings, ← Tree.object.inj same, Entries.names_mapValues]
    | absent | null | boolean _ | int _ | float _ | string _ | enum _ | raw _ | list _ =>
      cases same

/-- What reading a private tree gives, reading the value gives. -/
theorem tells_of_meets {registry : Registry} {plan : Plan} {store : Store}
    (follows : store.Follows registry plan) {value : Value} {tree : Tree}
    (stands : value.Stands plan tree) (path : List String) {outcome : Outcome}
    (apart : ∀ prescribed, outcome = .found prescribed → prescribed.Apart)
    (meets : outcome.Meets settings (tree.get? registry path)) :
    outcome.Tells (value.get? registry path store).1 := by
  obtain ⟨_, _, _, read⟩ := get?_stands follows stands path
  generalize (value.get? registry path store).1 = read? at read ⊢
  generalize tree.get? registry path = tree? at read meets
  cases outcome with
  | found prescribed =>
    cases read with
    | none => cases meets
    | some stands =>
      have same := stands.same.trans (Option.some.inj meets)
      exact ⟨_, rfl, is_of_tree (apart prescribed rfl) same⟩
  | nothing =>
    cases read with
    | none => rfl
    | some _ => cases meets
  | looping => trivial

/-- The values along a path are records with their fields apart. -/
theorem Leads.apart (fieldsApart : FieldsApart document) {value prescribed : Prescribed}
    {path : List String} {outcome : Outcome}
    (leads : Leads document settings value path outcome) (apart : value.Apart)
    (comes : outcome = .found prescribed) : prescribed.Apart := by
  induction leads with
  | here value => exact Outcome.found.inj comes ▸ apart
  | typename _ inductionHypothesis => exact inductionHypothesis trivial comes
  | field _ stands _ inductionHypothesis =>
    exact inductionHypothesis (stands.apart fieldsApart) comes
  | member _ _ inductionHypothesis => exact inductionHypothesis trivial comes
  | loop _ _ _ | undeclared _ _ | noMember _ | noObject _ _ => cases comes

theorem ofSettings_registry (registry : Registry) (settings : Config.Settings) :
    (Accessor.ofSettings registry settings).registry = registry := by
  rw [Accessor.ofSettings]
  cases settings.immer <;> rfl

/-- The store that a script leaves follows a plan for the factories. -/
theorem reached_follows (registry : Registry) (settings : Config.Settings)
    (script : List Instruction) :
    ∃ plan, (runScript script { accessor := .ofSettings registry settings }).2.store.Follows
      registry plan := by
  obtain ⟨plan, _, mirrors, _⟩ :=
    runScript_alike _ script (start_mirrors (.ofSettings registry settings))
  have follows := mirrors.follows
  rw [ofSettings_registry] at follows
  exact ⟨plan, follows⟩

/-- A fixture is the value that the schema prescribes. In whatever state scripts have left
the store, there is a fixture of a name exactly when the schema declares values of it. Every
path from the fixture comes to something by the rules of the schema, and reading along the
path gives just that: the value that is prescribed at its end, or nothing where a name on
the way is not declared or stands for no object. -/
theorem fixture_follows_schema (document : Schema.Document) (settings : Config.Settings)
    (fieldsApart : FieldsApart document) (name : String) (ends : ¬ Loops document name)
    (script : List Instruction) :
    let registry := Registry.build document settings
    let reached := (runScript script { accessor := .ofSettings registry settings }).2
    (registry.instantiate? name reached.store).isSome = (declaration? document name).isSome ∧
      ∀ made ∈ registry.instantiate? name reached.store, ∀ path,
        (∃ outcome, TypeLeads document settings name path outcome) ∧
          ∀ outcome, TypeLeads document settings name path outcome →
            outcome.Tells (made.1.get? registry path made.2).1 := by
  intro registry reached
  obtain ⟨plan, _, mirrors, _⟩ :=
    runScript_alike _ script (start_mirrors (.ofSettings registry settings))
  have follows : reached.store.Follows registry plan :=
    ofSettings_registry registry settings ▸ mirrors.follows
  have declares : registry.contains name = (declaration? document name).isSome :=
    contains_build document settings name
  have stands := instantiate?_stands follows name
  rw [Registry.tree?, declares] at stands
  generalize registry.instantiate? name reached.store = made? at stands ⊢
  cases declared : (declaration? document name).isSome with
  | false =>
    rw [declared, if_neg Bool.false_ne_true] at stands
    cases stands
    exact ⟨rfl, fun made isMade => by cases isMade⟩
  | true =>
    rw [declared, if_pos rfl] at stands
    cases stands with
    | @some made _ stands =>
      obtain ⟨grown, _, followsOn, stands⟩ := stands
      refine ⟨rfl, fun other same path => ⟨?_, ?_⟩⟩
      · obtain ⟨prescribed, given, _⟩ := typeValue_exists settings ends
        obtain ⟨outcome, leads⟩ := leads_exists document settings prescribed path
        exact ⟨outcome, prescribed, given, leads⟩
      · intro outcome typeLeads
        obtain rfl : made = other := Option.some.inj same
        obtain ⟨prescribed, given, leads⟩ := typeLeads
        have apart := given.apart fieldsApart
        have meets := leads.meets fieldsApart apart
        rw [← factory_tree given] at meets
        exact tells_of_meets followsOn stands path (fun _ => leads.apart fieldsApart apart) meets

/-- A user has a friend, who is a user, and a role; neither can be null. -/
def userSchema : Schema.Document where
  definitions := [
    { name := "User", kind := .object, fields := [
      ⟨"name", .named "String"⟩, ⟨"friend", .nonNull (.named "User")⟩,
      ⟨"role", .nonNull (.named "Role")⟩] },
    { name := "Role", kind := .enum, enumValues := ["GUEST", "ADMIN"] }]

/-- The role of a friend of a user is the first role. -/
theorem user_follows_schema :
    FieldsApart userSchema ∧ ¬ Loops userSchema "User" ∧
      ((Registry.build userSchema {}).instantiate? "User" {}).isSome ∧
      ∀ made ∈ (Registry.build userSchema {}).instantiate? "User" {},
        (made.1.get? (Registry.build userSchema {}) ["friend", "role"] made.2).1 =
          some (.enum "GUEST") := by
  have fieldsApart : FieldsApart userSchema := by
    unfold FieldsApart
    decide
  have isUser : TypeValue userSchema {} "User" (.record (some "User") [
      ⟨"name", .named "String"⟩, ⟨"friend", .nonNull (.named "User")⟩,
      ⟨"role", .nonNull (.named "Role")⟩]) := .own rfl rfl
  have isRole : TypeValue userSchema {} "Role" (.enum "GUEST") := .own rfl rfl
  have leads : TypeLeads userSchema {} "User" ["friend", "role"] (.found (.enum "GUEST")) := by
    refine ⟨_, isUser, ?_⟩
    refine @Leads.field _ _ _ _ ⟨"friend", .nonNull (.named "User")⟩ _ _ _ (by decide)
      (.typed ⟨rfl, rfl, rfl⟩ isUser) ?_
    exact @Leads.field _ _ _ _ ⟨"role", .nonNull (.named "Role")⟩ _ _ _ (by decide)
      (.typed ⟨rfl, rfl, rfl⟩ isRole) (.here _)
  obtain ⟨declared, follows⟩ :=
    fixture_follows_schema userSchema {} fieldsApart "User" isUser.ends []
  refine ⟨fieldsApart, isUser.ends, declared, fun made isMade => ?_⟩
  obtain ⟨value, read, isGuest⟩ := (follows made isMade ["friend", "role"]).2 _ leads
  exact read.trans (congrArg some isGuest)

end SchemaFixtures.Fixture
