import SchemaFixtures.Proofs.Emission.Evaluation
import SchemaFixtures.Proofs.Emission.Readable
import SchemaFixtures.Proofs.Fixture.Instantiation

/-!
# The emitted module and the registry make the same fixtures

A schema has two realisations: a registry whose defaults are worked out in a store, and a module
whose members are run. Both follow what the schema prescribes. For the registry this is known.
For the module it is shown here, one expression after another: the expression of a default comes
to what is prescribed for the default, a call comes to what is prescribed for the type, and a
call of a type that loops comes to nothing. A path is then followed on the rules of the schema,
and reaches the same on either side.

Configured defaults may be anything that stands on one line, except the call of a factory: that
would be a call in the module and a text that cannot be read in the registry.
-/

namespace SchemaFixtures.Emission

open Fixture

/-- No configured default is the call of a factory. -/
def CallFree (settings : Config.Settings) : Prop :=
  ∀ entry ∈ settings.scalarDefaults, calledName? (Text.trimmed entry.2) = none

/-- The property of a declared field. -/
def fieldProperty (document : Schema.Document) (settings : Config.Settings) (field : Schema.Field) :
    Property :=
  property (.build document settings) (field.name, fieldDefault settings field.type)

section Rendering

variable (document : Schema.Document) (settings : Config.Settings)

/-- What evaluating comes to renders what a schema prescribes. There is one zero for whole and
floating-point numbers, an enum value is its text, and a text that cannot be read is trimmed. -/
inductive Renders : Emitted → Prescribed → Prop where
  | absent : Renders .absent .absent
  | raw {source other : String} (same : Text.trimmed source = Text.trimmed other) :
      Renders (.raw source) (.raw other)
  | json (json : Json) : Renders (.json json) (.json json)
  | zero : Renders (.json (.int 0)) (.json (.float 0.0))
  | enum (value : String) : Renders (.json (.string value)) (.enum value)
  | record (typename : Option String) (fields : List Schema.Field) :
      Renders (.record typename (fields.map (fieldProperty document settings)))
        (.record typename fields)

end Rendering

variable {document : Schema.Document} {settings : Config.Settings}

/-! ## Expressions that call no factory -/

/-- An expression comes to something that renders a prescribed value. -/
def Gives (document : Schema.Document) (settings : Config.Settings) (form : Form)
    (prescribed : Prescribed) : Prop :=
  ∃ value, Evaluates (members settings (.build document settings)) form value ∧
    Renders document settings value prescribed

theorem configured_gives (callFree : CallFree settings) {name source : String}
    (configured : settings.scalarDefault? name = some source) :
    Gives document settings (.expression (Text.trimmed source)) (Literal.prescribed ⟨source⟩) := by
  have found := (Option.filter_eq_some_iff.mp configured).1
  have plain := callFree _ (Entries.mem_of_value? found)
  refine ⟨_, .literal plain, ?_⟩
  have twice : Text.trimmed (Text.trimmed source) = Text.trimmed source := by
    simp [Text.trimmed]
  rw [literalEmitted, meaning_trimmed, Literal.prescribed]
  cases Literal.meaning ⟨source⟩ with
  | undefined => exact .absent
  | quoted text => exact .json (.string text)
  | json json => exact .json json
  | raw => exact .raw twice

/-- What the expressions come to that are written for built-in defaults. -/
theorem constants_emitted :
    literalEmitted "undefined" = .absent ∧ literalEmitted "[]" = .json (.array []) ∧
      literalEmitted "''" = .json (.string "") ∧ literalEmitted "0" = .json (.int 0) ∧
      literalEmitted "false" = .json (.bool false) ∧
      literalEmitted "(\x7b\x7d)" = .json (.object []) := by
  have peeled : Literal.peel "(\x7b\x7d)".toList = "\x7b\x7d".toList :=
    (Literal.peel_enclosed rfl).trans (Literal.peel_bare rfl)
  refine ⟨?_, ?_, ?_, ?_, ?_, ?_⟩ <;> rw [literalEmitted, Literal.meaning]
  · rw [Literal.peel_bare rfl]
    rfl
  · rw [Literal.peel_bare rfl]
    rfl
  · rw [Literal.peel_bare rfl]
    rfl
  · rw [Literal.peel_bare rfl]
    rfl
  · rw [Literal.peel_bare rfl]
    rfl
  · rw [peeled]
    rfl

/-- A built-in default stands for a prescribed value. -/
inductive StandsIn : Default → Prescribed → Prop where
  | absent : StandsIn .absent .absent
  | emptyList : StandsIn .emptyList (.json (.array []))
  | emptyString : StandsIn .emptyString (.json (.string ""))
  | zeroInt : StandsIn .zeroInt (.json (.int 0))
  | zeroFloat : StandsIn .zeroFloat (.json (.float 0.0))
  | false : StandsIn .false (.json (.bool Bool.false))
  | emptyObject : StandsIn .emptyObject (.json (.object []))

/-- The expression of a built-in default comes to what the default stands for. -/
theorem builtin_gives {default : Default} {prescribed : Prescribed}
    (stands : StandsIn default prescribed) :
    Gives document settings (.expression (defaultSource (.build document settings) default))
      prescribed := by
  obtain ⟨undefined, list, text, zero, no, object⟩ := constants_emitted
  have gives {source : String} {emitted : Emitted} (plain : calledName? source = none)
      (comes : literalEmitted source = emitted)
      (renders : Renders document settings emitted prescribed) :
      Gives document settings (.expression source) prescribed :=
    ⟨emitted, comes ▸ .literal plain, renders⟩
  cases stands with
  | absent => exact @gives "undefined" _ (by decide) undefined .absent
  | emptyList => exact @gives "[]" _ (by decide) list (.json _)
  | emptyString => exact @gives "''" _ (by decide) text (.json _)
  | zeroInt => exact @gives "0" _ (by decide) zero (.json _)
  | zeroFloat => exact @gives "0" _ (by decide) zero .zero
  | false => exact @gives "false" _ (by decide) no (.json _)
  | emptyObject => exact @gives "(\x7b\x7d)" _ (by decide) object (.json _)

/-- The default of a declared scalar comes to what is prescribed for the scalar. -/
theorem scalar_gives (callFree : CallFree settings) (name : String) :
    Gives document settings
      (.expression (defaultSource (.build document settings) (scalarDefault settings name)))
      (scalarPrescribed settings name) := by
  rw [scalarDefault, configured?, scalarPrescribed]
  cases configured : settings.scalarDefault? name with
  | some source => exact configured_gives callFree configured
  | none =>
    cases settings.scalarShape name with
    | string => exact builtin_gives .emptyString
    | number => exact builtin_gives .zeroInt
    | other => exact builtin_gives .emptyObject

/-- The default that is built in for a name stands for the value that is prescribed for it. -/
theorem builtinDefault_standsIn {name : String} {prescribed : Prescribed}
    (builtin : builtinPrescribed? name = some prescribed) :
    StandsIn (builtinDefault name) prescribed := by
  rw [builtinPrescribed?] at builtin
  rw [builtinDefault]
  split_ifs at builtin ⊢ <;> cases builtin <;> constructor

/-! ## Calls -/

/-- The members of a schema are found by the names of its factories. -/
theorem member?_eq (settings : Config.Settings) (registry : Registry) (name : String) :
    member? (members settings registry) name =
      (registry.factory? name).map (member settings registry) := by
  rw [member?, members, List.find?_map, Registry.factory?]
  rfl

/-- The member of a declared name, and the call that is written for the name. -/
theorem declared_call (named : Named document) {name : String} {definition : Schema.Definition}
    (declared : declaration? document name = some definition) :
    let registry := Registry.build document settings
    ∃ body, bodyOf? settings definition = some body ∧
      member? (members settings registry) name =
        some (member settings registry (factoryOf definition definition.kind body)) ∧
      calledName? (callSource registry name) = some name := by
  intro registry
  obtain ⟨body, given, found⟩ := @factory?_of_declaration _ settings _ _ declared
  have known : registry.contains name = true := by rw [contains_build, declared]; rfl
  have isName := isName_of_names named name ((contains_iff registry name).mp known)
  refine ⟨body, given, ?_, ?_⟩
  · rw [member?_eq, found, Option.map_some]
  · rw [callSource, if_pos known, calledName?_call isName]

theorem undeclared_call {name : String} (missing : declaration? document name = none) :
    callSource (.build document settings) name = "undefined" := by
  have unknown : (Registry.build document settings).contains name = false := by
    rw [contains_build, missing]
    rfl
  rw [callSource, unknown]
  rfl

/-- The member of a definition that stands for itself comes to its own value. -/
theorem own_gives (callFree : CallFree settings) {definition : Schema.Definition} {body : Body}
    {prescribed : Prescribed} (given : bodyOf? settings definition = some body)
    (owns : ownPrescribed? settings definition = some prescribed) :
    Gives document settings (form (.build document settings) body) prescribed := by
  have states := bodyOf?_states given
  rw [ownPrescribed?] at owns
  generalize definition.kind = kind at states owns
  cases states with
  | scalar =>
    cases owns
    exact scalar_gives callFree definition.name
  | object | interface | inputObject =>
    cases owns
    refine ⟨_, .record _ _, ?_⟩
    rw [fieldDefaults, List.map_map]
    exact .record _ definition.fields
  | union _ => cases owns
  | enum first =>
    simp only [first] at owns
    cases owns
    exact ⟨_, .enum _, .enum _⟩

/-- A name comes to what is prescribed for its type when it is called. The induction is on the
first members that the type stands for; each of them is one call more. -/
theorem type_gives (named : Named document) (callFree : CallFree settings) {name : String}
    {prescribed : Prescribed} (stands : TypeValue document settings name prescribed) :
    Gives document settings (.expression (callSource (.build document settings) name))
      prescribed := by
  induction stands with
  | undeclared missing =>
    rw [undeclared_call missing]
    exact builtin_gives .absent
  | union delegates _ inductionHypothesis =>
    obtain ⟨definition, declared, kind, first⟩ := delegates
    obtain ⟨body, given, defined, calls⟩ := @declared_call _ settings named _ _ declared
    obtain ⟨value, evaluates, renders⟩ := inductionHypothesis
    rw [bodyOf?, kind, first] at given
    cases given
    exact ⟨value, .call calls defined evaluates, renders⟩
  | own declared owns =>
    obtain ⟨body, given, defined, calls⟩ := @declared_call _ settings named _ _ declared
    obtain ⟨value, evaluates, renders⟩ := own_gives callFree given owns
    exact ⟨value, .call calls defined evaluates, renders⟩

/-- The default of a field comes to what is prescribed for the field. -/
theorem field_gives (named : Named document) (callFree : CallFree settings)
    {type : Schema.TypeRef} {prescribed : Prescribed}
    (stands : FieldValue document settings type prescribed) :
    Gives document settings
      (.expression (defaultSource (.build document settings) (fieldDefault settings type)))
      prescribed := by
  cases stands with
  | named _ | list _ | nonNullTwice _ => exact builtin_gives .absent
  | nonNullList _ => exact builtin_gives .emptyList
  | configured configured =>
    rw [fieldDefault, namedDefault, configured?, configured]
    exact configured_gives callFree configured
  | builtin free builtin =>
    rw [fieldDefault, namedDefault, configured?, free]
    exact builtin_gives (builtinDefault_standsIn builtin)
  | typed calls stands =>
    rw [CallsType.fieldDefault_eq calls]
    exact type_gives named callFree stands

/-- A call of a type that loops comes to nothing: it would have to come to something by a call
less. -/
theorem call_ends (named : Named document) {form : Form} {value : Emitted}
    (evaluates : Evaluates (members settings (.build document settings)) form value)
    {name : String} (calls : form = .expression (callSource (.build document settings) name)) :
    ¬ Loops document name := by
  induction evaluates generalizing name with
  | literal plain =>
    intro loops
    obtain ⟨next, ⟨definition, declared, _⟩, _⟩ := loops.next
    obtain ⟨_, _, _, called⟩ := @declared_call _ settings named _ _ declared
    rw [Form.expression.inj calls, called] at plain
    cases plain
  | call called defined _ inductionHypothesis =>
    intro loops
    obtain ⟨next, ⟨definition, declared, kind, first⟩, onward⟩ := loops.next
    obtain ⟨body, given, definedAgain, calledAgain⟩ := @declared_call _ settings named _ _ declared
    rw [Form.expression.inj calls, calledAgain] at called
    cases called
    rw [bodyOf?, kind, first] at given
    cases given
    cases defined.symm.trans definedAgain
    exact inductionHypothesis rfl onward
  | enum _ | record _ _ => cases calls

/-! ## Paths -/

/-- What a path comes to by the rules of the schema is what evaluating reaches, and all that it
reaches. -/
def Shows (document : Schema.Document) (settings : Config.Settings) :
    Outcome → (Option Emitted → Prop) → Prop
  | .found prescribed, reaches => ∃ value, Renders document settings value prescribed ∧
      ∀ result, reaches result ↔ result = some value
  | .nothing, reaches => ∀ result, reaches result ↔ result = none
  | .looping, reaches => ∀ result, ¬ reaches result

theorem Shows.of_iff {outcome : Outcome} {reaches others : Option Emitted → Prop}
    (shows : Shows document settings outcome others)
    (same : ∀ result, reaches result ↔ others result) :
    Shows document settings outcome reaches := by
  obtain rfl : reaches = others := funext fun result => propext (same result)
  exact shows

/-- The properties of a record are apart like the fields they are written for. -/
theorem properties_once (document : Schema.Document) (settings : Config.Settings)
    {typename : Option String} {fields : List Schema.Field}
    (apart : (Prescribed.record typename fields).Apart) :
    (typenameField :: (fields.map (fieldProperty document settings)).map (·.name)).Nodup := by
  rw [List.map_map]
  exact apart

section Fields

variable {typename : Option String} {fields : List Schema.Field} {field : Schema.Field}
  {rest : List String} {result : Option Emitted}

/-- What a path reaches through the property of a field is what it reaches in the value that the
property comes to. -/
theorem reaches_field (apart : (Prescribed.record typename fields).Apart) (declared : field ∈ fields)
    {value : Emitted} (evaluates : Evaluates (members settings (.build document settings))
      (.expression (fieldProperty document settings field).default) value) :
    Reaches (members settings (.build document settings))
        (.record typename (fields.map (fieldProperty document settings))) (field.name :: rest)
        result ↔
      Reaches (members settings (.build document settings)) value rest result := by
  have listed := List.mem_map_of_mem (f := fieldProperty document settings) declared
  refine (reaches_property (properties_once document settings apart) listed).trans ?_
  refine ⟨?_, fun reaches => ⟨value, evaluates, reaches⟩⟩
  rintro ⟨other, again, reaches⟩
  exact again.unique evaluates ▸ reaches

/-- Nothing is reached through the property of a field that calls a type that loops. -/
theorem not_reaches_looping (named : Named document)
    (apart : (Prescribed.record typename fields).Apart) (declared : field ∈ fields)
    {name : String} (calls : CallsType settings field.type name) (loops : Loops document name) :
    ¬ Reaches (members settings (.build document settings))
      (.record typename (fields.map (fieldProperty document settings))) (field.name :: rest)
      result := by
  intro reaches
  have listed := List.mem_map_of_mem (f := fieldProperty document settings) declared
  obtain ⟨value, evaluates, _⟩ :=
    (reaches_property (properties_once document settings apart) listed).mp reaches
  have source : (fieldProperty document settings field).default =
      callSource (.build document settings) name := by
    rw [fieldProperty, property, CallsType.fieldDefault_eq calls]
    rfl
  exact call_ends named evaluates (congrArg Form.expression source) loops

end Fields

/-- A path comes to the same in what a schema prescribes and in what evaluating comes to, by
induction on the path. -/
theorem leads_shows (named : Named document) (fieldsApart : FieldsApart document)
    (callFree : CallFree settings) {prescribed : Prescribed} {path : List String}
    {outcome : Outcome} (leads : Leads document settings prescribed path outcome)
    (apart : prescribed.Apart) {value : Emitted}
    (renders : Renders document settings value prescribed) :
    Shows document settings outcome
      (Reaches (members settings (.build document settings)) value path) := by
  induction leads generalizing value with
  | here prescribed => exact ⟨value, renders, fun _ => reaches_here⟩
  | typename _ inductionHypothesis =>
    cases renders with
    | record _ fields =>
      have untold := (List.nodup_cons.mp (properties_once document settings apart)).1
      exact (inductionHypothesis trivial (.json _)).of_iff fun _ => reaches_typename untold
  | field declared stands _ inductionHypothesis =>
    cases renders with
    | record _ fields =>
      obtain ⟨value, evaluates, renders⟩ := field_gives named callFree stands
      have follows := inductionHypothesis (stands.apart fieldsApart) renders
      exact follows.of_iff fun _ => reaches_field apart declared evaluates
  | loop declared calls loops =>
    cases renders with
    | record _ fields => exact fun _ => not_reaches_looping named apart declared calls loops
  | undeclared untold missing =>
    cases renders with
    | record typename fields =>
      refine fun _ => reaches_notDefined fun defined => ?_
      rw [definedNames, List.map_map] at defined
      rcases mem_recordNames_iff.mp defined with ⟨told, isName⟩ | ⟨field, declared, same⟩
      · exact untold told isName
      · exact missing field declared same
  | member found _ inductionHypothesis =>
    cases renders with
    | json _ => exact (inductionHypothesis trivial (.json _)).of_iff fun _ => reaches_member found
  | noMember missing =>
    cases renders with
    | json _ => exact fun _ => reaches_noMember missing
  | noObject noRecord noMembers =>
    refine fun _ => reaches_noObject (fun typename properties => ?_) (fun entries => ?_)
    · rintro rfl
      cases renders with
      | record _ fields => exact noRecord _ _ rfl
    · rintro rfl
      cases renders with
      | json _ => exact noMembers _ rfl

/-! ## Both sides -/

/-- A value in a fixture is what evaluating comes to: a text that cannot be read up to the blanks
around it, the floating-point zero as zero, an enum value as its text, and a record by the names
of its properties in order. -/
inductive Emitted.Agrees : Emitted → Value → Prop where
  | absent : Agrees .absent .absent
  | raw {source other : String} (same : Text.trimmed source = Text.trimmed other) :
      Agrees (.raw source) (.raw other)
  | json {json : Json} {value : Value} (same : value.tree = jsonTree json) :
      Agrees (.json json) value
  | zero : Agrees (.json (.int 0)) (.float 0.0)
  | enum (name : String) : Agrees (.json (.string name)) (.enum name)
  | record {typename : Option String} {properties : List Property} {identity : Nat}
      {entries : Entries Field} (names : Entries.names entries = definedNames typename properties) :
      Agrees (.record typename properties) (.object identity entries)

/-- What renders a prescribed value agrees with every value that is what is prescribed. -/
theorem Renders.agrees {emitted : Emitted} {prescribed : Prescribed}
    (renders : Renders document settings emitted prescribed) {value : Value}
    (is : value.Is prescribed) : emitted.Agrees value := by
  cases renders with
  | absent => exact is ▸ .absent
  | raw same => exact is ▸ .raw same
  | json json => exact .json is
  | zero =>
    have same : value.tree = .float 0.0 := is
    cases value with
    | float number => exact Tree.float.inj same ▸ .zero
    | absent | null | boolean _ | int _ | string _ | enum _ | raw _ | list _ | object _ _ =>
      cases same
  | enum name => exact is ▸ .enum name
  | record typename fields =>
    obtain ⟨identity, entries, rfl, names⟩ := is
    refine .record (names.trans ?_)
    rw [definedNames, List.map_map]
    rfl

/-- What evaluating reaches agrees with what reading finds, if both are what the rules of the
schema say. -/
theorem Shows.agrees {outcome : Outcome} {reaches : Option Emitted → Prop}
    (shows : Shows document settings outcome reaches) {read : Option Value}
    (tells : outcome.Tells read) {result : Option Emitted} (reached : reaches result) :
    Option.Rel Emitted.Agrees result read := by
  cases outcome with
  | found prescribed =>
    obtain ⟨emitted, renders, only⟩ := shows
    obtain ⟨value, rfl, is⟩ := tells
    rw [(only result).mp reached]
    exact .some (renders.agrees is)
  | nothing =>
    obtain rfl : read = none := tells
    rw [(shows result).mp reached]
    exact .none
  | looping => exact absurd reached (shows result)

theorem Shows.exists {outcome : Outcome} {reaches : Option Emitted → Prop}
    (shows : Shows document settings outcome reaches) (ends : outcome ≠ .looping) :
    ∃ result, reaches result := by
  cases outcome with
  | found prescribed =>
    obtain ⟨emitted, _, only⟩ := shows
    exact ⟨some emitted, (only _).mpr rfl⟩
  | nothing => exact ⟨none, (shows none).mpr rfl⟩
  | looping => exact absurd rfl ends

/-- Running the member of a declared name is calling it. -/
theorem memberReaches_iff (named : Named document) {name : String}
    {definition : Schema.Definition} (declared : declaration? document name = some definition)
    {value : Emitted}
    (evaluates : Evaluates (members settings (.build document settings))
      (.expression (callSource (.build document settings) name)) value)
    {path : List String} {result : Option Emitted} :
    MemberReaches (members settings (.build document settings)) name path result ↔
      Reaches (members settings (.build document settings)) value path result := by
  obtain ⟨body, _, defined, calls⟩ := @declared_call _ settings named _ _ declared
  constructor
  · rintro ⟨member, other, definedAgain, enters, reaches⟩
    exact (Evaluates.call calls definedAgain enters).unique evaluates ▸ reaches
  · intro reaches
    cases evaluates with
    | literal plain => cases plain.symm.trans calls
    | call again definedAgain enters =>
      obtain rfl := Option.some.inj (calls.symm.trans again)
      exact ⟨_, value, definedAgain, enters, reaches⟩

/-- A name without a factory has no value. -/
theorem evaluate_missing {registry : Registry} {name : String}
    (missing : registry.contains name = false) (store : Store) :
    ((Default.factory name).evaluate registry store).1 = .absent := by
  have none : registry.factory? name = none := by
    rw [Registry.contains_eq] at missing
    exact Option.isNone_iff_eq_none.mp (Option.isSome_eq_false_iff.mp missing)
  have chain : registry.chain name = some .missing := by
    rw [Registry.chain, Registry.chainWithin, none]
  rw [Default.evaluate, chain]

/-- Reading along a path from a fixture finds what the rules of the schema say, in every store
that follows a plan. -/
theorem made_tells (fieldsApart : FieldsApart document) {name : String} {store : Store}
    {plan : Plan} (follows : store.Follows (.build document settings) plan) {made : Value × Store}
    (isMade : (Registry.build document settings).instantiate? name store = some made)
    {prescribed : Prescribed} (stands : TypeValue document settings name prescribed)
    {path : List String} {outcome : Outcome}
    (leads : Leads document settings prescribed path outcome) :
    outcome.Tells (made.1.get? (.build document settings) path made.2).1 := by
  have alike := instantiate?_stands follows name
  have tree := factory_tree stands
  rw [isMade, Registry.tree?] at alike
  split at alike
  · cases alike with
    | some continues =>
      obtain ⟨grown, _, followsOn, sameTree⟩ := continues
      have apart := stands.apart fieldsApart
      have meets := leads.meets fieldsApart apart
      rw [← tree] at meets
      exact tells_of_meets followsOn sameTree path (fun _ => leads.apart fieldsApart apart) meets
  · cases alike

theorem declared_of_contains {name : String}
    (known : (Registry.build document settings).contains name = true) :
    ∃ definition, declaration? document name = some definition := by
  rw [contains_build] at known
  exact Option.isSome_iff_exists.mp known

/-- In a store that follows a plan, a path reaches something from a member unless it comes to a
field whose type loops, and what it reaches agrees with what reading along it finds. -/
theorem paths_agree (named : Named document) (fieldsApart : FieldsApart document)
    (callFree : CallFree settings) {name : String} (ends : ¬ Loops document name)
    (known : (Registry.build document settings).contains name = true) {store : Store} {plan : Plan}
    (follows : store.Follows (.build document settings) plan) {made : Value × Store}
    (isMade : (Registry.build document settings).instantiate? name store = some made)
    (path : List String) :
    let written := members settings (.build document settings)
    ((∃ result, MemberReaches written name path result) ↔
        ¬ TypeLeads document settings name path .looping) ∧
      ∀ result, MemberReaches written name path result →
        Option.Rel Emitted.Agrees result
          (made.1.get? (.build document settings) path made.2).1 := by
  intro written
  obtain ⟨definition, declared⟩ := declared_of_contains known
  obtain ⟨prescribed, stands, _⟩ := typeValue_exists settings ends
  obtain ⟨value, evaluates, renders⟩ := type_gives named callFree stands
  have shows {outcome : Outcome} (leads : Leads document settings prescribed path outcome) :
      Shows document settings outcome (MemberReaches written name path) :=
    (leads_shows named fieldsApart callFree leads (stands.apart fieldsApart) renders).of_iff
      fun _ => memberReaches_iff named declared evaluates
  obtain ⟨outcome, leads⟩ := leads_exists document settings prescribed path
  have tells := made_tells fieldsApart follows isMade stands leads
  refine ⟨⟨?_, ?_⟩, fun result reaches => (shows leads).agrees tells reaches⟩
  · rintro ⟨result, reaches⟩ ⟨other, again, loops⟩
    obtain rfl := stands.unique again
    exact shows loops result reaches
  · intro endless
    exact (shows leads).exists fun loops => endless ⟨prescribed, stands, loops ▸ leads⟩

/-- The emitted module and the registry make the same fixtures. The content of the module is read
back as the members of the registry. A name without a factory is written as what is undefined,
and has no value at run time; a name with a factory is written as a call, and the member that is
called exists. In whatever state scripts have left the store, a path from a member reaches
something unless it comes to a field whose type loops, and what it reaches agrees with what
reading along the path from a fixture of the name finds. -/
theorem module_realises_registry (document : Schema.Document) (settings : Config.Settings)
    (named : Named document) (fieldsApart : FieldsApart document) (single : SingleLines settings)
    (callFree : CallFree settings) (script : List Instruction) :
    let registry := Registry.build document settings
    let written := members settings registry
    let reached := (runScript script { accessor := .ofSettings registry settings }).2
    readContent (Module.generate document settings).content = some written ∧
    (∀ name, registry.contains name = false →
      defaultSource registry (.factory name) = "undefined" ∧
        literalEmitted "undefined" = .absent ∧
        ∀ store, ((Default.factory name).evaluate registry store).1 = .absent) ∧
    (∀ name, registry.contains name = true →
      calledName? (defaultSource registry (.factory name)) = some name ∧
        ∃ member ∈ written, member.name = name) ∧
    ∀ name ∈ registry.names, ¬ Loops document name →
      ∃ made, registry.instantiate? name reached.store = some made ∧
        ∀ path,
          ((∃ result, MemberReaches written name path result) ↔
            ¬ TypeLeads document settings name path .looping) ∧
          ∀ result, MemberReaches written name path result →
            Option.Rel Emitted.Agrees result (made.1.get? registry path made.2).1 := by
  intro registry written reached
  refine ⟨readContent_generate named single, fun name missing => ?_, fun name known => ?_,
    fun name listed ends => ?_⟩
  · refine ⟨?_, constants_emitted.1, evaluate_missing missing⟩
    rw [defaultSource, callSource, missing]
    rfl
  · obtain ⟨definition, declared⟩ := declared_of_contains known
    obtain ⟨body, _, defined, calls⟩ := @declared_call _ settings named _ _ declared
    refine ⟨calls, _, List.mem_of_find?_eq_some defined, ?_⟩
    simpa using List.find?_some defined
  · have known : registry.contains name = true := (contains_iff registry name).mpr listed
    obtain ⟨plan, _, mirrors, _⟩ :=
      runScript_alike _ script (start_mirrors (.ofSettings registry settings))
    have follows : reached.store.Follows registry plan :=
      ofSettings_registry registry settings ▸ mirrors.follows
    have isMade : registry.instantiate? name reached.store =
        some ((Default.factory name).evaluate registry reached.store) := if_pos known
    exact ⟨_, isMade, paths_agree named fieldsApart callFree ends known follows isMade⟩

/-- An album has a cover and an owner, who is a person with a role. -/
def albumSchema : Schema.Document where
  definitions := [
    { name := "Url", kind := .scalar },
    { name := "Album", kind := .object, fields := [
      ⟨"cover", .nonNull (.named "Url")⟩, ⟨"owner", .nonNull (.named "Owner")⟩] },
    { name := "Owner", kind := .union, unionMembers := ["Person"] },
    { name := "Person", kind := .object, fields := [
      ⟨"album", .nonNull (.named "Album")⟩, ⟨"role", .nonNull (.named "Role")⟩] },
    { name := "Role", kind := .enum, enumValues := ["GUEST", "ADMIN"] }]

/-- Covers are blank. -/
def albumSettings : Config.Settings where
  scalarDefaults := [("Url", " '/blank.png' ")]

/-- The role of an album's owner is the first role, on both sides. -/
theorem album_owner_realised :
    let registry := Registry.build albumSchema albumSettings
    let written := members albumSettings registry
    Named albumSchema ∧ FieldsApart albumSchema ∧ SingleLines albumSettings ∧
      CallFree albumSettings ∧ "Album" ∈ registry.names ∧ ¬ Loops albumSchema "Album" ∧
      readContent (Module.generate albumSchema albumSettings).content = some written ∧
      MemberReaches written "Album" ["owner", "role"] (some (.json (.string "GUEST"))) ∧
      ∃ made, registry.instantiate? "Album" {} = some made ∧
        Option.Rel Emitted.Agrees (some (.json (.string "GUEST")))
          (made.1.get? registry ["owner", "role"] made.2).1 := by
  intro registry written
  have named : Named albumSchema := by
    unfold Named
    decide
  have fieldsApart : FieldsApart albumSchema := by
    unfold FieldsApart
    decide
  have single : SingleLines albumSettings := by
    unfold SingleLines
    decide
  have callFree : CallFree albumSettings := by
    unfold CallFree
    decide
  have listed : "Album" ∈ registry.names := by decide
  have isAlbum : TypeValue albumSchema albumSettings "Album" _ := .own rfl rfl
  have calledOwner : calledName? "fixtureMap.Owner()" = some "Owner" := by decide
  have calledPerson : calledName? "fixtureMap.Person()" = some "Person" := by decide
  have calledRole : calledName? "fixtureMap.Role()" = some "Role" := by decide
  have person : Evaluates written (.expression "fixtureMap.Owner()")
      (.record (some "Person") [⟨"album", "fixtureMap.Album()"⟩, ⟨"role", "fixtureMap.Role()"⟩]) :=
    .call calledOwner rfl (.call calledPerson rfl (.record _ _))
  have role : Evaluates written (.expression "fixtureMap.Role()") (.json (.string "GUEST")) :=
    .call calledRole rfl (.enum "GUEST")
  have reaches : MemberReaches written "Album" ["owner", "role"]
      (some (.json (.string "GUEST"))) := by
    refine ⟨_, _, rfl, .record _ _, ?_⟩
    refine @Reaches.property _ _ _ ⟨"owner", "fixtureMap.Owner()"⟩ _ _ _ _ (by decide) rfl person ?_
    exact @Reaches.property _ _ _ ⟨"role", "fixtureMap.Role()"⟩ _ _ _ _ (by decide) rfl role
      (.here _)
  obtain ⟨read, _, _, realised⟩ :=
    module_realises_registry albumSchema albumSettings named fieldsApart single callFree []
  obtain ⟨made, isMade, follows⟩ := realised "Album" listed isAlbum.ends
  exact ⟨named, fieldsApart, single, callFree, listed, isAlbum.ends, read, reaches, made, isMade,
    (follows _).2 _ reaches⟩

end SchemaFixtures.Emission
