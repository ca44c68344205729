import Mathlib.Logic.Relation
import SchemaFixtures.Fixture.Resolver
import SchemaFixtures.Fixture.Value

/-!
# What a schema prescribes

The value of a type, read off the definitions of a schema by recursion on a path of field
names. Nothing is made and nothing is kept here: there are no factories and no cells, only
the declaration of a name, the rules for the kinds, and the rules for the types of fields.

A union stands for its first member, which may be a union again. Where the first members
lead round in a circle no value is prescribed. This is said apart from the rules: a loop is
a name that its own first members lead back to.
-/

namespace SchemaFixtures.Fixture

/-- Whether values of a definition can be made: names for introspection, scalars that every
schema has, root operation types, unions without members and enums without values are left
out. -/
def Declares (definition : Schema.Definition) : Bool :=
  !isReserved definition.name &&
    match definition.kind with
    | .scalar => !builtinScalars.contains definition.name
    | .object => !rootOperationTypes.contains definition.name
    | .interface => true
    | .union => definition.unionMembers.head?.isSome
    | .enum => definition.enumValues.head?.isSome
    | .inputObject => true
    | .directive => false

/-- The declaration that the values of a name are made by. -/
def declaration? (document : Schema.Document) (name : String) : Option Schema.Definition :=
  document.definitions.find? fun definition => Declares definition && definition.name == name

/-- A union stands for its first member. -/
def StandsFor (document : Schema.Document) (name member : String) : Prop :=
  ∃ definition, declaration? document name = some definition ∧ definition.kind = .union ∧
    definition.unionMembers.head? = some member

/-- The first members that start at a name lead round in a circle. -/
def Loops (document : Schema.Document) (name : String) : Prop :=
  ∃ union, Relation.ReflTransGen (StandsFor document) name union ∧
    Relation.TransGen (StandsFor document) union union

/-- A value as a schema prescribes it: a JSON value is prescribed as a whole, and a record by
the name of its type, if it states one, and the fields that are declared for it. -/
inductive Prescribed where
  | absent
  | enum (value : String)
  | raw (source : String)
  | json (json : Json)
  | record (typename : Option String) (fields : List Schema.Field)

/-- What a configured default prescribes. -/
def Literal.prescribed (literal : Literal) : Prescribed :=
  match literal.meaning with
  | .undefined => .absent
  | .quoted text => .json (.string text)
  | .json json => .json json
  | .raw => .raw literal.source

/-- What a scalar is: its configured default, else a value of its shape. -/
def scalarPrescribed (settings : Config.Settings) (name : String) : Prescribed :=
  match settings.scalarDefault? name with
  | some source => Literal.prescribed ⟨source⟩
  | none =>
    match settings.scalarShape name with
    | .string => .json (.string "")
    | .number => .json (.int 0)
    | .other => .json (.object [])

/-- The value of a scalar that every schema has. -/
def builtinPrescribed? (name : String) : Option Prescribed :=
  if name = "ID" ∨ name = "String" then some (.json (.string ""))
  else if name = "Int" then some (.json (.int 0))
  else if name = "Float" then some (.json (.float 0.0))
  else if name = "Boolean" then some (.json (.bool false))
  else none

/-- The value of a definition that stands for itself. -/
def ownPrescribed? (settings : Config.Settings) (definition : Schema.Definition) :
    Option Prescribed :=
  match definition.kind with
  | .scalar => some (scalarPrescribed settings definition.name)
  | .object => some (.record (some definition.name) definition.fields)
  | .interface => some (.record none definition.fields)
  | .inputObject => some (.record none definition.fields)
  | .enum => definition.enumValues.head?.map .enum
  | .union => none
  | .directive => none

section Rules

variable (document : Schema.Document) (settings : Config.Settings)

/-- The value of a named type. -/
inductive TypeValue : String → Prescribed → Prop where
  | undeclared {name : String} (missing : declaration? document name = none) :
      TypeValue name .absent
  | union {name member : String} {value : Prescribed}
      (delegates : StandsFor document name member) (stands : TypeValue member value) :
      TypeValue name value
  | own {name : String} {definition : Schema.Definition} {value : Prescribed}
      (declared : declaration? document name = some definition)
      (owns : ownPrescribed? settings definition = some value) : TypeValue name value

/-- A field of this type has the value of the type: null is excluded, nothing is configured
for the name, and no value is built in for it. -/
def CallsType (type : Schema.TypeRef) (name : String) : Prop :=
  type = .nonNull (.named name) ∧ settings.scalarDefault? name = none ∧
    builtinPrescribed? name = none

/-- The value of a field of a type. -/
inductive FieldValue : Schema.TypeRef → Prescribed → Prop where
  | named (name : String) : FieldValue (.named name) .absent
  | list (item : Schema.TypeRef) : FieldValue (.list item) .absent
  | nonNullList (item : Schema.TypeRef) : FieldValue (.nonNull (.list item)) (.json (.array []))
  | nonNullTwice (inner : Schema.TypeRef) : FieldValue (.nonNull (.nonNull inner)) .absent
  | configured {name source : String} (configured : settings.scalarDefault? name = some source) :
      FieldValue (.nonNull (.named name)) (Literal.prescribed ⟨source⟩)
  | builtin {name : String} {value : Prescribed} (free : settings.scalarDefault? name = none)
      (builtin : builtinPrescribed? name = some value) : FieldValue (.nonNull (.named name)) value
  | typed {type : Schema.TypeRef} {name : String} {value : Prescribed}
      (calls : CallsType settings type name) (stands : TypeValue document settings name value) :
      FieldValue type value

/-- What a path comes to: a value, nothing, or a field whose type loops. -/
inductive Outcome where
  | found (value : Prescribed)
  | nothing
  | looping

/-- Where a path leads inside a prescribed value. -/
inductive Leads : Prescribed → List String → Outcome → Prop where
  | here (value : Prescribed) : Leads value [] (.found value)
  | typename {name : String} {fields : List Schema.Field} {rest : List String}
      {outcome : Outcome} (leads : Leads (.json (.string name)) rest outcome) :
      Leads (.record (some name) fields) (typenameField :: rest) outcome
  | field {typename : Option String} {fields : List Schema.Field} {field : Schema.Field}
      {rest : List String} {value : Prescribed} {outcome : Outcome} (declared : field ∈ fields)
      (stands : FieldValue document settings field.type value)
      (leads : Leads value rest outcome) :
      Leads (.record typename fields) (field.name :: rest) outcome
  | loop {typename : Option String} {fields : List Schema.Field} {field : Schema.Field}
      {name : String} {rest : List String} (declared : field ∈ fields)
      (calls : CallsType settings field.type name) (loops : Loops document name) :
      Leads (.record typename fields) (field.name :: rest) .looping
  | undeclared {typename : Option String} {fields : List Schema.Field} {name : String}
      {rest : List String} (untold : typename.isSome → name ≠ typenameField)
      (missing : ∀ field ∈ fields, field.name ≠ name) :
      Leads (.record typename fields) (name :: rest) .nothing
  | member {members : List (String × Json)} {name : String} {member : Json} {rest : List String}
      {outcome : Outcome} (found : (Entries.ofPairs members).value? name = some member)
      (leads : Leads (.json member) rest outcome) :
      Leads (.json (.object members)) (name :: rest) outcome
  | noMember {members : List (String × Json)} {name : String} {rest : List String}
      (missing : (Entries.ofPairs members).value? name = none) :
      Leads (.json (.object members)) (name :: rest) .nothing
  | noObject {value : Prescribed} {name : String} {rest : List String}
      (noRecord : ∀ typename fields, value ≠ .record typename fields)
      (noMembers : ∀ members, value ≠ .json (.object members)) :
      Leads value (name :: rest) .nothing

/-- Where a path leads inside the value of a named type. -/
def TypeLeads (name : String) (path : List String) (outcome : Outcome) : Prop :=
  ∃ value, TypeValue document settings name value ∧ Leads document settings value path outcome

end Rules

/-- No definition has two fields of one name or a field that states the name of a type. -/
def FieldsApart (document : Schema.Document) : Prop :=
  ∀ definition ∈ document.definitions,
    (typenameField :: definition.fields.map (·.name)).Nodup

/-! ## Loops -/

variable {document : Schema.Document} {settings : Config.Settings}

theorem StandsFor.unique {name member other : String} (first : StandsFor document name member)
    (second : StandsFor document name other) : member = other := by
  obtain ⟨definition, declared, _, head⟩ := first
  obtain ⟨another, again, _, headAgain⟩ := second
  have same : definition = another := Option.some.inj (declared.symm.trans again)
  subst same
  exact Option.some.inj (head.symm.trans headAgain)

/-- A name whose first members loop stands for one whose first members loop. -/
theorem Loops.next {name : String} (loops : Loops document name) :
    ∃ member, StandsFor document name member ∧ Loops document member := by
  obtain ⟨union, reaches, circle⟩ := loops
  rcases Relation.ReflTransGen.cases_head reaches with rfl | ⟨member, stands, onward⟩
  · obtain ⟨member, stands, back⟩ := Relation.TransGen.head'_iff.mp circle
    exact ⟨member, stands, name, back, circle⟩
  · exact ⟨member, stands, union, onward, circle⟩

theorem Loops.of_next {name member : String} (stands : StandsFor document name member)
    (loops : Loops document member) : Loops document name := by
  obtain ⟨union, reaches, circle⟩ := loops
  exact ⟨union, .head stands reaches, circle⟩

/-- A union has no value of its own. -/
theorem StandsFor.not_own {name member : String} {definition : Schema.Definition}
    {value : Prescribed} (stands : StandsFor document name member)
    (declared : declaration? document name = some definition)
    (owns : ownPrescribed? settings definition = some value) : False := by
  obtain ⟨another, again, kind, _⟩ := stands
  have same : definition = another := Option.some.inj (declared.symm.trans again)
  simp [ownPrescribed?, same, kind] at owns

theorem StandsFor.declared {name member : String} (stands : StandsFor document name member) :
    declaration? document name ≠ none := by
  obtain ⟨definition, declared, _⟩ := stands
  rw [declared]
  exact Option.some_ne_none definition

/-- A type that has a value does not loop. -/
theorem TypeValue.ends {name : String} {value : Prescribed}
    (prescribed : TypeValue document settings name value) : ¬ Loops document name := by
  intro loops
  obtain ⟨member, stands, onward⟩ := loops.next
  induction prescribed generalizing member with
  | undeclared missing => exact stands.declared missing
  | union delegates _ inductionHypothesis =>
    rw [stands.unique delegates] at onward
    obtain ⟨next, standsNext, last⟩ := onward.next
    exact inductionHypothesis onward next standsNext last
  | own declared owns => exact stands.not_own declared owns

/-- A type has one value. -/
theorem TypeValue.unique {name : String} {value other : Prescribed}
    (first : TypeValue document settings name value)
    (second : TypeValue document settings name other) : value = other := by
  induction first with
  | undeclared missing =>
    cases second with
    | undeclared _ => rfl
    | union delegates _ => exact absurd missing delegates.declared
    | own declared _ => cases missing.symm.trans declared
  | union delegates _ inductionHypothesis =>
    cases second with
    | undeclared missing => exact absurd missing delegates.declared
    | union again stands => exact inductionHypothesis (again.unique delegates ▸ stands)
    | own declared owns => exact (delegates.not_own declared owns).elim
  | own declared owns =>
    cases second with
    | undeclared missing => cases missing.symm.trans declared
    | union delegates _ => exact (delegates.not_own declared owns).elim
    | own again ownsAgain =>
      have same := Option.some.inj (declared.symm.trans again)
      subst same
      exact Option.some.inj (owns.symm.trans ownsAgain)

end SchemaFixtures.Fixture
