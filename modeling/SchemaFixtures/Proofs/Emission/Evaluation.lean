import Mathlib.Data.List.Nodup
import SchemaFixtures.Fixture.Literal
import SchemaFixtures.Proofs.Emission.Properties
import SchemaFixtures.Proofs.Emission.Reader

/-!
# Evaluating the members of a module

What the members of a module come to, told from their text alone: there is no registry and no
schema here. An expression that calls a factory enters the member of that name, and any other
expression is read like a configured default. An enum comes to its value as text, and a record to
the name of its type and to properties, whose defaults are evaluated when a path asks for them.

Calls may lead round in a circle. Evaluation is a relation for this reason, and such a call comes
to nothing at all.
-/

namespace SchemaFixtures.Emission

open Fixture

/-- What evaluating comes to: no value, a text that cannot be read, a JSON value, or a record with
the name of its type, if it states one, and its properties. -/
inductive Emitted where
  | absent
  | raw (source : String)
  | json (json : Json)
  | record (typename : Option String) (properties : List Property)

/-- The name of the factory that an expression calls. -/
def calledName? (source : String) : Option String :=
  ((inside? "fixtureMap." "()" source.toList).map String.ofList).filter Config.isName

/-- What an expression comes to that calls no factory. -/
def literalEmitted (source : String) : Emitted :=
  match Literal.meaning ⟨source⟩ with
  | .undefined => .absent
  | .quoted text => .json (.string text)
  | .json json => .json json
  | .raw => .raw source

/-- The member of a name. -/
def member? (members : List Member) (name : String) : Option Member :=
  members.find? (·.name == name)

section Rules

variable (members : List Member)

/-- What a method comes to. -/
inductive Evaluates : Form → Emitted → Prop where
  | literal {source : String} (plain : calledName? source = none) :
      Evaluates (.expression source) (literalEmitted source)
  | call {source name : String} {member : Member} {value : Emitted}
      (calls : calledName? source = some name) (defined : member? members name = some member)
      (enters : Evaluates member.form value) : Evaluates (.expression source) value
  | enum (value : String) : Evaluates (.enum value) (.json (.string value))
  | record (typename : Option String) (properties : List Property) :
      Evaluates (.record typename properties) (.record typename properties)

/-- What a path of names reaches from a value: another value, or nothing where a name on the way
is not defined or stands for no object. -/
inductive Reaches : Emitted → List String → Option Emitted → Prop where
  | here (value : Emitted) : Reaches value [] (some value)
  | typename {stated name : String} {properties : List Property} {rest : List String}
      {result : Option Emitted} (named : name = typenameField)
      (reaches : Reaches (.json (.string stated)) rest result) :
      Reaches (.record (some stated) properties) (name :: rest) result
  | property {typename : Option String} {properties : List Property} {property : Property}
      {name : String} {rest : List String} {value : Emitted} {result : Option Emitted}
      (listed : property ∈ properties) (named : property.name = name)
      (evaluates : Evaluates members (.expression property.default) value)
      (reaches : Reaches value rest result) :
      Reaches (.record typename properties) (name :: rest) result
  | notDefined {typename : Option String} {properties : List Property} {name : String}
      {rest : List String} (missing : name ∉ definedNames typename properties) :
      Reaches (.record typename properties) (name :: rest) none
  | member {entries : List (String × Json)} {name : String} {member : Json} {rest : List String}
      {result : Option Emitted} (found : (Entries.ofPairs entries).value? name = some member)
      (reaches : Reaches (.json member) rest result) :
      Reaches (.json (.object entries)) (name :: rest) result
  | noMember {entries : List (String × Json)} {name : String} {rest : List String}
      (missing : (Entries.ofPairs entries).value? name = none) :
      Reaches (.json (.object entries)) (name :: rest) none
  | noObject {value : Emitted} {name : String} {rest : List String}
      (noRecord : ∀ typename properties, value ≠ .record typename properties)
      (noEntries : ∀ entries, value ≠ .json (.object entries)) : Reaches value (name :: rest) none

/-- What running the member of a name and following a path reaches. -/
def MemberReaches (name : String) (path : List String) (result : Option Emitted) : Prop :=
  ∃ member value, member? members name = some member ∧ Evaluates members member.form value ∧
    Reaches members value path result

end Rules

variable {members : List Member}

/-! ## Evaluation -/

/-- A method comes to one value at most. -/
theorem Evaluates.unique {form : Form} {value other : Emitted}
    (first : Evaluates members form value) (second : Evaluates members form other) :
    value = other := by
  induction first with
  | literal plain =>
    cases second with
    | literal _ => rfl
    | call calls _ _ => cases plain.symm.trans calls
  | call calls defined _ inductionHypothesis =>
    cases second with
    | literal plain => cases plain.symm.trans calls
    | call again definedAgain enters =>
      obtain rfl := Option.some.inj (calls.symm.trans again)
      obtain rfl := Option.some.inj (defined.symm.trans definedAgain)
      exact inductionHypothesis enters
  | enum _ | record _ _ =>
    cases second
    rfl

/-- The call of a factory is read as such. -/
theorem calledName?_call {name : String} (isName : Config.isName name = true) :
    calledName? ("fixtureMap." ++ name ++ "()") = some name := by
  rw [calledName?, inside?_between, Option.map_some, String.ofList_toList, Option.filter_some,
    if_pos isName]

/-! ## Paths -/

variable {typename : Option String} {properties : List Property} {name : String}
  {rest : List String} {result : Option Emitted}

theorem reaches_here {value : Emitted} : Reaches members value [] result ↔ result = some value := by
  constructor
  · intro reaches
    cases reaches
    rfl
  · rintro rfl
    exact .here value

theorem reaches_typename {stated : String} (untold : typenameField ∉ properties.map (·.name)) :
    Reaches members (.record (some stated) properties) (typenameField :: rest) result ↔
      Reaches members (.json (.string stated)) rest result := by
  refine ⟨fun reaches => ?_, .typename rfl⟩
  cases reaches with
  | typename _ reaches => exact reaches
  | property listed named _ _ => exact absurd (List.mem_map.mpr ⟨_, listed, named⟩) untold
  | notDefined missing => exact absurd List.mem_cons_self missing
  | noObject noRecord _ => exact absurd rfl (noRecord _ _)

theorem reaches_property {property : Property}
    (once : (typenameField :: properties.map (·.name)).Nodup) (listed : property ∈ properties) :
    Reaches members (.record typename properties) (property.name :: rest) result ↔
      ∃ value, Evaluates members (.expression property.default) value ∧
        Reaches members value rest result := by
  obtain ⟨untold, distinct⟩ := List.nodup_cons.mp once
  refine ⟨fun reaches => ?_, fun ⟨value, evaluates, reaches⟩ =>
    .property listed rfl evaluates reaches⟩
  cases reaches with
  | typename named _ => exact absurd (List.mem_map.mpr ⟨property, listed, named⟩) untold
  | property listedAgain named evaluates reaches =>
    obtain rfl := List.inj_on_of_nodup_map distinct listedAgain listed named
    exact ⟨_, evaluates, reaches⟩
  | notDefined missing =>
    have defined : property.name ∈ properties.map (·.name) := List.mem_map_of_mem listed
    exact absurd (List.mem_append_right _ defined) missing
  | noObject noRecord _ => exact absurd rfl (noRecord _ _)

theorem reaches_notDefined (missing : name ∉ definedNames typename properties) :
    Reaches members (.record typename properties) (name :: rest) result ↔ result = none := by
  constructor
  · intro reaches
    cases reaches with
    | typename named _ => exact absurd (named ▸ List.mem_cons_self) missing
    | property listed named _ _ =>
      refine absurd (List.mem_append_right _ ?_) missing
      exact List.mem_map.mpr ⟨_, listed, named⟩
    | notDefined _ | noObject _ _ => rfl
  · rintro rfl
    exact .notDefined missing

theorem reaches_member {entries : List (String × Json)} {member : Json}
    (found : (Entries.ofPairs entries).value? name = some member) :
    Reaches members (.json (.object entries)) (name :: rest) result ↔
      Reaches members (.json member) rest result := by
  refine ⟨fun reaches => ?_, .member found⟩
  cases reaches with
  | member again reaches => exact Option.some.inj (again.symm.trans found) ▸ reaches
  | noMember missing => cases missing.symm.trans found
  | noObject _ noEntries => exact absurd rfl (noEntries _)

theorem reaches_noMember {entries : List (String × Json)}
    (missing : (Entries.ofPairs entries).value? name = none) :
    Reaches members (.json (.object entries)) (name :: rest) result ↔ result = none := by
  constructor
  · intro reaches
    cases reaches with
    | member found _ => cases missing.symm.trans found
    | noMember _ | noObject _ _ => rfl
  · rintro rfl
    exact .noMember missing

theorem reaches_noObject {value : Emitted}
    (noRecord : ∀ typename properties, value ≠ .record typename properties)
    (noEntries : ∀ entries, value ≠ .json (.object entries)) :
    Reaches members value (name :: rest) result ↔ result = none := by
  constructor
  · intro reaches
    cases reaches with
    | typename _ _ | property _ _ _ _ => exact absurd rfl (noRecord _ _)
    | member _ _ => exact absurd rfl (noEntries _)
    | notDefined _ | noMember _ | noObject _ _ => rfl
  · rintro rfl
    exact .noObject noRecord noEntries

end SchemaFixtures.Emission
