import SchemaFixtures.Proofs.Emission.Defaults
import SchemaFixtures.Proofs.Emission.Properties
import SchemaFixtures.Proofs.Emission.Reader

/-!
# The content of a module can be read back

The members of a schema are found again in the content of its module if definitions, fields and
enum values have names of the schema language, and no configured default has a line feed inside.
Then every part of a member stands in lines of its own, and what a method returns can be told by
its type: only a scalar has an entry of the table of scalars for its type, and no other
expression is written like the value of an enum.
-/

namespace SchemaFixtures.Emission

open Fixture

/-- Definitions, their fields and their enum values have names of the schema language. -/
def Named (document : Schema.Document) : Prop :=
  ∀ definition ∈ document.definitions, Config.isName definition.name = true ∧
    (∀ field ∈ definition.fields, Config.isName field.name = true) ∧
    ∀ value ∈ definition.enumValues, Config.isName value = true

/-- No configured default has a line feed once it is trimmed. -/
def SingleLines (settings : Config.Settings) : Prop :=
  ∀ entry ∈ settings.scalarDefaults, '\n' ∉ Text.trim entry.2.toList

variable {document : Schema.Document} {settings : Config.Settings}

/-! ## Lines of members -/

theorem isLine_of_isName {name : String} (isName : Config.isName name = true) :
    isLine name.toList = true := by
  refine isLine_of_characters (ne_nil_of_isName isName) fun c member => ?_
  have named := allName_of_isName isName c member
  constructor <;> rintro rfl <;> cases named

theorem property_areLines {property : Property} (named : isLine property.name.toList = true)
    (default : isLine property.default.toList = true) :
    ∀ line ∈ property.lines, isLine line.toList = true := by
  have free := (isLine_iff.mp named).2
  have someName := ne_nil_of_isLine named
  have someDefault := ne_nil_of_isLine default
  rw [ne_eq, String.toList_eq_nil_iff] at someName someDefault
  simp [Property.lines, getterLines, Property.defaultLine, setterLines, propertyEnd, slotName, free,
    isLine_singleton_iff, isLine_append_iff, isLine_cons_iff, named, someName, someDefault, default]

/-- Nothing that stands in a form ends a line. -/
def Form.IsPlain : Form → Prop
  | expression source => isLine source.toList = true
  | enum value => '\n' ∉ value.toList
  | record typename properties =>
    (∀ name ∈ typename, '\n' ∉ name.toList) ∧
      ∀ property ∈ properties, isLine property.name.toList = true ∧
        isLine property.default.toList = true

theorem form_areLines {form : Form} {type : String} (typed : isLine type.toList = true)
    (plain : form.IsPlain) : ∀ line ∈ form.lines type, isLine line.toList = true := by
  have free := (isLine_iff.mp typed).2
  have someType := ne_nil_of_isLine typed
  rw [ne_eq, String.toList_eq_nil_iff] at someType
  cases form with
  | expression source =>
    refine List.forall_mem_singleton.mpr ?_
    rw [String.toList_append]
    exact isLine_append (by decide) plain
  | enum value =>
    have value_free : '\n' ∉ value.toList := plain
    refine List.forall_mem_singleton.mpr ?_
    rw [String.toList_append]
    refine isLine_append ?_ typed
    simp [value_free]
  | record typename properties =>
    obtain ⟨stated, blocks⟩ := plain
    have start : ∀ line ∈ startLines type typename, isLine line.toList = true := by
      cases typename with
      | none => simp [startLines, free, isLine_singleton_iff, isLine_append_iff, isLine_cons_iff]
      | some name =>
        have name_free : '\n' ∉ name.toList := stated name rfl
        simp [startLines, free, name_free, isLine_singleton_iff, isLine_append_iff, isLine_cons_iff]
    rw [Form.lines, List.forall_mem_append, List.forall_mem_append, List.forall_mem_flatMap,
      List.forall_mem_singleton]
    refine ⟨start, fun property listed => ?_, ?_⟩
    · obtain ⟨named, default⟩ := blocks property listed
      exact property_areLines named default
    · have ends : (recordEnd type).toList = "  return fixture as ".toList ++ type.toList :=
        String.toList_append
      rw [ends]
      exact isLine_append (by decide) typed

theorem member_areLines {member : Member} (free : '\n' ∉ member.name.toList)
    (typed : isLine member.type.toList = true) (plain : member.form.IsPlain) :
    ∀ line ∈ member.lines, isLine line.toList = true := by
  have typeFree := (isLine_iff.mp typed).2
  have header : isLine member.header.toList = true := by
    rw [Member.header, String.toList_append]
    exact isLine_append (by simp [free, typeFree]) (by decide)
  rw [Member.lines, List.forall_mem_cons, List.forall_mem_append, List.forall_mem_singleton]
  exact ⟨header, form_areLines typed plain, by decide⟩

/-! ## Defaults -/

theorem trim_of_single {name source : String} (single : SingleLines settings)
    (configured : settings.scalarDefault? name = some source) :
    isLine (Text.trimmed source).toList = true := by
  have found := (Option.filter_eq_some_iff.mp configured).1
  have free := single _ (Entries.mem_of_value? found)
  rw [Text.trimmed, String.toList_ofList, isLine_iff]
  exact ⟨trim_closed configured, free⟩

theorem callSource_isLine {registry : Registry} (names : ∀ name ∈ registry.names,
    Config.isName name = true) (name : String) :
    isLine (callSource registry name).toList = true := by
  rw [callSource]
  split
  · next known =>
    have free := (isLine_iff.mp (isLine_of_isName (names name ((contains_iff _ _).mp known)))).2
    rw [String.toList_append]
    exact isLine_append (by simp [free]) (by decide)
  · decide

/-- A default that is built in, that calls a factory, or that is configured. -/
def IsDefault (settings : Config.Settings) : Default → Prop
  | .literal literal => ∃ name, settings.scalarDefault? name = some literal.source
  | _ => True

theorem configured?_isDefault {name : String} {default : Default}
    (configured : configured? settings name = some default) : IsDefault settings default := by
  obtain ⟨source, found, rfl⟩ := Option.map_eq_some_iff.mp configured
  exact ⟨name, found⟩

theorem builtinDefault_isDefault (settings : Config.Settings) (name : String) :
    IsDefault settings (builtinDefault name) := by
  rw [builtinDefault]
  repeat' split
  all_goals trivial

theorem scalarDefault_isDefault (settings : Config.Settings) (name : String) :
    IsDefault settings (scalarDefault settings name) := by
  rw [scalarDefault]
  cases configured : configured? settings name with
  | some default => exact configured?_isDefault configured
  | none => cases settings.scalarShape name <;> trivial

theorem fieldDefault_isDefault (settings : Config.Settings) (type : Schema.TypeRef) :
    IsDefault settings (fieldDefault settings type) := by
  fun_cases fieldDefault settings type with
  | case4 name =>
    rw [namedDefault]
    cases configured : configured? settings name with
    | some default => exact configured?_isDefault configured
    | none => exact builtinDefault_isDefault settings name
  | _ => trivial

theorem defaultSource_isLine {registry : Registry} (single : SingleLines settings)
    (names : ∀ name ∈ registry.names, Config.isName name = true) {default : Default}
    (isDefault : IsDefault settings default) :
    isLine (defaultSource registry default).toList = true := by
  cases default with
  | literal literal =>
    obtain ⟨name, configured⟩ := isDefault
    exact trim_of_single single configured
  | factory name => exact callSource_isLine names name
  | absent | emptyList | emptyString | zeroInt | zeroFloat | false | emptyObject =>
    rw [defaultSource]
    decide

/-! ## Members of a schema -/

/-- A factory of a schema is that of a definition. -/
theorem factory_of_definition {factory : Factory}
    (listed : factory ∈ (Registry.build document settings).factories) :
    ∃ definition ∈ document.definitions, ∃ body, bodyOf? settings definition = some body ∧
      factory = factoryOf definition definition.kind body := by
  have found := factory?_of_mem (names_once _) listed
  rw [← Registry.build, factory?_build] at found
  obtain ⟨definition, declared, visited⟩ := Option.bind_eq_some_iff.mp found
  rw [visit_eq] at visited
  split at visited
  · obtain ⟨body, given, rfl⟩ := Option.map_eq_some_iff.mp visited
    exact ⟨definition, List.mem_of_find?_eq_some declared, body, given, rfl⟩
  · cases visited

theorem isName_of_names (named : Named document) :
    ∀ name ∈ (Registry.build document settings).names, Config.isName name = true := by
  intro name listed
  obtain ⟨factory, member, rfl⟩ := List.mem_map.mp listed
  obtain ⟨definition, within, body, _, rfl⟩ := factory_of_definition member
  exact (named definition within).1

/-- The type of an entry of the table of scalars. -/
theorem isEntry_scalarReference (settings : Config.Settings) (name : String) :
    isEntry name (scalarReference settings name) = true := by
  rw [isEntry, scalarReference, List.isSuffixOf_iff_suffix]
  simp only [String.toList_append, List.append_assoc]
  exact List.suffix_append _ _

theorem isEntry_of_isReference {name type : String} (reference : IsReference type.toList) :
    isEntry name type = false := by
  rw [Bool.eq_false_iff]
  intro entry
  rw [isEntry, List.isSuffixOf_iff_suffix] at entry
  have bracket : ']' ∈ ("['" ++ name ++ "']").toList := by simp
  rcases reference.characters ']' (entry.subset bracket) with named | dot
  · cases named
  · cases dot

/-- A call and what is undefined are not written like the value of an enum. -/
theorem inside?_callSource (registry : Registry) (name type : String) :
    inside? "'" ("' as " ++ type) (callSource registry name).toList = none := by
  rw [Option.eq_none_iff_forall_ne_some]
  intro text found
  have quote := congrArg List.head? (inside?_eq_some found)
  rw [callSource] at quote
  split at quote <;> simp at quote

theorem scalarReference_isLine (settings : Config.Settings) {name : String}
    (isName : Config.isName name = true) :
    isLine (scalarReference settings name).toList = true := by
  have table := (isLine_iff.mp (@typeReference_isReference settings "Scalars" (by decide)).isLine).2
  have free := (isLine_iff.mp (isLine_of_isName isName)).2
  rw [scalarReference, String.toList_append]
  exact isLine_append (by simp [table, free]) (by decide)

/-- The form of a definition's member can be told, and each of its lines is one line. -/
theorem form_readable (named : Named document) (single : SingleLines settings)
    {definition : Schema.Definition} (within : definition ∈ document.definitions) {body : Body}
    (given : bodyOf? settings definition = some body) :
    let registry := Registry.build document settings
    let type := resultType settings (factoryOf definition definition.kind body)
    (form registry body).IsTold definition.name type ∧ (form registry body).IsPlain ∧
      isLine type.toList = true := by
  intro registry type
  have names : ∀ name ∈ registry.names, Config.isName name = true := isName_of_names named
  obtain ⟨isName, fieldsNamed, valuesNamed⟩ := named definition within
  have reference := typeReference_isReference settings isName
  have nameFree := (isLine_iff.mp (isLine_of_isName isName)).2
  have blocks : ∀ block ∈ (fieldDefaults settings definition).map (property registry),
      isLine block.name.toList = true ∧ isLine block.default.toList = true := by
    intro block listed
    obtain ⟨_, fieldListed, rfl⟩ := List.mem_map.mp listed
    obtain ⟨field, isField, rfl⟩ := List.mem_map.mp fieldListed
    exact ⟨isLine_of_isName (fieldsNamed field isField),
      defaultSource_isLine single names (fieldDefault_isDefault settings field.type)⟩
  have states := bodyOf?_states given
  generalize definition.kind = kind at states type
  cases states with
  | scalar =>
    exact ⟨.inl (isEntry_scalarReference settings definition.name),
      defaultSource_isLine single names (scalarDefault_isDefault settings definition.name),
      scalarReference_isLine settings isName⟩
  | object =>
    refine ⟨trivial, ⟨fun name stated => ?_, blocks⟩, reference.isLine⟩
    exact Option.some.inj stated ▸ nameFree
  | interface | inputObject =>
    refine ⟨trivial, ⟨fun _ stated => ?_, blocks⟩, reference.isLine⟩
    cases stated
  | union _ =>
    exact ⟨.inr (inside?_callSource registry _ _), callSource_isLine names _, reference.isLine⟩
  | enum first =>
    have valueNamed := valuesNamed _ (List.mem_of_head? first)
    exact ⟨isEntry_of_isReference reference, (isLine_iff.mp (isLine_of_isName valueNamed)).2,
      reference.isLine⟩

/-- The members of a schema can be told, and each of their lines is one line. -/
theorem members_readable (named : Named document) (single : SingleLines settings) :
    ∀ written ∈ members settings (.build document settings),
      written.IsTold ∧ ∀ line ∈ written.lines, isLine line.toList = true := by
  intro written listed
  obtain ⟨factory, isFactory, rfl⟩ := List.mem_map.mp listed
  obtain ⟨definition, within, body, given, rfl⟩ := factory_of_definition isFactory
  have isName := (named definition within).1
  obtain ⟨told, plain, typed⟩ := form_readable named single within given
  refine ⟨⟨fun parenthesis => ?_, told⟩,
    member_areLines (isLine_iff.mp (isLine_of_isName isName)).2 typed plain⟩
  cases allName_of_isName isName _ parenthesis

/-- The content of a module is read back as the members of its schema. -/
theorem readContent_generate (named : Named document) (single : SingleLines settings) :
    readContent (Module.generate document settings).content =
      some (members settings (.build document settings)) :=
  readContent_contentText (fun written listed => (members_readable named single written listed).1)
    fun written listed => (members_readable named single written listed).2

end SchemaFixtures.Emission
