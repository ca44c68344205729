import SchemaFixtures.Proofs.Emission.Readable

/-!
# What the content of a module tells of its factories

A factory is written with its name, its form, and the texts that its defaults are rendered as.
All of this is found again in the content, so modules with equal contents are written from
factories that agree in it, in the same order. The kind of a record that states no name is not
told, and neither is which of two defaults with one text was meant.

Only the first and the last line of a member stand at the margin. A default stands in a line that
is further in, so it cannot be taken for either.
-/

namespace SchemaFixtures.Emission

open Fixture

/-! ## Factories as they are written -/

/-- The form of a factory, with the texts of its defaults. -/
inductive WrittenBody where
  | scalar (default : String)
  | union (call : String)
  | enum (value : String)
  | record (typename : Option String) (fields : List (String × String))
deriving DecidableEq, Repr

/-- A factory as it is written: its name and its form. -/
structure WrittenFactory where
  name : String
  body : WrittenBody
deriving DecidableEq, Repr

/-- The form of a body in a registry. -/
def writtenBody (registry : Registry) : Body → WrittenBody
  | .scalar default => .scalar (defaultSource registry default)
  | .union member => .union (callSource registry member)
  | .enum value => .enum value
  | .record typename fields =>
    .record typename (fields.map fun field => (field.1, defaultSource registry field.2))

/-- A factory of a registry as it is written. -/
def written (registry : Registry) (factory : Factory) : WrittenFactory :=
  ⟨factory.name, writtenBody registry factory.body⟩

/-- The factories of a registry as they are written, in order. -/
def writtenFactories (registry : Registry) : List WrittenFactory :=
  registry.factories.map (written registry)

/-! ## Members of written factories -/

/-- What the method of a written factory does. -/
def WrittenBody.form : WrittenBody → Form
  | scalar default => .expression default
  | union call => .expression call
  | enum value => .enum value
  | record typename fields => .record typename (fields.map fun field => ⟨field.1, field.2⟩)

/-- The member of a written factory. -/
def WrittenFactory.member (settings : Config.Settings) (factory : WrittenFactory) : Member :=
  { name := factory.name
    type :=
      match factory.body with
      | .scalar _ => scalarReference settings factory.name
      | _ => typeReference settings factory.name
    form := factory.body.form }

/-- A member is made of what is written of its factory. -/
theorem member_written (settings : Config.Settings) (registry : Registry) (factory : Factory) :
    (written registry factory).member settings = Emission.member settings registry factory := by
  obtain ⟨name, kind, body⟩ := factory
  cases body with
  | scalar _ | union _ | enum _ => rfl
  | record typename fields =>
    simp [written, writtenBody, WrittenFactory.member, WrittenBody.form, member, resultType, form,
      property]

theorem members_written (settings : Config.Settings) (registry : Registry) :
    members settings registry = (writtenFactories registry).map (·.member settings) := by
  rw [members, writtenFactories, List.map_map]
  exact List.map_congr_left fun factory _ => (member_written settings registry factory).symm

/-- The written factory of a member: an expression is that of a scalar if the type is an entry of
the table of scalars. -/
def Member.factory (member : Member) : WrittenFactory :=
  { name := member.name
    body :=
      match member.form with
      | .expression source =>
        if isEntry member.name member.type then .scalar source else .union source
      | .enum value => .enum value
      | .record typename properties =>
        .record typename (properties.map fun property => (property.name, property.default)) }

/-- A written factory is found again in its member. -/
theorem factory_member (settings : Config.Settings) {factory : WrittenFactory}
    (isName : Config.isName factory.name = true) : (factory.member settings).factory = factory := by
  obtain ⟨name, body⟩ := factory
  cases body with
  | scalar default =>
    have entry : isEntry name (scalarReference settings name) = true :=
      isEntry_scalarReference settings name
    simp [WrittenFactory.member, WrittenBody.form, Member.factory, entry]
  | union call =>
    have noEntry : isEntry name (typeReference settings name) = false :=
      isEntry_of_isReference (typeReference_isReference settings isName)
    simp [WrittenFactory.member, WrittenBody.form, Member.factory, noEntry]
  | enum value => rfl
  | record typename fields =>
    simp [WrittenFactory.member, WrittenBody.form, Member.factory, Function.comp_def]

variable {document other : Schema.Document} {settings others : Config.Settings}

/-- The written factories of a schema are found again in its members. -/
theorem factories_members (named : Named document) (settings : Config.Settings) :
    (members settings (.build document settings)).map (·.factory) =
      writtenFactories (.build document settings) := by
  rw [members_written, List.map_map]
  refine (List.map_congr_left fun factory listed => ?_).trans (List.map_id _)
  obtain ⟨original, isFactory, rfl⟩ := List.mem_map.mp listed
  have isName := isName_of_names named original.name (List.mem_map.mpr ⟨original, isFactory, rfl⟩)
  exact factory_member settings isName

/-! ## The margin -/

/-- A line of the content that stands no further in than the members. -/
def atMargin (line : List Char) : Bool := (line.drop 2).head? != some ' '

/-- The lines at the margin that a member has. -/
def Member.marginLines (member : Member) : List (List Char) :=
  ["  ".toList ++ member.header.toList, "  ".toList ++ memberEnd.toList]

theorem atMargin_moved (line : List Char) :
    atMargin (' ' :: ' ' :: line) = (line.head? != some ' ') := rfl

/-- Of the lines of a member only the first and the last stand at the margin. -/
theorem marginLines_of_member {member : Member} (isName : Config.isName member.name = true) :
    ((characters member.lines).map (' ' :: ' ' :: ·)).filter atMargin = member.marginLines := by
  have header : atMargin (' ' :: ' ' :: member.header.toList) = true := by
    obtain ⟨first, rest, spelled⟩ := List.exists_cons_of_ne_nil (ne_nil_of_isName isName)
    have named : isNameCharacter first = true :=
      allName_of_isName isName first (spelled ▸ List.mem_cons_self)
    have noBlank : first ≠ ' ' := by
      rintro rfl
      cases named
    simpa [atMargin_moved, Member.header, spelled] using noBlank
  have inner : ((characters (member.form.lines member.type)).map (' ' :: ' ' :: ·)).filter
      atMargin = [] := by
    rw [List.filter_eq_nil_iff]
    intro moved listed
    obtain ⟨line, isLine, rfl⟩ := List.mem_map.mp listed
    obtain ⟨original, within, rfl⟩ := List.mem_map.mp isLine
    simp [atMargin_moved, form_lines_blank original within]
  have split : characters member.lines = member.header.toList ::
      (characters (member.form.lines member.type) ++ [memberEnd.toList]) := by
    simp [characters, Member.lines]
  rw [split, List.map_cons, List.filter_cons_of_pos header, List.map_append, List.filter_append,
    inner]
  rfl

/-- The lines at the margin are the first and the last line of each member, in order. -/
theorem marginLines_of_content (named : Named document) (single : SingleLines settings) :
    (lines (Module.generate document settings).content.toList).filter atMargin =
      (members settings (.build document settings)).flatMap Member.marginLines := by
  have readable := members_readable named single
  have names : ∀ member ∈ members settings (.build document settings),
      Config.isName member.name = true := by
    intro member listed
    obtain ⟨factory, isFactory, rfl⟩ := List.mem_map.mp listed
    exact isName_of_names named factory.name (List.mem_map.mpr ⟨factory, isFactory, rfl⟩)
  rw [Module.generate, lines_contentText fun member listed => (readable member listed).2]
  generalize members settings (.build document settings) = all at names ⊢
  induction all with
  | nil => rfl
  | cons member rest inductionHypothesis =>
    obtain ⟨first, later⟩ := List.forall_mem_cons.mp names
    rw [List.flatMap_cons, List.map_append, List.filter_append, marginLines_of_member first,
      inductionHypothesis later, List.flatMap_cons]

/-! ## Contents -/

/-- Types are referred to alike if both settings have a type module or none, and one naming
convention. -/
theorem typeReference_alike (module : settings.typeDefinitionModule = others.typeDefinitionModule)
    (convention : settings.namingConvention = others.namingConvention) (name : String) :
    typeReference settings name = typeReference others name := by
  rw [typeReference, typeReference, module, convention]

theorem member_alike_of_settings
    (module : settings.typeDefinitionModule = others.typeDefinitionModule)
    (convention : settings.namingConvention = others.namingConvention)
    (factory : WrittenFactory) : factory.member settings = factory.member others := by
  simp only [WrittenFactory.member, scalarReference, typeReference_alike module convention]

/-- The content of a module loses no factory. Given the type module and the naming convention, the
contents of two modules are equal exactly if their registries have the same factories in the same
order, as far as these are written: with the same names and forms, the same enum values, names of
types, fields and texts of defaults. And the lines of a content that stand at the margin are the
first and the last line of the member of each factory, so there is one member for each factory,
and no default begins or ends one. -/
theorem contents_agree_iff_factories
    (module : settings.typeDefinitionModule = others.typeDefinitionModule)
    (convention : settings.namingConvention = others.namingConvention) (named : Named document)
    (otherNamed : Named other) (single : SingleLines settings) (otherSingle : SingleLines others) :
    let content := (Module.generate document settings).content
    let registry := Registry.build document settings
    (content = (Module.generate other others).content ↔
      writtenFactories registry = writtenFactories (.build other others)) ∧
    (lines content.toList).filter atMargin =
      registry.factories.flatMap fun factory => (member settings registry factory).marginLines := by
  intro content registry
  refine ⟨⟨fun same => ?_, fun same => ?_⟩, ?_⟩
  · have read : some (members settings registry) = some (members others (.build other others)) := by
      rw [← readContent_generate named single, ← readContent_generate otherNamed otherSingle]
      exact congrArg readContent same
    rw [← factories_members named settings, ← factories_members otherNamed others]
    exact congrArg (List.map Member.factory) (Option.some.inj read)
  · have sameMembers : members settings registry = members others (.build other others) := by
      rw [members_written, members_written, same]
      exact List.map_congr_left fun factory _ => member_alike_of_settings module convention factory
    simp only [content, Module.generate, contentText, registry, sameMembers]
  · rw [marginLines_of_content named single, members, List.flatMap_map]

/-- An interface with an identifier. -/
def nodeSchema : Schema.Document where
  definitions := [
    { name := "Url", kind := .scalar },
    { name := "Node", kind := .interface, fields := [⟨"id", .nonNull (.named "ID")⟩] }]

/-- An input object with a text. -/
def nodeInputSchema : Schema.Document where
  definitions := [
    { name := "Url", kind := .scalar },
    { name := "Node", kind := .inputObject, fields := [⟨"id", .nonNull (.named "String")⟩] }]

/-- An interface and an input object are written alike, and so are an empty default that is
configured and one that is not. -/
theorem interface_written_like_input :
    let settings : Config.Settings := { scalarAliases := [("Url", .string)] }
    let others : Config.Settings := { scalarDefaults := [("Url", " '' ")] }
    let registry := Registry.build nodeSchema settings
    let other := Registry.build nodeInputSchema others
    Named nodeSchema ∧ Named nodeInputSchema ∧ SingleLines settings ∧ SingleLines others ∧
      writtenFactories registry = writtenFactories other ∧
      (Module.generate nodeSchema settings).content =
        (Module.generate nodeInputSchema others).content ∧ registry ≠ other := by
  intro settings others registry other
  have named : Named nodeSchema := by
    unfold Named
    decide
  have otherNamed : Named nodeInputSchema := by
    unfold Named
    decide
  have single : SingleLines settings := by
    unfold SingleLines
    decide
  have otherSingle : SingleLines others := by
    unfold SingleLines
    decide
  have alike : writtenFactories registry = writtenFactories other := by decide
  have told := @contents_agree_iff_factories nodeSchema nodeInputSchema settings others rfl rfl
    named otherNamed single otherSingle
  exact ⟨named, otherNamed, single, otherSingle, alike, told.1.mpr alike, by decide⟩

end SchemaFixtures.Emission
