import SchemaFixtures.Proofs.Config.Printing
import SchemaFixtures.Proofs.Emission.Readable

/-!
# What an emitted module consists of

A module is put together from names of the schema, the configured defaults, the path of the type
module, and words that are always the same. Indentation adds blanks only. So no character that
starts an escape sequence stands in a module unless it stands in the configuration.
-/

namespace SchemaFixtures.Emission

open Fixture Text

variable {document : Schema.Document} {settings : Config.Settings}

/-! ## Lines -/

/-- Cutting into lines adds no character. -/
theorem mem_of_mem_lines {c : Char} {text line : List Char} (listed : line ∈ lines text)
    (inside : c ∈ line) : c ∈ text := by
  fun_induction lines text generalizing line with
  | case1 => cases listed
  | case2 rest inductionHypothesis =>
    rcases List.mem_cons.mp listed with rfl | later
    · cases inside
    · exact List.mem_cons_of_mem _ (inductionHypothesis later inside)
  | case3 rest inductionHypothesis =>
    rcases List.mem_cons.mp listed with rfl | later
    · cases inside
    · exact List.mem_cons_of_mem _ (List.mem_cons_of_mem _ (inductionHypothesis later inside))
  | case4 first rest _ _ next others cut inductionHypothesis =>
    rw [cut] at inductionHypothesis
    rcases List.mem_cons.mp listed with rfl | later
    · rcases List.mem_cons.mp inside with rfl | onwards
      · exact List.mem_cons_self
      · exact List.mem_cons_of_mem _ (inductionHypothesis List.mem_cons_self onwards)
    · exact List.mem_cons_of_mem _ (inductionHypothesis (List.mem_cons_of_mem _ later) inside)
  | case5 first rest _ _ cut =>
    obtain rfl := List.mem_singleton.mp listed
    obtain rfl := List.mem_singleton.mp inside
    exact List.mem_cons_self

theorem unmarked_indent {text : String} (unmarked : Unmarked text) : Unmarked (indent text) := by
  rw [indent, unmarked_ofList]
  intro found
  rcases mem_of_mem_intercalate found with separating | ⟨moved, listed, inside⟩
  · cases List.mem_singleton.mp separating
  · obtain ⟨line, member, rfl⟩ := List.mem_map.mp listed
    refine unmarked (mem_of_mem_lines member ?_)
    rw [indentLine] at inside
    split at inside
    · cases inside
    · simpa [Command.escapeMark] using inside

theorem unmarked_trimmed {text : String} (unmarked : Unmarked text) : Unmarked (trimmed text) := by
  rw [trimmed, unmarked_ofList, trim, trimEnd]
  intro found
  have kept := (List.dropWhile_sublist isBlank).subset (List.mem_reverse.mp found)
  exact unmarked ((List.dropWhile_sublist isBlank).subset (List.mem_reverse.mp kept))

/-! ## Parts of members -/

theorem unmarked_typeReference (settings : Config.Settings) {name : String}
    (isName : Config.isName name = true) : Unmarked (typeReference settings name) := by
  intro found
  rcases (typeReference_isReference settings isName).characters _ found with named | point
  · cases named
  · cases point

theorem unmarked_resultType (settings : Config.Settings) {factory : Factory}
    (isName : Config.isName factory.name = true) : Unmarked (resultType settings factory) := by
  have table : Unmarked (typeReference settings "Scalars") :=
    unmarked_typeReference settings (by decide)
  rw [resultType]
  split
  · simp only [scalarReference, unmarked_append, table, unmarked_of_isName isName]
    decide
  · exact unmarked_typeReference settings isName

theorem unmarked_callSource {registry : Registry}
    (names : ∀ name ∈ registry.names, Config.isName name = true) (name : String) :
    Unmarked (callSource registry name) := by
  rw [callSource]
  split
  · next known =>
    have isName := names name ((contains_iff _ _).mp known)
    simp only [unmarked_append, unmarked_of_isName isName]
    decide
  · decide

theorem unmarked_defaultSource {registry : Registry} (unmarked : settings.Unmarked)
    (names : ∀ name ∈ registry.names, Config.isName name = true) {default : Default}
    (isDefault : IsDefault settings default) : Unmarked (defaultSource registry default) := by
  cases default with
  | literal literal =>
    obtain ⟨name, configured⟩ := isDefault
    have found := (Option.filter_eq_some_iff.mp configured).1
    exact unmarked_trimmed (unmarked.defaults _ (Entries.mem_of_value? found))
  | factory name => exact unmarked_callSource names name
  | absent | emptyList | emptyString | zeroInt | zeroFloat | false | emptyObject =>
    rw [defaultSource]
    decide

/-- Nothing that stands in a form is marked. -/
def Form.Unmarked : Form → Prop
  | expression source => Text.Unmarked source
  | enum value => Text.Unmarked value
  | record typename properties =>
    (∀ name ∈ typename, Text.Unmarked name) ∧
      ∀ property ∈ properties, Text.Unmarked property.name ∧ Text.Unmarked property.default

theorem property_unmarked {property : Property} (name : Unmarked property.name)
    (default : Unmarked property.default) : ∀ line ∈ property.lines, Unmarked line := by
  have nameFree : '\x1b' ∉ property.name.toList := name
  have defaultFree : '\x1b' ∉ property.default.toList := default
  simp [Property.lines, getterLines, Property.defaultLine, setterLines, propertyEnd, slotName,
    Unmarked, Command.escapeMark, nameFree, defaultFree]

theorem form_unmarked {form : Form} {type : String} (typed : Unmarked type)
    (plain : form.Unmarked) : ∀ line ∈ form.lines type, Unmarked line := by
  have typeFree : '\x1b' ∉ type.toList := typed
  cases form with
  | expression source =>
    refine List.forall_mem_singleton.mpr ?_
    exact (unmarked_append _ _).mpr ⟨unmarked_literal (by decide), plain⟩
  | enum value =>
    refine List.forall_mem_singleton.mpr ?_
    simp only [unmarked_append]
    exact ⟨⟨⟨unmarked_literal (by decide), plain⟩, unmarked_literal (by decide)⟩, typed⟩
  | record typename properties =>
    obtain ⟨stated, blocks⟩ := plain
    have start : ∀ line ∈ startLines type typename, Unmarked line := by
      cases typename with
      | none => simp [startLines, Unmarked, Command.escapeMark, typeFree]
      | some name =>
        have nameFree : '\x1b' ∉ name.toList := stated name rfl
        simp [startLines, Unmarked, Command.escapeMark, typeFree, nameFree]
    rw [Form.lines, List.forall_mem_append, List.forall_mem_append, List.forall_mem_flatMap,
      List.forall_mem_singleton]
    refine ⟨start, ?_, (unmarked_append _ _).mpr ⟨unmarked_literal (by decide), typed⟩⟩
    intro property listed
    exact property_unmarked (blocks property listed).1 (blocks property listed).2

theorem member_unmarked {member : Member} (name : Unmarked member.name)
    (typed : Unmarked member.type) (plain : member.form.Unmarked) : Unmarked member.text := by
  refine unmarked_intercalate (by decide) ?_
  rw [Member.lines, List.forall_mem_cons, List.forall_mem_append, List.forall_mem_singleton]
  refine ⟨?_, form_unmarked typed plain, by decide⟩
  simp only [Member.header, unmarked_append, name, typed]
  decide

/-! ## Modules -/

/-- The form of a definition's member is unmarked. -/
theorem form_of_definition (named : Named document) (unmarked : settings.Unmarked)
    {definition : Schema.Definition} (within : definition ∈ document.definitions) {body : Body}
    (given : bodyOf? settings definition = some body) :
    (form (.build document settings) body).Unmarked := by
  have names : ∀ name ∈ (Registry.build document settings).names, Config.isName name = true :=
    isName_of_names named
  obtain ⟨isName, fieldsNamed, valuesNamed⟩ := named definition within
  have blocks : ∀ block ∈ (fieldDefaults settings definition).map
      (property (.build document settings)), Unmarked block.name ∧ Unmarked block.default := by
    intro block listed
    obtain ⟨_, fieldListed, rfl⟩ := List.mem_map.mp listed
    obtain ⟨field, isField, rfl⟩ := List.mem_map.mp fieldListed
    exact ⟨unmarked_of_isName (fieldsNamed field isField),
      unmarked_defaultSource unmarked names (fieldDefault_isDefault settings field.type)⟩
  have states := bodyOf?_states given
  generalize definition.kind = kind at states
  cases states with
  | scalar =>
    exact unmarked_defaultSource unmarked names (scalarDefault_isDefault settings definition.name)
  | object =>
    refine ⟨fun name stated => ?_, blocks⟩
    exact Option.some.inj stated ▸ unmarked_of_isName isName
  | interface | inputObject =>
    refine ⟨fun _ stated => ?_, blocks⟩
    cases stated
  | union _ => exact unmarked_callSource names _
  | enum first => exact unmarked_of_isName (valuesNamed _ (List.mem_of_head? first))

theorem contentText_unmarked (named : Named document) (unmarked : settings.Unmarked) :
    Unmarked (contentText settings (.build document settings)) := by
  refine unmarked_indent (unmarked_intercalate (by decide) ?_)
  intro text listed
  obtain ⟨written, isMember, rfl⟩ := List.mem_map.mp listed
  obtain ⟨factory, isFactory, rfl⟩ := List.mem_map.mp isMember
  obtain ⟨definition, within, body, given, rfl⟩ := factory_of_definition isFactory
  have isName := (named definition within).1
  exact member_unmarked (unmarked_of_isName isName) (unmarked_resultType settings isName)
    (form_of_definition named unmarked within given)

theorem lookupText_unmarked (recipes : Bool) : Unmarked (lookupText recipes) := by
  have generics : ∀ part ∈ lookupGenerics recipes, Unmarked part := by
    rw [lookupGenerics, List.forall_mem_append, List.forall_mem_cons, List.forall_mem_singleton]
    refine ⟨⟨unmarked_literal (by decide), unmarked_literal (by decide)⟩, ?_⟩
    cases recipes with
    | false => exact List.forall_mem_nil _
    | true => exact List.forall_mem_singleton.mpr (unmarked_literal (by decide))
  have parameters : ∀ part ∈ lookupParameters recipes, Unmarked part := by
    rw [lookupParameters, List.forall_mem_cons]
    refine ⟨unmarked_literal (by decide), ?_⟩
    cases recipes with
    | false => exact List.forall_mem_nil _
    | true => exact List.forall_mem_singleton.mpr (unmarked_literal (by decide))
  have separator : Unmarked ",\n  " := unmarked_literal (by decide)
  have type : Unmarked (if recipes then "Fixture | Produced<Fixture, ProduceReturn>" else
      "Fixture") := by
    cases recipes <;> exact unmarked_literal (by decide)
  have result : Unmarked (if recipes then "return recipe ? produce(fixture, recipe) : fixture" else
      "return fixture") := by
    cases recipes <;> exact unmarked_literal (by decide)
  have upToGenerics := (unmarked_literal (by decide) : Unmarked "const fixture = <\n  ").append
    (unmarked_intercalate separator generics)
  have upToParameters := (upToGenerics.append
    (unmarked_literal (by decide) : Unmarked "\n>(\n  ")).append
    (unmarked_intercalate separator parameters)
  have upToType := (upToParameters.append
    (unmarked_literal (by decide) : Unmarked "\n): ")).append type
  exact ((upToType.append (unmarked_literal (by decide))).append result).append
    (unmarked_literal (by decide))

/-- A module of a schema with names of the schema language is unmarked if the settings are. -/
theorem generate_unmarked (named : Named document) (unmarked : settings.Unmarked) :
    Unmarked (Module.generate document settings).text := by
  have opens : Unmarked ("\n".intercalate (opening settings)) := by
    refine unmarked_intercalate (by decide) ?_
    rw [opening, List.forall_mem_append, List.forall_mem_append, List.forall_mem_singleton]
    refine ⟨⟨?_, ?_⟩, by decide⟩
    · split <;> decide
    · intro line listed
      obtain ⟨path, given, rfl⟩ := List.mem_map.mp listed
      simp only [unmarked_append, unmarked.module path (Option.mem_toList.mp given)]
      decide
  have closes : Unmarked ("\n".intercalate (closing settings)) := by
    refine unmarked_intercalate (by decide) ?_
    rw [closing, List.forall_mem_cons, List.forall_mem_cons, List.forall_mem_singleton]
    refine ⟨by decide, ?_, unmarked_literal (by decide)⟩
    exact (unmarked_append _ _).mpr ⟨lookupText_unmarked _, by decide⟩
  simp only [Module.text, Module.generate, unmarked_append, opens, closes,
    contentText_unmarked named unmarked]
  decide

end SchemaFixtures.Emission
