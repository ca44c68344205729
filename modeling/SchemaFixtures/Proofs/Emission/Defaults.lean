import SchemaFixtures.Proofs.Emission.Layout
import SchemaFixtures.Proofs.Fixture.Delegation
import SchemaFixtures.Proofs.Text.Trimming

/-!
# Configured defaults in an emitted module

A configured default is written, trimmed, behind the return of its scalar's member and behind
the equals sign of every property of that scalar. What stands in the module is the default as
it goes on in an indented line. Without a line feed that is the default as it is, and reading it
back gives what the default means. With a line feed it never is: the last line is moved to the
right, whatever it is part of.
-/

namespace SchemaFixtures.Emission

open Fixture

variable {document : Schema.Document} {settings : Config.Settings}

/-! ## When a text goes on unchanged -/

/-- Breaking a text into lines drops line feeds and the carriage returns before them. -/
theorem count_lines {c : Char} (feed : c ≠ '\n') (carriage : c ≠ '\r') (text : List Char) :
    (lines text).flatten.count c = text.count c := by
  fun_induction lines text with
  | case1 => rfl
  | case2 rest inductionHypothesis =>
    simp [inductionHypothesis, feed.symm]
  | case3 rest inductionHypothesis =>
    simp [inductionHypothesis, feed.symm, carriage.symm]
  | case4 first rest _ _ line others found inductionHypothesis =>
    rw [found] at inductionHypothesis
    simp [List.count_cons, ← inductionHypothesis]
  | case5 first rest _ _ found inductionHypothesis =>
    rw [found] at inductionHypothesis
    simp [List.count_cons, ← inductionHypothesis]

theorem count_joinLines {c : Char} (feed : c ≠ '\n') (parts : List (List Char)) :
    (joinLines parts).count c = parts.flatten.count c := by
  induction parts with
  | nil => rfl
  | cons part rest inductionHypothesis =>
    cases rest with
    | nil => simp [joinLines]
    | cons next others =>
      rw [joinLines_cons _ (List.cons_ne_nil _ _), List.count_append,
        List.count_cons_of_ne feed.symm, inductionHypothesis, ← List.count_append,
        List.flatten_cons (l := part)]

/-- A closed text has one line more than line feeds. -/
theorem length_lines {text : List Char} (closed : isClosed text = true) :
    (lines text).length = text.count '\n' + 1 := by
  fun_induction lines text with
  | case1 => cases closed
  | case2 rest inductionHypothesis | case3 rest inductionHypothesis =>
    have closedRest : isClosed rest = true := by
      simpa only [isClosed_feed, isClosed_return] using closed
    simp [inductionHypothesis closedRest]
  | case4 first rest feed _ line others found inductionHypothesis =>
    have more : rest ≠ [] := by
      rintro rfl
      cases found
    rw [isClosed_cons _ more] at closed
    have length := inductionHypothesis closed
    rw [found] at length
    rw [List.count_cons_of_ne fun same => feed same]
    exact length
  | case5 first rest feed _ found _ =>
    have last : rest = [] := Decidable.not_not.mp fun more => lines_ne_nil more found
    subst last
    simp [List.count_cons_of_ne fun same => feed same]

theorem count_indentLine_le (line : List Char) : line.count ' ' ≤ (indentLine line).count ' ' := by
  cases line with
  | nil => exact Nat.le_refl 0
  | cons first rest => simp [indentLine, List.count_cons]; omega

/-- Indenting lines takes no blank away. -/
theorem count_flatten_indent (parts : List (List Char)) :
    parts.flatten.count ' ' ≤ (parts.map indentLine).flatten.count ' ' := by
  induction parts with
  | nil => exact Nat.le_refl 0
  | cons part rest inductionHypothesis =>
    have head := count_indentLine_le part
    simp only [List.flatten_cons, List.map_cons, List.count_append]
    omega

/-- A closed text goes on unchanged exactly when it has no line feed. Otherwise its last line,
which is not empty, brings two blanks more. -/
theorem continued_eq_iff {text : List Char} (closed : isClosed text = true) :
    continued text = text ↔ '\n' ∉ text := by
  refine ⟨fun same feed => ?_, continued_single⟩
  obtain ⟨before, line, begun, alone, _⟩ := lines_of_isClosed closed
  have several : before ≠ [] := by
    rintro rfl
    have length := length_lines closed
    rw [alone, List.nil_append, List.length_singleton] at length
    have some := List.count_pos_iff.mpr feed
    omega
  obtain ⟨first, middle, rfl⟩ := List.exists_cons_of_ne_nil several
  have blanks : (continued text).count ' ' = text.count ' ' := by rw [same]
  rw [← count_lines (by decide) (by decide) text, continued, count_joinLines (by decide), alone]
    at blanks
  have kept := count_flatten_indent middle
  obtain ⟨c, rest, rfl⟩ := List.exists_cons_of_ne_nil begun
  simp [indentLater, indentLine, List.count_cons] at blanks kept
  omega

/-! ## Configured defaults -/

/-- Reading a default does not look at the blanks around it. -/
theorem meaning_trimmed (source : String) :
    Literal.meaning ⟨Text.trimmed source⟩ = Literal.meaning ⟨source⟩ := by
  have peeled : Literal.peel (Text.trim source.toList) = Literal.peel source.toList := by
    rw [Literal.peel.eq_def, Literal.peel.eq_def source.toList, Text.trim_trim]
  rw [Literal.meaning, Literal.meaning, Text.trimmed, String.toList_ofList, peeled]

/-- A configured default is closed when it is trimmed, for it is not blank. -/
theorem trim_closed {name source : String}
    (configured : settings.scalarDefault? name = some source) :
    isClosed (Text.trim source.toList) = true := by
  have solid : Text.allBlank source = false := by
    simpa using (Option.filter_eq_some_iff.mp configured).2
  cases ends : (Text.trim source.toList).getLast? with
  | none =>
    have empty : Text.trimmed source = "" := by
      rw [Text.trimmed, List.getLast?_eq_none_iff.mp ends, String.ofList_nil]
    rw [Text.trimmed_eq_empty_iff, solid] at empty
    cases empty
  | some last =>
    have notBlank := Text.getLast?_trim ends
    rw [isClosed, ends, Option.any_some, Bool.and_eq_true, bne_iff_ne, bne_iff_ne]
    constructor <;> rintro rfl <;> cases notBlank

/-- The member of a declared name. -/
theorem declared_member {name : String} {definition : Schema.Definition} {body : Body}
    (declared : declaration? document name = some definition)
    (given : bodyOf? settings definition = some body) :
    definition.name = name ∧
      member settings (.build document settings) (factoryOf definition definition.kind body) ∈
        members settings (.build document settings) := by
  have named : definition.name = name := by
    have satisfied := List.find?_some declared
    exact eq_of_beq (Bool.and_eq_true_iff.mp satisfied).2
  obtain ⟨other, again, found⟩ := @factory?_of_declaration _ settings _ _ declared
  obtain rfl : body = other := Option.some.inj (given.symm.trans again)
  exact ⟨named, List.mem_map.mpr ⟨_, List.mem_of_find?_eq_some found, rfl⟩⟩

/-- The member of a scalar with a configured default. -/
theorem scalar_member {name source : String} {definition : Schema.Definition}
    (configured : settings.scalarDefault? name = some source)
    (declared : declaration? document name = some definition)
    (scalar : definition.kind = .scalar) :
    Member.mk name (scalarReference settings name) (.expression (Text.trimmed source)) ∈
      members settings (.build document settings) := by
  have given : bodyOf? settings definition =
      some (.scalar (scalarDefault settings definition.name)) := by rw [bodyOf?, scalar]
  obtain ⟨rfl, listed⟩ := declared_member declared given
  have default : scalarDefault settings definition.name = .literal ⟨source⟩ := by
    rw [scalarDefault, configured?, configured]
    rfl
  rw [default] at listed
  exact listed

/-- The kinds of definitions whose values are records. -/
def isRecordKind (kind : Schema.Kind) : Bool :=
  kind == .object || kind == .interface || kind == .inputObject

/-- The member of a record with a property of a scalar with a configured default. -/
theorem record_member {name source owner : String} {definition : Schema.Definition}
    {field : Schema.Field} (configured : settings.scalarDefault? name = some source)
    (declared : declaration? document owner = some definition)
    (record : isRecordKind definition.kind = true) (listed : field ∈ definition.fields)
    (typed : field.type = .nonNull (.named name)) :
    ∃ type typename properties,
      Member.mk owner type (.record typename properties) ∈
        members settings (.build document settings) ∧
      Property.mk field.name (Text.trimmed source) ∈ properties := by
  have default : fieldDefault settings field.type = .literal ⟨source⟩ := by
    rw [typed, fieldDefault, namedDefault, configured?, configured]
    rfl
  have written : Property.mk field.name (Text.trimmed source) ∈
      (fieldDefaults settings definition).map (property (.build document settings)) := by
    refine List.mem_map.mpr ⟨(field.name, .literal ⟨source⟩), ?_, rfl⟩
    exact List.mem_map.mpr ⟨field, listed, by rw [default]⟩
  obtain ⟨typename, given⟩ : ∃ typename, bodyOf? settings definition =
      some (.record typename (fieldDefaults settings definition)) := by
    cases kind : definition.kind <;> simp_all [isRecordKind, bodyOf?]
  obtain ⟨rfl, listed⟩ := declared_member declared given
  exact ⟨_, typename, _, listed, written⟩

/-- The content of a module is that of its members, and a configured default stands in the
member of its scalar behind the return, and in every property of that type behind the equals
sign, as it goes on in an indented line. That is the trimmed default itself exactly when it has
no line feed; and the trimmed default means what the configured one means. -/
theorem defaults_go_on (document : Schema.Document) (settings : Config.Settings)
    {name source : String} (configured : settings.scalarDefault? name = some source) :
    let registry := Registry.build document settings
    let default := Text.trim source.toList
    (Module.generate document settings).content.toList =
      joinLines ((members settings registry).map fun member => indented member.text.toList) ∧
    (∀ definition, declaration? document name = some definition → definition.kind = .scalar →
      ∃ member ∈ members settings registry, member.name = name ∧
        indented member.text.toList =
          indented (name ++ "(): " ++ scalarReference settings name ++ " \x7b").toList ++
            "\n    return ".toList ++ continued default ++ "\n  \x7d,".toList) ∧
    (∀ owner definition field, declaration? document owner = some definition →
      isRecordKind definition.kind = true → field ∈ definition.fields →
      field.type = .nonNull (.named name) →
      ∃ member ∈ members settings registry, member.name = owner ∧ ∃ before after,
        indented member.text.toList =
          before ++ continued ("this." ++ slotName field.name ++ " = ").toList ++
            continued default ++ "\n          \x7d".toList ++ after) ∧
    (continued default = default ↔ '\n' ∉ default) ∧
    Literal.meaning ⟨String.ofList default⟩ = Literal.meaning ⟨source⟩ := by
  intro registry default
  have closed : isClosed default = true := trim_closed configured
  have spelled : (Text.trimmed source).toList = default := String.toList_ofList
  refine ⟨content_eq settings registry, ?_, ?_, continued_eq_iff closed, meaning_trimmed source⟩
  · intro definition declared scalar
    have text := @indented_expression name (scalarReference settings name) _ (spelled ▸ closed)
    rw [spelled] at text
    exact ⟨_, scalar_member configured declared scalar, rfl, text⟩
  · intro owner definition field declared record listed typed
    obtain ⟨type, typename, properties, member, written⟩ :=
      record_member configured declared record listed typed
    obtain ⟨before, after, text⟩ :=
      @indented_property owner type typename _ _ written (spelled ▸ closed)
    rw [spelled] at text
    exact ⟨_, member, rfl, before, after, text⟩

/-- A scalar with a default of two lines. -/
def noteSchema : Schema.Document where
  definitions := [
    { name := "Text", kind := .scalar },
    { name := "Note", kind := .object, fields := [⟨"body", .nonNull (.named "Text")⟩] }]

/-- The default is a template. -/
def noteSettings : Config.Settings where
  scalarDefaults := [("Text", "`one\ntwo`")]

/-- The second line of the template is moved, and so is not what was configured. -/
theorem note_default_moved :
    noteSettings.scalarDefault? "Text" = some "`one\ntwo`" ∧
      (∃ member ∈ members noteSettings (.build noteSchema noteSettings), member.name = "Text" ∧
        indented member.text.toList =
          "  Text(): Scalars['Text'] \x7b\n    return `one\n  two`\n  \x7d,".toList) ∧
      continued "`one\ntwo`".toList ≠ "`one\ntwo`".toList := by
  have configured : noteSettings.scalarDefault? "Text" = some "`one\ntwo`" := by decide
  obtain ⟨_, scalar, _, unchanged, _⟩ := defaults_go_on noteSchema noteSettings configured
  obtain ⟨member, listed, named, text⟩ := scalar { name := "Text", kind := .scalar } rfl rfl
  have trimmed : Text.trim "`one\ntwo`".toList = "`one\ntwo`".toList := by decide
  rw [trimmed] at unchanged text
  have shown : indented ("Text" ++ "(): " ++ scalarReference noteSettings "Text" ++
      " \x7b").toList ++ "\n    return ".toList ++ continued "`one\ntwo`".toList ++
      "\n  \x7d,".toList =
      "  Text(): Scalars['Text'] \x7b\n    return `one\n  two`\n  \x7d,".toList := by
    decide +kernel
  exact ⟨configured, ⟨member, listed, named, text.trans shown⟩,
    fun same => unchanged.mp same (by decide)⟩

end SchemaFixtures.Emission
