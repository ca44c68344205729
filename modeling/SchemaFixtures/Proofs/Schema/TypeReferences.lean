import SchemaFixtures.Fixture.Resolver
import SchemaFixtures.Proofs.Schema.Contents
import SchemaFixtures.Sdl.Parse

/-!
# Type references and their texts

A schema text writes the mark that excludes null at most once after a name or a list. A reference
has independent wrappers, and of all references those that lowering gives are the ones in which no
exclusion of null stands directly inside another. For these a field default is absent only where
null is allowed.

The last character of a text tells the outermost wrapper, if the name inside is written without
brackets and exclamation marks. Taking wrappers off one by one, the text tells the reference.
-/

namespace SchemaFixtures.Schema.TypeRef

/-! ## Marks that exclude null -/

/-- What stands in a reference, at any depth; the reference itself included. -/
inductive Within (part : TypeRef) : TypeRef → Prop where
  | here : Within part part
  | list {item : TypeRef} : Within part item → Within part (.list item)
  | nonNull {inner : TypeRef} : Within part inner → Within part (.nonNull inner)

/-- Nowhere in the reference does one exclusion of null stand directly inside another. -/
def MarkedOnce (type : TypeRef) : Prop := ∀ inner, ¬Within (.nonNull (.nonNull inner)) type

@[simp] theorem markedOnce_named (name : String) : (named name).MarkedOnce := by
  rintro inner ⟨⟩

@[simp] theorem markedOnce_list (item : TypeRef) : (list item).MarkedOnce ↔ item.MarkedOnce := by
  constructor
  · exact fun once inner doubled => once inner doubled.list
  · rintro once inner (_ | doubled | _)
    exact once inner doubled

@[simp] theorem markedOnce_nonNull (inner : TypeRef) :
    (nonNull inner).MarkedOnce ↔ inner.isNonNull = false ∧ inner.MarkedOnce := by
  constructor
  · intro once
    refine ⟨?_, fun other doubled => once other doubled.nonNull⟩
    cases inner with
    | named name => rfl
    | list item => rfl
    | nonNull other => exact absurd .here (once other)
  · rintro ⟨nullable, once⟩ other (_ | _ | doubled)
    · cases nullable
    · exact once other doubled

/-! ## Lowering -/

theorem text_lower (written : Sdl.WrittenType) : written.lower.text = written.text := by
  induction written with
  | named name => rfl
  | nonNullNamed name => rfl
  | list item inductionHypothesis =>
    rw [Sdl.WrittenType.lower, text, inductionHypothesis, Sdl.WrittenType.text]
  | nonNullList item inductionHypothesis =>
    rw [Sdl.WrittenType.lower, text, text, inductionHypothesis, Sdl.WrittenType.text,
      String.append_assoc]
    rfl

theorem innerName_lower (written : Sdl.WrittenType) :
    written.lower.innerName = written.innerName := by
  induction written with
  | named name => rfl
  | nonNullNamed name => rfl
  | list item inductionHypothesis => exact inductionHypothesis
  | nonNullList item inductionHypothesis => exact inductionHypothesis

theorem markedOnce_lower (written : Sdl.WrittenType) : written.lower.MarkedOnce := by
  induction written with
  | named name => exact markedOnce_named name
  | nonNullNamed name => exact (markedOnce_nonNull _).mpr ⟨rfl, markedOnce_named name⟩
  | list item inductionHypothesis => exact (markedOnce_list _).mpr inductionHypothesis
  | nonNullList item inductionHypothesis =>
    exact (markedOnce_nonNull _).mpr ⟨rfl, (markedOnce_list _).mpr inductionHypothesis⟩

/-- A reference can be written exactly if it excludes null nowhere twice in a row. -/
theorem exists_lower_iff (type : TypeRef) :
    (∃ written : Sdl.WrittenType, written.lower = type) ↔ type.MarkedOnce := by
  constructor
  · rintro ⟨written, rfl⟩
    exact markedOnce_lower written
  · intro once
    induction type with
    | named name => exact ⟨.named name, rfl⟩
    | list item inductionHypothesis =>
      obtain ⟨written, rfl⟩ := inductionHypothesis ((markedOnce_list _).mp once)
      exact ⟨.list written, rfl⟩
    | nonNull inner inductionHypothesis =>
      obtain ⟨nullable, innerOnce⟩ := (markedOnce_nonNull _).mp once
      obtain ⟨written, rfl⟩ := inductionHypothesis innerOnce
      -- What is written here has no mark yet, so that one can be added.
      cases written with
      | named name => exact ⟨.nonNullNamed name, rfl⟩
      | list item => exact ⟨.nonNullList item, rfl⟩
      | nonNullNamed name => cases nullable
      | nonNullList item => cases nullable

/-! ## Fields of a schema text -/

/-- All fields of a definition have types that exclude null nowhere twice in a row. -/
def FieldsMarkedOnce (definition : Definition) : Prop :=
  ∀ field ∈ definition.fields, field.type.MarkedOnce

theorem fieldsMarkedOnce_grows : Grows FieldsMarkedOnce :=
  fun _ _ own more => List.forall_mem_append.mpr ⟨own, more⟩

theorem fieldsMarkedOnce_lower {written : Sdl.Definition} {definition : Definition}
    (lowers : written.lower? = some definition) : FieldsMarkedOnce definition := by
  have fields (written : List Sdl.WrittenField) :
      ∀ field ∈ written.map (·.lower), field.type.MarkedOnce :=
    List.forall_mem_map.mpr fun field _ => markedOnce_lower field.type
  cases written with
  | schema | schemaExtension | operation | fragment => cases lowers
  | scalar _ _ | scalarExtension _ | directive _ _ | enum _ _ _ | enumExtension _ _ | union _ _ _
  | unionExtension _ _ =>
    cases lowers
    exact List.forall_mem_nil _
  | object _ _ _ | interface _ _ _ | inputObject _ _ _ | objectExtension _ _
  | interfaceExtension _ _ | inputObjectExtension _ _ =>
    cases lowers
    exact fields _

/-- Whatever is merged, the fields of a schema text have types as they can be written. -/
theorem parsed_fields_markedOnce {source path : String} {document : Document}
    (parsed : Sdl.parseSchema source path = .ok document) :
    ∀ definition ∈ document.definitions, FieldsMarkedOnce definition := by
  obtain ⟨written, -, rfl⟩ := Sdl.parseSchema_eq_ok_iff.mp parsed
  refine ofDefinitions_each fieldsMarkedOnce_grows ?_
  intro definition member
  obtain ⟨original, -, lowers⟩ := List.mem_filterMap.mp member
  exact fieldsMarkedOnce_lower lowers

theorem namedDefault_ne_absent (settings : Config.Settings) (name : String) :
    Fixture.namedDefault settings name ≠ .absent := by
  rw [Fixture.namedDefault, Fixture.configured?]
  cases settings.scalarDefault? name with
  | some source => simp
  | none =>
    rw [Option.map_none, Option.getD_none, Fixture.builtinDefault]
    repeat' split
    all_goals simp

/-- A type that can be written has no default only where it allows null. -/
theorem fieldDefault_eq_absent_iff {type : TypeRef} (once : type.MarkedOnce)
    (settings : Config.Settings) :
    Fixture.fieldDefault settings type = .absent ↔ type.isNonNull = false := by
  cases type with
  | named name => exact iff_of_true rfl rfl
  | list item => exact iff_of_true rfl rfl
  | nonNull inner =>
    refine iff_of_false ?_ Bool.noConfusion
    cases inner with
    | named name => exact namedDefault_ne_absent settings name
    | list item => simp [Fixture.fieldDefault]
    | nonNull other => exact absurd .here (once other)

/-! ## Texts -/

/-- The name inside is written without the characters that wrappers are written with. -/
def PlainNamed (type : TypeRef) : Prop :=
  ∀ mark ∈ ['[', ']', '!'], mark ∉ type.innerName.toList

instance (type : TypeRef) : Decidable type.PlainNamed :=
  List.decidableBAll (· ∉ type.innerName.toList) ['[', ']', '!']

theorem toList_text_list (item : TypeRef) :
    (list item).text.toList = '[' :: (item.text.toList ++ [']']) := by
  simp [text]

theorem toList_text_nonNull (inner : TypeRef) :
    (nonNull inner).text.toList = inner.text.toList ++ ['!'] := by
  simp [text]

/-- The character that closes the outermost wrapper. -/
def closing? : TypeRef → Option Char
  | named _ => none
  | list _ => some ']'
  | nonNull _ => some '!'

/-- The last character of a text closes the outermost wrapper, unless it is one of a name. -/
theorem closing?_eq {type : TypeRef} (plain : type.PlainNamed) :
    type.closing? = type.text.toList.getLast?.filter (· ∈ [']', '!']) := by
  cases type with
  | named name =>
    refine (Option.filter_eq_none_iff.mpr fun last isLast => ?_).symm
    have inside := List.mem_of_getLast? isLast
    intro closes
    exact plain last (List.mem_cons_of_mem _ (of_decide_eq_true closes)) inside
  | list item => rw [toList_text_list, ← List.cons_append, List.getLast?_concat]; rfl
  | nonNull inner => rw [toList_text_nonNull, List.getLast?_concat]; rfl

/-- References with the same text have the same outermost wrapper. -/
theorem closing?_eq_of_text_eq {first second : TypeRef} (plain : first.PlainNamed)
    (otherPlain : second.PlainNamed) (same : first.text = second.text) :
    first.closing? = second.closing? := by
  rw [closing?_eq plain, closing?_eq otherPlain, same]

/-- A text is that of one reference only. -/
theorem eq_of_text_eq {first second : TypeRef} (plain : first.PlainNamed)
    (otherPlain : second.PlainNamed) (same : first.text = second.text) : first = second := by
  induction first generalizing second with
  | named name =>
    cases second with
    | named other => exact congrArg named same
    | list _ | nonNull _ => cases closing?_eq_of_text_eq plain otherPlain same
  | list item inductionHypothesis =>
    cases second with
    | named _ | nonNull _ => cases closing?_eq_of_text_eq plain otherPlain same
    | list other =>
      have characters := congrArg String.toList same
      rw [toList_text_list, toList_text_list] at characters
      have inside := List.append_cancel_right (List.cons.inj characters).2
      exact congrArg list (inductionHypothesis plain otherPlain (String.toList_inj.mp inside))
  | nonNull inner inductionHypothesis =>
    cases second with
    | named _ | list _ => cases closing?_eq_of_text_eq plain otherPlain same
    | nonNull other =>
      have characters := congrArg String.toList same
      rw [toList_text_nonNull, toList_text_nonNull] at characters
      have inside := List.append_cancel_right characters
      exact congrArg nonNull (inductionHypothesis plain otherPlain (String.toList_inj.mp inside))

/-- Type references survive lowering and writing. A written type is lowered to a reference with
its text and its inner name, and the references that it can be lowered to are those that exclude
null nowhere twice in a row. The fields of an accepted schema text have such types, so that their
defaults are absent only where null is allowed. References whose names hold no bracket and no
exclamation mark are equal if their texts are, and then fields of these types have the same
default. -/
theorem references_survive :
    (∀ written : Sdl.WrittenType, written.lower.text = written.text ∧
      written.lower.innerName = written.innerName) ∧
    (∀ type : TypeRef, (∃ written : Sdl.WrittenType, written.lower = type) ↔ type.MarkedOnce) ∧
    (∀ source path document, Sdl.parseSchema source path = .ok document →
      ∀ definition ∈ document.definitions, ∀ field ∈ definition.fields,
        field.type.MarkedOnce ∧ ∀ settings,
          (Fixture.fieldDefault settings field.type = .absent ↔
            field.type.isNonNull = false)) ∧
    ∀ first second : TypeRef, first.PlainNamed → second.PlainNamed →
      first.text = second.text →
        first = second ∧
          ∀ settings, Fixture.fieldDefault settings first = Fixture.fieldDefault settings second := by
  refine ⟨fun written => ⟨text_lower written, innerName_lower written⟩, exists_lower_iff, ?_, ?_⟩
  · intro source path document parsed definition listed field member
    have once := parsed_fields_markedOnce parsed definition listed field member
    exact ⟨once, fieldDefault_eq_absent_iff once⟩
  · intro first second plain otherPlain same
    obtain rfl := eq_of_text_eq plain otherPlain same
    exact ⟨rfl, fun _ => rfl⟩

/-- A list of users that excludes null at both depths is lowered to the reference of its text. -/
theorem friends_survive :
    let source := "type User \x7b friends: [User!]! \x7d"
    let written : Sdl.WrittenType := .nonNullList (.nonNullNamed "User")
    let friends : TypeRef := .nonNull (.list (.nonNull (.named "User")))
    let user : Definition := { name := "User", kind := .object, fields := [⟨"friends", friends⟩] }
    Sdl.parseSchema source "" = .ok ⟨[user]⟩ ∧ friends.MarkedOnce ∧
      Fixture.fieldDefault {} friends ≠ .absent ∧ written.lower.text = friends.text ∧
      written.lower = friends := by
  intro source written friends user
  have accepted : (Sdl.parseSchema source "").toOption = some ⟨[user]⟩ := by decide +kernel
  have parsed : Sdl.parseSchema source "" = .ok ⟨[user]⟩ := by
    cases parsed : Sdl.parseSchema source "" with
    | error _ => rw [parsed] at accepted; cases accepted
    | ok document => rw [parsed] at accepted; cases accepted; rfl
  obtain ⟨texts, -, fields, tells⟩ := references_survive
  obtain ⟨once, absent⟩ := fields source "" _ parsed user (List.mem_singleton_self _)
    ⟨"friends", friends⟩ (List.mem_singleton_self _)
  have same : written.lower.text = friends.text := (texts written).1.trans (by decide)
  refine ⟨parsed, once, mt (absent {}).mp (by decide), same, ?_⟩
  exact (tells written.lower friends (by decide) (by decide) same).1

end SchemaFixtures.Schema.TypeRef
