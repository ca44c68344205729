import Mathlib.Data.List.Infix
import SchemaFixtures.Proofs.Emission.References

/-!
# Reading the members out of the content of a module

The content of a module is text. Its members are read back line by line: a member ends with its
closing line, its first line tells its name and type, and the lines between tell what its method
does. Only a type that is an entry of the table of scalars tells a scalar, whose expression is
then taken as it stands. A property is read when all its lines are those of the property, so a
block with another getter, setter or slot is none.

Reading gives back the members that were written if nothing in them ends a line.
-/

namespace SchemaFixtures.Emission

/-! ## The reader -/

/-- What stands between an opening and a closing. -/
def inside? (opening closing : String) (line : List Char) : Option (List Char) :=
  (opening.toList.isPrefixOf? line).bind closing.toList.isSuffixOf?

/-- The lines of a text as they are compared. -/
def characters (written : List String) : List (List Char) := written.map String.toList

/-- The property with these lines, its last line left out. -/
def readProperty (block : List (List Char)) : Option Property :=
  match block with
  | _ :: head :: _ :: _ :: _ :: assignment :: _ => do
    let name ← inside? "    " ": \x7b" head
    let start := "          this." ++ slotName (String.ofList name) ++ " = "
    let default ← inside? start "" assignment
    let property := Property.mk (String.ofList name) (String.ofList default)
    if characters property.lines = block ++ [propertyEnd.toList] then some property else none
  | _ => none

/-- The record whose object is started already. -/
def readRecord (type : String) (typename : Option String) (body : List (List Char)) :
    Option Form := do
  let blocks := body.splitOn propertyEnd.toList
  if blocks.getLast? = some [(recordEnd type).toList] then
    let properties ← blocks.dropLast.mapM readProperty
    return .record typename properties
  else none

/-- Whether a type is the entry of a name in the table of scalars. -/
def isEntry (name type : String) : Bool :=
  ("['" ++ name ++ "']").toList.isSuffixOf type.toList

/-- What a method does that returns an expression at once. -/
def readResult (name type : String) (source : List Char) : Form :=
  if isEntry name type then .expression (String.ofList source)
  else
    match inside? "'" ("' as " ++ type) source with
    | some value => .enum (String.ofList value)
    | none => .expression (String.ofList source)

/-- The record whose object states the name of its type. -/
def readStated (type : String) (body : List (List Char)) : Option Form :=
  match body with
  | start :: line :: close :: rest => do
    let typename ← inside? "    __typename: '" "'," line
    let stated := some (String.ofList typename)
    if [start, line, close] = characters (startLines type stated) then readRecord type stated rest
    else none
  | _ => none

/-- What the method of a member does. -/
def readForm (name type : String) (body : List (List Char)) : Option Form :=
  match body with
  | [line] => (inside? "  return " "" line).map (readResult name type)
  | start :: rest =>
    if [start] = characters (startLines type none) then readRecord type none rest
    else readStated type body
  | [] => none

/-- The member with these lines, its last line left out. -/
def readMember (member : List (List Char)) : Option Member :=
  match member with
  | header :: body => do
    let name := String.ofList (header.takeWhile (· != '('))
    let type ← inside? (name ++ "(): ") " \x7b" header
    let form ← readForm name (String.ofList type) body
    return ⟨name, String.ofList type, form⟩
  | [] => none

/-- The members in the content of a module. -/
def readContent (content : String) : Option (List Member) := do
  let body ← (lines content.toList).mapM "  ".toList.isPrefixOf?
  let written := body.splitOn memberEnd.toList
  if written.getLast? = some [] then written.dropLast.mapM readMember else none

/-! ## Reading part by part -/

@[simp] theorem inside?_append (opening closing : String) (text : List Char) :
    inside? opening closing (opening.toList ++ (text ++ closing.toList)) = some text := by
  have opened : opening.toList.isPrefixOf? (opening.toList ++ (text ++ closing.toList)) =
      some (text ++ closing.toList) := List.isPrefixOf?_eq_some_iff_append_eq.mpr rfl
  rw [inside?, opened, Option.bind_some]
  exact List.isSuffixOf?_eq_some_iff_append_eq.mpr rfl

theorem inside?_between (opening text closing : String) :
    inside? opening closing (opening ++ text ++ closing).toList = some text.toList := by
  rw [String.toList_append, String.toList_append, List.append_assoc]
  exact inside?_append opening closing text.toList

theorem inside?_behind (opening text : String) :
    inside? opening "" (opening ++ text).toList = some text.toList := by
  have between := inside?_between opening text ""
  rwa [String.append_empty] at between

theorem inside?_eq_some {opening closing : String} {line text : List Char}
    (found : inside? opening closing line = some text) :
    line = opening.toList ++ (text ++ closing.toList) := by
  obtain ⟨rest, opened, closed⟩ := Option.bind_eq_some_iff.mp found
  rw [← List.isPrefixOf?_eq_some_iff_append_eq.mp opened,
    ← List.isSuffixOf?_eq_some_iff_append_eq.mp closed]

/-- Reading one by one what was written one by one. -/
theorem mapM_written {α β : Type} {read : β → Option α} {write : α → β} {parts : List α}
    (reads : ∀ part ∈ parts, read (write part) = some part) :
    (parts.map write).mapM read = some parts := by
  induction parts with
  | nil => rfl
  | cons part rest inductionHypothesis =>
    obtain ⟨first, later⟩ := List.forall_mem_cons.mp reads
    rw [List.map_cons, List.mapM_cons, first, inductionHypothesis later]
    rfl

/-- Blocks that end with a line that none of them holds are found again by that line. -/
theorem splitOn_ended {blocks : List (List (List Char))} {ending : List Char}
    {last : List (List Char)} (free : ∀ block ∈ blocks, ending ∉ block) (freeLast : ending ∉ last) :
    (blocks.flatMap (· ++ [ending]) ++ last).splitOn ending = blocks ++ [last] := by
  induction blocks with
  | nil => exact List.splitOn_eq_singleton freeLast
  | cons block rest inductionHypothesis =>
    obtain ⟨first, later⟩ := List.forall_mem_cons.mp free
    rw [List.flatMap_cons, List.append_assoc, List.append_assoc, List.singleton_append,
      List.splitOn_append_cons_self_of_not_mem first, inductionHypothesis later]
    rfl

/-! ## Records -/

/-- The lines of a property before its last. -/
def Property.inner (property : Property) : List String :=
  getterLines property.name ++ property.defaultLine :: setterLines property.name

theorem Property.lines_eq (property : Property) :
    property.lines = property.inner ++ [propertyEnd] := by
  simp [Property.lines, Property.inner]

theorem propertyEnd_not_mem (property : Property) :
    propertyEnd.toList ∉ characters property.inner := by
  simp [characters, Property.inner, getterLines, setterLines, propertyEnd, Property.defaultLine]

theorem readProperty_inner (property : Property) :
    readProperty (characters property.inner) = some property := by
  have head : inside? "    " ": \x7b" ("    " ++ property.name ++ ": \x7b").toList =
      some property.name.toList := inside?_between _ _ _
  have assignment : inside? ("          this." ++ slotName property.name ++ " = ") ""
      property.defaultLine.toList = some property.default.toList := by
    have line : property.defaultLine =
        "          this." ++ slotName property.name ++ " = " ++ property.default := by
      simp only [Property.defaultLine, ← String.append_assoc]
      rfl
    rw [line]
    exact inside?_behind _ _
  have complete : characters property.lines =
      characters property.inner ++ [propertyEnd.toList] := by
    simp [characters, Property.lines_eq]
  have block : characters property.inner =
      "  Object.defineProperties(fixture, \x7b".toList ::
        ("    " ++ property.name ++ ": \x7b").toList :: "      enumerable: true,".toList ::
        "      get(this: any) \x7b".toList ::
        ("        if (this." ++ slotName property.name ++ " === undefined) \x7b").toList ::
        property.defaultLine.toList :: characters (setterLines property.name) := rfl
  rw [block] at complete ⊢
  simp only [readProperty, head, assignment, Option.bind_eq_bind, Option.bind_some,
    String.ofList_toList]
  exact if_pos complete

theorem readRecord_lines (type : String) (typename : Option String) (properties : List Property) :
    readRecord type typename (characters (properties.flatMap (·.lines) ++ [recordEnd type])) =
      some (.record typename properties) := by
  have blocks : characters (properties.flatMap (·.lines) ++ [recordEnd type]) =
      (properties.map (characters ·.inner)).flatMap (· ++ [propertyEnd.toList]) ++
        [(recordEnd type).toList] := by
    simp [characters, Property.lines_eq, List.map_flatMap, List.flatMap_map]
  have free : ∀ block ∈ properties.map (characters ·.inner), propertyEnd.toList ∉ block := by
    simpa using fun property _ => propertyEnd_not_mem property
  have ends : (recordEnd type).toList = "  return fixture as ".toList ++ type.toList :=
    String.toList_append
  have freeLast : propertyEnd.toList ∉ [(recordEnd type).toList] := by
    rw [ends]
    simp [propertyEnd]
  have read : (properties.map (characters ·.inner)).mapM readProperty = some properties :=
    mapM_written fun property _ => readProperty_inner property
  rw [readRecord, blocks, splitOn_ended free freeLast]
  simp only [List.getLast?_concat, if_pos, List.dropLast_concat, read]
  rfl

/-! ## Members -/

/-- What a method does can be told from its body: an expression of no scalar is not written like
the value of an enum. -/
def Form.IsTold (name type : String) : Form → Prop
  | expression source =>
    isEntry name type = true ∨ inside? "'" ("' as " ++ type) source.toList = none
  | enum _ => isEntry name type = false
  | record _ _ => True

theorem readResult_expression {name type source : String}
    (told : (Form.expression source).IsTold name type) :
    readResult name type source.toList = .expression source := by
  rw [readResult, String.ofList_toList]
  rcases told with entry | noEnum
  · rw [if_pos entry]
  · rw [noEnum]
    exact ite_self _

theorem readResult_enum {name type value : String} (told : (Form.enum value).IsTold name type) :
    readResult name type ("'".toList ++ (value.toList ++ ("' as " ++ type).toList)) =
      .enum value := by
  have noEntry : ¬ isEntry name type = true := ne_true_of_eq_false told
  rw [readResult, if_neg noEntry, inside?_append]
  exact congrArg Form.enum String.ofList_toList

theorem readStated_lines {type stated : String} {form : Form} {rest : List (List Char)}
    (record : readRecord type (some stated) rest = some form) :
    readStated type (characters (startLines type (some stated)) ++ rest) = some form := by
  have line : inside? "    __typename: '" "'," ("    __typename: '" ++ stated ++ "',").toList =
      some stated.toList := inside?_between _ _ _
  have read : readStated type (characters (startLines type (some stated)) ++ rest) =
      (inside? "    __typename: '" "'," ("    __typename: '" ++ stated ++ "',").toList).bind
        fun typename =>
          if characters (startLines type (some stated)) =
              characters (startLines type (some (String.ofList typename))) then
            readRecord type (some (String.ofList typename)) rest
          else none := rfl
  rw [read, line, Option.bind_some, String.ofList_toList, if_pos rfl]
  exact record

theorem readForm_record (name type : String) (typename : Option String)
    (properties : List Property) :
    readForm name type (characters ((Form.record typename properties).lines type)) =
      some (.record typename properties) := by
  have body : characters ((Form.record typename properties).lines type) =
      characters (startLines type typename) ++
        characters (properties.flatMap (·.lines) ++ [recordEnd type]) := by
    simp [characters, Form.lines]
  have record := readRecord_lines type typename properties
  have ended : characters (properties.flatMap (·.lines) ++ [recordEnd type]) ≠ [] := by
    simp [characters]
  rw [body]
  generalize characters (properties.flatMap (·.lines) ++ [recordEnd type]) = rest at record ended ⊢
  obtain ⟨first, later, rfl⟩ := List.exists_cons_of_ne_nil ended
  cases typename with
  | none => exact (if_pos rfl).trans record
  | some stated =>
    -- The line that starts a record without the name of its type is longer by a brace.
    have different : [("  const fixture: Partial<" ++ type ++ "> = \x7b").toList] ≠
        characters (startLines type none) := by
      intro same
      have lengths := congrArg List.length (List.singleton_inj.mp same)
      simp at lengths
    exact (if_neg different).trans (readStated_lines record)

theorem readForm_lines {name type : String} {form : Form} (told : form.IsTold name type) :
    readForm name type (characters (form.lines type)) = some form := by
  cases form with
  | expression source =>
    have line : inside? "  return " "" ("  return " ++ source).toList = some source.toList :=
      inside?_behind _ _
    have read : readForm name type (characters ((Form.expression source).lines type)) =
        (inside? "  return " "" ("  return " ++ source).toList).map (readResult name type) := rfl
    rw [read, line, Option.map_some, readResult_expression told]
  | enum value =>
    let result := "'".toList ++ (value.toList ++ ("' as " ++ type).toList)
    have line : inside? "  return " "" ("  return '" ++ value ++ "' as " ++ type).toList =
        some result := by
      have spelled : "  return '" ++ value ++ "' as " ++ type =
          "  return " ++ String.ofList result := by
        simp [← String.toList_inj, result]
      rw [spelled, inside?_behind, String.toList_ofList]
    have read : readForm name type (characters ((Form.enum value).lines type)) =
        (inside? "  return " "" ("  return '" ++ value ++ "' as " ++ type).toList).map
          (readResult name type) := rfl
    rw [read, line, Option.map_some, readResult_enum told]
  | record typename properties => exact readForm_record name type typename properties

/-- A member can be told from its lines: no name is taken for the parentheses behind it. -/
structure Member.IsTold (member : Member) : Prop where
  name : '(' ∉ member.name.toList
  form : member.form.IsTold member.name member.type

/-- The lines of a member before its last. -/
def Member.inner (member : Member) : List String :=
  member.header :: member.form.lines member.type

theorem Member.lines_eq (member : Member) : member.lines = member.inner ++ [memberEnd] := rfl

theorem readMember_inner {member : Member} (told : member.IsTold) :
    readMember (characters member.inner) = some member := by
  have header : member.header.toList =
      member.name.toList ++ ("(): " ++ member.type ++ " \x7b").toList := by
    simp [Member.header]
  have named : String.ofList (member.header.toList.takeWhile (· != '(')) = member.name := by
    have free : ∀ c ∈ member.name.toList, (c != '(') = true := by
      intro c within
      rw [bne_iff_ne]
      rintro rfl
      exact told.name within
    rw [header, List.takeWhile_append_of_pos free, String.toList_append, String.toList_append]
    simp
  have typed : inside? (member.name ++ "(): ") " \x7b" member.header.toList =
      some member.type.toList := inside?_between _ _ _
  have read : readMember (characters member.inner) =
      (inside? (String.ofList (member.header.toList.takeWhile (· != '(')) ++ "(): ") " \x7b"
        member.header.toList).bind fun type =>
          (readForm (String.ofList (member.header.toList.takeWhile (· != '('))) (String.ofList type)
            (characters (member.form.lines member.type))).bind fun form =>
              some ⟨String.ofList (member.header.toList.takeWhile (· != '(')),
                String.ofList type, form⟩ := rfl
  rw [read, named, typed, Option.bind_some, String.ofList_toList, readForm_lines told.form]
  rfl

/-! ## The content -/

theorem head?_append {opening : String} {c : Char} (opens : opening.toList.head? = some c)
    (rest : String) : (opening ++ rest).toList.head? = some c := by
  rw [String.toList_append, List.head?_append, opens, Option.some_or]

theorem form_lines_blank {form : Form} {type : String} :
    ∀ line ∈ form.lines type, line.toList.head? = some ' ' := by
  cases form with
  | expression source => exact List.forall_mem_singleton.mpr (head?_append rfl source)
  | enum value =>
    exact List.forall_mem_singleton.mpr (head?_append (head?_append (head?_append rfl _) _) type)
  | record typename properties =>
    have start : ∀ line ∈ startLines type typename, line.toList.head? = some ' ' := by
      cases typename <;> simp [startLines]
    have block (property : Property) :
        ∀ line ∈ property.lines, line.toList.head? = some ' ' := by
      simp [Property.lines, getterLines, Property.defaultLine, setterLines, propertyEnd]
    simp only [Form.lines, List.forall_mem_append, List.forall_mem_flatMap]
    exact ⟨start, fun property _ => block property,
      List.forall_mem_singleton.mpr (head?_append rfl type)⟩

theorem memberEnd_not_mem (member : Member) : memberEnd.toList ∉ characters member.inner := by
  intro ended
  obtain ⟨line, listed, same⟩ := List.mem_map.mp ended
  rcases List.mem_cons.mp listed with rfl | inner
  · have parenthesis : '(' ∈ member.header.toList := by simp [Member.header]
    rw [same] at parenthesis
    exact absurd parenthesis (by decide)
  · have blank := form_lines_blank line inner
    rw [same] at blank
    exact absurd blank (by decide)

/-- The lines of the content are the lines of the members, each two places to the right. -/
theorem lines_contentText {settings : Config.Settings} {registry : Fixture.Registry}
    (areLines : ∀ member ∈ members settings registry, ∀ line ∈ member.lines,
      isLine line.toList = true) :
    lines (contentText settings registry).toList =
      ((members settings registry).flatMap fun member => characters member.lines).map
        (' ' :: ' ' :: ·) := by
  generalize listed : members settings registry = all at areLines ⊢
  have content : (contentText settings registry).toList =
      indented (joinLines (all.flatMap fun member => characters member.lines)) := by
    have texts : ((all.map (·.text)).map String.toList) =
        (all.map fun member => characters member.lines).map joinLines := by
      rw [List.map_map, List.map_map]
      exact List.map_congr_left fun member _ => String.toList_intercalate
    have some : ∀ block ∈ all.map fun member => characters member.lines, block ≠ [] := by
      simp [characters, Member.lines]
    rw [contentText, listed, indent_eq, String.toList_ofList, String.toList_intercalate, texts]
    exact congrArg indented (joinLines_flatten some)
  rw [content]
  refine lines_indented fun text within => ?_
  obtain ⟨member, isMember, within⟩ := List.mem_flatMap.mp within
  obtain ⟨line, isLine, rfl⟩ := List.mem_map.mp within
  exact areLines member isMember line isLine

theorem readContent_contentText {settings : Config.Settings} {registry : Fixture.Registry}
    (told : ∀ member ∈ members settings registry, member.IsTold)
    (areLines : ∀ member ∈ members settings registry, ∀ line ∈ member.lines,
      isLine line.toList = true) :
    readContent (contentText settings registry) = some (members settings registry) := by
  have found := lines_contentText areLines
  generalize members settings registry = all at told found ⊢
  have body : ((all.flatMap fun member => characters member.lines).map (' ' :: ' ' :: ·)).mapM
      "  ".toList.isPrefixOf? = some (all.flatMap fun member => characters member.lines) := by
    refine mapM_written fun line _ => ?_
    exact List.isPrefixOf?_eq_some_iff_append_eq.mpr rfl
  have blocks : all.flatMap (fun member => characters member.lines) =
      (all.map (characters ·.inner)).flatMap (· ++ [memberEnd.toList]) ++ [] := by
    simp [characters, Member.lines_eq, List.flatMap_map]
  have free : ∀ block ∈ all.map (characters ·.inner), memberEnd.toList ∉ block := by
    simpa using fun member _ => memberEnd_not_mem member
  have read : (all.map (characters ·.inner)).mapM readMember = some all :=
    mapM_written fun member listed => readMember_inner (told member listed)
  rw [readContent, found, body]
  simp only [Option.bind_eq_bind, Option.bind_some]
  rw [blocks, splitOn_ended free List.not_mem_nil]
  simp only [List.getLast?_concat, if_pos, List.dropLast_concat, read]

end SchemaFixtures.Emission
