import SchemaFixtures.Proofs.Emission.Lines

/-!
# Members in the content of a module

The content of a module is the texts of its members, indented one by one. Inside a member an
expression stands behind the return, and the default of a property behind an equals sign. As
both are closed, they go on there as they would in any indented line.
-/

namespace SchemaFixtures.Emission

/-- Lines with a line feed behind each. -/
def endLines (parts : List String) : List Char := parts.flatMap fun part => part.toList ++ ['\n']

theorem endLines_append (parts others : List String) :
    endLines (parts ++ others) = endLines parts ++ endLines others := by
  rw [endLines, List.flatMap_append]
  rfl

theorem endLines_cons (part : String) (others : List String) :
    endLines (part :: others) = part.toList ++ '\n' :: endLines others := by
  rw [endLines, List.flatMap_cons, List.append_assoc]
  rfl

theorem intercalate_last (parts : List String) (last : String) :
    ("\n".intercalate (parts ++ [last])).toList = endLines parts ++ last.toList := by
  induction parts with
  | nil => simp [endLines]
  | cons part rest inductionHypothesis =>
    rw [String.toList_intercalate] at inductionHypothesis ⊢
    have some : (rest ++ [last]).map String.toList ≠ [] := by simp
    rw [List.cons_append, List.map_cons, List.intercalate_cons_of_ne_nil some,
      inductionHypothesis, endLines_cons]
    simp

/-- A member is written in its lines. -/
theorem member_text (member : Member) :
    member.text.toList = member.header.toList ++
      '\n' :: (endLines (member.form.lines member.type) ++ memberEnd.toList) := by
  rw [Member.text, Member.lines, ← List.cons_append, intercalate_last, endLines_cons,
    List.append_assoc, List.cons_append]

theorem member_closed (member : Member) : isClosed member.text.toList = true := by
  have ends : memberEnd.toList ≠ [] := by decide
  rw [member_text, isClosed_append _ (List.cons_ne_nil _ _), isClosed_cons _ (by simp [ends]),
    isClosed_append _ ends]
  decide

/-- The members are indented one by one. -/
theorem content_eq (settings : Config.Settings) (registry : Fixture.Registry) :
    (contentText settings registry).toList =
      joinLines ((members settings registry).map fun member => indented member.text.toList) := by
  have closed : ∀ text ∈ (members settings registry).map (·.text.toList),
      isClosed text = true := by
    intro text isText
    obtain ⟨member, _, rfl⟩ := List.mem_map.mp isText
    exact member_closed member
  rw [contentText, indent_eq, String.toList_ofList, String.toList_intercalate, List.map_map]
  exact (indented_joinLines closed).trans (congrArg joinLines List.map_map)

/-- An expression stands in its member behind the return. -/
theorem indented_expression {name type source : String} (closed : isClosed source.toList = true) :
    indented (Member.mk name type (.expression source)).text.toList =
      indented (name ++ "(): " ++ type ++ " \x7b").toList ++ "\n    return ".toList ++
        continued source.toList ++ "\n  \x7d,".toList := by
  have header : isClosed (name ++ "(): " ++ type ++ " \x7b").toList = true := by
    rw [String.toList_append, isClosed_append _ (by decide)]
    decide
  have text : (Member.mk name type (.expression source)).text.toList =
      (name ++ "(): " ++ type ++ " \x7b").toList ++
        ('\n' :: "  return ".toList ++ (source.toList ++ '\n' :: memberEnd.toList)) := by
    rw [member_text, Form.lines, endLines_cons, String.toList_append]
    simp only [endLines, List.flatMap_nil, List.append_assoc, List.cons_append, List.nil_append]
    rfl
  have return_moved : continued ('\n' :: "  return ".toList) = "\n    return ".toList := by
    decide +kernel
  have end_moved : continued ('\n' :: memberEnd.toList) = "\n  \x7d,".toList := by decide +kernel
  rw [text, indented_append header, continued_append (by decide), continued_append closed,
    return_moved, end_moved, List.append_assoc, List.append_assoc]

/-- The default of a property stands in its member behind an equals sign. -/
theorem indented_property {name type : String} {typename : Option String}
    {properties : List Property} {property : Property} (listed : property ∈ properties)
    (closed : isClosed property.default.toList = true) :
    ∃ before after,
      indented (Member.mk name type (.record typename properties)).text.toList =
        before ++ continued ("this." ++ slotName property.name ++ " = ").toList ++
          continued property.default.toList ++ "\n          \x7d".toList ++ after := by
  obtain ⟨earlier, later, rfl⟩ := List.append_of_mem listed
  let before := startLines type typename ++
    (earlier.flatMap (·.lines) ++ getterLines property.name)
  let behind := (setterLines property.name).tail ++
    (propertyEnd :: (later.flatMap (·.lines) ++ [recordEnd type]))
  have lines : (Form.record typename (earlier ++ property :: later)).lines type =
      before ++ property.defaultLine :: "        \x7d" :: behind := by
    simp [Form.lines, Property.lines, before, behind, setterLines]
  let start := (Member.mk name type (.record typename (earlier ++ property :: later))).header.toList
    ++ '\n' :: (endLines before ++ "          ".toList)
  let rest := '\n' :: (endLines behind ++ memberEnd.toList)
  have text : (Member.mk name type (.record typename (earlier ++ property :: later))).text.toList =
      start ++ (("this." ++ slotName property.name ++ " = ").toList ++ (property.default.toList ++
        ('\n' :: "        \x7d".toList ++ rest))) := by
    simp only [member_text, lines, endLines_append, endLines_cons, Property.defaultLine,
      String.toList_append, List.append_assoc, List.cons_append, start, rest]
  have closedStart : isClosed start = true := by
    rw [isClosed_append _ (List.cons_ne_nil _ _), ← List.cons_append,
      isClosed_append _ (by decide)]
    decide
  have closedName : isClosed ("this." ++ slotName property.name ++ " = ").toList = true := by
    rw [String.toList_append, isClosed_append _ (by decide)]
    decide
  have moved : continued ('\n' :: "        \x7d".toList) = "\n          \x7d".toList := by
    decide +kernel
  refine ⟨indented start, continued rest, ?_⟩
  rw [text, indented_append closedStart, continued_append closedName, continued_append closed,
    continued_append (by decide), moved]
  simp only [List.append_assoc]

end SchemaFixtures.Emission
