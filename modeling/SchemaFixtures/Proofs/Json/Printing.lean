import SchemaFixtures.Json.Writer
import SchemaFixtures.Proofs.Text.Unmarked

/-!
# What written JSON consists of

Whatever the strings of a JSON value hold, no character that starts an escape sequence stands in
its text. Control characters in strings are written as escapes, numbers consist of digits, points,
signs and exponents, and everything else is brackets and blanks.
-/

namespace SchemaFixtures.Json

open Text

/-! ## Strings -/

theorem hexDigit_ne_mark {value : Nat} (small : value < 16) :
    Command.escapeMark ≠ Text.hexDigit value := by
  revert value
  decide

theorem mark_not_mem_escapeCharacter (c : Char) : Command.escapeMark ∉ escapeCharacter c := by
  fun_cases escapeCharacter c with
  | case8 c _ _ _ _ _ _ _ control =>
    have first : Command.escapeMark ≠ Text.hexDigit (c.toNat / 16) := hexDigit_ne_mark (by omega)
    have second : Command.escapeMark ≠ Text.hexDigit (c.toNat % 16) := hexDigit_ne_mark (by omega)
    simp [first, second]
    decide
  | case9 c _ _ _ _ _ _ _ visible =>
    rw [List.mem_singleton]
    rintro rfl
    exact visible (by decide)
  | _ => decide

theorem unmarked_quote (text : String) : Unmarked (quote text) := by
  rw [quote, unmarked_ofList]
  simp only [List.cons_append, List.mem_cons, List.mem_append, List.mem_flatMap, not_or,
    not_exists, not_and, List.not_mem_nil, not_false_iff, and_true]
  refine ⟨by decide, ?_, by decide⟩
  intro c _
  exact mark_not_mem_escapeCharacter c

/-! ## Numbers -/

theorem unmarked_intText (value : Int) : Unmarked (toString value) := by
  cases value with
  | ofNat number => exact unmarked_natText number
  | negSucc number =>
    show Unmarked ("-" ++ toString (number + 1))
    rw [unmarked_append]
    exact ⟨by decide, unmarked_natText _⟩

theorem unmarked_withPoint {digits : List Char} (plain : Command.escapeMark ∉ digits)
    (places : Int) : Unmarked (Decimal.withPoint digits places) := by
  have zeros := mark_not_mem_replicate (by decide : Command.escapeMark ≠ '0')
  have taken (count : Nat) : Command.escapeMark ∉ digits.take count :=
    fun found => plain (List.mem_of_mem_take found)
  have dropped (count : Nat) : Command.escapeMark ∉ digits.drop count :=
    fun found => plain (List.mem_of_mem_drop found)
  rw [Decimal.withPoint]
  split
  · refine (unmarked_append _ _).mpr ⟨by decide, (unmarked_ofList _).mpr ?_⟩
    exact List.not_mem_append (zeros _) plain
  · split
    · refine (unmarked_append _ _).mpr ⟨(unmarked_ofList _).mpr ?_, by decide⟩
      exact List.not_mem_append plain (zeros _)
    · rw [unmarked_append, unmarked_append]
      exact ⟨⟨(unmarked_ofList _).mpr (taken _), by decide⟩, (unmarked_ofList _).mpr (dropped _)⟩

theorem unmarked_withExponent {digits : List Char} (plain : Command.escapeMark ∉ digits)
    (exponent : Int) : Unmarked (Decimal.withExponent floatLayout digits exponent) := by
  have first : Unmarked (String.ofList (digits.take 1)) :=
    (unmarked_ofList _).mpr fun found => plain (List.mem_of_mem_take found)
  have fraction : Unmarked (if (digits.drop 1).isEmpty then "" else
      "." ++ String.ofList (digits.drop 1)) := by
    split
    · decide
    · refine (unmarked_append _ _).mpr ⟨by decide, (unmarked_ofList _).mpr ?_⟩
      exact fun found => plain (List.mem_of_mem_drop found)
  have mark : Unmarked (if 0 ≤ exponent then floatLayout.positiveMark else
      floatLayout.negativeMark) := by
    split <;> decide
  rw [Decimal.withExponent]
  simp only [unmarked_append, unmarked_natText, first, fraction, mark, and_true]

theorem unmarked_float (value : Float) : Unmarked (floatLayout.write value) := by
  have sign : Unmarked (if value.toBits.toNat < Nat.pow 2 63 then "" else "-") := by
    split <;> decide
  rw [Decimal.Layout.write]
  split
  · decide
  · split
    · split <;> decide
    · split
      · exact (unmarked_append _ _).mpr ⟨sign, by decide⟩
      · refine (unmarked_append _ _).mpr ⟨sign, ?_⟩
        rw [Decimal.Layout.magnitude]
        split
        · exact unmarked_withPoint mark_not_digit _
        · exact unmarked_withExponent mark_not_digit _

/-! ## Values -/

theorem unmarked_scalarText (json : Json) : Unmarked (scalarText json) := by
  fun_cases scalarText json with
  | case4 value => exact unmarked_intText _
  | case5 value => exact unmarked_float value
  | case6 text => exact unmarked_quote text
  | _ => decide

theorem unmarked_lineBreak (level : Nat) : Unmarked (lineBreak level) :=
  .append (by decide) (unmarked_literal (mark_not_mem_replicate (by decide) _))

theorem unmarked_block {opening closing : String} (opens : Unmarked opening)
    (closes : Unmarked closing) (level : Nat) {parts : List String}
    (all : ∀ part ∈ parts, Unmarked part) : Unmarked (block opening closing level parts) := by
  rw [block]
  split
  · exact (unmarked_append _ _).mpr ⟨opens, closes⟩
  · have separator : Unmarked ("," ++ lineBreak (level + 1)) :=
      (unmarked_append _ _).mpr ⟨by decide, unmarked_lineBreak _⟩
    simp only [unmarked_append, unmarked_lineBreak, opens, closes, and_true, true_and]
    exact unmarked_intercalate separator all

mutual

theorem unmarked_compact : (json : Json) → Unmarked (compact json)
  | .array items => by
    rw [compact, unmarked_append, unmarked_append]
    exact ⟨⟨by decide, unmarked_intercalate (by decide) (unmarked_compactItems items)⟩, by decide⟩
  | .object members => by
    rw [compact, unmarked_append, unmarked_append]
    exact ⟨⟨by decide, unmarked_intercalate (by decide) (unmarked_compactMembers members)⟩,
      by decide⟩
  | .null => unmarked_scalarText _
  | .bool _ => unmarked_scalarText _
  | .int _ => unmarked_scalarText _
  | .float _ => unmarked_scalarText _
  | .string _ => unmarked_scalarText _

theorem unmarked_compactItems : (items : List Json) → ∀ part ∈ compactItems items, Unmarked part
  | [] => List.forall_mem_nil _
  | item :: rest => List.forall_mem_cons.mpr ⟨unmarked_compact item, unmarked_compactItems rest⟩

theorem unmarked_compactMembers :
    (members : List (String × Json)) → ∀ part ∈ compactMembers members, Unmarked part
  | [] => List.forall_mem_nil _
  | (name, value) :: rest => by
    refine List.forall_mem_cons.mpr ⟨?_, unmarked_compactMembers rest⟩
    rw [unmarked_append, unmarked_append]
    exact ⟨⟨unmarked_quote name, by decide⟩, unmarked_compact value⟩

end

mutual

theorem unmarked_prettyAt (level : Nat) : (json : Json) → Unmarked (prettyAt level json)
  | .array items => by
    rw [prettyAt]
    exact unmarked_block (by decide) (by decide) level (unmarked_prettyItems (level + 1) items)
  | .object members => by
    rw [prettyAt]
    exact unmarked_block (by decide) (by decide) level (unmarked_prettyMembers (level + 1) members)
  | .null => unmarked_scalarText _
  | .bool _ => unmarked_scalarText _
  | .int _ => unmarked_scalarText _
  | .float _ => unmarked_scalarText _
  | .string _ => unmarked_scalarText _

theorem unmarked_prettyItems (level : Nat) :
    (items : List Json) → ∀ part ∈ prettyItems level items, Unmarked part
  | [] => List.forall_mem_nil _
  | item :: rest =>
    List.forall_mem_cons.mpr ⟨unmarked_prettyAt level item, unmarked_prettyItems level rest⟩

theorem unmarked_prettyMembers (level : Nat) :
    (members : List (String × Json)) → ∀ part ∈ prettyMembers level members, Unmarked part
  | [] => List.forall_mem_nil _
  | (name, value) :: rest => by
    refine List.forall_mem_cons.mpr ⟨?_, unmarked_prettyMembers level rest⟩
    rw [unmarked_append, unmarked_append]
    exact ⟨⟨unmarked_quote name, by decide⟩, unmarked_prettyAt level value⟩

end

end SchemaFixtures.Json
