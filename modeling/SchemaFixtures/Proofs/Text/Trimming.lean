import Mathlib.Data.List.TakeWhile
import SchemaFixtures.Text.Blank

/-!
# Trimming

What is left of a text after trimming starts and ends with a character that is not blank, so
trimming it again changes nothing, and nothing is left exactly when all of it is blank.
-/

namespace SchemaFixtures.Text

theorem getLast?_trimEnd {text : List Char} {last : Char}
    (ends : (trimEnd text).getLast? = some last) : isBlank last = false := by
  rw [trimEnd, List.getLast?_reverse] at ends
  have solid := List.head?_dropWhile_not isBlank text.reverse
  rw [ends] at solid
  simpa using solid

/-- A trimmed text does not end in a blank. -/
theorem getLast?_trim {text : List Char} {last : Char} (ends : (trim text).getLast? = some last) :
    isBlank last = false :=
  getLast?_trimEnd ends

theorem trimEnd_of_solid {text : List Char}
    (solid : ∀ last, text.getLast? = some last → isBlank last = false) : trimEnd text = text := by
  rw [trimEnd, List.reverse_eq_iff, List.dropWhile_eq_self_iff]
  intro some
  have ends : text.getLast? = Option.some (text.reverse[0]) := by
    rw [← List.head?_reverse, List.head?_eq_getElem?, List.getElem?_eq_getElem some]
  exact fun blank => Bool.false_ne_true ((solid _ ends).symm.trans blank)

theorem dropWhile_trim (text : List Char) : (trim text).dropWhile isBlank = trim text := by
  have start : trim text <+: text.dropWhile isBlank := by
    rw [trim, trimEnd, ← List.reverse_suffix, List.reverse_reverse]
    exact List.dropWhile_suffix _
  rw [List.dropWhile_eq_self_iff]
  intro some
  have more : 0 < (text.dropWhile isBlank).length := some.trans_le start.length_le
  have opening : (trim text)[0] = (text.dropWhile isBlank)[0] := start.getElem some
  rw [opening]
  exact List.dropWhile_get_zero_not _ _ more

/-- Trimming leaves a trimmed text as it is. -/
@[simp] theorem trim_trim (text : List Char) : trim (trim text) = trim text := by
  rw [trim, dropWhile_trim]
  exact trimEnd_of_solid fun _ => getLast?_trim

theorem trim_eq_nil_iff (text : List Char) : trim text = [] ↔ ∀ c ∈ text, isBlank c = true := by
  rw [trim, trimEnd, List.reverse_eq_nil_iff, List.dropWhile_eq_nil_iff]
  simp only [List.mem_reverse]
  constructor
  · intro blank
    rw [← List.dropWhile_eq_nil_iff]
    cases left : text.dropWhile isBlank with
    | nil => rfl
    | cons first rest =>
      have solid := List.head?_dropWhile_not isBlank text
      have isBlankFirst := blank first (by simp [left])
      simp [left, isBlankFirst] at solid
  · intro blank c member
    exact blank c ((List.dropWhile_sublist _).mem member)

/-- Nothing is left of a text exactly when all of it is blank. -/
theorem trimmed_eq_empty_iff (text : String) : trimmed text = "" ↔ allBlank text = true := by
  rw [trimmed, String.ofList_eq_empty_iff, trim_eq_nil_iff, allBlank, List.all_eq_true]

end SchemaFixtures.Text
