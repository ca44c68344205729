import SchemaFixtures.Command.Paint
import SchemaFixtures.Config.Problem

/-!
# Texts without an escape character

An escape sequence starts with a character that a text seldom holds. Texts without it are put
together from texts without it, and hold neither more nor less than what they are made of. Names
of the schema language and written numbers are such texts.
-/

namespace SchemaFixtures.Text

/-- The text holds no character that starts an escape sequence. -/
def Unmarked (text : String) : Prop := Command.escapeMark ∉ text.toList

instance (text : String) : Decidable (Unmarked text) :=
  inferInstanceAs (Decidable (Command.escapeMark ∉ text.toList))

/-! ## Joining -/

@[simp] theorem unmarked_append (first second : String) :
    Unmarked (first ++ second) ↔ Unmarked first ∧ Unmarked second := by
  rw [Unmarked, String.toList_append, List.mem_append, not_or]
  rfl

theorem Unmarked.append {first second : String} (start : Unmarked first) (rest : Unmarked second) :
    Unmarked (first ++ second) := (unmarked_append first second).mpr ⟨start, rest⟩

theorem unmarked_ofList (text : List Char) :
    Unmarked (String.ofList text) ↔ Command.escapeMark ∉ text := by
  rw [Unmarked, String.toList_ofList]

/-- A text that is written out character by character. -/
theorem unmarked_literal {text : List Char} (free : Command.escapeMark ∉ text) :
    Unmarked (String.ofList text) := (unmarked_ofList text).mpr free

/-- A character that is written again and again. -/
theorem mark_not_mem_replicate {c : Char} (free : Command.escapeMark ≠ c) (count : Nat) :
    Command.escapeMark ∉ List.replicate count c :=
  fun found => free (List.eq_of_mem_replicate found)

/-- A character of parts that are put together with something between them stands in a part or
between two. -/
theorem mem_of_mem_intercalate {c : Char} {between : List Char} {parts : List (List Char)}
    (found : c ∈ between.intercalate parts) : c ∈ between ∨ ∃ part ∈ parts, c ∈ part := by
  induction parts with
  | nil => exact absurd found List.not_mem_nil
  | cons part rest inductionHypothesis =>
    cases rest with
    | nil =>
      rw [List.intercalate_singleton] at found
      exact .inr ⟨part, List.mem_cons_self, found⟩
    | cons next others =>
      rw [List.intercalate_cons_of_ne_nil (List.cons_ne_nil _ _), List.mem_append,
        List.mem_append] at found
      rcases found with (first | separating) | later
      · exact .inr ⟨part, List.mem_cons_self, first⟩
      · exact .inl separating
      · obtain separating | ⟨other, member, inside⟩ := inductionHypothesis later
        · exact .inl separating
        · exact .inr ⟨other, List.mem_cons_of_mem _ member, inside⟩

theorem unmarked_intercalate {between : String} {parts : List String}
    (separator : Unmarked between) (all : ∀ part ∈ parts, Unmarked part) :
    Unmarked (between.intercalate parts) := by
  intro found
  rw [String.toList_intercalate] at found
  rcases mem_of_mem_intercalate found with separating | ⟨part, member, inside⟩
  · exact separator separating
  · obtain ⟨original, listed, rfl⟩ := List.mem_map.mp member
    exact all original listed inside

/-! ## Names and numbers -/

theorem unmarked_of_isName {name : String} (isName : Config.isName name = true) :
    Unmarked name := by
  intro found
  rw [Config.isName] at isName
  cases characters : name.toList with
  | nil => simp [characters] at found
  | cons first rest =>
    rw [characters] at isName found
    obtain ⟨opens, follow⟩ := Bool.and_eq_true_iff.mp isName
    rcases List.mem_cons.mp found with rfl | later
    · cases opens
    · cases List.all_eq_true.mp follow _ later

theorem mark_not_digit {number : Nat} : Command.escapeMark ∉ Nat.toDigits 10 number := by
  intro found
  have digit := Nat.isDigit_of_mem_toDigits (by decide) (by decide) found
  cases digit

@[simp] theorem unmarked_natText (number : Nat) : Unmarked (toString number) := by
  rw [Unmarked, Nat.toString_eq_repr, Nat.toList_repr]
  exact mark_not_digit

end SchemaFixtures.Text
