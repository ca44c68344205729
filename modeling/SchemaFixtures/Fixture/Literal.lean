import SchemaFixtures.Fixture.Quoted
import SchemaFixtures.Json.Reader
import SchemaFixtures.Text.Blank

/-!
# Configured defaults

A default for a scalar is configured as source text. Blanks and enclosing parentheses
around it are peeled off. What is left is the word for no value, a quoted string, a
template without substitutions, or a JSON value; anything else is kept as it was
configured.
-/

namespace SchemaFixtures.Fixture

/-- A configured default. -/
structure Literal where
  source : String
deriving DecidableEq, Repr

/-- What a configured default stands for. -/
inductive Meaning where
  | undefined
  | quoted (text : String)
  | json (value : Json)
  | raw
deriving Repr

namespace Literal

theorem length_trimEnd_le (text : List Char) : (Text.trimEnd text).length ≤ text.length := by
  simpa [Text.trimEnd] using (List.dropWhile_sublist (l := text.reverse) Text.isBlank).length_le

theorem length_trim_le (text : List Char) : (Text.trim text).length ≤ text.length :=
  Nat.le_trans (length_trimEnd_le _) (List.dropWhile_sublist Text.isBlank).length_le

theorem length_between?_lt {opening closing : Char} {text inner : List Char}
    (found : Quoted.between? opening closing text = some inner) : inner.length < text.length := by
  cases text with
  | nil => simp [Quoted.between?] at found
  | cons first rest =>
    simp only [Quoted.between?] at found
    split at found
    · simp only [Option.some.injEq] at found
      subst found
      simp only [List.length_dropLast, List.length_cons]
      omega
    · simp at found

/-- The source without blanks and enclosing parentheses. -/
def peel (source : List Char) : List Char :=
  match _found : Quoted.between? '(' ')' (Text.trim source) with
  | some inner => peel inner
  | none => Text.trim source
termination_by source.length
decreasing_by
  exact Nat.lt_of_lt_of_le (length_between?_lt _found) (length_trim_le source)

theorem peel_enclosed {source inner : List Char}
    (found : Quoted.between? '(' ')' (Text.trim source) = some inner) :
    peel source = peel inner := by
  rw [peel.eq_def source]
  split
  · next other again => rw [Option.some.inj (again.symm.trans found)]
  · next missing => cases missing.symm.trans found

theorem peel_bare {source : List Char}
    (bare : Quoted.between? '(' ')' (Text.trim source) = none) :
    peel source = Text.trim source := by
  rw [peel.eq_def source]
  split
  · next other found => cases bare.symm.trans found
  · rfl

/-- The text of a peeled source, if it is a string in single quotes or a template. -/
def string? (peeled : List Char) : Option String :=
  ((Quoted.read? '\'' peeled).or (Quoted.readTemplate? peeled)).map String.ofList

/-- What a configured default stands for. -/
def meaning (literal : Literal) : Meaning :=
  let peeled := peel literal.source.toList
  if peeled = "undefined".toList then .undefined
  else
    match string? peeled with
    | some text => .quoted text
    | none =>
      match Json.parse peeled with
      | some value => .json value
      | none => .raw

/-- The source without the blanks around it, as it is written into a module. -/
def trimmedSource (literal : Literal) : String := Text.trimmed literal.source

end Literal

end SchemaFixtures.Fixture
