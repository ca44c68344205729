import SchemaFixtures.Proofs.Text.Unmarked

/-!
# Decorated texts

A painted text is the text with escape sequences in it. Taking every sequence out again gives the
text back, as long as the text itself starts none. Painted texts may be joined, since a sequence
never goes on from one text into the next.
-/

namespace SchemaFixtures.Command

open Text

/-! ## Taking sequences out -/

/-- The length of the escape sequence that a text starts with, if it starts with one: the
character that marks it, a bracket, digits, and a letter. -/
def sequenceLength? : List Char → Option Nat
  | mark :: '[' :: rest =>
    let digits := rest.takeWhile (·.isDigit)
    if mark = escapeMark ∧ digits ≠ [] ∧ (rest.dropWhile (·.isDigit)).head? = some 'm' then
      some (digits.length + 3)
    else none
  | _ => none

/-- A text without its escape sequences, given how many characters of a sequence are still to
come. -/
def withoutSequences : (pending : Nat) → List Char → List Char
  | _, [] => []
  | pending + 1, _ :: rest => withoutSequences pending rest
  | 0, c :: rest =>
    match sequenceLength? (c :: rest) with
    | some length => withoutSequences (length - 1) rest
    | none => c :: withoutSequences 0 rest

theorem withoutSequences_pending (skipped rest : List Char) :
    withoutSequences skipped.length (skipped ++ rest) = withoutSequences 0 rest := by
  induction skipped with
  | nil => rfl
  | cons c others inductionHypothesis => exact inductionHypothesis

theorem withoutSequences_character {c : Char} (free : c ≠ escapeMark) (rest : List Char) :
    withoutSequences 0 (c :: rest) = c :: withoutSequences 0 rest := by
  have none : sequenceLength? (c :: rest) = none := by
    rw [sequenceLength?.eq_def]
    split
    · next mark others spelled =>
      obtain ⟨rfl, -⟩ := List.cons.inj spelled
      exact if_neg fun starts => free starts.1
    · rfl
  rw [withoutSequences, none]

/-- The number in an escape sequence. -/
def IsNumber (number : List Char) : Prop := number ≠ [] ∧ ∀ digit ∈ number, digit.isDigit = true

theorem withoutSequences_sequence {number : List Char} (isNumber : IsNumber number)
    (rest : List Char) :
    withoutSequences 0 (escapeSequence number ++ rest) = withoutSequences 0 rest := by
  have taken : (number ++ 'm' :: rest).takeWhile (·.isDigit) = number := by
    rw [List.takeWhile_append_of_pos isNumber.2, List.takeWhile_cons_of_neg (by decide),
      List.append_nil]
  have dropped : (number ++ 'm' :: rest).dropWhile (·.isDigit) = 'm' :: rest := by
    rw [List.dropWhile_append_of_pos isNumber.2, List.dropWhile_cons_of_neg (by decide)]
  have spelled : escapeSequence number ++ rest =
      escapeMark :: '[' :: (number ++ 'm' :: rest) := by
    simp [escapeSequence]
  have length : sequenceLength? (escapeMark :: '[' :: (number ++ 'm' :: rest)) =
      some (number.length + 3) := by
    simp [sequenceLength?, taken, dropped, isNumber.1]
  rw [spelled, withoutSequences, length]
  have skipped := withoutSequences_pending ('[' :: (number ++ ['m'])) rest
  simpa using skipped

/-! ## Decoration -/

/-- The first text is the second one with escape sequences in it, and the second one holds no
character that starts one. -/
inductive Decorates : List Char → List Char → Prop where
  | nil : Decorates [] []
  | character {c : Char} {painted plain : List Char} (free : c ≠ escapeMark)
      (rest : Decorates painted plain) : Decorates (c :: painted) (c :: plain)
  | sequence {number painted plain : List Char} (isNumber : IsNumber number)
      (rest : Decorates painted plain) : Decorates (escapeSequence number ++ painted) plain

namespace Decorates

variable {painted plain others otherPlain : List Char}

theorem append (first : Decorates painted plain) (second : Decorates others otherPlain) :
    Decorates (painted ++ others) (plain ++ otherPlain) := by
  induction first with
  | nil => exact second
  | character free _ inductionHypothesis => exact .character free inductionHypothesis
  | sequence isNumber _ inductionHypothesis =>
    rw [List.append_assoc]
    exact .sequence isNumber inductionHypothesis

theorem refl (free : escapeMark ∉ plain) : Decorates plain plain := by
  induction plain with
  | nil => exact .nil
  | cons c rest inductionHypothesis =>
    rw [List.mem_cons, not_or] at free
    exact .character (Ne.symm free.1) (inductionHypothesis free.2)

theorem removed (decorates : Decorates painted plain) : withoutSequences 0 painted = plain := by
  induction decorates with
  | nil => rfl
  | character free _ inductionHypothesis =>
    rw [withoutSequences_character free, inductionHypothesis]
  | sequence isNumber _ inductionHypothesis =>
    rw [withoutSequences_sequence isNumber, inductionHypothesis]

end Decorates

/-! ## Painting -/

/-- A text that holds no end of all styles is not changed inside. -/
theorem restartAfterStops_plain (style : Style) {text : List Char} (free : escapeMark ∉ text) :
    restartAfterStops style 0 text = text := by
  induction text with
  | nil => rfl
  | cons c rest inductionHypothesis =>
    rw [List.mem_cons, not_or] at free
    have noStop : stopSequence.isPrefixOf (c :: rest) = false := by
      simp [stopSequence, escapeSequence, List.isPrefixOf, free.1]
    rw [restartAfterStops, noStop, if_neg Bool.false_ne_true, inductionHypothesis free.2]

theorem isNumber_style (style : Style) : IsNumber style.number := by
  cases style <;> exact ⟨by decide, List.all_eq_true.mp rfl⟩

/-- A painted text as text: sequences in a text without any. -/
def Paints (painted plain : String) : Prop := Decorates painted.toList plain.toList

namespace Paints

variable {painted plain others otherPlain : String}

theorem refl (unmarked : Unmarked plain) : Paints plain plain := Decorates.refl unmarked

theorem append (first : Paints painted plain) (second : Paints others otherPlain) :
    Paints (painted ++ others) (plain ++ otherPlain) := by
  rw [Paints, String.toList_append, String.toList_append]
  exact Decorates.append first second

theorem paint (colored : Bool) (style : Style) (unmarked : Unmarked plain) :
    Paints (paint colored style plain) plain := by
  cases colored with
  | false => exact refl unmarked
  | true =>
    have isNumber : IsNumber ['0'] := ⟨by decide, List.all_eq_true.mp rfl⟩
    have stop : Decorates stopSequence [] := .sequence isNumber .nil
    have inside := (Decorates.refl unmarked).append stop
    rw [List.append_nil] at inside
    rw [Paints, Command.paint, if_pos rfl, String.toList_ofList,
      restartAfterStops_plain style unmarked, List.append_assoc]
    exact .sequence (isNumber_style style) inside

theorem join {α : Type} {items : List α} {text plainText : α → String}
    (all : ∀ item ∈ items, Paints (text item) (plainText item)) :
    Paints (String.join (items.map text)) (String.join (items.map plainText)) := by
  induction items with
  | nil => exact .nil
  | cons item rest inductionHypothesis =>
    obtain ⟨first, later⟩ := List.forall_mem_cons.mp all
    rw [List.map_cons, List.map_cons, String.join_cons, String.join_cons]
    exact first.append (inductionHypothesis later)

end Paints

end SchemaFixtures.Command
