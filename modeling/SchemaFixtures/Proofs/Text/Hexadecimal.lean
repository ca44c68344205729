import Mathlib.Data.List.Forall2
import Mathlib.Data.Nat.Digits.Defs
import Mathlib.Tactic.IntervalCases
import SchemaFixtures.Text.CodePoint

/-!
# Characters named by hexadecimal digits

A run of hexadecimal digits names the character whose code point is the number that the digits
write. Surrogates and numbers beyond the last code point are the codes of no character, so no
digits name one there.
-/

namespace SchemaFixtures.Text

/-- A hexadecimal digit, small or capital, and its value. -/
def IsHexDigit (digit : Char) (value : Nat) : Prop :=
  "0123456789abcdef".toList[value]? = some digit ∨ "0123456789ABCDEF".toList[value]? = some digit

instance (digit : Char) (value : Nat) : Decidable (IsHexDigit digit value) :=
  inferInstanceAs (Decidable (_ ∨ _))

/-- At least one hexadecimal digit, and together they write the code point of a character. -/
def Names (digits : List Char) (character : Char) : Prop :=
  digits ≠ [] ∧ ∃ values, List.Forall₂ IsHexDigit digits values ∧
    character.toNat = Nat.ofDigits 16 values.reverse

theorem toNat_le_toNat {least digit : Char} (above : least ≤ digit) :
    least.toNat ≤ digit.toNat := by
  simpa [Char.le_def, UInt32.le_iff_toNat_le] using above

/-- The digits lie in three ranges of code points, and their values count from the start of the
range. -/
theorem hexValue?_ranges {digit : Char} {value : Nat} (known : hexValue? digit = some value) :
    (48 ≤ digit.toNat ∧ digit.toNat ≤ 57 ∧ value = digit.toNat - 48) ∨
      (97 ≤ digit.toNat ∧ digit.toNat ≤ 102 ∧ value = digit.toNat - 97 + 10) ∨
      (65 ≤ digit.toNat ∧ digit.toNat ≤ 70 ∧ value = digit.toNat - 65 + 10) := by
  rw [hexValue?] at known
  by_cases decimal : digit.isDigit = true
  · rw [if_pos decimal] at known
    simp only [Char.isDigit, Bool.and_eq_true, decide_eq_true_eq] at decimal
    exact .inl ⟨toNat_le_toNat decimal.1, toNat_le_toNat decimal.2, (Option.some.inj known).symm⟩
  · rw [if_neg decimal] at known
    by_cases small : 'a' ≤ digit ∧ digit ≤ 'f'
    · rw [if_pos small] at known
      exact .inr (.inl ⟨toNat_le_toNat small.1, toNat_le_toNat small.2,
        (Option.some.inj known).symm⟩)
    · rw [if_neg small] at known
      by_cases capital : 'A' ≤ digit ∧ digit ≤ 'F'
      · rw [if_pos capital] at known
        exact .inr (.inr ⟨toNat_le_toNat capital.1, toNat_le_toNat capital.2,
          (Option.some.inj known).symm⟩)
      · rw [if_neg capital] at known
        cases known

theorem hexValue?_eq_some_iff {digit : Char} {value : Nat} :
    hexValue? digit = some value ↔ IsHexDigit digit value := by
  constructor
  · intro known
    have ranges := hexValue?_ranges known
    have spelled : digit = Char.ofNat digit.toNat := (Char.ofNat_toNat digit).symm
    generalize digit.toNat = code at *
    subst spelled
    rcases ranges with ⟨least, most, rfl⟩ | ⟨least, most, rfl⟩ | ⟨least, most, rfl⟩ <;>
      interval_cases code <;> decide
  · intro isDigit
    have bound : value < 16 := by
      rcases isDigit with small | capital
      · exact (List.getElem?_eq_some_iff.mp small).1
      · exact (List.getElem?_eq_some_iff.mp capital).1
    rcases isDigit with small | capital
    · interval_cases value <;> obtain rfl := Option.some.inj small <;> rfl
    · interval_cases value <;> obtain rfl := Option.some.inj capital <;> rfl

theorem foldl_hexValue?_none (digits : List Char) :
    digits.foldl (fun value? c => do return 16 * (← value?) + (← hexValue? c)) none = none := by
  induction digits with
  | nil => rfl
  | cons digit rest inductionHypothesis => simpa using inductionHypothesis

/-- Each further digit counts one, and sixteen times what stands before it. -/
theorem foldl_hexValue? (digits : List Char) (before : Nat) {number : Nat} :
    digits.foldl (fun value? c => do return 16 * (← value?) + (← hexValue? c)) (some before) =
        some number ↔
      ∃ values, List.Forall₂ IsHexDigit digits values ∧
        number = values.foldl (fun number value => 16 * number + value) before := by
  induction digits generalizing before with
  | nil => simp [List.forall₂_nil_left_iff, eq_comm]
  | cons digit rest inductionHypothesis =>
    rw [List.foldl_cons]
    simp only [List.forall₂_cons_left_iff]
    cases read : hexValue? digit with
    | none =>
      constructor
      · intro known
        cases (foldl_hexValue?_none rest).symm.trans known
      · rintro ⟨_, ⟨value, values, isDigit, -, -⟩, -⟩
        cases read.symm.trans (hexValue?_eq_some_iff.mpr isDigit)
    | some value =>
      apply (inductionHypothesis (16 * before + value)).trans
      constructor
      · rintro ⟨values, isDigits, rfl⟩
        exact ⟨value :: values, ⟨value, values, hexValue?_eq_some_iff.mp read, isDigits, rfl⟩, rfl⟩
      · rintro ⟨_, ⟨other, values, isDigit, isDigits, rfl⟩, rfl⟩
        obtain rfl : value = other :=
          Option.some.inj (read.symm.trans (hexValue?_eq_some_iff.mpr isDigit))
        exact ⟨values, isDigits, rfl⟩

/-- The number that a run of digits writes, the first digit first. -/
theorem hexNumber?_eq_some_iff {digits : List Char} {number : Nat} :
    hexNumber? digits = some number ↔ ∃ values, List.Forall₂ IsHexDigit digits values ∧
      number = Nat.ofDigits 16 values.reverse := by
  have horner (values : List Nat) : values.foldl (fun number value => 16 * number + value) 0 =
      Nat.ofDigits 16 values.reverse := by
    simp [Nat.ofDigits_eq_foldr, List.foldr_reverse, Nat.add_comm]
  rw [hexNumber?, foldl_hexValue?]
  simp only [horner]

theorem character?_eq_some_iff {code : Nat} {character : Char} :
    character? code = some character ↔ character.toNat = code := by
  rw [character?]
  by_cases valid : code.isValidChar
  · rw [if_pos valid, Option.some.injEq]
    constructor
    · rintro rfl
      rw [Char.ofNat, dif_pos valid]
      rfl
    · rintro rfl
      exact Char.ofNat_toNat character
  · rw [if_neg valid]
    constructor
    · intro none
      cases none
    · rintro rfl
      exact absurd character.valid valid

/-- The character that digits name is the one with the code point that they write. -/
theorem hexCharacter?_eq_some_iff {digits : List Char} {character : Char} :
    hexCharacter? digits = some character ↔ Names digits character := by
  rw [hexCharacter?, Names]
  cases digits with
  | nil => simp
  | cons digit rest =>
    simp only [List.isEmpty_cons, Bool.false_eq_true, if_false, Option.bind_eq_some_iff,
      hexNumber?_eq_some_iff, character?_eq_some_iff, ne_eq, reduceCtorEq, not_false_eq_true,
      true_and]
    constructor
    · rintro ⟨_, ⟨values, isDigits, rfl⟩, code⟩
      exact ⟨values, isDigits, code⟩
    · rintro ⟨values, isDigits, code⟩
      exact ⟨_, ⟨values, isDigits, rfl⟩, code⟩

end SchemaFixtures.Text
