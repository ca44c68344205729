/-!
# Blank characters

White space in the sense of the Unicode property, and trimming by it. A zero-width
space and a byte-order mark are not blank.
-/

namespace SchemaFixtures.Text

/-- Whether the character has the Unicode property White_Space. -/
def isBlank (c : Char) : Bool :=
  let code := c.toNat
  decide (9 ≤ code ∧ code ≤ 13) || code == 0x20 || code == 0x85 || code == 0xA0
    || code == 0x1680 || decide (0x2000 ≤ code ∧ code ≤ 0x200A) || code == 0x2028
    || code == 0x2029 || code == 0x202F || code == 0x205F || code == 0x3000

/-- Every blank of the plain alphabet is blank. -/
theorem isBlank_of_isWhitespace {c : Char} (plain : c.isWhitespace = true) : isBlank c = true := by
  simp only [Char.isWhitespace, Bool.or_eq_true, decide_eq_true_eq] at plain
  rcases plain with ((rfl | rfl) | rfl) | rfl <;> decide

/-- The text without the blanks at its end. -/
def trimEnd (text : List Char) : List Char := (text.reverse.dropWhile isBlank).reverse

/-- The text without the blanks at either end. -/
def trim (text : List Char) : List Char := trimEnd (text.dropWhile isBlank)

/-- Whether nothing is left of the text after trimming. -/
def allBlank (text : String) : Bool := text.toList.all isBlank

/-- The text without the blanks at either end. -/
def trimmed (text : String) : String := String.ofList (trim text.toList)

end SchemaFixtures.Text
