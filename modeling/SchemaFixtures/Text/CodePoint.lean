/-!
# Code points in digits

Hexadecimal digits and the characters they name. A code point names a character
when it is at most 10FFFF and no surrogate; a leading and a trailing surrogate
together name the character beyond FFFF that they split.
-/

namespace SchemaFixtures.Text

/-- The value of a hexadecimal digit in either case. -/
def hexValue? (c : Char) : Option Nat :=
  if c.isDigit then some (c.toNat - '0'.toNat)
  else if 'a' ≤ c ∧ c ≤ 'f' then some (c.toNat - 'a'.toNat + 10)
  else if 'A' ≤ c ∧ c ≤ 'F' then some (c.toNat - 'A'.toNat + 10)
  else none

/-- The value of a run of hexadecimal digits, the first digit first. -/
def hexNumber? (digits : List Char) : Option Nat :=
  digits.foldl (fun value? c => do return 16 * (← value?) + (← hexValue? c)) (some 0)

/-- The character with a code point; surrogates and codes beyond 10FFFF name none. -/
def character? (code : Nat) : Option Char :=
  if code.isValidChar then some (Char.ofNat code) else none

/-- The character that at least one hexadecimal digit names. -/
def hexCharacter? (digits : List Char) : Option Char :=
  if digits.isEmpty then none else (hexNumber? digits).bind character?

/-- Whether the code is the first half of a surrogate pair. -/
def isLeadingSurrogate (code : Nat) : Bool := decide (0xD800 ≤ code ∧ code ≤ 0xDBFF)

/-- Whether the code is the second half of a surrogate pair. -/
def isTrailingSurrogate (code : Nat) : Bool := decide (0xDC00 ≤ code ∧ code ≤ 0xDFFF)

/-- The character that a surrogate pair splits. -/
def pairCharacter? (leading trailing : Nat) : Option Char :=
  if isLeadingSurrogate leading && isTrailingSurrogate trailing then
    character? (0x10000 + (leading - 0xD800) * 0x400 + (trailing - 0xDC00))
  else none

/-- The digit for a value below sixteen, in small letters. -/
def hexDigit (value : Nat) : Char :=
  Char.ofNat (if value < 10 then '0'.toNat + value else 'a'.toNat + value - 10)

/-- A number in hexadecimal digits without leading zeros. -/
def hexDigits (number : Nat) : List Char := Nat.toDigits 16 number

/-- Decimal digits of a number. -/
def decimalDigits (number : Nat) : List Char := Nat.toDigits 10 number

/-- The value of a run of decimal digits; characters that are no digit count as zero. -/
def decimalNumber (digits : List Char) : Nat :=
  digits.foldl (fun value c => 10 * value + (c.toNat - '0'.toNat)) 0

end SchemaFixtures.Text
