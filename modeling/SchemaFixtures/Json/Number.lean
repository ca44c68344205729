import SchemaFixtures.Json.Basic
import SchemaFixtures.Text.CodePoint

/-!
# JSON numbers

A number is cut from the text first and valued afterwards. A number without fraction
and exponent that fits a signed 64-bit word is whole. Any other number is a float: the
leading digits that fit an unsigned 64-bit word are taken, the digits after them only
count towards the power of ten, and one multiplication or division by that power gives
the value. A negative zero is a float, and a number too large for a float is none.
-/

namespace SchemaFixtures.Json.Number

/-- The parts of a number as it is written. -/
structure Written where
  negative : Bool
  whole : List Char
  fraction : List Char
  exponent : Option (Bool × List Char)
deriving DecidableEq, Repr

/-- Cuts digits without a leading zero, or a single zero. -/
def cutWhole (text : List Char) : Option (List Char × List Char) :=
  match text with
  | '0' :: rest => if rest.head?.any (·.isDigit) then none else some (['0'], rest)
  | _ =>
    let (digits, rest) := text.span (·.isDigit)
    if digits.isEmpty then none else some (digits, rest)

/-- Cuts a point and the digits after it, or nothing. -/
def cutFraction : List Char → Option (List Char × List Char)
  | '.' :: rest =>
    let (digits, after) := rest.span (·.isDigit)
    if digits.isEmpty then none else some (digits, after)
  | text => some ([], text)

/-- Cuts an exponent with its sign, or nothing. -/
def cutExponent (text : List Char) : Option (Option (Bool × List Char) × List Char) :=
  match text with
  | mark :: rest =>
    if mark == 'e' || mark == 'E' then
      let (negative, unsigned) := match rest with
        | '-' :: after => (true, after)
        | '+' :: after => (false, after)
        | _ => (false, rest)
      let (digits, after) := unsigned.span (·.isDigit)
      if digits.isEmpty then none else some (some (negative, digits), after)
    else some (none, text)
  | [] => some (none, [])

/-- Cuts a number from the front of a text. -/
def cut (text : List Char) : Option (Written × List Char) := do
  let (negative, unsigned) := match text with
    | '-' :: rest => (true, rest)
    | _ => (false, text)
  let (whole, rest) ← cutWhole unsigned
  let (fraction, rest) ← cutFraction rest
  let (exponent, rest) ← cutExponent rest
  return (⟨negative, whole, fraction, exponent⟩, rest)

/-- Digits as far as they fit, and the power of ten that goes with them. -/
structure Scaled where
  significand : Nat
  power : Int
deriving DecidableEq, Repr

/-- Takes digits before the point as far as they fit 64 bits; each later one is a
further power of ten. -/
def takeWhole (significand : Nat) : List Char → Scaled
  | [] => ⟨significand, 0⟩
  | digit :: rest =>
    let longer := 10 * significand + (digit.toNat - '0'.toNat)
    if longer < UInt64.size then takeWhole longer rest else ⟨significand, (rest.length : Int) + 1⟩

/-- Takes digits after the point as far as they fit 64 bits and drops the later ones. -/
def takeFraction (scaled : Scaled) : List Char → Scaled
  | [] => scaled
  | digit :: rest =>
    let longer := 10 * scaled.significand + (digit.toNat - '0'.toNat)
    if longer < UInt64.size then takeFraction ⟨longer, scaled.power - 1⟩ rest else scaled

/-- The exponent as a number. -/
def exponentValue : Option (Bool × List Char) → Int
  | none => 0
  | some (negative, digits) =>
    let size : Int := Text.decimalNumber digits
    if negative then -size else size

/-- All digits of a number with their power of ten. -/
def Written.scaled (written : Written) : Scaled :=
  let taken := takeFraction (takeWhole 0 written.whole) written.fraction
  ⟨taken.significand, taken.power + exponentValue written.exponent⟩

/-- A power of ten as a float. -/
def tenTo (power : Nat) : Float := Float.ofScientific 1 false power

/-- A float times a power of ten, unless that is infinite. Powers below the range of
floats are applied in steps. -/
def scale (value : Float) (power : Int) : Option Float :=
  if power.natAbs ≤ 308 then
    if 0 ≤ power then
      let product := value * tenTo power.natAbs
      if product.isInf then none else some product
    else some (value / tenTo power.natAbs)
  else if value == 0 then some value
  else if 0 ≤ power then none
  else scale (value / tenTo 308) (power + 308)
termination_by power.natAbs
decreasing_by omega

/-- The value of a number; none if it is too large. -/
def Written.value? (written : Written) : Option Json :=
  let scaled := written.scaled
  let magnitude := scaled.significand
  let signed : Int := if written.negative then -magnitude else magnitude
  let isWhole := written.fraction.isEmpty && written.exponent.isNone && scaled.power == 0
    && !(written.negative && magnitude == 0)
  (if isWhole then Json.whole? signed else none) <|>
    (scale magnitude.toUInt64.toFloat scaled.power).map fun value =>
      .float (if written.negative then -value else value)

/-- The number at the front of a text and the text after it. -/
def read (text : List Char) : Option (Json × List Char) := do
  let (written, rest) ← cut text
  return (← written.value?, rest)

end SchemaFixtures.Json.Number
