import SchemaFixtures.Decimal.Shortest

/-!
# Writing floats

How the shortest digits of a float are laid out. A layout says up to which power of ten
of the leading digit a number is written positionally, how an exponent is marked, and
what stands for the values that are no number. Positional numbers keep at least one
digit after the point.
-/

namespace SchemaFixtures.Decimal

/-- The decisions of an output format about floats. -/
structure Layout where
  /-- The least power of ten of the leading digit that is written positionally. -/
  leastPositional : Int
  /-- The greatest power of ten of the leading digit that is written positionally. -/
  greatestPositional : Int
  /-- What stands before an exponent that is not negative. -/
  positiveMark : String
  /-- What stands before the size of a negative exponent. -/
  negativeMark : String
  /-- What stands for a value that is no number. -/
  notANumber : String
  /-- What stands for infinity. -/
  infinity : String
  /-- What stands for negative infinity. -/
  negativeInfinity : String
deriving DecidableEq, Repr

/-- Digits with a point after the first `places` of them. -/
def withPoint (digits : List Char) (places : Int) : String :=
  if places ≤ 0 then
    "0." ++ String.ofList (List.replicate places.natAbs '0' ++ digits)
  else if digits.length ≤ places.natAbs then
    String.ofList (digits ++ List.replicate (places.natAbs - digits.length) '0') ++ ".0"
  else
    String.ofList (digits.take places.natAbs) ++ "." ++ String.ofList (digits.drop places.natAbs)

/-- One digit before the point, the others after it, and the exponent. -/
def withExponent (layout : Layout) (digits : List Char) (exponent : Int) : String :=
  let fraction := digits.drop 1
  let mantissa :=
    String.ofList (digits.take 1) ++ if fraction.isEmpty then "" else "." ++ String.ofList fraction
  mantissa ++ (if 0 ≤ exponent then layout.positiveMark else layout.negativeMark)
    ++ toString exponent.natAbs

/-- The text of a positive decimal. -/
def Layout.magnitude (layout : Layout) (decimal : Digits) : String :=
  let digits := Nat.toDigits 10 decimal.significand
  let leading := decimal.power + digits.length - 1
  if layout.leastPositional ≤ leading ∧ leading ≤ layout.greatestPositional then
    withPoint digits (leading + 1)
  else withExponent layout digits leading

/-- The text of a float. -/
def Layout.write (layout : Layout) (value : Float) : String :=
  let bits := value.toBits
  let sign := if bits.toNat < Nat.pow 2 63 then "" else "-"
  if value.isNaN then layout.notANumber
  else if value.isInf then (if sign == "" then layout.infinity else layout.negativeInfinity)
  else if bits.toNat % Nat.pow 2 63 = 0 then sign ++ "0.0"
  else sign ++ layout.magnitude (shortest bits)

end SchemaFixtures.Decimal
