/-!
# Shortest decimals

The fewest significant digits that read back as a given float. A finite float is a
natural number times a power of two; the reals that round to it form an interval
around it, whose ends belong to it exactly when that natural number is even. A decimal
with few digits that lies in the interval reads back. On the grid of decimals with a
given number of digits only the two neighbours of the float need to be tried, since the
interval reaches to both sides of it. The first grid with a hit gives the digits; of two
hits the nearer one counts.

All comparisons are between natural numbers, so nothing is lost on the way.
-/

namespace SchemaFixtures.Decimal

/-- A positive float, as a natural number times a power of two. -/
structure Binary where
  mantissa : Nat
  exponent : Int
  /-- Whether the next smaller float is only half a step away. -/
  atPowerOfTwo : Bool
deriving DecidableEq, Repr

/-- The parts of the magnitude of a finite float, from its bits. -/
def Binary.ofBits (bits : UInt64) : Binary :=
  let stored : Nat := bits.toNat % Nat.pow 2 52
  let field : Nat := bits.toNat / Nat.pow 2 52 % Nat.pow 2 11
  if field = 0 then ⟨stored, -1074, false⟩
  else ⟨Nat.pow 2 52 + stored, (field : Int) - 1075, stored == 0 && field != 1⟩

/-- Digits times a power of ten. -/
structure Digits where
  significand : Nat
  power : Int
deriving DecidableEq, Repr

/-- A fraction of natural numbers. -/
structure Ratio where
  numerator : Nat
  denominator : Nat
deriving DecidableEq, Repr

namespace Ratio

/-- Whether one fraction is less than another. -/
def less (a b : Ratio) : Bool :=
  decide (a.numerator * b.denominator < b.numerator * a.denominator)

/-- A natural number times a power of two. -/
def ofBinary (mantissa : Nat) (exponent : Int) : Ratio :=
  if 0 ≤ exponent then ⟨mantissa * Nat.pow 2 exponent.natAbs, 1⟩
  else ⟨mantissa, Nat.pow 2 exponent.natAbs⟩

/-- A natural number times a power of ten. -/
def ofDecimal (significand : Nat) (power : Int) : Ratio :=
  if 0 ≤ power then ⟨significand * Nat.pow 10 power.natAbs, 1⟩
  else ⟨significand, Nat.pow 10 power.natAbs⟩

/-- The whole part of the fraction divided by a power of ten. -/
def floorAt (value : Ratio) (power : Int) : Nat :=
  if 0 ≤ power then value.numerator / (value.denominator * Nat.pow 10 power.natAbs)
  else value.numerator * Nat.pow 10 power.natAbs / value.denominator

end Ratio

/-- The reals that round to a float. -/
structure Interval where
  lower : Ratio
  upper : Ratio
  /-- Whether the ends belong to it. -/
  closed : Bool
deriving DecidableEq, Repr

/-- The interval of a float: half a step up, and half a step down, where the step below
a power of two is half as wide. -/
def Binary.interval (value : Binary) : Interval :=
  { lower :=
      if value.atPowerOfTwo then Ratio.ofBinary (4 * value.mantissa - 1) (value.exponent - 2)
      else Ratio.ofBinary (2 * value.mantissa - 1) (value.exponent - 1)
    upper := Ratio.ofBinary (2 * value.mantissa + 1) (value.exponent - 1)
    closed := value.mantissa % 2 == 0 }

/-- Whether a fraction lies in the interval. -/
def Interval.holds (interval : Interval) (value : Ratio) : Bool :=
  if interval.closed then !value.less interval.lower && !interval.upper.less value
  else interval.lower.less value && value.less interval.upper

/-- The power of ten of the leading digit of a positive fraction. No float is below
ten to the minus 400, so the shifted fraction has a digit. -/
def leadingPower (value : Ratio) : Int :=
  ((Nat.toDigits 10 (value.floorAt (-400))).length : Int) - 401

/-- The decimal on the grid of a power of ten that reads back, if one of the two
neighbours of the float does; the nearer one if both do. -/
def hit? (value : Ratio) (interval : Interval) (power : Int) : Option Digits :=
  let below := value.floorAt power
  let above := below + 1
  let belowHits := interval.holds (.ofDecimal below power)
  let aboveHits := interval.holds (.ofDecimal above power)
  match belowHits, aboveHits with
  | true, true =>
    let twiceMiddle := Ratio.ofDecimal (below + above) power
    let twice : Ratio := ⟨2 * value.numerator, value.denominator⟩
    if twiceMiddle.less twice || (!twice.less twiceMiddle && below % 2 == 1) then
      some ⟨above, power⟩
    else some ⟨below, power⟩
  | true, false => some ⟨below, power⟩
  | false, true => some ⟨above, power⟩
  | false, false => none

/-- The first hit on grids that become finer by one digit at a time. -/
def firstHit (value : Ratio) (interval : Interval) (power : Int) : (grids : Nat) → Digits
  | 0 => ⟨value.floorAt power, power⟩
  | grids + 1 => (hit? value interval power).getD (firstHit value interval (power - 1) grids)

/-- The significand without zeros at its end, in at most the given number of steps. -/
def Digits.stripWithin (digits : Digits) : (steps : Nat) → Digits
  | 0 => digits
  | steps + 1 =>
    if digits.significand != 0 && digits.significand % 10 == 0 then
      stripWithin ⟨digits.significand / 10, digits.power + 1⟩ steps
    else digits

/-- The shortest digits of the magnitude of a finite float that is not zero. -/
def shortest (bits : UInt64) : Digits :=
  let binary := Binary.ofBits bits
  let value := Ratio.ofBinary binary.mantissa binary.exponent
  (firstHit value binary.interval (leadingPower value) 17).stripWithin 20

end SchemaFixtures.Decimal
