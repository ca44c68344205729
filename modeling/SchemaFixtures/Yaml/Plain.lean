import SchemaFixtures.Json.Number
import SchemaFixtures.Text.Blank
import SchemaFixtures.Text.CodePoint

/-!
# Plain scalars of YAML as values

A plain scalar is null, a truth value or a number if it is spelt like one, and else text.
Blanks around a truth value or a number do not count. Whole numbers are written in one of
four bases, and single underscores may stand between their digits; a float that is no
finite number becomes the text of its usual spelling.
-/

namespace SchemaFixtures.Yaml

/-- A text in small letters of the plain alphabet. -/
def lowered (text : List Char) : String := String.ofList (text.map (·.toLower))

/-- Whether a plain scalar stands for null. -/
def isNull (text : List Char) : Bool := ["", "~", "null"].contains (lowered text)

/-- The truth value of a plain scalar without blanks around it. -/
def truth? (text : List Char) : Option Bool :=
  let word := lowered text
  if ["true", "yes", "y", "on"].contains word then some true
  else if ["false", "no", "n", "off"].contains word then some false
  else none

/-- The sign of a number and the rest. -/
def signed (text : List Char) : Bool × List Char :=
  match text with
  | '-' :: rest => (true, rest)
  | '+' :: rest => (false, rest)
  | _ => (false, text)

/-! ## Whole numbers -/

/-- The number that digits make with those before them. An underscore stands between two
digits. -/
def moreDigits? (base : Nat) : (afterDigit : Bool) → (number : Nat) → List Char → Option Nat
  | afterDigit, number, [] => if afterDigit then some number else none
  | afterDigit, number, c :: rest =>
    match Text.hexValue? c with
    | some digit =>
      if digit < base then moreDigits? base true (base * number + digit) rest else none
    | none => if c == '_' && afterDigit then moreDigits? base false number rest else none

/-- The number of digits in a base. -/
def digits? (base : Nat) (text : List Char) : Option Nat := moreDigits? base false 0 text

/-- The whole number of a plain scalar. -/
def integer? (text : List Char) : Option Int :=
  let (negative, unsigned) := signed text
  let size? := match unsigned with
    | '0' :: mark :: digits =>
      if mark == 'x' || mark == 'X' then digits? 16 digits
      else if mark == 'o' || mark == 'O' then digits? 8 digits
      else if mark == 'b' || mark == 'B' then digits? 2 digits
      else digits? 10 unsigned
    | _ => digits? 10 unsigned
  size?.map fun size => if negative then -(size : Int) else size

/-! ## Floats -/

/-- The digits of a decimal before and after its point, and the rest; some digit has to
be there. -/
def decimal? (text : List Char) : Option (List Char × List Char × List Char) :=
  let (whole, rest) := text.span Char.isDigit
  let (fraction, after) := match rest with
    | '.' :: more => more.span Char.isDigit
    | _ => ([], rest)
  if whole.isEmpty && fraction.isEmpty then none else some (whole, fraction, after)

/-- The exponent at the end of a decimal. -/
def exponent? (text : List Char) : Option Int :=
  match text with
  | [] => some 0
  | mark :: rest =>
    if mark == 'e' || mark == 'E' then
      let (negative, digits) := signed rest
      let size : Int := Text.decimalNumber digits
      if digits.isEmpty || !digits.all (·.isDigit) then none
      else some (if negative then -size else size)
    else none

/-- A float of decimal digits times a power of ten. -/
def scaled (digits : List Char) (power : Int) : Float :=
  let significand := Text.decimalNumber digits
  let magnitude : Int := (digits.dropWhile (· == '0')).length + power
  if significand = 0 ∨ magnitude < -400 then 0.0
  else if magnitude > 400 then 1.0 / 0.0
  else Float.ofScientific significand (power < 0) power.natAbs

/-- The floating-point number of a plain scalar. -/
def float? (text : List Char) : Option Float :=
  let (negative, unsigned) := signed text
  let word := lowered unsigned
  if [".inf", "inf", "infinity"].contains word then
    some (if negative then -1.0 / 0.0 else 1.0 / 0.0)
  else if [".nan", "nan"].contains word then some (0.0 / 0.0)
  else do
    let (whole, fraction, rest) ← decimal? unsigned
    let exponent ← exponent? rest
    let size := scaled (whole ++ fraction) (exponent - fraction.length)
    return if negative then -size else size

/-- A float as JSON, or the usual spelling of one that is no finite number. -/
def floatJson (value : Float) : Json :=
  if value.isNaN then .string ".nan"
  else if value.isInf then .string (if value < 0.0 then "-.inf" else ".inf")
  else .float value

/-! ## Values -/

/-- What a plain scalar without a tag stands for. -/
def plainJson (text : List Char) : Json :=
  let inner := Text.trim text
  if isNull text then .null
  else
    match truth? inner with
    | some value => .bool value
    | none =>
      ((integer? inner).bind Json.whole? <|> (float? inner).map floatJson).getD
        (.string (String.ofList text))

end SchemaFixtures.Yaml
