import SchemaFixtures.Json.Number
import SchemaFixtures.Text.CodePoint

/-!
# Bare values of a TOML document

Truth values, numbers, dates and times, each a word without blanks. Underscores may part
digits. A whole number fits a signed or an unsigned 64-bit word; a float is finite, or
infinite or no number by its own word, and then it has no JSON value. Dates and times
have an own kind of value, which JSON spells as an object with one reserved member.
-/

namespace SchemaFixtures.Toml

/-- The digits of a word in which single underscores may part them. -/
def partedDigits? (isDigit : Char → Bool) : List Char → Option (List Char)
  | [] => none
  | [c] => if isDigit c then some [c] else none
  | c :: '_' :: rest => if isDigit c then (partedDigits? isDigit rest).map (c :: ·) else none
  | c :: rest => if isDigit c then (partedDigits? isDigit rest).map (c :: ·) else none

/-- Whether digits start with a zero that is not the only one. -/
def hasLeadingZero (digits : List Char) : Bool := digits.head? == some '0' && digits.length != 1

/-- The digits of a decimal without leading zeros. -/
def decimal? (word : List Char) : Option (List Char) := do
  let digits ← partedDigits? (·.isDigit) word
  if hasLeadingZero digits then none else some digits

/-- The sign of a word and the rest. -/
def signed (word : List Char) : Bool × List Char :=
  match word with
  | '-' :: rest => (true, rest)
  | '+' :: rest => (false, rest)
  | _ => (false, word)

/-- A whole number as JSON; none if no 64-bit word holds it. -/
def integer? (value : Int) : Option Json :=
  Json.whole? value <|>
    if 0 ≤ value ∧ value < UInt64.size then some (.float value.toNat.toUInt64.toFloat) else none

/-- A whole number in a base other than ten. -/
def based? (base : Nat) (isDigit : Char → Bool) (word : List Char) : Option Json := do
  let digits ← partedDigits? isDigit word
  integer? (digits.foldl (fun value c => base * value + (Text.hexValue? c).getD 0) 0)

/-- A finite float of decimal digits times a power of ten; none if it is too large. -/
def finite? (negative : Bool) (digits : List Char) (power : Int) : Option Json :=
  let significand := Text.decimalNumber digits
  let magnitude : Int := (digits.dropWhile (· == '0')).length + power
  if significand = 0 ∨ magnitude < -400 then some (.float (if negative then -0.0 else 0.0))
  else if magnitude > 400 then none
  else
    let size := Float.ofScientific significand (power < 0) power.natAbs
    if size.isInf then none else some (.float (if negative then -size else size))

/-- Cuts a word at the first character of a kind. -/
def cutAt (isMark : Char → Bool) (word : List Char) : List Char × Option (List Char) :=
  let (before, rest) := word.span (!isMark ·)
  (before, rest.head?.map fun _ => rest.drop 1)

/-- A float with a fraction, an exponent or both. -/
def float? (word : List Char) : Option Json := do
  let (negative, unsigned) := signed word
  let (mantissa, exponent) := cutAt (fun c => c == 'e' || c == 'E') unsigned
  let (whole, fraction) := cutAt (· == '.') mantissa
  if exponent.isNone && fraction.isNone then none
  else
    let wholeDigits ← decimal? whole
    let fractionDigits ← match fraction with
      | some digits => partedDigits? (·.isDigit) digits
      | none => some []
    let power : Int ← match exponent with
      | some signedDigits => do
        let (below, digits) := signed signedDigits
        let size : Int := Text.decimalNumber (← partedDigits? (·.isDigit) digits)
        pure (if below then -size else size)
      | none => some 0
    finite? negative (wholeDigits ++ fractionDigits) (power - fractionDigits.length)

/-- A number. -/
def number? (word : List Char) : Option Json :=
  match word with
  | '0' :: 'x' :: digits => based? 16 (fun c => (Text.hexValue? c).isSome) digits
  | '0' :: 'o' :: digits => based? 8 (fun c => '0' ≤ c && c ≤ '7') digits
  | '0' :: 'b' :: digits => based? 2 (fun c => c == '0' || c == '1') digits
  | _ =>
    let (negative, unsigned) := signed word
    if unsigned = "inf".toList ∨ unsigned = "nan".toList then some .null
    else
      match decimal? unsigned with
      | some digits =>
        let size : Int := Text.decimalNumber digits
        integer? (if negative then -size else size)
      | none => float? word

/-! ## Dates and times -/

/-- The number of exactly so many digits. -/
def digitsExactly? (count : Nat) (word : List Char) : Option Nat :=
  if word.length = count ∧ word.all (·.isDigit) then some (Text.decimalNumber word) else none

/-- The days of a month. -/
def daysIn (year month : Nat) : Nat :=
  if month = 2 then
    if year % 4 = 0 ∧ (year % 100 ≠ 0 ∨ year % 400 = 0) then 29 else 28
  else if month = 4 ∨ month = 6 ∨ month = 9 ∨ month = 11 then 30
  else 31

/-- Whether a word is a date. -/
def isDate : List Char → Bool
  | [a, b, c, d, '-', e, f, '-', g, h] =>
    match digitsExactly? 4 [a, b, c, d], digitsExactly? 2 [e, f], digitsExactly? 2 [g, h] with
    | some year, some month, some day =>
      decide (1 ≤ month ∧ month ≤ 12 ∧ 1 ≤ day ∧ day ≤ daysIn year month)
    | _, _, _ => false
  | _ => false

/-- Whether a word is an hour and a minute. -/
def isHourMinute : List Char → Bool
  | [a, b, ':', c, d] =>
    match digitsExactly? 2 [a, b], digitsExactly? 2 [c, d] with
    | some hour, some minute => decide (hour ≤ 23 ∧ minute ≤ 59)
    | _, _ => false
  | _ => false

/-- Whether a text is nothing, or a point and digits. -/
def isSecondFraction : List Char → Bool
  | [] => true
  | '.' :: digits => !digits.isEmpty && digits.all (·.isDigit)
  | _ => false

/-- Whether a word is a time: hour and minute, and seconds that may have a fraction. -/
def isTime (word : List Char) : Bool :=
  isHourMinute (word.take 5) &&
    match word.drop 5 with
    | [] => true
    | ':' :: a :: b :: fraction =>
      (digitsExactly? 2 [a, b]).any (fun second => decide (second ≤ 60)) && isSecondFraction fraction
    | _ => false

/-- Whether a word is a time with an offset or without. -/
def isTimeWithOffset (word : List Char) : Bool :=
  let (time, offset) := word.span fun c => c.isDigit || c == ':' || c == '.'
  isTime time &&
    match offset with
    | [] => true
    | ['Z'] => true
    | ['z'] => true
    | '+' :: rest => isHourMinute rest
    | '-' :: rest => isHourMinute rest
    | _ => false

/-- Whether a word is a date, a time, or both with a mark between them. -/
def isDateTime (word : List Char) : Bool :=
  isTime word || isDate word
    || isDate (word.take 10) &&
      match word.drop 10 with
      | mark :: time => (mark == 'T' || mark == 't' || mark == ' ') && isTimeWithOffset time
      | [] => false

/-- The member under which a date or a time stands. -/
def dateTimeMember : String := "$__toml_private_datetime"

/-- The value of a word. -/
def scalar? (word : List Char) : Option Json :=
  if word = "true".toList then some (.bool true)
  else if word = "false".toList then some (.bool false)
  else if isDateTime word then some (.object [(dateTimeMember, .string (String.ofList word))])
  else number? word

end SchemaFixtures.Toml
