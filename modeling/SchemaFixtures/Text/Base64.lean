/-!
# Base 64

Bytes written with an alphabet of sixty-four characters: four characters for three bytes,
and padding where the last bytes are fewer. There is one written form of every list of
bytes, so padding has to be complete and the bits that are left over have to be zero.
-/

namespace SchemaFixtures.Text.Base64

/-- The value of a character of the alphabet. -/
def digit? (c : Char) : Option Nat :=
  if 'A' ≤ c ∧ c ≤ 'Z' then some (c.toNat - 'A'.toNat)
  else if 'a' ≤ c ∧ c ≤ 'z' then some (c.toNat - 'a'.toNat + 26)
  else if '0' ≤ c ∧ c ≤ '9' then some (c.toNat - '0'.toNat + 52)
  else if c = '+' then some 62
  else if c = '/' then some 63
  else none

/-- The bytes of a text; none if it is no written form. -/
def decode? : List Char → Option (List UInt8)
  | [] => some []
  | [a, b, '=', '='] => do
    let bits := 64 * (← digit? a) + (← digit? b)
    if bits % 16 = 0 then return [(bits / 16).toUInt8] else none
  | [a, b, c, '='] => do
    let bits := 64 * (64 * (← digit? a) + (← digit? b)) + (← digit? c)
    if bits % 4 = 0 then return [(bits / 1024).toUInt8, (bits / 4).toUInt8] else none
  | a :: b :: c :: d :: rest => do
    let bits := 64 * (64 * (64 * (← digit? a) + (← digit? b)) + (← digit? c)) + (← digit? d)
    return (bits / 65536).toUInt8 :: (bits / 256).toUInt8 :: bits.toUInt8 :: (← decode? rest)
  | _ => none

/-- The text whose bytes are written. -/
def text? (text : List Char) : Option String := do
  String.fromUTF8? (ByteArray.mk (← decode? text).toArray)

end SchemaFixtures.Text.Base64
