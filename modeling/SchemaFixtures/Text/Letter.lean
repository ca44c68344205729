import SchemaFixtures.Text.LetterTable

/-!
# Letter case

Classes and case of a character. The first 128 characters follow the plain
alphabet; all others are looked up in the tables of runs. A case change may spell
one letter with several, so it answers a list.
-/

namespace SchemaFixtures.Text

/-- Whether the character counts as capital. -/
def isCapital (c : Char) : Bool :=
  if c.toNat < 128 then c.isUpper else capitals.any (·.holds c.toNat)

/-- Whether the character counts as small. -/
def isSmall (c : Char) : Bool :=
  if c.toNat < 128 then c.isLower else smalls.any (·.holds c.toNat)

/-- Whether the character is a numeral. -/
def isNumeral (c : Char) : Bool :=
  if c.toNat < 128 then c.isDigit else numerals.any (·.holds c.toNat)

/-- Whether the character is a letter or a numeral. -/
def isWordCharacter (c : Char) : Bool :=
  if c.toNat < 128 then c.isAlphanum
  else numerals.any (·.holds c.toNat) || letters.any (·.holds c.toNat)

/-- The other case of a character by table: its spelling if it has one, else the
member of the shifted run, else the character itself. -/
def changeCase (spellings : List (Nat × List Nat)) (shifts : List Shift) (c : Char) : List Char :=
  match spellings.lookup c.toNat with
  | some codes => codes.map Char.ofNat
  | none =>
    match shifts.find? (·.run.holds c.toNat) with
    | some shift => [Char.ofNat (c.toNat + shift.distance).toNat]
    | none => [c]

/-- The character as a capital. -/
def toCapital (c : Char) : List Char :=
  if c.toNat < 128 then [c.toUpper] else changeCase capitalSpellings capitalShifts c

/-- The character as a small letter. -/
def toSmall (c : Char) : List Char :=
  if c.toNat < 128 then [c.toLower] else changeCase smallSpellings smallShifts c

end SchemaFixtures.Text
