import SchemaFixtures.Config.Options
import SchemaFixtures.Text.Letter

/-!
# Type names in the emitted module

A type name is kept, or written in Pascal case segment by segment: underscores stay
where they are, and each segment between them is cut into words whose first letter
becomes a capital and whose other letters become small. A word starts at a capital
after a small letter or a numeral, and at the last capital of a row of capitals that a
small letter follows. Characters that are neither letter nor numeral part words and
are dropped.
-/

namespace SchemaFixtures.Emission

/-- The parts of a text between underscores. -/
def segments : List Char → List (List Char)
  | [] => [[]]
  | c :: rest =>
    if c = '_' then [] :: segments rest
    else
      match segments rest with
      | segment :: others => (c :: segment) :: others
      | [] => [[c]]

/-- Whether a word starts at a character, given its neighbours in the segment. -/
def startsWord (previous : Option Char) (c : Char) (following : Option Char) : Bool :=
  match previous with
  | none => false
  | some before =>
    Text.isCapital c &&
      (Text.isSmall before || Text.isNumeral before
        || (Text.isCapital before && following.any Text.isSmall))

/-- A word that is complete, unless nothing was gathered for it. -/
def finishWord (gathered : List Char) (words : List (List Char)) : List (List Char) :=
  if gathered.isEmpty then words else gathered.reverse :: words

/-- The words of a segment from some character on, given the character before it and
what is gathered of the current word, in reverse. -/
def wordsFrom (previous : Option Char) (gathered : List Char) : List Char → List (List Char)
  | [] => finishWord gathered []
  | c :: rest =>
    if !Text.isWordCharacter c then finishWord gathered (wordsFrom (some c) [] rest)
    else if startsWord previous c rest.head? then finishWord gathered (wordsFrom (some c) [c] rest)
    else wordsFrom (some c) (c :: gathered) rest

/-- The words of a segment. -/
def words (segment : List Char) : List (List Char) := wordsFrom none [] segment

/-- A word with a capital first letter and small others. -/
def capitalize : List Char → List Char
  | [] => []
  | first :: rest => Text.toCapital first ++ rest.flatMap Text.toSmall

/-- A word after another one: an underscore keeps a leading digit apart. -/
def capitalizeLater : List Char → List Char
  | [] => []
  | first :: rest =>
    if first.isDigit then '_' :: first :: rest.flatMap Text.toSmall
    else capitalize (first :: rest)

/-- A segment in Pascal case. -/
def pascalSegment (segment : List Char) : List Char :=
  match words segment with
  | [] => []
  | first :: others => capitalize first ++ others.flatMap capitalizeLater

/-- A name in Pascal case. -/
def pascalCase (name : List Char) : List Char :=
  ['_'].intercalate ((segments name).map pascalSegment)

/-- A name by a convention. -/
def convertName (convention : Config.NamingConvention) (name : String) : String :=
  match convention with
  | .keep => name
  | .pascalCase => String.ofList (pascalCase name.toList)

end SchemaFixtures.Emission
