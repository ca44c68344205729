import SchemaFixtures.Command.Invocation

/-!
# Colour

Colour is decoration: a painted text stands between two escape sequences, the second of
which ends all styles. Options decide over the environment whether there is any; where
neither decides, it depends on the terminal.
-/

namespace SchemaFixtures.Command

/-- A style of text. -/
inductive Style where
  | red
  | green
  | cyan
  | bold
  | dimmed
deriving DecidableEq, Repr

/-- The character that starts an escape sequence. -/
def escapeMark : Char := '\x1b'

/-- The escape sequence with a number. -/
def escapeSequence (number : List Char) : List Char := escapeMark :: '[' :: number ++ ['m']

/-- The number of the style. -/
def Style.number : Style → List Char
  | red => ['3', '1']
  | green => ['3', '2']
  | cyan => ['3', '6']
  | bold => ['1']
  | dimmed => ['2']

/-- The sequence that starts the style. -/
def Style.start (style : Style) : List Char := escapeSequence style.number

/-- The sequence that ends all styles. -/
def stopSequence : List Char := escapeSequence ['0']

/-- A text in which the style starts again after each end of all styles, given how many
characters of such an end are still to come. -/
def restartAfterStops (style : Style) : (pending : Nat) → List Char → List Char
  | _, [] => []
  | 0, c :: rest =>
    if stopSequence.isPrefixOf (c :: rest) then
      c :: restartAfterStops style (stopSequence.length - 1) rest
    else c :: restartAfterStops style 0 rest
  | 1, c :: rest => c :: style.start ++ restartAfterStops style 0 rest
  | pending + 2, c :: rest => c :: restartAfterStops style (pending + 1) rest

/-- A text in a style, if there is colour. -/
def paint (colored : Bool) (style : Style) (text : String) : String :=
  if colored then
    String.ofList (style.start ++ restartAfterStops style 0 text.toList ++ stopSequence)
  else text

/-- What the environment says about colour. -/
structure ColorEnvironment where
  noColor : Option String := none
  cliColor : Option String := none
  cliColorForce : Option String := none
deriving DecidableEq, Repr

/-- What options and environment decide about colour, if they do. -/
def colorDecision (color noColor : Bool) (environment : ColorEnvironment) : Option Bool :=
  if color then some true
  else if noColor || environment.noColor.isSome then some false
  else
    match environment.cliColorForce with
    | some force => if force ≠ "" ∧ force ≠ "0" then some true else none
    | none => if environment.cliColor = some "0" then some false else none

/-- Whether there is colour where nothing else decides: if it is forced in any way, or if
it is not turned off on a terminal. -/
def colorByDefault (environment : ColorEnvironment) (terminal : Bool) : Bool :=
  if environment.cliColorForce.any (· ≠ "0") then true
  else if environment.noColor.isSome then false
  else terminal && environment.cliColor ≠ some "0"

/-- Whether an invocation paints. -/
def isColored (invocation : Invocation) (environment : ColorEnvironment) (terminal : Bool) : Bool :=
  (colorDecision invocation.color invocation.noColor environment).getD
    (colorByDefault environment terminal)

end SchemaFixtures.Command
