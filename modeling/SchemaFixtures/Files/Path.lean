/-!
# Paths

A path is text; slashes part its names. Only the text counts here: nothing is looked up.
Empty names and single points say nothing, except for a point that the path starts with.
Two points are a name like any other.
-/

namespace SchemaFixtures.Files.Path

/-- The text between slashes. -/
def pieces (path : String) : List (List Char) := path.toList.splitOn '/'

/-- Whether a path starts at the root. -/
def isAbsolute (path : String) : Bool := path.toList.head? == some '/'

/-- Whether a piece after the first says something. -/
def matters (piece : List Char) : Bool := !piece.isEmpty && piece != ['.']

/-- The pieces without those at the end that say nothing. The first piece says something
unless it is empty. -/
def significant (path : String) : List (List Char) :=
  match pieces path with
  | [] => []
  | first :: rest =>
    let kept := (rest.reverse.dropWhile (!matters ·)).reverse
    if kept.isEmpty && first.isEmpty then [] else first :: kept

/-- The text of pieces. -/
def ofPieces (pieces : List (List Char)) : String := String.ofList (['/'].intercalate pieces)

/-- The path without its last name; the root and the empty path have none. -/
def parent? (path : String) : Option String :=
  match (significant path).reverse with
  | [] => none
  | _ :: before =>
    let kept := significant (ofPieces before.reverse)
    some (if isAbsolute path && kept.length ≤ 1 then "/" else ofPieces kept)

/-- The path and all paths that are left when names are dropped from its end, in at most
the given number of steps. -/
def ancestorsWithin : (steps : Nat) → String → List String
  | 0, path => [path]
  | steps + 1, path =>
    match parent? path with
    | some parent => path :: ancestorsWithin steps parent
    | none => [path]

/-- The path and all paths that are left when names are dropped from its end. Each step
drops a piece at least. -/
def ancestors (path : String) : List String := ancestorsWithin (pieces path).length path

/-- The path of a name inside a directory. -/
def join (directory name : String) : String :=
  if isAbsolute name then name
  else if directory.isEmpty || directory.toList.getLast? == some '/' then directory ++ name
  else directory ++ "/" ++ name

/-- The last name, unless the path ends with two points or with the root. -/
def name? (path : String) : Option (List Char) :=
  match (significant path).getLast? with
  | some piece => if piece.isEmpty || piece == ['.'] || piece == ['.', '.'] then none else some piece
  | none => none

/-- The part of the last name after its last point; a name that only starts with a point
has none. -/
def extension? (path : String) : Option String := do
  let name ← name? path
  let reversed := name.reverse
  let extension := (reversed.takeWhile (· != '.')).reverse
  let before := reversed.drop (extension.length + 1)
  if before.isEmpty then none else some (String.ofList extension)

end SchemaFixtures.Files.Path
