import SchemaFixtures.Files.Host
import SchemaFixtures.Files.Path

/-!
# File trees

A tree says which places hold a file and which a directory. A place is the list of the
names that lead to it from the root. Following a path goes from directory to directory,
and two points lead back, so everything on the way has to be there. Names and paths are
limited in length, counted in bytes.
-/

namespace SchemaFixtures.Files

/-- Bytes in the longest name. -/
def nameLimit : Nat := 255

/-- Bytes in the longest path. -/
def pathLimit : Nat := 4095

/-- The names that lead to a place from the root. -/
abbrev Location := List String

/-- What a place holds. -/
inductive Node where
  | file (bytes : ByteArray)
  | directory

/-- The places that hold something; the root is always there. -/
structure Tree where
  nodes : List (Location × Node) := []

namespace Tree

/-- What a place holds. -/
def node? (tree : Tree) (location : Location) : Option Node :=
  if location.isEmpty then some .directory else tree.nodes.lookup location

/-- Puts something at a place. -/
def put (tree : Tree) (location : Location) (node : Node) : Tree :=
  ⟨(location, node) :: tree.nodes.filter (·.1 != location)⟩

/-- Makes a place and everything above it directories, where nothing is yet. -/
def makeDirectory (tree : Tree) (location : Location) : Tree :=
  (List.range location.length).foldl (fun tree count =>
    let above := location.take (count + 1)
    if (tree.node? above).isSome then tree else tree.put above .directory) tree

/-- Puts a file at a place and makes the directories above it. -/
def addFile (tree : Tree) (location : Location) (bytes : ByteArray) : Tree :=
  (tree.makeDirectory location.dropLast).put location (.file bytes)

/-- Whether a place is a directory, as every place has to be from which a path goes on. -/
def requireDirectory (tree : Tree) (location : Location) : Except FileError Unit :=
  match tree.node? location with
  | none => .error .notFound
  | some (.file _) => .error .notDirectory
  | some .directory => .ok ()

/-- Goes on from a place that has to be a directory. A name is held against its limit only
there, so what is wrong with the place is told first. -/
def enter (tree : Tree) (location : Location) (piece : List Char) : Except FileError Location := do
  tree.requireDirectory location
  if piece.isEmpty || piece == ['.'] then .ok location
  else if piece == ['.', '.'] then .ok location.dropLast
  else if nameLimit < (String.ofList piece).utf8ByteSize then .error .nameTooLong
  else .ok (location ++ [String.ofList piece])

/-- Goes on along pieces of a path. -/
def follow (tree : Tree) : (pieces : List (List Char)) → Location → Except FileError Location
  | [], location => .ok location
  | piece :: rest, location => do
    let next ← tree.enter location piece
    tree.follow rest next

/-- Whether a path can be followed at all, whatever the tree holds. -/
def checkPath (path : String) : Except FileError Unit :=
  if path.toList.contains '\x00' then .error .nullInPath
  else if path.isEmpty then .error .notFound
  else if pathLimit < path.utf8ByteSize then .error .nameTooLong
  else .ok ()

/-- The place from which a path is followed, given the directory for those that do not
start at the root. -/
def origin (directory : Location) (path : String) : Location :=
  if Path.isAbsolute path then [] else directory

/-- The place that a path leads to from a directory. -/
def locate (tree : Tree) (directory : Location) (path : String) : Except FileError Location := do
  checkPath path
  tree.follow (Path.pieces path) (origin directory path)

/-- The bytes of the file that a path leads to. -/
def readBytes (tree : Tree) (directory : Location) (path : String) : Except FileError ByteArray := do
  match tree.node? (← tree.locate directory path) with
  | some (.file bytes) => .ok bytes
  | some .directory => .error .isDirectory
  | none => .error .notFound

/-- The text of the file that a path leads to. -/
def read (tree : Tree) (directory : Location) (path : String) : Except FileError String := do
  match String.fromUTF8? (← tree.readBytes directory path) with
  | some text => .ok text
  | none => .error .notText

/-- Whether a path leads to a file. -/
def isFile (tree : Tree) (directory : Location) (path : String) : Bool :=
  match tree.readBytes directory path with
  | .ok _ => true
  | .error _ => false

/-- The path without the slashes at its end, if it has any. Such a path only leads to a
directory. -/
def directoryPath? (path : String) : Option String :=
  if path.toList.getLast? == some '/' then
    some (String.ofList (path.toList.reverse.dropWhile (· == '/')).reverse)
  else none

/-- Gives the file that a path leads to a text. A place that is still empty gets a file;
where the path ends as only that of a directory does, nothing is written, and only the
way to its last name is followed. -/
def write (tree : Tree) (directory : Location) (path text : String) : Except FileError Tree := do
  match directoryPath? path with
  | some shorter =>
    checkPath path
    let above ← tree.follow (Path.pieces shorter).dropLast (origin directory path)
    tree.requireDirectory above
    .error .isDirectory
  | none =>
    let location ← tree.locate directory path
    match tree.node? location with
    | some .directory => .error .isDirectory
    | _ => .ok (tree.put location (.file text.toUTF8))

/-- Access to the files of a tree from a directory. No time passes. -/
def host (directory : Location) : Host (StateM Tree) where
  isFile path := return (← get).isFile directory path
  read path := return (← get).read directory path
  write path text := do
    match (← get).write directory path text with
    | .ok tree =>
      set tree
      return .ok ()
    | .error error => return .error error
  elapsed := return 0

end Tree

end SchemaFixtures.Files
