/-!
# Access to files

What a program needs of the files around it, apart from any way to get it: whether a path
leads to a file, the text of a file, writing a file, and how much time has passed.
-/

namespace SchemaFixtures.Files

/-- Why a file cannot be read or written. -/
inductive FileError where
  | notFound
  | notDirectory
  | isDirectory
  | nameTooLong
  | nullInPath
  | notText
  | other (message : String)
deriving DecidableEq, Repr

/-- The message of the error. -/
def FileError.message : FileError → String
  | notFound => "No such file or directory (os error 2)"
  | notDirectory => "Not a directory (os error 20)"
  | isDirectory => "Is a directory (os error 21)"
  | nameTooLong => "File name too long (os error 36)"
  | nullInPath => "file name contained an unexpected NUL byte"
  | notText => "stream did not contain valid UTF-8"
  | other message => message

/-- Access to files. -/
structure Host (m : Type → Type) where
  /-- Whether a path leads to a file. -/
  isFile : (path : String) → m Bool
  /-- The text of a file. -/
  read : (path : String) → m (Except FileError String)
  /-- Gives a file a text; a file that is not there is made. -/
  write : (path text : String) → m (Except FileError Unit)
  /-- The time since the start in hundredths of a second. -/
  elapsed : m Nat

/-- The first of some paths that leads to a file. -/
def Host.firstFile? {m : Type → Type} [Monad m] (host : Host m) : List String → m (Option String)
  | [] => return none
  | path :: rest => do
    if ← host.isFile path then return some path else host.firstFile? rest

end SchemaFixtures.Files
