import SchemaFixtures.Command.Help

/-!
# The program

The command line of the process is answered with the files of the process.
-/

namespace SchemaFixtures.Process

/-- Why an operation on a file failed. -/
def fileError (error : IO.Error) : Files.FileError :=
  match error with
  | .noFileOrDirectory .. => .notFound
  | .inappropriateType _ code _ => if code == 21 then .isDirectory else .notDirectory
  | .invalidArgument _ code _ => if code == 36 then .nameTooLong else .other (toString error)
  | _ => .other (toString error)

/-- Tries an operation on a file. -/
def attempt {α : Type} (action : IO α) : IO (Except Files.FileError α) := do
  try
    return .ok (← action)
  catch error => return .error (fileError error)

/-- The text of a file. -/
def readText (path : String) : IO (Except Files.FileError String) := do
  match ← attempt (IO.FS.readBinFile path) with
  | .ok bytes =>
    match String.fromUTF8? bytes with
    | some text => return .ok text
    | none => return .error .notText
  | .error error => return .error error

/-- Access to the files of the process, which started at a given time. -/
def processHost (start : Nat) : Files.Host IO where
  isFile path := do
    match ← attempt ((← IO.currentDir) / path).metadata with
    | .ok metadata => return metadata.type == .file
    | .error _ => return false
  read := readText
  write path text := attempt (IO.FS.writeFile path text)
  elapsed := return ((← IO.monoMsNow) - start + 5) / 10

/-- Answers the command line of the process; gives its exit code. -/
def answer (arguments : List String) : IO UInt32 := do
  let start ← IO.monoMsNow
  let environment : Command.ColorEnvironment := {
    noColor := ← IO.getEnv "NO_COLOR"
    cliColor := ← IO.getEnv "CLICOLOR"
    cliColorForce := ← IO.getEnv "CLICOLOR_FORCE" }
  let output ← IO.getStdout
  let directory ← IO.currentDir
  let outcome ←
    Command.answer (processHost start) directory.toString environment (← output.isTty) arguments
  output.putStr outcome.output
  output.flush
  (← IO.getStderr).putStr outcome.report
  return outcome.exit.toUInt32

end SchemaFixtures.Process

/-- Runs the program. -/
def main (arguments : List String) : IO UInt32 := SchemaFixtures.Process.answer arguments
