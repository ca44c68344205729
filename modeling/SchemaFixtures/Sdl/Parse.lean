import SchemaFixtures.Sdl.Grammar

/-!
# Reading a schema text

The text is cut into tokens, the tokens are read by the grammar, and the definitions
are lowered and gathered into a document. A refused text is described by a message and
the byte at which it was refused.
-/

namespace SchemaFixtures.Sdl

/-- A syntax error and the byte offset at which it was found. -/
structure SyntaxError where
  message : String
  offset : Nat
deriving DecidableEq, Repr

/-- The error as one line of a report. -/
def SyntaxError.text (error : SyntaxError) : String :=
  s!"{error.message} (at byte {error.offset})"

/-- Every syntax error of the schema at a path. -/
structure SchemaError where
  path : String
  errors : List SyntaxError
deriving DecidableEq, Repr

/-- The report: a heading and one line per error. -/
def SchemaError.text (error : SchemaError) : String :=
  "Failed to parse schema " ++ error.path ++ ":\n" ++
    "\n".intercalate (error.errors.map fun e => "  - " ++ e.text)

/-- The number of bytes that the characters take. -/
def byteLength (text : List Char) : Nat := text.foldl (fun size c => size + c.utf8Size) 0

/-- Where in a text something failed. -/
def Failure.locate (text : List Char) (failure : Failure) : SyntaxError :=
  ⟨failure.message, byteLength text - byteLength failure.rest⟩

/-- The definitions of a text, as they are written. -/
def definitions (text : List Char) : Except Failure (List Definition) := do
  let (found, _) ← document.run (← scan text)
  return found

/-- The document of a text. -/
def parse (text : List Char) : Except SyntaxError Schema.Document :=
  match definitions text with
  | .ok found => .ok (Schema.Document.ofDefinitions (found.filterMap (·.lower?)))
  | .error failure => .error (failure.locate text)

/-- The document of the schema at a path. -/
def parseSchema (source path : String) : Except SchemaError Schema.Document :=
  match parse source.toList with
  | .ok document => .ok document
  | .error error => .error ⟨path, [error]⟩

/-- An accepted text has the document of its definitions. -/
theorem parseSchema_eq_ok_iff {source path : String} {document : Schema.Document} :
    parseSchema source path = .ok document ↔
      ∃ written, definitions source.toList = .ok written ∧
        document = Schema.Document.ofDefinitions (written.filterMap (·.lower?)) := by
  rw [parseSchema, parse]
  cases definitions source.toList with
  | error failure => simp
  | ok written => simpa using eq_comm

end SchemaFixtures.Sdl
