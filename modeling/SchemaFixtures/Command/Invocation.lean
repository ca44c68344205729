/-!
# Invocations

What a command line asks for: one of three commands, with a schema file each, and the
options that all of them share.
-/

namespace SchemaFixtures.Command

/-- How a list is written. -/
inductive ListFormat where
  | human
  | json
deriving DecidableEq, Repr

/-- A command with its own options. -/
inductive Task where
  | generate (schema : String) (output : Option String) (immer : Bool)
      (typeDefinitionModule : Option String)
  | display (schema type : String) (depth : Nat)
  | list (schema : String) (format : ListFormat)
deriving DecidableEq, Repr

/-- The schema file of a command. -/
def Task.schema : Task → String
  | generate schema _ _ _ => schema
  | display schema _ _ => schema
  | list schema _ => schema

/-- A command with the shared options. -/
structure Invocation where
  config : Option String := none
  color : Bool := false
  noColor : Bool := false
  quiet : Bool := false
  task : Task
deriving DecidableEq, Repr

/-- The commands. -/
inductive Verb where
  | generate
  | display
  | list
deriving DecidableEq, Repr

/-- What help is about: the program or a command, in short or at length. -/
structure Topic where
  verb : Option Verb
  atLength : Bool
deriving DecidableEq, Repr

/-- What a command line asks for. -/
inductive Request where
  | run (invocation : Invocation)
  | help (topic : Topic)
  | version
  | refused
deriving DecidableEq, Repr

end SchemaFixtures.Command
