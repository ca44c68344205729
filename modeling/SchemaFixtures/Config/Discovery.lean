import SchemaFixtures.Files.Host
import SchemaFixtures.Files.Path

/-!
# Finding a config file

A config file is looked for in a directory and then in each directory above it, and in
each under its names in a fixed order. Directories above are found by dropping names from
the path, so it does not matter whether the directory is there.
-/

namespace SchemaFixtures.Config

/-- The names of config files, the preferred one first. -/
def fileNames : List String :=
  [".graphql-fixtures.yml", ".graphql-fixtures.yaml", ".graphql-fixtures.json", "codegen.yml",
    "codegen.yaml", "codegen.json", "codegen.toml"]

/-- The paths at which a config file may be, in the order in which they are tried. -/
def candidates (start : String) : List String :=
  (Files.Path.ancestors start).flatMap fun directory =>
    fileNames.map (Files.Path.join directory)

/-- The config file for a directory. -/
def find? {m : Type → Type} [Monad m] (host : Files.Host m) (start : String) : m (Option String) :=
  host.firstFile? (candidates start)

end SchemaFixtures.Config
