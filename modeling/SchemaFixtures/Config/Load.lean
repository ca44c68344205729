import SchemaFixtures.Config.Codec
import SchemaFixtures.Config.Problem
import SchemaFixtures.Files.Host
import SchemaFixtures.Files.Path
import SchemaFixtures.Json.Reader
import SchemaFixtures.Toml.Reader
import SchemaFixtures.Yaml.Reader

/-!
# Loading a configuration

The end of its path says in which format a config file is written. The file holds the
plugin options, or holds them under a key of their own beside other things; an empty file
holds none. Problems are reported before the options are read.
-/

namespace SchemaFixtures.Config

/-- A format of config files. -/
inductive Format where
  | yaml
  | json
  | toml
deriving DecidableEq, Repr

namespace Format

/-- The format of a path. -/
def ofPath? (path : String) : Option Format :=
  match Files.Path.extension? path with
  | some "yml" => some .yaml
  | some "yaml" => some .yaml
  | some "json" => some .json
  | some "toml" => some .toml
  | _ => none

/-- The name of the format. -/
def name : Format → String
  | yaml => "YAML"
  | json => "JSON"
  | toml => "TOML"

/-- The value of a text. -/
def parse (format : Format) (text : List Char) : Option Json :=
  match format with
  | yaml => Yaml.parse text
  | json => Json.parse text
  | toml => Toml.parse text

end Format

/-- Why a configuration cannot be loaded. -/
inductive LoadError where
  | unreadable (error : Files.FileError)
  | unsupportedFormat (path : String)
  | invalid (path message : String)
  | problems (path : String) (problems : List Problem)
deriving DecidableEq, Repr

/-- A problem as a line of a list. -/
def Problem.line (problem : Problem) : String := "  - [" ++ problem.code ++ "] " ++ problem.message

/-- The message of the error. -/
def LoadError.message : LoadError → String
  | .unreadable error => "Failed to read config file: " ++ error.message
  | .unsupportedFormat path => "Unsupported config file format: " ++ path
  | .invalid path message => "Invalid config file " ++ path ++ ": " ++ message
  | .problems path found =>
    "Config file " ++ path ++ " has " ++ toString found.length ++ " problem(s):\n"
      ++ "\n".intercalate (found.map (·.line))

/-- The key under which a file with other contents holds the plugin options. -/
def pluginKey : String := "config"

/-- The plugin options in the value of a file. -/
def pluginSection (file : Json) : Json :=
  match file with
  | .object members => (Entries.value? members pluginKey).getD file
  | .null => .object []
  | _ => file

/-- The settings of the plugin options in a file. -/
def loadPlugin (plugin : Json) (path : String) : Except LoadError Settings :=
  match problems plugin with
  | [] =>
    match PluginOptions.decode plugin with
    | some options => .ok options.settings
    | none => .error (.invalid path "the options do not have the expected form")
  | found => .error (.problems path found)

/-- The settings in a text. The path tells its format and names it in errors. -/
def loadText (contents path : String) : Except LoadError Settings :=
  match Format.ofPath? path with
  | none => .error (.unsupportedFormat path)
  | some format =>
    match format.parse contents.toList with
    | some file => loadPlugin (pluginSection file) path
    | none => .error (.invalid path (format.name ++ " parse error"))

/-- The settings in a file. -/
def load {m : Type → Type} [Monad m] (host : Files.Host m) (path : String) :
    m (Except LoadError Settings) := do
  match ← host.read path with
  | .ok contents => return loadText contents path
  | .error error => return .error (.unreadable error)

end SchemaFixtures.Config
