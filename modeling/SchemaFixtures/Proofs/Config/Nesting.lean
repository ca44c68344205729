import Mathlib.Data.List.Permutation
import SchemaFixtures.Config.Load

/-!
# Options at the top of a file and options of their own key

A file holds the plugin options either as its whole value or under a key of their own, beside
members that belong to others. Both ways lead to the same section, and all that follows looks at
the section alone. The exception is an empty section. An empty file is taken for one without
options, and everything has its default; a key that stands there without a value is taken at its
word, and null cannot be read as options.
-/

namespace SchemaFixtures.Config

/-- A section that is a whole file is chosen as it is, unless it is empty or has the key itself. -/
theorem pluginSection_whole {options : Json} (flat : options.member? pluginKey = none)
    (given : options ≠ .null) : pluginSection options = options := by
  cases options with
  | null => exact absurd rfl given
  | object members =>
    have missing : Entries.value? members pluginKey = none := flat
    rw [pluginSection, missing, Option.getD_none]
  | bool _ | int _ | float _ | string _ | array _ => rfl

/-- A section under its key is chosen as it is, whatever stands beside it. -/
theorem pluginSection_nested {members : Entries Json} {options : Json}
    (nested : members.value? pluginKey = some options) :
    pluginSection (.object members) = options := by
  rw [pluginSection, nested, Option.getD_some]

/-- What is loaded from a text that can be parsed. -/
theorem loadText_parsed {contents path : String} {format : Format} {file : Json}
    (known : Format.ofPath? path = some format)
    (parsed : format.parse contents.toList = some file) :
    loadText contents path = loadPlugin (pluginSection file) path := by
  rw [loadText, known]
  simp only [parsed]

/-- Of two texts one holds some options as its whole value, and the other under their key, beside
anything else. Both load alike, with the same settings or the same error and its problems, except
where the options are empty: the first text then has the default settings, and the second cannot
be read. -/
theorem nested_options_load_alike {path whole nested : String} {format : Format} {options : Json}
    {members : Entries Json} (known : Format.ofPath? path = some format)
    (wholeParsed : format.parse whole.toList = some options)
    (nestedParsed : format.parse nested.toList = some (.object members))
    (inside : members.value? pluginKey = some options)
    (flat : options.member? pluginKey = none) :
    (loadText nested path = loadText whole path ↔ options ≠ .null) ∧
      (options = .null → loadText whole path = .ok {} ∧
        ∃ message, loadText nested path = .error (.invalid path message)) := by
  have loadNested : loadText nested path = loadPlugin options path := by
    rw [loadText_parsed known nestedParsed, pluginSection_nested inside]
  have empty (isNull : options = .null) : loadText whole path = .ok {} ∧
      ∃ message, loadText nested path = .error (.invalid path message) := by
    subst isNull
    exact ⟨loadText_parsed known wholeParsed, _, loadNested⟩
  refine ⟨⟨fun same isNull => ?_, fun given => ?_⟩, empty⟩
  · obtain ⟨defaults, message, refused⟩ := empty isNull
    cases defaults.symm.trans (same.symm.trans refused)
  · rw [loadNested, loadText_parsed known wholeParsed, pluginSection_whole flat given]

/-- A key without a value is refused where an empty file is not, and one with options is read as
a file of its own. -/
theorem empty_section_refused :
    loadText "null" "c.json" = .ok {} ∧
      (∃ message, loadText "\x7b\"config\":null\x7d" "c.json" =
        .error (.invalid "c.json" message)) ∧
      loadText "\x7b\"schema\":\"s\",\"config\":\x7b\"fixtures\":\x7b\x7d\x7d\x7d" "c.json" =
        loadText "\x7b\"fixtures\":\x7b\x7d\x7d" "c.json" := by
  have known : Format.ofPath? "c.json" = some .json := by decide +kernel
  have readNull : Format.json.parse "null".toList = some .null := by cbv
  have readEmpty : Format.json.parse "\x7b\"config\":null\x7d".toList =
      some (.object [("config", .null)]) := by cbv
  have readWhole : Format.json.parse "\x7b\"fixtures\":\x7b\x7d\x7d".toList =
      some (.object [("fixtures", .object [])]) := by cbv
  have readNested : Format.json.parse
      "\x7b\"schema\":\"s\",\"config\":\x7b\"fixtures\":\x7b\x7d\x7d\x7d".toList =
      some (.object [("schema", .string "s"), ("config", .object [("fixtures", .object [])])]) := by
    cbv
  obtain ⟨defaults, refused⟩ :=
    (nested_options_load_alike known readNull readEmpty rfl rfl).2 rfl
  exact ⟨defaults, refused,
    (nested_options_load_alike known readWhole readNested rfl rfl).1.mpr Json.noConfusion⟩

end SchemaFixtures.Config
