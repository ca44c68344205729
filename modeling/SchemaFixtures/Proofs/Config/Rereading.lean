import SchemaFixtures.Config.Codec

/-!
# Options are read back as they were written

Options are written as objects that leave out what is not given. Reading accepts more than that:
sequences of members, null for what is not given, other names of a convention, and members that
it does not know. Whatever was read, writing it and reading it again gives the same options, with
every table in the same order, and so the same settings. A member that is left out is read as not
given, and one that is written is never read as null.
-/

namespace SchemaFixtures.Config

/-! ## Members that may be left out -/

/-- What stands under a name among members of which one is written only if it is given. -/
theorem value?_optional {α : Type} (key : String) (write : α → Json) (option : Option α)
    (name : String) :
    Entries.value? (option.toList.map fun value => (key, write value)) name =
      if key = name then option.map write else none := by
  cases option with
  | none => simp
  | some value => simp [Entries.value?]

/-- A member is read back if it is given, and not given if it is left out. -/
theorem decodeMember_optional {α : Type} {decode : Json → Option α} {write : α → Json}
    (back : ∀ value, decodeOptional decode (write value) = some (some value))
    (option : Option α) :
    decodeMember (decodeOptional decode) none (option.map write) = some option := by
  cases option with
  | none => rfl
  | some value => exact back value

/-- A table is read back in its order if its values are read back. -/
theorem decodeEntries_mapValues {α : Type} {decode : Json → Option α} {write : α → Json}
    (back : ∀ value, decode (write value) = some value) (entries : Entries α) :
    decodeEntries decode (entries.mapValues write) = some entries := by
  induction entries with
  | nil => rfl
  | cons entry rest inductionHypothesis =>
    obtain ⟨name, value⟩ := entry
    have later : decodeEntries decode (Entries.mapValues write rest) = some rest :=
      inductionHypothesis
    simp only [Entries.mapValues, List.map_cons, decodeEntries, back, Option.bind_eq_bind,
      Option.bind_some]
    rw [← Entries.mapValues, later]
    rfl

/-! ## The parts of the options -/

theorem scalarType_reread (type : ScalarType) : ScalarType.decode type.encode = some type := by
  cases type with
  | single type => rfl
  | split input output => rfl

theorem scalars_reread (scalars : Scalars) :
    decodeOptional Scalars.decode scalars.encode = some (some scalars) := by
  cases scalars with
  | table types =>
    simp only [Scalars.encode, decodeOptional, Scalars.decode,
      decodeEntries_mapValues scalarType_reread, Option.map_some]
  | module path => rfl

theorem convention_reread (convention : NamingConvention) :
    decodeOptional NamingConvention.decode (.string convention.name) = some (some convention) := by
  cases convention <;> decide +kernel

/-- A table of defaults is left out where it is empty, and read as empty there. -/
theorem defaults_reread (defaults : Entries String) :
    decodeMember (fun json => json.members?.bind (decodeEntries Json.text?)) []
      (if defaults.isEmpty then none else some (.object (defaults.mapValues .string))) =
      some defaults := by
  cases defaults with
  | nil => rfl
  | cons entry rest =>
    have text (value : String) : Json.text? (.string value) = some value := rfl
    exact decodeEntries_mapValues text (entry :: rest)

theorem fixtureOptions_reread (options : FixtureOptions) :
    decodeOptional FixtureOptions.decode options.encode = some (some options) := by
  obtain ⟨path, defaults, immer⟩ := options
  have readPath : decodeMember (decodeOptional Json.text?) none (path.map .string) = some path :=
    decodeMember_optional (fun _ => rfl) path
  have readFlag : decodeMember decodeFlag false (some (.bool immer)) = some immer := rfl
  have read : FixtureOptions.decodeMembers (path.map .string)
      (if defaults.isEmpty then none else some (.object (defaults.mapValues .string)))
      (some (.bool immer)) = some ⟨path, defaults, immer⟩ := by
    simp only [FixtureOptions.decodeMembers, readPath, defaults_reread, readFlag,
      Option.bind_eq_bind, Option.bind_some]
    rfl
  have members : FixtureOptions.decode (FixtureOptions.encode ⟨path, defaults, immer⟩) =
      FixtureOptions.decodeMembers (path.map .string)
        (if defaults.isEmpty then none else some (.object (defaults.mapValues .string)))
        (some (.bool immer)) := by
    cases defaults <;>
      simp [FixtureOptions.encode, FixtureOptions.decode, Entries.value?_append, value?_optional,
        Entries.value?]
  exact congrArg (Option.map some) (members.trans read)

/-! ## All options -/

theorem pluginOptions_reread (options : PluginOptions) :
    PluginOptions.decode options.encode = some options := by
  obtain ⟨scalars, convention, fixtures⟩ := options
  simp [PluginOptions.encode, PluginOptions.decode, PluginOptions.decodeMembers,
    Entries.value?_append, value?_optional, decodeMember_optional scalars_reread,
    decodeMember_optional convention_reread, decodeMember_optional fixtureOptions_reread]

/-- Options that are written are read back, every table in its order. So for every value, what is
read from it, if anything is, is read again from what is then written, and the settings that it
amounts to are the same. -/
theorem written_options_are_read_again :
    (∀ options : PluginOptions, PluginOptions.decode options.encode = some options) ∧
    ∀ json : Json,
      ((PluginOptions.decode json).bind fun options => PluginOptions.decode options.encode) =
          PluginOptions.decode json ∧
        ((PluginOptions.decode json).bind fun options =>
            (PluginOptions.decode options.encode).map (·.settings)) =
          (PluginOptions.decode json).map (·.settings) := by
  refine ⟨pluginOptions_reread, fun json => ?_⟩
  cases PluginOptions.decode json with
  | none => exact ⟨rfl, rfl⟩
  | some options =>
    have again := pluginOptions_reread options
    exact ⟨again, congrArg (Option.map PluginOptions.settings) again⟩

end SchemaFixtures.Config
