import SchemaFixtures.Config.Load
import SchemaFixtures.Proofs.Text.Trimming

/-!
# Which configurations are accepted

Problems are looked for in the raw options, before the options are read. Reading is the
wider of the two: the plugin options and the fixture section may each be given as a sequence
of their members, and a sequence is never looked into for problems. So a text is accepted
exactly when its options can be read and either one of the two is a sequence, or the fixture
section names known options only and the settings are sound. Sequences carry any fixture
options past the checks.
-/

namespace SchemaFixtures.Config

/-! ## Soundness -/

/-- The type module, if there is one, is not blank. -/
def ModuleSound (typeDefinitionModule : Option String) : Prop :=
  ∀ path, typeDefinitionModule = some path → Text.trimmed path ≠ ""

/-- Every scalar with a default has a name of the schema language. -/
def NamesSound (scalarDefaults : Entries String) : Prop :=
  ∀ name ∈ scalarDefaults.names, isName name = true

/-- Settings without the problems that are looked for. -/
structure Settings.Sound (settings : Settings) : Prop where
  module : ModuleSound settings.typeDefinitionModule
  names : NamesSound settings.scalarDefaults

/-- The plugin options or their fixture section are given as a sequence. -/
def InSequence (plugin : Json) : Prop :=
  (∃ items, plugin = .array items) ∨ ∃ items, plugin.member? "fixtures" = some (.array items)

/-- A fixture section that is an object names known options only. -/
def KnownKeys (plugin : Json) : Prop :=
  ∀ fixtures, plugin.member? "fixtures" = some (.object fixtures) →
    ∀ key ∈ Entries.names fixtures, key ∈ fixtureKeys

/-! ## When nothing is reported -/

theorem keyProblem?_none_iff (key : String) : keyProblem? key = none ↔ key ∈ fixtureKeys := by
  rw [keyProblem?, ← List.contains_iff_mem]
  split <;> simp_all

theorem moduleProblem?_none_iff (member : Option Json) :
    moduleProblem? member = none ↔ ModuleSound (member.bind (·.text?)) := by
  rw [moduleProblem?, ModuleSound]
  cases member.bind (·.text?) with
  | none => simp
  | some path =>
    simp only [Option.some.injEq, forall_eq', ne_eq, Text.trimmed_eq_empty_iff]
    split <;> simp_all

theorem scalarDefaultProblems_nil_iff (entry : String × Json) :
    scalarDefaultProblems entry = [] ↔ isName entry.1 = true ∧ entry.2.isString = true := by
  rw [scalarDefaultProblems, List.append_eq_nil_iff]
  split <;> split <;> simp_all

theorem sectionProblems_nil_iff (fixtures : Entries Json) :
    sectionProblems fixtures = [] ↔
      (∀ key ∈ fixtures.names, key ∈ fixtureKeys) ∧
      ModuleSound ((fixtures.value? "typeDefinitionModule").bind (·.text?)) ∧
      ∀ entry ∈ ((fixtures.value? "scalarDefaults").bind (·.members?)).getD [],
        isName entry.1 = true ∧ entry.2.isString = true := by
  rw [sectionProblems, List.append_eq_nil_iff, List.append_eq_nil_iff,
    List.filterMap_eq_nil_iff, Option.toList_eq_nil_iff, moduleProblem?_none_iff,
    List.flatMap_eq_nil_iff, and_assoc]
  simp only [keyProblem?_none_iff, scalarDefaultProblems_nil_iff]

/-- A sequence is not looked into. -/
theorem problems_of_sequence {plugin : Json} (sequence : InSequence plugin) :
    problems plugin = [] := by
  rcases sequence with ⟨items, rfl⟩ | ⟨items, isSequence⟩
  · rfl
  · rw [problems, isSequence]
    rfl

/-! ## What is read -/

/-- A table of texts is read from an object of strings and from nothing else. -/
theorem decodeEntries_text_iff (members : List (String × Json)) (entries : Entries String) :
    decodeEntries Json.text? members = some entries ↔
      members = entries.mapValues .string := by
  induction members generalizing entries with
  | nil => cases entries <;> simp [decodeEntries, Entries.mapValues]
  | cons member rest inductionHypothesis =>
    obtain ⟨name, json⟩ := member
    cases entries with
    | nil =>
      simp only [decodeEntries, Entries.mapValues, List.map_nil, reduceCtorEq, iff_false]
      intro read
      obtain ⟨_, _, _, _, impossible⟩ := by
        simpa only [bind, Option.bind_eq_some_iff] using read
      cases impossible
    | cons entry others =>
      have text (value : String) : json.text? = some value ↔ json = .string value := by
        cases json <;> simp [Json.text?]
      simp only [decodeEntries, bind, Option.bind_eq_some_iff, text, inductionHypothesis,
        Entries.mapValues, List.map_cons, List.cons.injEq, Prod.mk.injEq]
      constructor
      · rintro ⟨value, isValue, rest', isRest, same⟩
        obtain ⟨rfl, rfl⟩ := List.cons.inj (Option.some.inj same)
        exact ⟨⟨rfl, isValue⟩, isRest⟩
      · rintro ⟨⟨isName, isValue⟩, isRest⟩
        exact ⟨_, isValue, _, isRest, by rw [isName]; rfl⟩

/-- The type module and the scalar defaults that are read from their members. -/
theorem decodeMembers_reads {module defaults immer : Option Json} {options : FixtureOptions}
    (read : FixtureOptions.decodeMembers module defaults immer = some options) :
    options.typeDefinitionModule = module.bind (·.text?) ∧
      (defaults.bind (·.members?)).getD [] = options.scalarDefaults.mapValues .string := by
  simp only [FixtureOptions.decodeMembers, bind, Option.bind_eq_some_iff] at read
  obtain ⟨path, readModule, entries, readDefaults, flag, _, same⟩ := read
  obtain rfl := Option.some.inj same
  constructor
  · rcases module with _ | json
    · exact (Option.some.inj readModule).symm
    · cases json <;> simp_all [decodeMember, decodeOptional, Json.text?]
  · rcases defaults with _ | json
    · obtain rfl := Option.some.inj readDefaults
      rfl
    · obtain ⟨members, isObject, readEntries⟩ := Option.bind_eq_some_iff.mp readDefaults
      rw [Option.bind_some, isObject, Option.getD_some]
      exact (decodeEntries_text_iff members entries).mp readEntries

/-- In a fixture section that can be read nothing is reported exactly when its options are
known and sound. -/
theorem section_reported_iff {fixtures : Entries Json} {options : FixtureOptions}
    (read : FixtureOptions.decode (.object fixtures) = some options) :
    sectionProblems fixtures = [] ↔
      (∀ key ∈ fixtures.names, key ∈ fixtureKeys) ∧
        ModuleSound options.typeDefinitionModule ∧ NamesSound options.scalarDefaults := by
  obtain ⟨readModule, readDefaults⟩ := decodeMembers_reads read
  rw [sectionProblems_nil_iff, readDefaults, readModule]
  have strings : (∀ entry ∈ options.scalarDefaults.mapValues Json.string,
      isName entry.1 = true ∧ entry.2.isString = true) ↔ NamesSound options.scalarDefaults := by
    simp only [NamesSound, Entries.names, Entries.mapValues, List.forall_mem_map,
      Json.isString, Json.text?, Option.isSome_some, and_true]
  rw [strings]

/-- The fixture section that the plugin options are read with. -/
theorem decode_reads_fixtures {members : List (String × Json)} {options : PluginOptions}
    (read : PluginOptions.decode (.object members) = some options) :
    decodeMember (decodeOptional FixtureOptions.decode) none
      (Entries.value? members "fixtures") = some options.fixtures := by
  simp only [PluginOptions.decode, PluginOptions.decodeMembers, bind,
    Option.bind_eq_some_iff] at read
  obtain ⟨_, _, _, _, fixtures, readFixtures, same⟩ := read
  obtain rfl := Option.some.inj same
  exact readFixtures

/-- In plugin options that can be read and are no sequence, nothing is reported exactly when
the options of the fixture section are known and the settings are sound. -/
theorem reported_iff {plugin : Json} {options : PluginOptions}
    (read : PluginOptions.decode plugin = some options) (plain : ¬ InSequence plugin) :
    problems plugin = [] ↔ KnownKeys plugin ∧ options.settings.Sound := by
  cases plugin with
  | array items => exact absurd (.inl ⟨items, rfl⟩) plain
  | null | bool _ | int _ | float _ | string _ => cases read
  | object members =>
    have readFixtures := decode_reads_fixtures read
    have known : (Json.object members).member? "fixtures" = Entries.value? members "fixtures" :=
      rfl
    have unset (free : options.fixtures = none) : options.settings.Sound := by
      constructor
      · simp [PluginOptions.settings, free, ModuleSound]
      · simp [PluginOptions.settings, free, NamesSound, Entries.names]
    rw [problems, KnownKeys, known]
    rcases member : Entries.value? members "fixtures" with _ | json
    · rw [member] at readFixtures
      simp [unset (Option.some.inj readFixtures).symm]
    · rw [member] at readFixtures
      cases json with
      | array items => exact absurd (.inr ⟨items, member⟩) plain
      | bool _ | int _ | float _ | string _ => cases readFixtures
      | null => simp [unset (Option.some.inj readFixtures).symm, Json.members?]
      | object fixtures =>
        obtain ⟨own, readOwn, same⟩ := Option.map_eq_some_iff.mp readFixtures
        have settings : options.settings.Sound ↔
            ModuleSound own.typeDefinitionModule ∧ NamesSound own.scalarDefaults := by
          rw [PluginOptions.settings, ← same]
          exact ⟨fun sound => ⟨sound.module, sound.names⟩, fun both => ⟨both.1, both.2⟩⟩
        rw [settings]
        simpa [Json.members?] using section_reported_iff readOwn

/-! ## Acceptance -/

/-- Plugin options are accepted exactly when they can be read and are, unless given as a
sequence, known and sound. -/
theorem loadPlugin_ok_iff (plugin : Json) (path : String) (settings : Settings) :
    loadPlugin plugin path = .ok settings ↔
      ∃ options, PluginOptions.decode plugin = some options ∧ options.settings = settings ∧
        (InSequence plugin ∨ KnownKeys plugin ∧ settings.Sound) := by
  have accepted : loadPlugin plugin path = .ok settings ↔ problems plugin = [] ∧
      ∃ options, PluginOptions.decode plugin = some options ∧ options.settings = settings := by
    rw [loadPlugin]
    cases problems plugin with
    | nil => cases PluginOptions.decode plugin <;> simp
    | cons problem others => simp
  rw [accepted]
  constructor
  · rintro ⟨silent, options, read, rfl⟩
    refine ⟨options, read, rfl, ?_⟩
    by_cases sequence : InSequence plugin
    · exact .inl sequence
    · exact .inr ((reported_iff read sequence).mp silent)
  · rintro ⟨options, read, rfl, checked⟩
    refine ⟨?_, options, read, rfl⟩
    by_cases sequence : InSequence plugin
    · exact problems_of_sequence sequence
    · exact (reported_iff read sequence).mpr (checked.resolve_left sequence)

/-- Fixture options as a sequence of their members. -/
def FixtureOptions.sequence (options : FixtureOptions) : Json :=
  .array [(options.typeDefinitionModule.map Json.string).getD .null,
    .object (options.scalarDefaults.mapValues .string), .bool options.immer]

theorem decode_sequence (options : FixtureOptions) :
    FixtureOptions.decode options.sequence = some options := by
  obtain ⟨module, defaults, immer⟩ := options
  have table := (decodeEntries_text_iff (defaults.mapValues Json.string) defaults).mpr rfl
  cases module <;>
    simp [FixtureOptions.decode, FixtureOptions.sequence, FixtureOptions.decodeMembers,
      decodeMember, decodeOptional, decodeFlag, Json.text?, Json.members?, table]

/-- Fixture options in a sequence are accepted as they are, in either layout of the sequence. -/
theorem loadPlugin_sequence (options : FixtureOptions) (path : String) :
    loadPlugin (.object [("fixtures", options.sequence)]) path =
        .ok (PluginOptions.settings { fixtures := some options }) ∧
      loadPlugin (.array [.null, .null, options.sequence]) path =
        .ok (PluginOptions.settings { fixtures := some options }) := by
  have decoded : decodeOptional FixtureOptions.decode options.sequence = some (some options) :=
    congrArg (Option.map some) (decode_sequence options)
  constructor
  · have read : PluginOptions.decode (.object [("fixtures", options.sequence)]) =
        some { fixtures := some options } := by
      simp [PluginOptions.decode, PluginOptions.decodeMembers, Entries.value?, decodeMember,
        decoded]
    exact (loadPlugin_ok_iff _ path _).mpr ⟨_, read, rfl, .inl (.inr ⟨_, rfl⟩)⟩
  · have read : PluginOptions.decode (.array [.null, .null, options.sequence]) =
        some { fixtures := some options } := by
      simp [PluginOptions.decode, PluginOptions.decodeMembers, decodeMember, decoded,
        show decodeOptional Scalars.decode .null = some none from rfl,
        show decodeOptional NamingConvention.decode .null = some none from rfl]
    exact (loadPlugin_ok_iff _ path _).mpr ⟨_, read, rfl, .inl (.inl ⟨_, rfl⟩)⟩

/-- A text is accepted exactly when its options can be read and, unless they are given as a
sequence, are known and sound. Given as a sequence, all fixture options are accepted, sound or
not. -/
theorem sound_unless_in_sequence (contents path : String) :
    (∀ settings, loadText contents path = .ok settings ↔
      ∃ format file options, Format.ofPath? path = some format ∧
        format.parse contents.toList = some file ∧
        PluginOptions.decode (pluginSection file) = some options ∧
        options.settings = settings ∧
        (InSequence (pluginSection file) ∨ KnownKeys (pluginSection file) ∧ settings.Sound)) ∧
    ∀ options : FixtureOptions,
      loadPlugin (.object [("fixtures", options.sequence)]) path =
          .ok (PluginOptions.settings { fixtures := some options }) ∧
        loadPlugin (.array [.null, .null, options.sequence]) path =
          .ok (PluginOptions.settings { fixtures := some options }) := by
  refine ⟨fun settings => ?_, fun options => loadPlugin_sequence options path⟩
  rw [loadText]
  cases Format.ofPath? path with
  | none => simp
  | some format =>
    cases parsed : format.parse contents.toList with
    | none => simp [parsed]
    | some file => simp [parsed, loadPlugin_ok_iff]

/-- A blank type module in a sequence is accepted. -/
example : (loadText "\x7b\"fixtures\":[\"  \"]\x7d" "c.json").toOption =
    some { typeDefinitionModule := some "  " } := by
  decide +kernel

end SchemaFixtures.Config
