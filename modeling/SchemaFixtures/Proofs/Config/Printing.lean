import SchemaFixtures.Proofs.Config.Acceptance
import SchemaFixtures.Proofs.Text.Unmarked

/-!
# What a configuration brings into texts

The texts of settings and of problems are texts of the configuration, its path, and words that are
always the same. If no string and no name in the value of a file holds an escape character, and
the path of the file holds none, then none is in the settings and none in what is said about the
file.
-/

namespace SchemaFixtures

/-- No string and no name of a member holds an escape character. -/
inductive Json.Unmarked : Json → Prop where
  | null : Unmarked .null
  | bool (value : Bool) : Unmarked (.bool value)
  | int (value : Int64) : Unmarked (.int value)
  | float (value : Float) : Unmarked (.float value)
  | string {text : String} (unmarked : Text.Unmarked text) : Unmarked (.string text)
  | array {items : List Json} (all : ∀ item ∈ items, Unmarked item) : Unmarked (.array items)
  | object {members : List (String × Json)} (names : ∀ member ∈ members, Text.Unmarked member.1)
      (values : ∀ member ∈ members, Unmarked member.2) : Unmarked (.object members)

namespace Json.Unmarked

variable {json : Json} {members : List (String × Json)}

theorem text {text : String} (unmarked : json.Unmarked) (isText : json.text? = some text) :
    Text.Unmarked text := by
  cases unmarked with
  | string unmarked => exact Option.some.inj isText ▸ unmarked
  | null | bool _ | int _ | float _ | array _ | object _ _ => cases isText

theorem names (unmarked : (Json.object members).Unmarked) :
    ∀ member ∈ members, Text.Unmarked member.1 := by
  cases unmarked with
  | object names _ => exact names

theorem values (unmarked : (Json.object members).Unmarked) :
    ∀ member ∈ members, member.2.Unmarked := by
  cases unmarked with
  | object _ values => exact values

theorem asObject (unmarked : json.Unmarked) (isObject : json.members? = some members) :
    (Json.object members).Unmarked := by
  cases json with
  | object own =>
    obtain rfl := Option.some.inj isObject
    exact unmarked
  | null | bool _ | int _ | float _ | string _ | array _ => cases isObject

theorem member {name : String} {value : Json} (unmarked : (Json.object members).Unmarked)
    (found : Entries.value? members name = some value) : value.Unmarked :=
  unmarked.values _ (Entries.mem_of_value? found)

theorem item {items : List Json} {place : Nat} {value : Json}
    (unmarked : (Json.array items).Unmarked) (found : items[place]? = some value) :
    value.Unmarked := by
  cases unmarked with
  | array all => exact all _ (List.mem_of_getElem? found)

end Json.Unmarked

/-- What the settings put into a module holds no escape character. -/
structure Config.Settings.Unmarked (settings : Config.Settings) : Prop where
  module : ∀ path ∈ settings.typeDefinitionModule, Text.Unmarked path
  defaults : ∀ entry ∈ settings.scalarDefaults, Text.Unmarked entry.2

namespace Config

open Text

/-! ## Settings -/

/-- Fixture options hold no escape character. -/
structure FixtureOptions.Unmarked (options : FixtureOptions) : Prop where
  module : ∀ path ∈ options.typeDefinitionModule, Text.Unmarked path
  defaults : ∀ entry ∈ options.scalarDefaults, Text.Unmarked entry.2

theorem decodeMembers_unmarked {module defaults immer : Option Json} {options : FixtureOptions}
    (read : FixtureOptions.decodeMembers module defaults immer = some options)
    (moduleUnmarked : ∀ json ∈ module, json.Unmarked)
    (defaultsUnmarked : ∀ json ∈ defaults, json.Unmarked) : options.Unmarked := by
  obtain ⟨readModule, readDefaults⟩ := decodeMembers_reads read
  constructor
  · intro path given
    rw [readModule] at given
    obtain ⟨json, isModule, isText⟩ := Option.bind_eq_some_iff.mp given
    exact (moduleUnmarked json isModule).text isText
  · intro entry listed
    have written : (entry.1, Json.string entry.2) ∈ (defaults.bind (·.members?)).getD [] := by
      rw [readDefaults]
      exact List.mem_map.mpr ⟨entry, listed, rfl⟩
    cases found : defaults.bind (·.members?) with
    | none =>
      rw [found] at written
      cases written
    | some members =>
      rw [found] at written
      obtain ⟨json, isTable, isObject⟩ := Option.bind_eq_some_iff.mp found
      exact (((defaultsUnmarked json isTable).asObject isObject).values _ written).text rfl

theorem fixtureOptions_unmarked {json : Json} {options : FixtureOptions}
    (read : FixtureOptions.decode json = some options) (unmarked : json.Unmarked) :
    options.Unmarked := by
  cases json with
  | object members =>
    exact decodeMembers_unmarked read (fun _ found => unmarked.member found)
      fun _ found => unmarked.member found
  | array items =>
    rw [FixtureOptions.decode] at read
    split at read
    · exact decodeMembers_unmarked read (fun _ found => unmarked.item found)
        fun _ found => unmarked.item found
    · cases read
  | null | bool _ | int _ | float _ | string _ => cases read

theorem pluginMembers_unmarked {scalars convention fixtures : Option Json}
    {options : PluginOptions}
    (read : PluginOptions.decodeMembers scalars convention fixtures = some options)
    (unmarked : ∀ json ∈ fixtures, json.Unmarked) : options.settings.Unmarked := by
  simp only [PluginOptions.decodeMembers, bind, Option.bind_eq_some_iff] at read
  obtain ⟨_, _, _, _, own, readFixtures, same⟩ := read
  obtain rfl := Option.some.inj same
  have plain : (own.getD {}).Unmarked := by
    cases own with
    | none =>
      constructor
      · intro _ none
        cases none
      · intro _ listed
        cases listed
    | some options =>
      cases fixtures with
      | none => cases readFixtures
      | some json =>
        rw [decodeMember, decodeOptional.eq_def] at readFixtures
        split at readFixtures
        · cases readFixtures
        · obtain ⟨_, readOwn, same⟩ := Option.map_eq_some_iff.mp readFixtures
          cases same
          exact fixtureOptions_unmarked readOwn (unmarked json rfl)
  exact ⟨plain.module, plain.defaults⟩

theorem pluginOptions_unmarked {json : Json} {options : PluginOptions}
    (read : PluginOptions.decode json = some options) (unmarked : json.Unmarked) :
    options.settings.Unmarked := by
  cases json with
  | object members => exact pluginMembers_unmarked read fun _ found => unmarked.member found
  | array items =>
    rw [PluginOptions.decode] at read
    split at read
    · exact pluginMembers_unmarked read fun _ found => unmarked.item found
    · cases read
  | null | bool _ | int _ | float _ | string _ => cases read

/-! ## Problems -/

/-- A suggestion is one of the candidates. -/
theorem suggestion?_mem {name suggestion : String} {candidates : List String}
    (found : suggestion? name candidates = some suggestion) : suggestion ∈ candidates := by
  have chosen (close : List (String × Float)) (best? : Option (String × Float))
      (best : String × Float)
      (last : close.foldl (fun best? entry =>
        match best? with
        | some (best : String × Float) => if entry.2 ≥ best.2 then some entry else some best
        | none => some entry) best? = some best) : best? = some best ∨ best ∈ close := by
    induction close generalizing best? with
    | nil => exact .inl last
    | cons entry rest inductionHypothesis =>
      rcases inductionHypothesis _ last with now | later
      · cases best? with
        | none => exact .inr (Option.some.inj now ▸ List.mem_cons_self)
        | some before =>
          dsimp only at now
          split at now
          · exact .inr (Option.some.inj now ▸ List.mem_cons_self)
          · exact .inl now
      · exact .inr (List.mem_cons_of_mem _ later)
  obtain ⟨best, last, rfl⟩ := Option.map_eq_some_iff.mp found
  rcases chosen _ _ _ last with none | listed
  · cases none
  · obtain ⟨candidate, isCandidate, rfl⟩ := List.mem_map.mp (List.mem_filter.mp listed).1
    exact isCandidate

theorem keyProblem?_unmarked {key : String} {problem : Problem} (unmarked : Unmarked key)
    (found : keyProblem? key = some problem) : Unmarked problem.message := by
  rw [keyProblem?] at found
  split at found
  · cases found
  · obtain rfl := Option.some.inj found
    have start : Unmarked ("Unknown fixtures option '" ++ key) :=
      .append (unmarked_literal (by decide)) unmarked
    cases suggested : suggestion? key fixtureKeys with
    | none => exact (start.append (unmarked_literal (by decide))).append (by decide)
    | some suggestion =>
      have known : Unmarked suggestion := by
        have all : ∀ key ∈ fixtureKeys, Unmarked key := by decide
        exact all suggestion (suggestion?_mem suggested)
      exact ((start.append (unmarked_literal (by decide))).append known).append (by decide)

theorem scalarDefaultProblems_unmarked {entry : String × Json} (unmarked : Unmarked entry.1) :
    ∀ problem ∈ scalarDefaultProblems entry, Unmarked problem.message := by
  rw [scalarDefaultProblems, List.forall_mem_append]
  constructor
  · split
    · exact List.forall_mem_nil _
    · refine List.forall_mem_singleton.mpr ?_
      exact (Unmarked.append (by decide) unmarked).append (unmarked_literal (by decide))
  · split
    · exact List.forall_mem_nil _
    · refine List.forall_mem_singleton.mpr ?_
      exact (Unmarked.append (unmarked_literal (by decide)) unmarked).append
        (unmarked_literal (by decide))

theorem sectionProblems_unmarked {fixtures : Entries Json}
    (unmarked : (Json.object fixtures).Unmarked) :
    ∀ problem ∈ sectionProblems fixtures, Unmarked problem.message := by
  rw [sectionProblems, List.forall_mem_append, List.forall_mem_append]
  refine ⟨⟨?_, ?_⟩, ?_⟩
  · intro problem listed
    obtain ⟨key, isKey, found⟩ := List.mem_filterMap.mp listed
    obtain ⟨entry, isEntry, rfl⟩ := List.mem_map.mp isKey
    exact keyProblem?_unmarked (unmarked.names entry isEntry) found
  · intro problem listed
    have found := Option.mem_toList.mp listed
    rw [moduleProblem?] at found
    repeat' split at found
    · cases found
      exact unmarked_literal (by decide)
    · cases found
    · cases found
  · rw [List.forall_mem_flatMap]
    intro entry listed
    refine scalarDefaultProblems_unmarked ?_
    cases found : (fixtures.value? "scalarDefaults").bind (·.members?) with
    | none =>
      rw [found] at listed
      cases listed
    | some members =>
      rw [found] at listed
      obtain ⟨json, isTable, isObject⟩ := Option.bind_eq_some_iff.mp found
      exact ((unmarked.member isTable).asObject isObject).names entry listed

theorem problems_unmarked {plugin : Json} (unmarked : plugin.Unmarked) :
    ∀ problem ∈ problems plugin, Unmarked problem.message := by
  rw [problems]
  split
  · next fixtures found =>
    obtain ⟨json, isSection, isObject⟩ := Option.bind_eq_some_iff.mp found
    obtain ⟨own, isPlugin, stands⟩ := Option.bind_eq_some_iff.mp isSection
    exact sectionProblems_unmarked (((unmarked.asObject isPlugin).member stands).asObject isObject)
  · exact List.forall_mem_nil _

/-! ## Loading -/

/-- Nothing that is said about an error is marked. -/
def LoadError.Unmarked : LoadError → Prop
  | .problems path found => Text.Unmarked path ∧ ∀ problem ∈ found, Text.Unmarked problem.message
  | error => Text.Unmarked error.message

/-- What is loaded holds no escape character, nor does what is said where nothing is. -/
def LoadsUnmarked : Except LoadError Settings → Prop
  | .ok settings => settings.Unmarked
  | .error error => error.Unmarked

theorem loadPlugin_unmarked {plugin : Json} {path : String} (unmarked : plugin.Unmarked)
    (pathUnmarked : Unmarked path) : LoadsUnmarked (loadPlugin plugin path) := by
  rw [loadPlugin]
  split
  · cases read : PluginOptions.decode plugin with
    | some options => exact pluginOptions_unmarked read unmarked
    | none =>
      exact ((Unmarked.append (unmarked_literal (by decide)) pathUnmarked).append
        (by decide)).append (unmarked_literal (by decide))
  · exact ⟨pathUnmarked, problems_unmarked unmarked⟩

theorem pluginSection_unmarked {file : Json} (unmarked : file.Unmarked) :
    (pluginSection file).Unmarked := by
  fun_cases pluginSection file with
  | case1 members =>
    cases found : Entries.value? members pluginKey with
    | none => exact unmarked
    | some options => exact unmarked.member found
  | case2 =>
    exact .object (List.forall_mem_nil _) (List.forall_mem_nil _)
  | case3 => exact unmarked

theorem loadText_unmarked {contents path : String} (pathUnmarked : Unmarked path)
    (strings : ∀ format json, Format.ofPath? path = some format →
      format.parse contents.toList = some json → json.Unmarked) :
    LoadsUnmarked (loadText contents path) := by
  rw [loadText]
  split
  · exact Unmarked.append (unmarked_literal (by decide)) pathUnmarked
  · next format known =>
    cases parsed : format.parse contents.toList with
    | some file =>
      exact loadPlugin_unmarked (pluginSection_unmarked (strings format file known parsed))
        pathUnmarked
    | none =>
      refine ((Unmarked.append (unmarked_literal (by decide)) pathUnmarked).append
        (by decide)).append ?_
      cases format <;> decide

end Config

end SchemaFixtures
