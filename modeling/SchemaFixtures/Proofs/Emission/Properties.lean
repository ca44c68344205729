import SchemaFixtures.Emission.Module
import SchemaFixtures.Proofs.Fixture.Delegation
import SchemaFixtures.Proofs.Fixture.Plan

/-!
# Properties of an emitted record and fields of a fixture

An emitted record defines its properties one after another: the name of its type, if it states
one, and a property for each field as the fields are listed. A fixture puts the same fields under
their names, so a name that comes again keeps its place and takes the later default. The two
agree exactly when no name comes twice. In any case the last property of a name is written with
the default that the fixture works out.
-/

namespace SchemaFixtures.Emission

open Fixture

/-- The names that an emitted record defines, in the order of the text. -/
def definedNames (typename : Option String) (properties : List Property) : List String :=
  typename.toList.map (fun _ => typenameField) ++ properties.map (·.name)

/-! ## The fields of a fixture -/

/-- Reserving a cell for each field keeps the names and the defaults. -/
theorem reserveFields_branches (store : Store) (fields : List (String × Default)) :
    Entries.mapValues Field.branch (store.reserveFields fields).1 =
      Entries.mapValues Branch.later fields := by
  induction fields generalizing store with
  | nil => rfl
  | cons field rest inductionHypothesis =>
    exact congrArg ((field.1, Branch.later field.2) :: ·) (inductionHypothesis _)

/-- The branches of a record as they are listed: the name of the type first. -/
def listedBranches (typename : Option String) (fields : List (String × Default)) :
    List (String × Branch) :=
  typename.toList.map (fun name => (typenameField, .held (.string name))) ++
    Entries.mapValues Branch.later fields

/-- A fixture of a record is an object of the listed branches, put one after another. -/
theorem instantiate?_record {registry : Registry} (once : registry.names.Nodup)
    {factory : Factory} (listed : factory ∈ registry.factories) {typename : Option String}
    {fields : List (String × Default)} (record : factory.body = .record typename fields)
    (store : Store) :
    ∃ identity entries after,
      registry.instantiate? factory.name store = some (.object identity entries, after) ∧
        Entries.mapValues Field.branch entries =
          Entries.ofPairs (listedBranches typename fields) := by
  have found := factory?_of_mem once listed
  have known : registry.contains factory.name = true := by rw [Registry.contains_eq, found]; rfl
  have chain : registry.chain factory.name = some (.factory factory) := by
    rw [Registry.chain, Registry.chainWithin, found]
    simp only [record, Body.delegate?]
  let reserved := store.reserveFields fields
  let discriminator := typename.toList.map fun name => (typenameField, Field.held (.string name))
  refine ⟨reserved.2.objects, Entries.ofPairs (discriminator ++ reserved.1),
    { reserved.2 with objects := reserved.2.objects + 1 }, ?_, ?_⟩
  · rw [Registry.instantiate?, if_pos known, Default.evaluate, chain]
    simp only [record]
    rfl
  · rw [Entries.mapValues_ofPairs, listedBranches, ← reserveFields_branches store fields,
      Entries.mapValues, List.map_append, List.map_map]
    rfl

theorem listedBranches_names (registry : Registry) (typename : Option String)
    (fields : List (String × Default)) :
    Entries.names (listedBranches typename fields) =
      definedNames typename (fields.map (property registry)) := by
  rw [listedBranches, definedNames, Entries.names, Entries.mapValues, List.map_append,
    List.map_map, List.map_map, List.map_map]
  rfl

/-- The last branch of a name is the one that counts. -/
theorem value?_last {before behind : List (String × Branch)} {name : String} (branch : Branch)
    (last : name ∉ Entries.names behind) :
    Entries.value? (Entries.ofPairs (before ++ (name, branch) :: behind)) name = some branch := by
  have missing : Entries.value? behind.reverse name = none := by
    rw [Entries.value?_eq_none_iff, Entries.names, List.map_reverse, List.mem_reverse]
    exact last
  rw [Entries.value?_ofPairs, List.reverse_append, List.reverse_cons, Entries.value?_append,
    Entries.value?_append, missing, Option.none_or, Entries.value?, if_pos rfl, Option.some_or]

/-- An emitted record defines its properties in the order of its fields, a fixture of it keeps
each name where it stands first, and so both have the same names in the same order exactly when
the record defines no name twice. The last property of a name is written with the default that
the fixture works out under the name. -/
theorem record_defines_fields (document : Schema.Document) (settings : Config.Settings)
    {factory : Factory} (listed : factory ∈ (Registry.build document settings).factories)
    {typename : Option String} {fields : List (String × Default)}
    (record : factory.body = .record typename fields) (store : Store) :
    let registry := Registry.build document settings
    ∃ properties identity entries after,
      (member settings registry factory).form = .record typename properties ∧
      registry.instantiate? factory.name store = some (.object identity entries, after) ∧
      Entries.names entries = (definedNames typename properties).eraseDups ∧
      (Entries.names entries = definedNames typename properties ↔
        (definedNames typename properties).Nodup) ∧
      (∀ earlier property later, properties = earlier ++ property :: later →
        property.name ∉ later.map (·.name) →
        ∃ cell default, Entries.value? entries property.name = some (.later cell default) ∧
          property.default = defaultSource registry default) ∧
      (typenameField ∉ properties.map (·.name) → ∀ name, typename = some name →
        Entries.value? entries typenameField = some (.held (.string name))) := by
  intro registry
  obtain ⟨identity, entries, after, made, branches⟩ :=
    instantiate?_record (names_once _) listed record store
  have names : Entries.names entries =
      Entries.names (Entries.ofPairs (listedBranches typename fields)) := by
    rw [← branches, Entries.names_mapValues]
  have listedNames := listedBranches_names registry typename fields
  have read (name : String) (branch : Branch)
      (found : Entries.value? (Entries.ofPairs (listedBranches typename fields)) name =
        some branch) :
      ∃ field, Entries.value? entries name = some field ∧ field.branch = branch := by
    rw [← branches, Entries.value?_mapValues] at found
    exact Option.map_eq_some_iff.mp found
  refine ⟨fields.map (property registry), identity, entries, after, ?_, made, ?_, ?_, ?_, ?_⟩
  · simp only [member, form, record]
  · rw [names, Entries.names_ofPairs, listedNames]
  · rw [names, ← listedNames]
    constructor
    · intro same
      rw [← same]
      exact Entries.nodup_ofPairs _
    · intro once
      rw [Entries.ofPairs_of_nodup once]
  · intro earlier block later split last
    obtain ⟨before, rest, rfl, _, splitRest⟩ := List.map_eq_append_iff.mp split
    obtain ⟨⟨name, default⟩, behind, rfl, rfl, rfl⟩ := List.map_eq_cons_iff.mp splitRest
    have listedSplit : listedBranches typename (before ++ (name, default) :: behind) =
        listedBranches typename before ++
          (name, .later default) :: Entries.mapValues Branch.later behind := by
      simp [listedBranches, Entries.mapValues]
    have behindNames : name ∉ Entries.names (Entries.mapValues Branch.later behind) := by
      rw [Entries.names_mapValues, Entries.names]
      rwa [List.map_map] at last
    obtain ⟨field, found, branch⟩ := read name (.later default)
      (listedSplit ▸ value?_last (.later default) behindNames)
    cases field with
    | held value => cases branch
    | later cell other =>
      obtain rfl := Branch.later.inj branch
      exact ⟨cell, other, found, rfl⟩
  · intro untold name stated
    subst stated
    have behindNames : typenameField ∉ Entries.names (Entries.mapValues Branch.later fields) := by
      rw [Entries.names_mapValues, Entries.names]
      rwa [List.map_map] at untold
    obtain ⟨field, found, branch⟩ := read typenameField (.held (.string name))
      (@value?_last [] _ _ (.held (.string name)) behindNames)
    cases field with
    | later cell other => cases branch
    | held value =>
      cases value with
      | string text =>
        obtain rfl := Tree.string.inj (Branch.held.inj branch)
        exact found
      | absent | null | boolean _ | int _ | float _ | enum _ | raw _ | list _ | object _ _ =>
        cases Branch.held.inj branch

/-- A user whose name is declared a second time by an extension. -/
def repeatedName : Schema.Document :=
  .ofDefinitions [
    { name := "User", kind := .object, fields := [⟨"name", .nonNull (.named "Int")⟩] },
    { name := "User", kind := .object, fields := [⟨"name", .nonNull (.named "String")⟩],
      isExtension := true }]

/-- The emitted user defines the name twice, and the fixture has it once, with the default of
the extension. -/
theorem repeatedName_defined_twice :
    let registry := Registry.build repeatedName {}
    ∃ factory ∈ registry.factories, ∃ properties identity entries after,
      (member {} registry factory).form = .record (some "User") properties ∧
      definedNames (some "User") properties = ["__typename", "name", "name"] ∧
      registry.instantiate? "User" {} = some (.object identity entries, after) ∧
      Entries.names entries = ["__typename", "name"] ∧
      ∃ cell default, Entries.value? entries "name" = some (.later cell default) ∧
        defaultSource registry default = "''" := by
  intro registry
  let fields : List (String × Default) := [("name", .zeroInt), ("name", .emptyString)]
  have listed : Factory.mk "User" .object (.record (some "User") fields) ∈ registry.factories := by
    decide
  obtain ⟨properties, identity, entries, after, written, made, names, _, last, _⟩ :=
    record_defines_fields repeatedName {} listed rfl {}
  obtain rfl : [Property.mk "name" "0", Property.mk "name" "''"] = properties :=
    (Form.record.inj written).2
  obtain ⟨cell, default, found, rendered⟩ := last [_] _ [] rfl (by decide)
  exact ⟨_, listed, _, identity, entries, after, written, by decide, made,
    names.trans (by decide), cell, default, found, rendered.symm⟩

end SchemaFixtures.Emission
