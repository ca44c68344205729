import SchemaFixtures.Fixture.Materialize
import SchemaFixtures.Proofs.Fixture.Delegation

/-!
# Nested calls

A factory passes a call on by calling another factory while its own call is still under way.
Here a value is worked out with a limit on the number of calls that are under way at once: where
one more is needed there is no value. Working a value out ends if some limit is enough.

For the factories of a schema there is such a limit exactly when the first members that start at
the name do not lead round in a circle, and then the number of factories is enough: a longer
nesting would call one factory twice. What comes out is what the factory at the end of the chain
makes. Reading adds no calls to those of one default at a time, so reading along a path and
converting to any depth end as well where no first members lead round, however types refer to
each other.
-/

namespace SchemaFixtures.Fixture

/-! ## Limited calls -/

/-- The value of a default, with at most so many calls under way at once. -/
def Default.evaluateWithin (registry : Registry) :
    (calls : Nat) → Default → Store → Option (Value × Store)
  | 0, .factory name, store =>
    match registry.factory? name with
    | none => some (.absent, store)
    | some _ => none
  | calls + 1, .factory name, store =>
    match registry.factory? name with
    | none => some (.absent, store)
    | some found =>
      match found.body with
      | .scalar default => evaluateWithin registry calls default store
      | .union member => evaluateWithin registry calls (.factory member) store
      | body => some (body.produce store)
  | _, default, store => some (default.produce store)

/-- A fixture of a named type, with at most so many calls under way at once; no fixture if the
type has no factory. -/
def Registry.instantiateWithin (registry : Registry) (calls : Nat) (name : String)
    (store : Store) : Option (Option (Value × Store)) :=
  if registry.contains name then
    ((Default.factory name).evaluateWithin registry calls store).map some
  else some none

/-- The value of a field, which appears in its cell. -/
def Field.readWithin (registry : Registry) (calls : Nat) (field : Field) (store : Store) :
    Option (Value × Store) :=
  match field with
  | .held value => some (value, store)
  | .later cell default =>
    match store.value? cell with
    | some value => some (value, store)
    | none => do
      let (value, store) ← default.evaluateWithin registry calls store
      return (value, store.fill cell value)

/-- Reads along a path of names. -/
def Value.getWithin (registry : Registry) (calls : Nat) :
    List String → Value → Store → Option (Option Value × Store)
  | [], value, store => some (some value, store)
  | name :: rest, .object _ fields, store =>
    match Entries.value? fields name with
    | none => some (none, store)
    | some field => do
      let (value, store) ← field.readWithin registry calls store
      getWithin registry calls rest value store
  | _ :: _, _, store => some (none, store)

/-- Reads fields in order and converts their values; fields without a value are left out. -/
def materializeFieldsWithin (registry : Registry) (calls : Nat)
    (convert : Value → Store → Option (Json × Store)) :
    List (String × Field) → Store → Option (List (String × Json) × Store)
  | [], store => some ([], store)
  | (name, field) :: rest, store => do
    let (value, store) ← field.readWithin registry calls store
    if value.isAbsent then materializeFieldsWithin registry calls convert rest store
    else
      let (json, store) ← convert value store
      let (others, store) ← materializeFieldsWithin registry calls convert rest store
      return ((name, json) :: others, store)

mutual

/-- Converts a value, given how its objects are converted. -/
def convertWithin (convertObject : Entries Field → Store → Option (Json × Store)) :
    Value → Store → Option (Json × Store)
  | .list items, store => do
    let (converted, store) ← convertItemsWithin convertObject items store
    return (.array converted, store)
  | .object _ fields, store => convertObject fields store
  | .absent, store => some (.null, store)
  | .null, store => some (.null, store)
  | .boolean value, store => some (.bool value, store)
  | .int value, store => some (.int value, store)
  | .float value, store => some (.float value, store)
  | .string text, store => some (.string text, store)
  | .enum name, store => some (.string name, store)
  | .raw source, store => some (.string source, store)

/-- Converts the items of a list. -/
def convertItemsWithin (convertObject : Entries Field → Store → Option (Json × Store)) :
    List Value → Store → Option (List Json × Store)
  | [], store => some ([], store)
  | item :: rest, store => do
    let (converted, store) ← convertWithin convertObject item store
    let (others, store) ← convertItemsWithin convertObject rest store
    return (converted :: others, store)

end

/-- Converts an object whose nested objects are read to the given depth. An object that is not
read any further keeps the name of its type. -/
def materializeObjectWithin (registry : Registry) (calls : Nat) :
    (depth : Nat) → Entries Field → Store → Option (Json × Store)
  | 0, fields, store =>
    match fields.value? typenameField with
    | none => some (.object [], store)
    | some field => do
      let (value, store) ← field.readWithin registry calls store
      return (.object (value.string?.toList.map fun name => (typenameField, .string name)), store)
  | depth + 1, fields, store => do
    let (members, store) ← materializeFieldsWithin registry calls
      (convertWithin (materializeObjectWithin registry calls depth)) fields store
    return (.object members, store)

/-- The JSON of a value to a depth. -/
def Value.materializeWithin (registry : Registry) (calls depth : Nat) (value : Value)
    (store : Store) : Option (Json × Store) :=
  convertWithin (materializeObjectWithin registry calls depth) value store

/-! ## Enough calls -/

section Enough

variable {registry : Registry} {calls : Nat}

/-- So many calls are enough for every default. -/
def Registry.EnoughCalls (registry : Registry) (calls : Nat) : Prop :=
  ∀ (default : Default) (store : Store),
    default.evaluateWithin registry calls store = some (default.evaluate registry store)

theorem readWithin_eq (enough : registry.EnoughCalls calls) (field : Field) (store : Store) :
    field.readWithin registry calls store = some (field.read registry store) := by
  cases field with
  | held value => rfl
  | later cell default =>
    simp only [Field.readWithin, Field.read]
    cases store.value? cell with
    | some value => rfl
    | none =>
      rw [enough default store]
      rfl

theorem getWithin_eq (enough : registry.EnoughCalls calls) (path : List String) (value : Value)
    (store : Store) :
    value.getWithin registry calls path store = some (value.get? registry path store) := by
  induction path generalizing value store with
  | nil => rfl
  | cons name rest inductionHypothesis =>
    cases value with
    | object identity fields =>
      simp only [Value.getWithin, Value.get?, readField]
      cases Entries.value? fields name with
      | none => rfl
      | some field =>
        simp only [readWithin_eq enough]
        exact inductionHypothesis _ _
    | absent | null | boolean _ | int _ | float _ | string _ | enum _ | raw _ | list _ => rfl

theorem materializeFieldsWithin_eq (enough : registry.EnoughCalls calls)
    {convert : Value → Store → Json × Store}
    {limited : Value → Store → Option (Json × Store)}
    (converted : ∀ value store, limited value store = some (convert value store))
    (fields : List (String × Field)) (store : Store) :
    materializeFieldsWithin registry calls limited fields store =
      some (materializeFields registry convert fields store) := by
  induction fields generalizing store with
  | nil => rfl
  | cons entry rest inductionHypothesis =>
    obtain ⟨name, field⟩ := entry
    simp only [materializeFieldsWithin, materializeFields, readWithin_eq enough, converted,
      inductionHypothesis, Option.bind_eq_bind, Option.bind_some]
    by_cases absent : (field.read registry store).1.isAbsent = true
    · rw [if_pos absent, if_pos absent]
    · rw [if_neg absent, if_neg absent]
      rfl

mutual

theorem convertWithin_eq {convert : Entries Field → Store → Json × Store}
    {limited : Entries Field → Store → Option (Json × Store)}
    (converted : ∀ fields store, limited fields store = some (convert fields store)) :
    (value : Value) → (store : Store) →
      convertWithin limited value store = some (materializeWith convert value store)
  | .list items, store => by
    rw [convertWithin, convertItemsWithin_eq converted items store]
    rfl
  | .object _ fields, store => converted fields store
  | .absent, _ | .null, _ | .boolean _, _ | .int _, _ | .float _, _ | .string _, _ | .enum _, _
  | .raw _, _ => rfl

theorem convertItemsWithin_eq {convert : Entries Field → Store → Json × Store}
    {limited : Entries Field → Store → Option (Json × Store)}
    (converted : ∀ fields store, limited fields store = some (convert fields store)) :
    (items : List Value) → (store : Store) →
      convertItemsWithin limited items store =
        some (materializeItems convert items store)
  | [], _ => rfl
  | item :: rest, store => by
    rw [convertItemsWithin, convertWithin_eq converted item store]
    simp only [Option.bind_eq_bind, Option.bind_some]
    rw [convertItemsWithin_eq converted rest _]
    rfl

end

theorem materializeObjectWithin_eq (enough : registry.EnoughCalls calls) (depth : Nat)
    (fields : Entries Field) (store : Store) :
    materializeObjectWithin registry calls depth fields store =
      some (materializeObject registry depth fields store) := by
  induction depth generalizing fields store with
  | zero =>
    simp only [materializeObjectWithin, materializeObject, materializeTypename, typename?,
      readField]
    cases fields.value? typenameField with
    | none => rfl
    | some field =>
      simp only [readWithin_eq enough]
      rfl
  | succ depth inductionHypothesis =>
    rw [materializeObjectWithin, materializeFieldsWithin_eq enough
      (convertWithin_eq inductionHypothesis) fields store]
    rfl

theorem materializeWithin_eq (enough : registry.EnoughCalls calls) (depth : Nat) (value : Value)
    (store : Store) :
    value.materializeWithin registry calls depth store =
      some (value.materialize registry depth store) :=
  convertWithin_eq (materializeObjectWithin_eq enough depth) value store

end Enough

/-! ## Calls that are passed on -/

section Chains

variable {registry : Registry} {name : String} {found : Factory} (calls : Nat) (store : Store)

/-- What the factory of a name makes by itself; no value if there is no factory. -/
def Registry.make (registry : Registry) (name : String) (store : Store) : Value × Store :=
  match registry.factory? name with
  | some found => found.body.produce store
  | none => (.absent, store)

theorem evaluateWithin_missing (missing : registry.factory? name = none) :
    (Default.factory name).evaluateWithin registry calls store = some (.absent, store) := by
  cases calls <;> simp only [Default.evaluateWithin, missing]

theorem evaluateWithin_zero (stands : registry.factory? name = some found) :
    (Default.factory name).evaluateWithin registry 0 store = none := by
  simp only [Default.evaluateWithin, stands]

/-- A call that is passed on needs one call more than the one that it is passed on to. -/
theorem evaluateWithin_passed (stands : registry.factory? name = some found) {next : String}
    (passes : found.body.delegate? = some next) :
    (Default.factory name).evaluateWithin registry (calls + 1) store =
      (Default.factory next).evaluateWithin registry calls store := by
  simp only [Default.evaluateWithin, stands]
  cases body : found.body with
  | scalar default =>
    cases default <;> simp_all [Body.delegate?]
  | union member =>
    rw [body] at passes
    rw [show member = next from Option.some.inj passes]
  | record _ _ | enum _ => simp [body, Body.delegate?] at passes

/-- A call that is not passed on needs no other. -/
theorem evaluateWithin_single (stands : registry.factory? name = some found)
    (single : found.body.delegate? = none) :
    (Default.factory name).evaluateWithin registry (calls + 1) store =
      some (registry.make name store) := by
  simp only [Default.evaluateWithin, Registry.make, stands]
  cases body : found.body with
  | scalar default =>
    cases default with
    | factory next => simp [body, Body.delegate?] at single
    | absent | emptyList | emptyString | zeroInt | zeroFloat | false | emptyObject | literal _ =>
      cases calls <;> rfl
  | union member => simp [body, Body.delegate?] at single
  | record _ _ | enum _ => rfl

/-- Where the calls are enough, following them without a limit comes to the same value. -/
theorem evaluateWithin_chain {calls : Nat} {store : Store} {made : Value × Store}
    (worked : (Default.factory name).evaluateWithin registry calls store = some made) :
    ∃ chainEnd, registry.chainWithin (calls + 1) name = some chainEnd ∧
      made = match chainEnd with
        | .factory last => last.body.produce store
        | .missing => (.absent, store) := by
  induction calls generalizing name with
  | zero =>
    cases stands : registry.factory? name with
    | none =>
      rw [evaluateWithin_missing 0 store stands] at worked
      exact ⟨.missing, by simp only [Registry.chainWithin, stands], (Option.some.inj worked).symm⟩
    | some found =>
      rw [evaluateWithin_zero store stands] at worked
      cases worked
  | succ calls inductionHypothesis =>
    cases stands : registry.factory? name with
    | none =>
      rw [evaluateWithin_missing (calls + 1) store stands] at worked
      exact ⟨.missing, by simp only [Registry.chainWithin, stands], (Option.some.inj worked).symm⟩
    | some found =>
      cases passes : found.body.delegate? with
      | some next =>
        rw [evaluateWithin_passed calls store stands passes] at worked
        obtain ⟨chainEnd, followed, same⟩ := inductionHypothesis worked
        rw [Registry.chainWithin, stands]
        simp only [passes]
        exact ⟨chainEnd, followed, same⟩
      | none =>
        rw [evaluateWithin_single calls store stands passes, Registry.make, stands] at worked
        exact ⟨.factory found, by simp only [Registry.chainWithin, stands, passes],
          (Option.some.inj worked).symm⟩

/-- Where as many calls as there are factories are enough, they give the value of the default. -/
theorem evaluate_of_within {made : Value × Store}
    (worked : (Default.factory name).evaluateWithin registry registry.size store = some made) :
    (Default.factory name).evaluate registry store = made := by
  obtain ⟨chainEnd, followed, rfl⟩ := evaluateWithin_chain worked
  simp only [Default.evaluate, Registry.chain, followed]
  cases chainEnd <;> rfl

end Chains

/-! ## Chains of first members -/

section Members

variable {document : Schema.Document} {settings : Config.Settings} {name : String}

/-- The factory of a union passes its calls on to the first member. -/
theorem StandsFor.passed_on {member : String} (stands : StandsFor document name member) :
    ∃ found, (Registry.build document settings).factory? name = some found ∧
      found.body.delegate? = some member := by
  obtain ⟨definition, declared, kind, head⟩ := stands
  obtain ⟨body, given, found⟩ := @factory?_of_declaration _ settings _ _ declared
  refine ⟨_, found, ?_⟩
  rcases body_cases given with ⟨other, _, listed, passes⟩ | ⟨_, value, owns, _⟩
  · rw [show member = other from Option.some.inj (head.symm.trans listed)]
    exact passes
  · simp [ownPrescribed?, kind] at owns

/-- A name that stands for a member has a factory. -/
theorem StandsFor.not_missing {member : String}
    (missing : (Registry.build document settings).factory? name = none) :
    ¬ StandsFor document name member := by
  intro stands
  obtain ⟨found, there, _⟩ := @StandsFor.passed_on _ settings _ _ stands
  cases missing.symm.trans there

/-- Only the factory of a union passes its calls on. -/
theorem standsFor_of_factory {found : Factory} {member : String}
    (stands : (Registry.build document settings).factory? name = some found)
    (passes : found.body.delegate? = some member) : StandsFor document name member := by
  cases declared : declaration? document name with
  | none =>
    rw [factory?_build, declared] at stands
    cases stands
  | some definition =>
    obtain ⟨body, given, again⟩ := @factory?_of_declaration _ settings _ _ declared
    obtain rfl := Option.some.inj (stands.symm.trans again)
    rcases body_cases given with ⟨other, kind, listed, passesAgain⟩ | ⟨single, _⟩
    · rw [show member = other from Option.some.inj (passes.symm.trans passesAgain)]
      exact ⟨definition, declared, kind, listed⟩
    · cases passes.symm.trans single

/-- Where first members lead round, no number of calls is enough. -/
theorem Loops.evaluateWithin (loops : Loops document name) (calls : Nat) (store : Store) :
    (Default.factory name).evaluateWithin (Registry.build document settings) calls store =
      none := by
  induction calls generalizing name with
  | zero =>
    obtain ⟨member, stands, _⟩ := loops.next
    obtain ⟨found, there, _⟩ := @StandsFor.passed_on _ settings _ _ stands
    exact evaluateWithin_zero store there
  | succ calls inductionHypothesis =>
    obtain ⟨member, stands, onward⟩ := loops.next
    obtain ⟨found, there, passes⟩ := @StandsFor.passed_on _ settings _ _ stands
    rw [evaluateWithin_passed calls store there passes]
    exact inductionHypothesis onward

/-- Names that lead to a name, all with a factory and none twice, are fewer than the factories
if the name has a factory as well. -/
theorem seen_fewer {seen : List String} {found : Factory} (ends : ¬ Loops document name)
    (distinct : seen.Nodup) (known : seen ⊆ (Registry.build document settings).names)
    (lead : ∀ earlier ∈ seen, Relation.TransGen (StandsFor document) earlier name)
    (stands : (Registry.build document settings).factory? name = some found) :
    (name :: seen).Nodup ∧ name :: seen ⊆ (Registry.build document settings).names ∧
      seen.length < (Registry.build document settings).size := by
  have fresh : name ∉ seen := fun again => ends ⟨name, .refl, lead name again⟩
  have named : name ∈ (Registry.build document settings).names := by
    rw [← contains_iff, Registry.contains_eq, stands]
    rfl
  have more : (name :: seen).Nodup := List.nodup_cons.mpr ⟨fresh, distinct⟩
  have all := List.cons_subset.mpr ⟨named, known⟩
  have bounded := more.length_le_of_subset all
  rw [List.length_cons, Registry.names, List.length_map] at bounded
  exact ⟨more, all, bounded⟩

/-- Calls are enough that are as many as the factories whose names have not come yet. The names
that have come lead to the name, so none of them comes again. -/
theorem evaluateWithin_ends {calls : Nat} {seen : List String} (ends : ¬ Loops document name)
    (distinct : seen.Nodup) (known : seen ⊆ (Registry.build document settings).names)
    (lead : ∀ earlier ∈ seen, Relation.TransGen (StandsFor document) earlier name)
    (enough : (Registry.build document settings).size ≤ calls + seen.length) (store : Store) :
    ∃ last, Relation.ReflTransGen (StandsFor document) name last ∧
      (∀ member, ¬ StandsFor document last member) ∧
      (Default.factory name).evaluateWithin (Registry.build document settings) calls store =
        some ((Registry.build document settings).make last store) := by
  induction calls generalizing name seen with
  | zero =>
    cases stands : (Registry.build document settings).factory? name with
    | none =>
      refine ⟨name, .refl, fun _ => StandsFor.not_missing stands, ?_⟩
      rw [evaluateWithin_missing 0 store stands, Registry.make, stands]
    | some found =>
      obtain ⟨_, _, fewer⟩ := seen_fewer ends distinct known lead stands
      omega
  | succ calls inductionHypothesis =>
    cases stands : (Registry.build document settings).factory? name with
    | none =>
      refine ⟨name, .refl, fun _ => StandsFor.not_missing stands, ?_⟩
      rw [evaluateWithin_missing (calls + 1) store stands, Registry.make, stands]
    | some found =>
      cases passes : found.body.delegate? with
      | none =>
        refine ⟨name, .refl, fun member standsFor => ?_,
          evaluateWithin_single calls store stands passes⟩
        obtain ⟨again, there, passesOn⟩ := @StandsFor.passed_on _ settings _ _ standsFor
        obtain rfl := Option.some.inj (stands.symm.trans there)
        cases passes.symm.trans passesOn
      | some member =>
        have standsFor := standsFor_of_factory stands passes
        obtain ⟨more, all, _⟩ := seen_fewer ends distinct known lead stands
        obtain ⟨last, leads, single, worked⟩ := @inductionHypothesis member (name :: seen)
          (fun loops => ends (loops.of_next standsFor)) more all
          (fun earlier before => by
            rcases List.mem_cons.mp before with rfl | before
            · exact .single standsFor
            · exact (lead earlier before).tail standsFor)
          (by rw [List.length_cons]; omega)
        exact ⟨last, .head standsFor leads, single,
          (evaluateWithin_passed calls store stands passes).trans worked⟩

/-- As many calls as there are factories are enough for a name whose first members do not lead
round. They come to what the factory makes that the chain ends in. -/
theorem factory_ends (settings : Config.Settings) (ends : ¬ Loops document name) (store : Store) :
    ∃ last, Relation.ReflTransGen (StandsFor document) name last ∧
      (∀ member, ¬ StandsFor document last member) ∧
      (Default.factory name).evaluateWithin (Registry.build document settings)
          (Registry.build document settings).size store =
        some ((Registry.build document settings).make last store) :=
  evaluateWithin_ends ends List.nodup_nil (List.nil_subset _)
    (fun _ earlier => absurd earlier List.not_mem_nil) (Nat.le_add_right _ _) store

/-- As many calls as there are factories are enough for every default, if no first members lead
round. -/
theorem enoughCalls (settings : Config.Settings) (ends : ∀ name, ¬ Loops document name) :
    (Registry.build document settings).EnoughCalls (Registry.build document settings).size := by
  intro default store
  cases default with
  | factory name =>
    obtain ⟨_, _, _, worked⟩ := factory_ends settings (ends name) store
    rw [worked, evaluate_of_within store worked]
  | absent | emptyList | emptyString | zeroInt | zeroFloat | false | emptyObject | literal _ =>
    cases (Registry.build document settings).size <;> rfl

end Members

/-- Making a fixture ends exactly if the first members that start at its name do not lead round
in a circle. Then no more calls are under way at once than there are factories, and the fixture is
what the factory makes that the chain of first members ends in, or no value where the chain leaves
the registry. If no first members lead round, reading any value along a path and converting it to
any depth end, with no more calls under way for a field than there are factories. -/
theorem instantiation_ends_iff (document : Schema.Document) (settings : Config.Settings) :
    let registry := Registry.build document settings
    (∀ name store,
      ((∃ calls, (registry.instantiateWithin calls name store).isSome) ↔ ¬ Loops document name) ∧
      (¬ Loops document name →
        registry.instantiateWithin registry.size name store =
          some (registry.instantiate? name store) ∧
        ∃ last, Relation.ReflTransGen (StandsFor document) name last ∧
          (∀ member, ¬ StandsFor document last member) ∧
          registry.instantiate? name store =
            if registry.contains name then some (registry.make last store) else none)) ∧
    ((∀ name, ¬ Loops document name) → ∀ (value : Value) (store : Store),
      (∀ path, value.getWithin registry registry.size path store =
        some (value.get? registry path store)) ∧
      ∀ depth, value.materializeWithin registry registry.size depth store =
        some (value.materialize registry depth store)) := by
  intro registry
  refine ⟨fun name store => ?_, fun ends value store => ⟨fun path => ?_, fun depth => ?_⟩⟩
  · have stops (ends : ¬ Loops document name) :
        registry.instantiateWithin registry.size name store =
          some (registry.instantiate? name store) ∧
        ∃ last, Relation.ReflTransGen (StandsFor document) name last ∧
          (∀ member, ¬ StandsFor document last member) ∧
          registry.instantiate? name store =
            if registry.contains name then some (registry.make last store) else none := by
      obtain ⟨last, leads, single, worked⟩ := factory_ends settings ends store
      have same := evaluate_of_within store worked
      rw [Registry.instantiateWithin, Registry.instantiate?, worked, same]
      refine ⟨?_, last, leads, single, rfl⟩
      by_cases known : registry.contains name = true
      · rw [if_pos known, if_pos known, Option.map_some]
      · rw [if_neg known, if_neg known]
    refine ⟨⟨?_, fun ends => ?_⟩, stops⟩
    · rintro ⟨calls, worked⟩ loops
      obtain ⟨member, stands, _⟩ := loops.next
      have known : registry.contains name = true := by
        rw [contains_build, Option.isSome_iff_ne_none]
        exact stands.declared
      rw [Registry.instantiateWithin, if_pos known, loops.evaluateWithin] at worked
      cases worked
    · exact ⟨registry.size, by rw [(stops ends).1]; rfl⟩
  · exact getWithin_eq (enoughCalls settings ends) path value store
  · exact materializeWithin_eq (enoughCalls settings ends) depth value store

/-- Users who are found by way of two unions and have a friend who is found the same way. -/
def foundUsers : Schema.Document where
  definitions := [
    { name := "SearchResult", kind := .union, unionMembers := ["Media", "SearchResult"] },
    { name := "Media", kind := .union, unionMembers := ["User"] },
    { name := "User", kind := .object, fields := [
      ⟨"friend", .nonNull (.named "SearchResult")⟩] }]

/-- Two unions that stand for each other. -/
def circularUnions : Schema.Document where
  definitions := [
    { name := "Left", kind := .union, unionMembers := ["Right"] },
    { name := "Right", kind := .union, unionMembers := ["Left", "User"] }]

/-- A friend's friend is found within three calls at a time, and to any depth; unions that stand
for each other have no fixture, whatever the number of calls. -/
theorem foundUsers_end :
    let registry := Registry.build foundUsers {}
    (registry.instantiateWithin 3 "SearchResult" {}).isSome ∧
    (∀ (value : Value) store, (value.getWithin registry 3 ["friend", "friend"] store).isSome ∧
      ∀ depth, (value.materializeWithin registry 3 depth store).isSome) ∧
    ¬ ∃ calls, ((Registry.build circularUnions {}).instantiateWithin calls "Left" {}).isSome := by
  intro registry
  have step {name member : String} (stands : StandsFor foundUsers name member) :
      (name = "SearchResult" ∧ member = "Media") ∨ (name = "Media" ∧ member = "User") := by
    obtain ⟨definition, declared, kind, head⟩ := stands
    have named := List.find?_some declared
    have listed := List.mem_of_find?_eq_some declared
    simp only [foundUsers, List.mem_cons, List.not_mem_nil, or_false] at listed
    rcases listed with rfl | rfl | rfl <;> simp_all
  have ends (name : String) : ¬ Loops foundUsers name := by
    intro loops
    obtain ⟨first, stands, loops⟩ := loops.next
    obtain ⟨second, standsOn, loops⟩ := loops.next
    obtain ⟨third, standsLast, _⟩ := loops.next
    have := step stands
    have := step standsOn
    have := step standsLast
    grind
  have circular : Loops circularUnions "Left" := by
    have right : StandsFor circularUnions "Left" "Right" := ⟨_, rfl, rfl, rfl⟩
    have left : StandsFor circularUnions "Right" "Left" := ⟨_, rfl, rfl, rfl⟩
    exact ⟨"Left", .refl, .tail (.single right) left⟩
  have size : (Registry.build foundUsers {}).size = 3 := by decide +kernel
  obtain ⟨made, reads⟩ := instantiation_ends_iff foundUsers {}
  obtain ⟨circle, _⟩ := instantiation_ends_iff circularUnions {}
  rw [size] at made reads
  obtain ⟨worked, _⟩ := (made "SearchResult" {}).2 (ends "SearchResult")
  refine ⟨by rw [worked]; rfl, fun value store => ?_,
    fun worked => ((circle "Left" {}).1.mp worked) circular⟩
  obtain ⟨got, converted⟩ := reads ends value store
  exact ⟨by rw [got]; rfl, fun depth => by rw [converted]; rfl⟩

end SchemaFixtures.Fixture
