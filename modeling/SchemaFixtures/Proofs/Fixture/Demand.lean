import SchemaFixtures.Proofs.Fixture.Exploration

/-!
# What a reading asks for

Every reading asks for certain fields: a path asks for the fields that lie on it, an iteration for
the fields of the object, a conversion to a depth for the fields of all objects that are less deep
and for the name of the type of those that lie at the depth. A reading reads nothing else, and
afterwards every field that it asked for is resolved. Fields that are asked for are asked for with
all fields on the way to them, so later readings, which only bring new places, take nothing back.
-/

namespace SchemaFixtures.Fixture

/-- The number of fields on the way to a place. An item of a list is no level deeper. -/
def Place.levels : Place → Nat
  | [] => 0
  | .field _ :: rest => Place.levels rest + 1
  | .item _ :: rest => Place.levels rest

namespace Demand

/-- The fields on a path. -/
def along (path : List String) : Demand := fun place name =>
  place ++ [.field name] <+: Place.ofPath path

/-- What is asked for behind a place. -/
def behind (start : Place) (demand : Demand) : Demand := fun place name =>
  ∃ below, place = start ++ below ∧ demand below name

/-- The fields on a path, and what is asked for behind its end. -/
def through (path : List String) (demand : Demand) : Demand := fun place name =>
  along path place name ∨ behind (Place.ofPath path) demand place name

/-- All fields of an object, and what is asked for in their values. -/
def inside (demand : Demand) : Demand := fun place name =>
  place = [] ∨ ∃ own below, place = .field own :: below ∧ demand below name

/-- The fields of objects less than so many levels deep, and the name of the type of those that
are as deep as that. -/
def deep (depth : Nat) : Demand := fun place name =>
  place.levels < depth ∨ place.levels = depth ∧ name = typenameField

/-- A field is asked for with all fields on the way to it. -/
def Closed (demand : Demand) : Prop := ∀ place field below name,
  demand (place ++ .field field :: below) name → demand place field

end Demand

/-- The fields that a reading of a value asks for. -/
def Reading.demand : Reading → Demand
  | .field name => fun place other => place = [] ∧ other = name
  | .typename => fun place other => place = [] ∧ other = typenameField
  | .visit => fun place _ => place = []
  | .materialize depth => .deep depth
  | .onItem index path reading => .behind [.item index] (.through path reading.demand)
  | .value | .text | .parts | .isResolved _ | .contains _ | .names | .size | .objectText =>
    fun _ _ => False

/-- The fields that are asked for are resolved. -/
def Value.Serves (store : Store) (demand : Demand) (value : Value) : Prop :=
  ∀ place name field, value.fieldAt? store place name = some field → demand place name →
    field.isResolved store = true

variable {registry : Registry} {demand other : Demand} {value inner : Value}
  {store before between after : Store} {place : Place} {name : String} {path : List String}

/-! ## Demands -/

namespace Demand

theorem Closed.turn (closed : demand.Closed) (turn : Turn) :
    Closed fun place => demand (turn :: place) :=
  fun place => closed (turn :: place)

theorem along_closed (path : List String) : (along path).Closed := by
  intro place field below name on
  rw [along, List.append_assoc, List.cons_append, List.append_cons] at on
  exact (List.prefix_append _ _).trans on

theorem along_nil : ¬ along [] place name := by
  simp [along, Place.ofPath]

theorem along_here {first : String} : along (first :: path) [] name ↔ name = first := by
  simp [along, Place.ofPath]

theorem along_turn {first : String} {turn : Turn} :
    along (first :: path) (turn :: place) name ↔ turn = .field first ∧ along path place name := by
  simp [along, Place.ofPath]

theorem levels_append (first second : Place) :
    Place.levels (first ++ second) = first.levels + second.levels := by
  induction first with
  | nil => simp [Place.levels]
  | cons turn rest inductionHypothesis =>
    cases turn with
    | item index => simp only [List.cons_append, Place.levels, inductionHypothesis]
    | field name =>
      simp only [List.cons_append, Place.levels, inductionHypothesis]
      omega

theorem deep_closed (depth : Nat) : (deep depth).Closed := by
  intro place field below name asked
  have levels : place.levels < Place.levels (place ++ .field field :: below) := by
    rw [levels_append, Place.levels]
    omega
  simp only [deep] at asked ⊢
  omega

/-- Behind a place that a path leads to, closed demands stay closed. -/
theorem through_closed (path : List String) (closed : demand.Closed) :
    (through path demand).Closed := by
  intro place field below name asked
  rcases asked with on | ⟨rest, same, asked⟩
  · exact .inl (along_closed path place field below name on)
  · rcases List.append_eq_append_iff.mp same with ⟨more, ends, starts⟩ | ⟨more, ends, starts⟩
    · cases more with
      | nil =>
        rw [List.nil_append] at starts
        subst starts
        have here : place = Place.ofPath path ++ [] := by
          rw [ends, List.append_nil, List.append_nil]
        exact .inr ⟨[], here, closed [] field below name asked⟩
      | cons turn more =>
        obtain ⟨rfl, -⟩ := List.cons.inj starts
        rw [List.append_cons] at ends
        exact .inl ⟨more, ends.symm⟩
    · subst starts
      exact .inr ⟨more, ends, closed more field below name asked⟩

/-- Behind an item, closed demands stay closed. -/
theorem behind_item_closed (index : Nat) (closed : demand.Closed) :
    (behind [.item index] demand).Closed := by
  rintro place field below name ⟨rest, same, asked⟩
  cases place with
  | nil => cases same
  | cons turn place =>
    obtain ⟨rfl, rfl⟩ := List.cons.inj same
    exact ⟨place, rfl, closed place field below name asked⟩

end Demand

theorem Reading.demand_closed (reading : Reading) : reading.demand.Closed := by
  induction reading with
  | materialize depth => exact Demand.deep_closed depth
  | onItem index path reading inductionHypothesis =>
    exact Demand.behind_item_closed index (Demand.through_closed path inductionHypothesis)
  | visit | field _ | typename =>
    intro place field below name away
    simp [Reading.demand] at away
  | value | text | parts | isResolved _ | contains _ | names | size | objectText =>
    exact fun _ _ _ _ asked => asked

/-! ## Fields that are resolved -/

theorem serves_nothing (nothing : ∀ place name, demand place name →
    value.fieldAt? store place name = none) : value.Serves store demand := by
  intro place name field stands asked
  rw [nothing place name asked] at stands
  cases stands

theorem Value.Serves.imp (serves : value.Serves store demand)
    (less : ∀ place name, other place name → demand place name) : value.Serves store other :=
  fun place name field stands asked => serves place name field stands (less place name asked)

/-- The fields of a value are resolved, and those of all that stands one turn on. -/
theorem serves_iff : value.Serves store demand ↔
    (∀ name field, value.field? name = some field → demand [] name →
      field.isResolved store = true) ∧
    ∀ turn inner, value.turn? store turn = some inner →
      inner.Serves store fun place => demand (turn :: place) := by
  constructor
  · intro serves
    refine ⟨fun name => serves [] name, fun turn inner next place name field stands => ?_⟩
    refine serves (turn :: place) name field ?_
    rw [fieldAt?_cons, next]
    exact stands
  · rintro ⟨own, onward⟩ (_ | ⟨turn, place⟩) name field stands asked
    · exact own name field stands asked
    · rw [fieldAt?_cons] at stands
      obtain ⟨inner, next, stands⟩ := Option.bind_eq_some_iff.mp stands
      exact onward turn inner next place name field stands asked

/-- The fields that were resolved stay resolved, and a closed demand reaches no new place. -/
theorem Value.Serves.persists (closed : demand.Closed) (persists : before.Persists after)
    (serves : value.Serves before demand) : value.Serves after demand := by
  intro place
  induction place generalizing value demand with
  | nil =>
    intro name field stands asked
    have resolved := serves [] name field stands asked
    rw [isResolved_eq, Option.isSome_iff_exists] at resolved ⊢
    obtain ⟨content, known⟩ := resolved
    exact ⟨content, field.known?_persists persists known⟩
  | cons turn rest inductionHypothesis =>
    intro name field stands asked
    rw [fieldAt?_cons] at stands
    obtain ⟨inner, next, stands⟩ := Option.bind_eq_some_iff.mp stands
    have same : value.turn? before turn = some inner := by
      cases turn with
      | item index => exact next
      | field own =>
        -- The field on the way is asked for as well, so it was resolved.
        obtain ⟨first, found, known⟩ := Option.bind_eq_some_iff.mp next
        have resolved := serves [] own first found (closed [] own rest name asked)
        rw [isResolved_eq, Option.isSome_iff_exists] at resolved
        obtain ⟨content, was⟩ := resolved
        obtain rfl := Option.some.inj ((first.known?_persists persists was).symm.trans known)
        exact Option.bind_eq_some_iff.mpr ⟨first, found, was⟩
    exact inductionHypothesis (closed.turn turn) ((serves_iff.mp serves).2 turn inner same)
      name field stands asked

/-- Nothing is asked for on a path whose first field is missing. -/
theorem serves_missing {first : String}
    (missing : value.field? first = none) : value.Serves store (.along (first :: path)) := by
  refine serves_iff.mpr ⟨fun name field found asked => ?_,
    fun turn inner next place name field _ asked => ?_⟩
  · rw [Demand.along_here.mp asked, missing] at found
    cases found
  · rw [(Demand.along_turn.mp asked).1, turn?_missing missing] at next
    cases next

/-- The fields on a path are resolved, if the first one is and the others are in its value. -/
theorem serves_along {first : String} {field : Field}
    (stands : value.field? first = some field) (known : field.known? store = some inner)
    (serves : inner.Serves store (.along path)) : value.Serves store (.along (first :: path)) := by
  refine serves_iff.mpr ⟨fun name other here asked => ?_,
    fun turn other turned place name below here asked => ?_⟩
  · obtain rfl := Demand.along_here.mp asked
    obtain rfl : other = field := Option.some.inj (here.symm.trans stands)
    rw [isResolved_eq, known]
    rfl
  · obtain ⟨rfl, onward⟩ := Demand.along_turn.mp asked
    obtain rfl := Option.some.inj ((turn?_field stands known).symm.trans turned)
    exact serves place name below here onward

/-! ## Fields that are read -/

namespace Value.Reads

theorem persists (reads : value.Reads registry demand before after) : before.Persists after := by
  induction reads with
  | refl => exact .refl before
  | tail _ step inductionHypothesis =>
    obtain ⟨_, _, field, _, _, rfl⟩ := step
    exact inductionHypothesis.trans (read_persists registry field _)

theorem imp (reads : value.Reads registry demand before after)
    (more : ∀ place name, demand place name → other place name) :
    value.Reads registry other before after := by
  induction reads with
  | refl => exact .refl
  | tail _ step inductionHypothesis =>
    obtain ⟨place, name, field, asked, rest⟩ := step
    exact inductionHypothesis.tail ⟨place, name, field, more place name asked, rest⟩

theorem single {field : Field} (stands : value.field? name = some field) (asked : demand [] name) :
    value.Reads registry demand store (field.read registry store).2 :=
  Relation.ReflTransGen.single ⟨[], name, field, asked, stands, rfl⟩

/-- What is read in a part of a value is read in the value. -/
theorem behind {start : Place} (stands : value.at? before start = some inner)
    (reads : inner.Reads registry demand before after) :
    value.Reads registry (.behind start demand) before after := by
  induction reads with
  | refl => exact .refl
  | tail earlier step inductionHypothesis =>
    obtain ⟨place, name, field, asked, found, rfl⟩ := step
    refine inductionHypothesis.tail ⟨start ++ place, name, field, ⟨place, rfl, asked⟩, ?_, rfl⟩
    rw [Value.fieldAt?, at?_append, at?_persists (persists earlier) stands]
    exact found

theorem turn {turn : Turn} (next : value.turn? before turn = some inner)
    (reads : inner.Reads registry demand before after) :
    value.Reads registry (.behind [turn] demand) before after :=
  reads.behind (at?_turn next)

/-- On a path the first field is read, and then the others in its value. -/
theorem along {first : String} {field : Field}
    (stands : value.field? first = some field)
    (next : value.turn? (field.read registry before).2 (.field first) = some inner)
    (reads : inner.Reads registry (.along path) (field.read registry before).2 after) :
    value.Reads registry (.along (first :: path)) before after := by
  refine (single stands (Demand.along_here.mpr rfl)).trans ((reads.turn next).imp ?_)
  rintro place name ⟨below, rfl, asked⟩
  exact Demand.along_turn.mpr ⟨rfl, asked⟩

end Value.Reads

/-! ## What operations read -/

namespace Ground

variable {ground grown : Ground registry}

/-- Between two stores nothing is read of a value but what is asked for, and all of that is
resolved. -/
def Explores (ground : Ground registry) (value : Value) (demand : Demand) (after : Store) : Prop :=
  ∃ grown : Ground registry, ground ≤ grown ∧ grown.store = after ∧
    value.Reads registry demand ground.store after ∧ value.Serves after demand

/-- Nothing is read where nothing is there to be read. -/
theorem Explores.nothing (ground : Ground registry) (nothing : ∀ place name, demand place name →
    value.fieldAt? ground.store place name = none) : ground.Explores value demand ground.store :=
  ⟨ground, le_refl ground, rfl, .refl, serves_nothing nothing⟩

/-- Reading one field. -/
theorem Made.readField_explores {identity : Nat} {fields : Entries Field}
    (made : ground.Made (.object identity fields)) (name : String) :
    ground.Explores (.object identity fields) (fun place other => place = [] ∧ other = name)
      (readField registry fields name ground.store).2 := by
  cases stands : fields.value? name with
  | none =>
    simp only [readField, stands]
    refine .nothing ground ?_
    rintro place other ⟨rfl, rfl⟩
    exact stands
  | some field =>
    simp only [readField, stands]
    obtain ⟨grown, grows, same, _, known⟩ := made.read stands
    refine ⟨grown, grows, same, .single stands ⟨rfl, rfl⟩, ?_⟩
    rintro place other found here ⟨rfl, rfl⟩
    obtain rfl : found = field := Option.some.inj (here.symm.trans stands)
    rw [isResolved_eq, ← same, known]
    rfl

/-- Following a path. The fields are read up to the first name that is missing, and what stands at
the place of the path then is what is found. -/
theorem Made.get?_explores (made : ground.Made value) (path : List String) :
    ∃ grown : Ground registry, ground ≤ grown ∧
      grown.store = (value.get? registry path ground.store).2 ∧
      value.Reads registry (.along path) ground.store grown.store ∧
      value.Serves grown.store (.along path) ∧
      value.at? grown.store (Place.ofPath path) = (value.get? registry path ground.store).1 := by
  induction path generalizing value ground with
  | nil =>
    exact ⟨ground, le_refl ground, rfl, .refl,
      fun _ _ _ _ asked => absurd asked Demand.along_nil, rfl⟩
  | cons first rest inductionHypothesis =>
    cases stands : value.field? first with
    | none =>
      rw [get?_missing stands]
      refine ⟨ground, le_refl ground, rfl, .refl, serves_missing stands, ?_⟩
      rw [Place.ofPath, List.map_cons, Value.at?, turn?_missing stands]
      rfl
    | some field =>
      obtain ⟨identity, fields, rfl, _⟩ := field?_some stands
      have found : Entries.value? fields first = some field := stands
      obtain ⟨read, growsRead, sameRead, madeRead, known⟩ := made.read stands
      obtain ⟨grown, grows, same, reads, serves, finds⟩ := inductionHypothesis madeRead
      have next := turn?_field stands known
      have knownOn := field.known?_persists grows.1.persists known
      rw [sameRead] at same reads finds next
      simp only [get?_object, readField, found]
      refine ⟨grown, le_trans growsRead grows, same, .along stands next reads,
        serves_along stands knownOn serves, ?_⟩
      rw [Place.ofPath, List.map_cons, Value.at?, turn?_field stands knownOn]
      exact finds

theorem Made.path_explores (made : ground.Made value) (path : List String) :
    ground.Explores value (.along path) (value.get? registry path ground.store).2 := by
  obtain ⟨grown, grows, same, reads, serves, _⟩ := made.get?_explores path
  exact ⟨grown, grows, same, same ▸ reads, same ▸ serves⟩

/-- What is found at the end of a path is explored further. -/
theorem Explores.through {inner : Value} {path : List String} {after : Store}
    (made : ground.Made value)
    (finds : (value.get? registry path ground.store).1 = some inner)
    (onward : ∀ grown : Ground registry, ground ≤ grown → grown.Made inner →
      grown.store = (value.get? registry path ground.store).2 →
        grown.Explores inner demand after) :
    ground.Explores value (.through path demand) after := by
  obtain ⟨between, grows, same, reads, serves, stands⟩ := made.get?_explores path
  rw [finds] at stands
  obtain ⟨grown, growsOn, rfl, readsOn, servesOn⟩ :=
    onward between grows ((made.grows grows).at stands) same
  refine ⟨grown, le_trans grows growsOn, rfl, ?_, ?_⟩
  · exact (reads.imp fun _ _ on => .inl on).trans
      ((readsOn.behind stands).imp fun _ _ behind => .inr behind)
  · rintro place name field here (on | ⟨below, rfl, asked⟩)
    · exact serves.persists (Demand.along_closed path) growsOn.1.persists place name field here on
    · rw [Value.fieldAt?, at?_append, at?_persists growsOn.1.persists stands] at here
      exact servesOn below name field here asked

/-- Behind the end of a path that leads nowhere nothing is to be read. -/
theorem Made.nowhere (made : ground.Made value) {path : List String}
    (finds : (value.get? registry path ground.store).1 = none) (demand : Demand) :
    ground.Explores value (.through path demand) (value.get? registry path ground.store).2 := by
  obtain ⟨grown, grows, same, reads, serves, stands⟩ := made.get?_explores path
  rw [finds] at stands
  rw [← same]
  refine ⟨grown, grows, rfl, reads.imp fun _ _ on => .inl on, ?_⟩
  rintro place name field here (on | ⟨below, rfl, asked⟩)
  · exact serves place name field here on
  · rw [Value.fieldAt?, at?_append, stands] at here
    cases here

/-- What is explored of an item is explored of the list. -/
theorem Explores.item {items : List Value} {index : Nat} {after : Store}
    (explores : ground.Explores inner demand after)
    (chosen : (Value.list items).turn? ground.store (.item index) = some inner) :
    ground.Explores (.list items) (.behind [.item index] demand) after := by
  obtain ⟨grown, grows, same, reads, serves⟩ := explores
  refine ⟨grown, grows, same, reads.turn chosen, ?_⟩
  rintro place name field stands ⟨below, rfl, asked⟩
  have still : (Value.list items).turn? after (.item index) = some inner := chosen
  rw [List.singleton_append, fieldAt?_cons, still] at stands
  exact serves below name field stands asked

/-! ### Iterations and conversions -/

/-- Reads fields in order and goes on from each value. -/
def sweep (registry : Registry) (onward : Value → Store → Store) :
    List (String × Field) → Store → Store
  | [], store => store
  | (_, field) :: rest, store =>
    let (value, store) := field.read registry store
    sweep registry onward rest (onward value store)

theorem visitFields_sweep (fields : List (String × Field)) (store : Store) :
    (visitFields registry (fun name value store => ((name, store.snapshot value), store)) fields
      store).2 = sweep registry (fun _ store => store) fields store := by
  induction fields generalizing store with
  | nil => rfl
  | cons entry rest inductionHypothesis => exact inductionHypothesis _

theorem materializeFields_sweep (convert : Value → Store → Json × Store)
    (fields : List (String × Field)) (store : Store) :
    (materializeFields registry convert fields store).2 =
      sweep registry (fun value store => if value.isAbsent then store else (convert value store).2)
        fields store := by
  induction fields generalizing store with
  | nil => rfl
  | cons entry rest inductionHypothesis =>
    simp only [materializeFields, sweep]
    by_cases absent : (entry.2.read registry store).1.isAbsent = true
    · simp only [absent, if_true, inductionHypothesis]
    · simp only [absent, inductionHypothesis]
      rfl

/-- A sweep reads the fields of an object, and of each value what is asked for in values. -/
theorem Made.sweep_reads {identity : Nat} {fields : List (String × Field)}
    (closed : demand.Closed) {onward : Value → Store → Store}
    (explores : ∀ grown : Ground registry, ∀ value, grown.Made value →
      grown.Explores value demand (onward value grown.store))
    (swept : List (String × Field)) (among : ∀ entry ∈ swept, entry ∈ fields)
    (made : ground.Made (.object identity fields)) :
    ∃ grown : Ground registry, ground ≤ grown ∧
      grown.store = sweep registry onward swept ground.store ∧
      (Value.object identity fields).Reads registry demand.inside ground.store grown.store ∧
      ∀ entry ∈ swept, ∃ content, entry.2.known? grown.store = some content ∧
        content.Serves grown.store demand := by
  induction swept generalizing ground with
  | nil => exact ⟨ground, le_refl ground, rfl, .refl, fun _ none => absurd none List.not_mem_nil⟩
  | cons entry rest inductionHypothesis =>
    obtain ⟨name, field⟩ := entry
    have stands : (Value.object identity fields).field? name = some field :=
      Entries.value?_of_mem made.once (among _ List.mem_cons_self)
    obtain ⟨read, growsRead, sameRead, madeRead, known⟩ := made.read stands
    obtain ⟨between, growsOn, sameOn, readsOn, servesOn⟩ := explores read _ madeRead
    have grows := le_trans growsRead growsOn
    obtain ⟨grown, growsLast, same, reads, others⟩ := inductionHypothesis
      (fun entry member => among entry (List.mem_cons_of_mem _ member)) (made.grows grows)
    refine ⟨grown, le_trans grows growsLast, ?_, ?_, ?_⟩
    · rw [same, sameOn, sameRead]
      rfl
    · have own : (Value.object identity fields).Reads registry demand.inside
          ground.store read.store := by
        rw [sameRead]
        exact .single stands (.inl rfl)
      refine (own.trans ((readsOn.turn (turn?_field stands known)).imp ?_)).trans (sameOn ▸ reads)
      rintro place other ⟨below, rfl, asked⟩
      exact .inr ⟨name, below, rfl, asked⟩
    · refine List.forall_mem_cons.mpr ⟨⟨(field.read registry ground.store).1, ?_, ?_⟩, others⟩
      · exact field.known?_persists (growsOn.1.persists.trans growsLast.1.persists) known
      · rw [← sameOn] at servesOn
        exact servesOn.persists closed growsLast.1.persists

/-- After a sweep of an object its own fields are resolved, and what is asked for in them. -/
theorem Made.sweep_explores {identity : Nat} {fields : Entries Field} {inner : Demand}
    (closed : inner.Closed) {onward : Value → Store → Store}
    (explores : ∀ grown : Ground registry, ∀ value, grown.Made value →
      grown.Explores value inner (onward value grown.store))
    (own : ∀ name, demand [] name)
    (below : ∀ name rest other, demand (.field name :: rest) other ↔ inner rest other)
    (made : ground.Made (.object identity fields)) :
    ground.Explores (.object identity fields) demand
      (sweep registry onward fields ground.store) := by
  obtain ⟨grown, grows, same, reads, swept⟩ :=
    made.sweep_reads closed explores fields fun _ member => member
  rw [← same]
  refine ⟨grown, grows, rfl, reads.imp ?_, serves_iff.mpr ⟨?_, ?_⟩⟩
  · rintro place name (rfl | ⟨first, rest, rfl, asked⟩)
    · exact own name
    · exact (below first rest name).mpr asked
  · intro name field stands _
    obtain ⟨content, known, _⟩ := swept _ (Entries.mem_of_value? stands)
    rw [isResolved_eq, known]
    rfl
  · intro turn next turned
    cases turn with
    | item index => cases turned
    | field name =>
      obtain ⟨field, stands, known⟩ := Option.bind_eq_some_iff.mp turned
      obtain ⟨content, same, serves⟩ := swept _ (Entries.mem_of_value? stands)
      obtain rfl := Option.some.inj (same.symm.trans known)
      exact serves.imp fun place other => (below name place other).mp

mutual

/-- A conversion explores a value if it explores objects, as far as items are no level deeper. -/
theorem materializeWith_explores {demand : Demand} (closed : demand.Closed)
    (flat : ∀ index rest name, demand (.item index :: rest) name ↔ demand rest name)
    {convert : Entries Field → Store → Json × Store}
    (converts : ∀ (grown : Ground registry) identity fields,
      grown.Made (.object identity fields) →
        grown.Explores (.object identity fields) demand (convert fields grown.store).2)
    (ground : Ground registry) : (value : Value) → ground.Made value →
    ground.Explores value demand (materializeWith convert value ground.store).2
  | .object identity fields, made => converts ground identity fields made
  | .list items, made => by
    obtain ⟨grown, grows, same, reads, serves⟩ := materializeItems_explore closed flat converts
      ground items [] fun item => made.item
    refine ⟨grown, grows, same, same ▸ reads, same ▸ serves_iff.mpr ⟨?_, ?_⟩⟩
    · intro name field stands
      cases stands
    · intro turn inner turned
      cases turn with
      | field name => cases turned
      | item index =>
        have chosen : items[index]? = some inner := turned
        exact (serves inner (List.mem_of_getElem? chosen)).imp fun place name =>
          (flat index place name).mp
  | .absent, _ | .null, _ | .boolean _, _ | .int _, _ | .float _, _ | .string _, _
  | .enum _, _ | .raw _, _ => by
    exact .nothing ground fun place name _ => fieldAt?_leaf rfl rfl place name

theorem materializeItems_explore {demand : Demand} (closed : demand.Closed)
    (flat : ∀ index rest name, demand (.item index :: rest) name ↔ demand rest name)
    {convert : Entries Field → Store → Json × Store}
    (converts : ∀ (grown : Ground registry) identity fields,
      grown.Made (.object identity fields) →
        grown.Explores (.object identity fields) demand (convert fields grown.store).2)
    (ground : Ground registry) : (items passed : List Value) →
    (∀ item ∈ items, ground.Made item) →
    ∃ grown : Ground registry, ground ≤ grown ∧
      grown.store = (materializeItems convert items ground.store).2 ∧
      (Value.list (passed ++ items)).Reads registry demand ground.store grown.store ∧
      ∀ item ∈ items, item.Serves grown.store demand
  | [], _, _ => ⟨ground, le_refl ground, rfl, .refl, fun _ none => absurd none List.not_mem_nil⟩
  | item :: rest, passed, made => by
    obtain ⟨first, others⟩ := List.forall_mem_cons.mp made
    obtain ⟨between, grows, same, readsItem, servesItem⟩ :=
      materializeWith_explores closed flat converts ground item first
    obtain ⟨grown, growsOn, sameOn, reads, serves⟩ := materializeItems_explore closed flat converts
      between rest (passed ++ [item]) fun other member => (others other member).grows grows
    rw [← same] at readsItem servesItem
    rw [List.append_assoc, List.singleton_append] at reads
    have chosen : (Value.list (passed ++ item :: rest)).turn? ground.store (.item passed.length) =
        some item := by
      simp [Value.turn?, Value.items?]
    refine ⟨grown, le_trans grows growsOn, ?_, ?_,
      List.forall_mem_cons.mpr ⟨servesItem.persists closed growsOn.1.persists, serves⟩⟩
    · rw [sameOn, same]
      rfl
    · refine ((readsItem.turn chosen).imp ?_).trans reads
      rintro place name ⟨below, rfl, asked⟩
      exact (flat _ below name).mpr asked

end

theorem deep_flat (depth : Nat) (index : Nat) (rest : Place) (name : String) :
    Demand.deep depth (.item index :: rest) name ↔ Demand.deep depth rest name := Iff.rfl

/-- Converting an object to a depth explores it to the depth. -/
theorem materializeObject_explores (depth : Nat) : ∀ (ground : Ground registry) identity fields,
    ground.Made (.object identity fields) →
      ground.Explores (.object identity fields) (.deep depth)
        (materializeObject registry depth fields ground.store).2 := by
  induction depth with
  | zero =>
    intro ground identity fields made
    obtain ⟨grown, grows, same, reads, serves⟩ := made.readField_explores typenameField
    refine ⟨grown, grows, same, reads.imp ?_, serves_iff.mpr ⟨?_, ?_⟩⟩
    · rintro place name ⟨rfl, rfl⟩
      exact .inr ⟨rfl, rfl⟩
    · rintro name field stands (less | ⟨-, rfl⟩)
      · exact absurd less (Nat.not_lt_zero _)
      · exact serves [] typenameField field stands ⟨rfl, rfl⟩
    · intro turn inner turned place name field _ asked
      cases turn with
      | item index => cases turned
      | field own => simp [Demand.deep, Place.levels] at asked
  | succ depth inductionHypothesis =>
    intro ground identity fields made
    rw [materializeObject]
    simp only [materializeFields_sweep]
    refine made.sweep_explores (Demand.deep_closed depth) ?_ ?_ ?_
    · intro grown value made
      by_cases absent : value.isAbsent = true
      · rw [if_pos absent]
        refine .nothing grown fun place name _ => ?_
        cases value with
        | absent => exact fieldAt?_leaf rfl rfl place name
        | null | boolean _ | int _ | float _ | string _ | enum _ | raw _ | list _ | object _ _ =>
          cases absent
      · rw [if_neg absent]
        exact materializeWith_explores (Demand.deep_closed depth) (deep_flat depth)
          inductionHypothesis grown value made
    · exact fun name => .inl (Nat.succ_pos depth)
    · intro name rest other
      simp [Demand.deep, Place.levels]

/-! ### Readings -/

/-- A reading about an object asks for nothing in a value that is none. -/
theorem aboutObject_explores {answer : Entries Field → Store → Answer × Store}
    (own : ∀ place name, demand place name → place = [])
    (explores : ∀ identity fields, ground.Made (.object identity fields) →
      ground.Explores (.object identity fields) demand (answer fields ground.store).2)
    (made : ground.Made value) :
    ground.Explores value demand (aboutObject value ground.store answer).2 := by
  cases value with
  | object identity fields => exact explores identity fields made
  | absent | null | boolean _ | int _ | float _ | string _ | enum _ | raw _ | list _ =>
    refine .nothing ground fun place name asked => ?_
    rw [own place name asked]
    rfl

/-- A reading of what a path finds, if it explores what it asks for of any value. -/
theorem Made.asked_explores (made : ground.Made value) (reading : Reading) (path : List String)
    (explores : ∀ {ground : Ground registry} {target : Value}, ground.Made target →
      ground.Explores target reading.demand (reading.answer registry target ground.store).2) :
    ground.Explores value (.through path reading.demand)
      (match value.get? registry path ground.store with
        | (some target, store) => (reading.answer registry target store).2
        | (none, store) => store) := by
  cases finds : (value.get? registry path ground.store).1 with
  | none =>
    have nowhere := made.nowhere finds reading.demand
    generalize value.get? registry path ground.store = found at finds nowhere ⊢
    obtain ⟨_ | target, after⟩ := found
    · exact nowhere
    · cases finds
  | some target =>
    have through (grown : Ground registry) (_ : ground ≤ grown) (made : grown.Made target)
        (same : grown.store = (value.get? registry path ground.store).2) :
        grown.Explores target reading.demand
          (reading.answer registry target (value.get? registry path ground.store).2).2 :=
      same ▸ explores made
    have explored := Explores.through made finds through
    generalize value.get? registry path ground.store = found at finds explored ⊢
    obtain ⟨_ | own, after⟩ := found
    · cases finds
    · obtain rfl : own = target := Option.some.inj finds
      exact explored

/-- Every reading reads what it asks for and nothing else. -/
theorem Made.answer_explores (reading : Reading) (made : ground.Made value) :
    ground.Explores value reading.demand (reading.answer registry value ground.store).2 := by
  induction reading generalizing value ground with
  | value | text | parts => exact .nothing ground fun _ _ asked => asked.elim
  | isResolved _ | contains _ | names | size | objectText =>
    refine aboutObject_explores (fun _ _ asked => asked.elim) ?_ made
    exact fun _ _ _ => .nothing ground fun _ _ asked => asked.elim
  | field name =>
    refine aboutObject_explores (fun _ _ asked => asked.1) ?_ made
    exact fun _ _ made => made.readField_explores name
  | typename =>
    refine aboutObject_explores (fun _ _ asked => asked.1) ?_ made
    exact fun _ _ made => made.readField_explores typenameField
  | visit =>
    refine aboutObject_explores (fun _ _ asked => asked) (fun identity fields made => ?_) made
    rw [visitFields_sweep]
    have closed : Demand.Closed fun _ _ => False := fun _ _ _ _ asked => asked
    refine made.sweep_explores closed ?_ (fun _ => rfl) fun name rest other => ?_
    · exact fun grown value _ => .nothing grown fun _ _ asked => asked.elim
    · simp [Reading.demand]
  | materialize depth =>
    exact materializeWith_explores (Demand.deep_closed depth) (deep_flat depth)
      (materializeObject_explores depth) ground value made
  | onItem index path reading inductionHypothesis =>
    cases value with
    | list items =>
      cases chosen : items[index]? with
      | none =>
        simp only [Reading.answer, chosen]
        refine .nothing ground ?_
        rintro place name ⟨below, rfl, _⟩
        have missing : (Value.list items).turn? ground.store (.item index) = none := chosen
        rw [List.singleton_append, fieldAt?_cons, missing]
        rfl
      | some item =>
        have madeItem := made.item (List.mem_of_getElem? chosen)
        have placed : (Value.list items).turn? ground.store (.item index) = some item := chosen
        have explored := madeItem.asked_explores reading path inductionHypothesis
        refine Explores.item ?_ placed
        simp only [Reading.answer, chosen]
        generalize item.get? registry path ground.store = found at explored ⊢
        obtain ⟨_ | target, after⟩ := found <;> exact explored
    | absent | null | boolean _ | int _ | float _ | string _ | enum _ | raw _ | object _ _ =>
      refine .nothing ground ?_
      rintro place name ⟨below, rfl, _⟩
      rfl

end Ground

end SchemaFixtures.Fixture
