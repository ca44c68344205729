import SchemaFixtures.Proofs.Fixture.DisciplinedRun

/-!
# How a store develops

Whatever is done to values, a store only ever gets more: cells keep their values, and what appears
in a cell that was empty is made of parts that were not there before, and shares nothing with what
appears in another cell. So parts that are apart stay apart, and what is made is apart from all
that was there.

What is apart from some parts is a discipline. It survives if nothing is worked on and nothing is
copied but values that are apart from these parts, and then the cells that these parts reach are
left as they are.
-/

namespace SchemaFixtures.Fixture

/-- The parts of what has appeared in the cells of a store are there. -/
def Store.Bounded (store : Store) : Prop :=
  ∀ cell content, store.value? cell = some content → content.Within fun part => store.Has part.key

/-- What one store becomes. -/
structure Store.Develops (before after : Store) : Prop where
  has : ∀ key, before.Has key → after.Has key
  persists : before.Persists after
  fresh : ∀ cell content, before.value? cell = none → after.value? cell = some content →
    content.Within fun part => ¬ before.Has part.key
  single : ∀ cell other content another, before.value? cell = none → before.value? other = none →
    after.value? cell = some content → after.value? other = some another →
    ∀ part ∈ content.parts, ∀ shared ∈ another.parts, part.key = shared.key → cell = other

namespace Store

variable {before between after store : Store} {left right start : List Part}

theorem has_of_value? {cell : Cell} {content : Value}
    (filled : store.value? cell = some content) : store.Has (.cell cell) := by
  have stands := Option.join_eq_some_iff.mp filled
  exact (Array.getElem?_eq_some_iff.mp stands).1

/-- What is reached from parts that are there is there. -/
theorem Bounded.reaches (bounded : store.Bounded) (has : ∀ part ∈ start, store.Has part.key)
    {part : Part} (reached : store.Reaches start part) : store.Has part.key := by
  induction reached with
  | here stands => exact has _ stands
  | through _ filled stands _ => exact bounded _ _ filled _ stands

/-- With the same values in the cells the same is reached. -/
theorem reaches_of_values (same : after.value? = before.value?) {part : Part}
    (reached : after.Reaches start part) : before.Reaches start part := by
  induction reached with
  | here stands => exact .here stands
  | through _ filled stands inductionHypothesis =>
    exact .through inductionHypothesis (same ▸ filled) stands

namespace Develops

/-- A store in which no value has appeared. -/
theorem of_values (same : after.value? = before.value?)
    (has : ∀ key, before.Has key → after.Has key) : before.Develops after := by
  refine ⟨has, .of_values same, fun cell content empty filled => ?_,
    fun cell other content another empty _ filled => ?_⟩
  · rw [same, empty] at filled
    cases filled
  · rw [same, empty] at filled
    cases filled

theorem refl (store : Store) : store.Develops store := .of_values rfl fun _ has => has

theorem trans (first : before.Develops between) (bounded : between.Bounded)
    (second : between.Develops after) : before.Develops after := by
  -- A cell was filled in one of the two developments, and has kept what it was filled with.
  have filled {cell : Cell} {content : Value} (filled : after.value? cell = some content) :
      between.value? cell = some content ∨ between.value? cell = none := by
    cases known : between.value? cell with
    | none => exact .inr rfl
    | some other => exact .inl ((second.persists cell other known).symm.trans filled)
  refine ⟨fun key has => second.has key (first.has key has), first.persists.trans second.persists,
    fun cell content empty appeared => ?_,
    fun cell other content another empty otherEmpty appeared otherAppeared part stands shared
      standsOther same => ?_⟩
  · rcases filled appeared with early | late
    · exact first.fresh cell content empty early
    · exact (second.fresh cell content late appeared).imp fun part new has =>
        new (first.has part.key has)
  · rcases filled appeared with early | late <;>
      rcases filled otherAppeared with earlyOther | lateOther
    · exact first.single cell other content another empty otherEmpty early earlyOther part stands
        shared standsOther same
    · have new := second.fresh other another lateOther otherAppeared shared standsOther
      exact absurd (same ▸ bounded cell content early part stands) new
    · have new := second.fresh cell content late appeared part stands
      exact absurd (same ▸ bounded other another earlyOther shared standsOther) new
    · exact second.single cell other content another late lateOther appeared otherAppeared part
        stands shared standsOther same

/-- What was reached is reached. -/
theorem reaches (develops : before.Develops after) {part : Part}
    (reached : before.Reaches start part) : after.Reaches start part := by
  induction reached with
  | here stands => exact .here stands
  | through _ filled stands inductionHypothesis =>
    exact .through inductionHypothesis (develops.persists _ _ filled) stands

/-- What is reached and was there was reached. -/
theorem reached_before (develops : before.Develops after) {part : Part}
    (reached : after.Reaches start part) (has : before.Has part.key) :
    before.Reaches start part := by
  induction reached with
  | here stands => exact .here stands
  | @through place _ content part _ filled stands inductionHypothesis =>
    cases known : before.value? place with
    | none => exact absurd has (develops.fresh place content known filled part stands)
    | some other =>
      obtain rfl : other = content :=
        Option.some.inj ((develops.persists place other known).symm.trans filled)
      exact .through (inductionHypothesis (has_of_value? known)) known stands

/-- Parts that are new reach only what is new. -/
theorem reaches_new (develops : before.Develops after)
    (new : ∀ part ∈ start, ¬ before.Has part.key) {part : Part}
    (reached : after.Reaches start part) : ¬ before.Has part.key := by
  induction reached with
  | here stands => exact new _ stands
  | @through place _ content part _ filled stands inductionHypothesis =>
    cases known : before.value? place with
    | none => exact develops.fresh place content known filled part stands
    | some other => exact absurd (has_of_value? known) inductionHypothesis

/-- What is reached is there, or stands in a cell that was filled since. -/
theorem reached_cases (develops : before.Develops after) (bounded : before.Bounded)
    (has : ∀ part ∈ start, before.Has part.key) {part : Part}
    (reached : after.Reaches start part) : before.Has part.key ∨
      ∃ place default content, after.Reaches start (.cell place default) ∧
        before.value? place = none ∧ after.value? place = some content ∧
        part ∈ content.parts := by
  cases reached with
  | here stands => exact .inl (has _ stands)
  | @through place default content _ reached filled stands =>
    cases known : before.value? place with
    | none => exact .inr ⟨place, default, content, reached, known, filled, stands⟩
    | some other =>
      obtain rfl : other = content :=
        Option.some.inj ((develops.persists place other known).symm.trans filled)
      exact .inl (bounded place other known part stands)

/-- Parts that are apart stay apart. -/
theorem apart (develops : before.Develops after) (bounded : before.Bounded)
    (hasLeft : ∀ part ∈ left, before.Has part.key) (hasRight : ∀ part ∈ right, before.Has part.key)
    (apart : before.Apart left right) : after.Apart left right := by
  intro part other reached
  induction reached generalizing other with
  | @here part stands =>
    intro found same
    have has := hasLeft part stands
    exact apart part other (.here stands) (develops.reached_before found (same ▸ has)) same
  | @through place default content part reached filled stands inductionHypothesis =>
    intro found same
    cases known : before.value? place with
    | some old =>
      obtain rfl : old = content :=
        Option.some.inj ((develops.persists place old known).symm.trans filled)
      have has := bounded place old known part stands
      have reachedPart := develops.reached_before (.through reached filled stands) has
      exact apart part other reachedPart (develops.reached_before found (same ▸ has)) same
    | none =>
      have new := develops.fresh place content known filled part stands
      rcases develops.reached_cases bounded hasRight found with has | inside
      · exact new (same ▸ has)
      · -- Both stand in one cell, which is reached from the right as well.
        obtain ⟨shared, otherDefault, another, foundCell, empty, appeared, standsOther⟩ := inside
        obtain rfl := develops.single place shared content another known empty filled appeared
          part stands other standsOther same
        exact inductionHypothesis _ foundCell rfl

end Develops

/-! ## What is done to a store -/

theorem newObject_develops (store : Store) (fields : Entries Field) :
    store.Develops (store.newObject fields).2 := by
  have more : store.objects ≤ (store.newObject fields).2.objects := Nat.le_succ _
  exact .of_values rfl fun key has => has.grows more (Nat.le_refl _)

theorem evaluate_develops (registry : Registry) (default : Default) (store : Store) :
    store.Develops (default.evaluate registry store).2 :=
  have fresh := evaluate_fresh registry default store
  .of_values fresh.1 fresh.2.1

theorem fill_has {place : Cell} {value : Value} {key : Key} :
    (store.fill place value).Has key ↔ store.Has key := by
  cases key with
  | object identity => rfl
  | cell other => rw [Has, Has, fill, Array.size_setIfInBounds]

theorem value?_fill_self {place : Cell} (inside : store.Has (.cell place)) (value : Value) :
    (store.fill place value).value? place = some value := by
  have bound : place.index < store.cells.size := inside
  simp [value?, fill, bound]

theorem fill_develops (registry : Registry) (default : Default) {place : Cell}
    (empty : store.value? place = none) :
    store.Develops ((default.evaluate registry store).2.fill place
      (default.evaluate registry store).1) := by
  obtain ⟨same, has, fresh⟩ := evaluate_fresh registry default store
  have only {cell : Cell} {content : Value} (known : store.value? cell = none)
      (filled : ((default.evaluate registry store).2.fill place
        (default.evaluate registry store).1).value? cell = some content) :
      cell = place ∧ content = (default.evaluate registry store).1 := by
    rcases value?_fill filled with own | old
    · exact own
    · rw [same, known] at old
      cases old
  refine ⟨fun key inside => fill_has.mpr (has key inside),
    (Store.Persists.of_values same).trans (.fill (by rw [same, empty]) _),
    fun cell content known filled part stands => ?_,
    fun cell other _ _ known otherKnown filled otherFilled _ _ _ _ _ => ?_⟩
  · obtain ⟨-, rfl⟩ := only known filled
    exact (fresh part stands).2
  · exact (only known filled).1.trans (only otherKnown otherFilled).1.symm

theorem value?_fill_other {place other : Cell} (differ : place ≠ other) (value : Value) :
    (store.fill place value).value? other = store.value? other := by
  have apart : place.index ≠ other.index := fun same => differ (congrArg Cell.mk same)
  rw [value?, value?, fill, Array.getElem?_setIfInBounds_ne apart]

theorem Bounded.newObject (bounded : store.Bounded) (fields : Entries Field) :
    (store.newObject fields).2.Bounded :=
  fun cell content filled => (bounded cell content filled).imp fun part =>
    (newObject_develops store fields).has part.key

theorem Bounded.evaluate (bounded : store.Bounded) (registry : Registry) (default : Default) :
    (default.evaluate registry store).2.Bounded := by
  obtain ⟨same, has, _⟩ := evaluate_fresh registry default store
  intro cell content filled
  rw [same] at filled
  exact (bounded cell content filled).imp fun part => has part.key

theorem Bounded.fill (bounded : store.Bounded) (registry : Registry) (default : Default)
    (place : Cell) : ((default.evaluate registry store).2.fill place
      (default.evaluate registry store).1).Bounded := by
  intro cell content filled part stands
  rw [fill_has]
  rcases value?_fill filled with ⟨-, rfl⟩ | old
  · exact ((evaluate_fresh registry default store).2.2 part stands).1
  · exact bounded.evaluate registry default cell content old part stands

/-- What is made is apart from all that was there. -/
theorem Develops.apart_new (develops : before.Develops after)
    (new : ∀ part ∈ left, ¬ before.Has part.key)
    (old : ∀ part, after.Reaches right part → before.Has part.key) : after.Apart left right :=
  fun _ other reached found same => develops.reaches_new new reached (same ▸ old other found)

/-- The value of a default is apart from parts that were there. -/
theorem evaluate_apart (registry : Registry) (default : Default) (bounded : store.Bounded)
    (has : ∀ part ∈ right, store.Has part.key) :
    (default.evaluate registry store).2.Apart (default.evaluate registry store).1.parts right := by
  obtain ⟨same, -, fresh⟩ := evaluate_fresh registry default store
  refine (evaluate_develops registry default store).apart_new
    (fun part stands => (fresh part stands).2) fun part reached => ?_
  exact bounded.reaches has (reaches_of_values same reached)

end Store

/-! ## Planned parts -/

/-- A cell is planned with the default that stands beside it. -/
def Part.Planned (plan : Plan) : Part → Prop
  | .object _ _ => True
  | .cell place default => plan[place.index]? = some default

theorem Part.Planned.grows {plan grown : Plan} (grows : plan <+: grown) {part : Part}
    (planned : part.Planned plan) : part.Planned grown := by
  cases part with
  | object identity fields => trivial
  | cell place default => exact planned_cell_grows grows planned

mutual

/-- A value is planned exactly if its parts are. -/
theorem planned_iff_within (plan : Plan) : (value : Value) →
    (value.Planned plan ↔ value.Within (Part.Planned plan))
  | .list items => by rw [Value.Planned, within_list, items_planned_iff_within plan items]
  | .object _ fields => by
    rw [Value.Planned, within_object, fields_planned_iff_within plan fields]
    exact ⟨fun all => ⟨trivial, all⟩, fun both => both.2⟩
  | .absent | .null | .boolean _ | .int _ | .float _ | .string _ | .enum _ | .raw _ => by
    simp [Value.Planned]

theorem items_planned_iff_within (plan : Plan) : (items : List Value) →
    (ItemsPlanned plan items ↔ ∀ item ∈ items, item.Within (Part.Planned plan))
  | [] => by simp [ItemsPlanned]
  | item :: rest => by
    rw [ItemsPlanned, List.forall_mem_cons, planned_iff_within plan item,
      items_planned_iff_within plan rest]

theorem fields_planned_iff_within (plan : Plan) : (fields : List (String × Field)) →
    (FieldsPlanned plan fields ↔ ∀ entry ∈ fields, entry.2.Within (Part.Planned plan))
  | [] => by simp [FieldsPlanned]
  | (_, field) :: rest => by
    rw [FieldsPlanned, List.forall_mem_cons, field_planned_iff_within plan field,
      fields_planned_iff_within plan rest]

theorem field_planned_iff_within (plan : Plan) : (field : Field) →
    (field.Planned plan ↔ field.Within (Part.Planned plan))
  | .held value => by rw [Field.Planned, within_held, planned_iff_within plan value]
  | .later cell default => by rw [Field.Planned, within_later, Part.Planned]

end

/-! ## Apart from some parts -/

/-- A store that has the parts of its contents, with the plan that it follows. -/
structure Ground (registry : Registry) where
  store : Store
  plan : Plan
  bounded : store.Bounded
  follows : store.Follows registry plan

instance {registry : Registry} : Preorder (Ground registry) where
  le ground grown := ground.store.Develops grown.store ∧ ground.plan <+: grown.plan
  le_refl ground := ⟨.refl ground.store, List.prefix_refl _⟩
  le_trans _ between _ first second :=
    ⟨first.1.trans between.bounded second.1, first.2.trans second.2⟩

namespace Ground

variable {registry : Registry} {ground : Ground registry} {parts : List Part} {start : Store}
  {still : Cell → Prop} {store : Store}

/-- A part is there and planned, and it is apart from some others, which are there. -/
structure Allows (parts : List Part) (ground : Ground registry) (part : Part) : Prop where
  has : ground.store.Has part.key
  planned : part.Planned ground.plan
  others : ∀ other ∈ parts, ground.store.Has other.key
  apart : ground.store.Apart [part] parts

/-- The store of a ground has some parts, and some of the cells that are reached from them have
not changed since another store. -/
structure Fits (parts : List Part) (start : Store) (still : Cell → Prop)
    (ground : Ground registry) (store : Store) : Prop where
  same : ground.store = store
  has : ∀ part ∈ parts, store.Has part.key
  still : ∀ cell, still cell → store.value? cell = start.value? cell ∧
    ∃ default, store.Reaches parts (.cell cell default)

theorem within_allows (others : ∀ other ∈ parts, ground.store.Has other.key) {value : Value} :
    value.Within (ground.Allows parts) ↔
      (value.Within fun part => ground.store.Has part.key) ∧ value.Planned ground.plan ∧
        ground.store.Apart value.parts parts := by
  rw [apart_iff, planned_iff_within]
  constructor
  · exact fun all => ⟨fun part stands => (all part stands).has,
      fun part stands => (all part stands).planned, fun part stands => (all part stands).apart⟩
  · exact fun both part stands =>
      ⟨both.1 part stands, both.2.1 part stands, others, both.2.2 part stands⟩

theorem Allows.mono {grown : Ground registry} {part : Part} (grows : ground ≤ grown)
    (allowed : ground.Allows parts part) : grown.Allows parts part := by
  refine ⟨grows.1.has _ allowed.has, allowed.planned.grows grows.2,
    fun other member => grows.1.has _ (allowed.others other member), ?_⟩
  exact grows.1.apart ground.bounded (List.forall_mem_singleton.mpr allowed.has) allowed.others
    allowed.apart

/-- Nothing has changed if no cell was filled. -/
theorem Fits.of_values {after : Ground registry} (fits : ground.Fits parts start still store)
    (develops : store.Develops after.store) (same : after.store.value? = store.value?) :
    after.Fits parts start still after.store := by
  refine ⟨rfl, fun part member => develops.has _ (fits.has part member), fun cell kept => ?_⟩
  obtain ⟨unchanged, default, reached⟩ := fits.still cell kept
  exact ⟨by rw [same, unchanged], default, develops.reaches reached⟩

theorem Fits.newObject (fits : ground.Fits parts start still store) (fields : Entries Field) :
    ∃ grown, ground ≤ grown ∧ grown.Fits parts start still (store.newObject fields).2 ∧
      grown.Allows parts (.object store.objects fields) := by
  obtain rfl := fits.same
  have develops := ground.store.newObject_develops fields
  have values : (ground.store.newObject fields).2.value? = ground.store.value? := rfl
  let grown : Ground registry := ⟨_, ground.plan, ground.bounded.newObject fields,
    ground.follows.newObject fields⟩
  have fitsOn : grown.Fits parts start still grown.store := fits.of_values develops values
  refine ⟨grown, ⟨develops, List.prefix_refl _⟩, fitsOn, Nat.lt_succ_self _, trivial,
    fitsOn.has, ?_⟩
  refine develops.apart_new (List.forall_mem_singleton.mpr (Nat.lt_irrefl _)) fun part reached => ?_
  exact ground.bounded.reaches fits.has (Store.reaches_of_values values reached)

theorem Fits.evaluate (fits : ground.Fits parts start still store) (default : Default) :
    ∃ grown, ground ≤ grown ∧
      grown.Fits parts start still (default.evaluate registry store).2 ∧
      (default.evaluate registry store).1.Within (grown.Allows parts) := by
  obtain rfl := fits.same
  have develops := ground.store.evaluate_develops registry default
  obtain ⟨same, -, fresh⟩ := evaluate_fresh registry default ground.store
  obtain ⟨plan, grows, follows, stands⟩ := evaluate_stands ground.follows default
  let grown : Ground registry := ⟨_, plan, ground.bounded.evaluate registry default, follows⟩
  have fitsOn : grown.Fits parts start still grown.store := fits.of_values develops same
  refine ⟨grown, ⟨develops, grows⟩, fitsOn, (within_allows fitsOn.has).mpr
    ⟨fun part stands => (fresh part stands).1, stands.planned, ?_⟩⟩
  exact Store.evaluate_apart registry default ground.bounded fits.has

/-- What appears in a cell that is apart is apart as well, and the cells that must not change are
other cells. -/
theorem Fits.resolve (fits : ground.Fits parts start still store) {place : Cell}
    {default : Default} (allowed : ground.Allows parts (.cell place default))
    (empty : store.value? place = none) :
    ∃ grown, ground ≤ grown ∧
      grown.Fits parts start still ((default.evaluate registry store).2.fill place
        (default.evaluate registry store).1) ∧
      (default.evaluate registry store).1.Within (grown.Allows parts) := by
  obtain rfl := fits.same
  have develops := Store.fill_develops registry default empty
  obtain ⟨same, has, fresh⟩ := evaluate_fresh registry default ground.store
  obtain ⟨plan, grows, follows, stands⟩ := evaluate_stands ground.follows default
  let grown : Ground registry := ⟨_, plan, ground.bounded.fill registry default place,
    follows.fill (planned_cell_grows grows allowed.planned) stands⟩
  have fitsOn : grown.Fits parts start still grown.store := by
    refine ⟨rfl, fun part member => develops.has _ (fits.has part member), fun cell kept => ?_⟩
    obtain ⟨unchanged, other, reached⟩ := fits.still cell kept
    have differ : place ≠ cell := fun same =>
      allowed.apart _ _ (.here (List.mem_singleton_self _)) reached (congrArg Key.cell same)
    refine ⟨?_, other, develops.reaches reached⟩
    rw [Store.value?_fill_other differ, same, unchanged]
  refine ⟨grown, ⟨develops, grows⟩, fitsOn, (within_allows fitsOn.has).mpr
    ⟨fun part stands => Store.fill_has.mpr (fresh part stands).1, stands.planned, ?_⟩⟩
  -- The cell is apart, and what appears in it is reached from it.
  have apart := develops.apart ground.bounded (List.forall_mem_singleton.mpr allowed.has)
    fits.has allowed.apart
  have filled := Store.value?_fill_self (has _ allowed.has)
    (default.evaluate registry ground.store).1
  intro part other reached
  refine apart part other (reached.imp fun inner stands => ?_)
  exact .through (.here (List.mem_singleton_self _)) filled stands

theorem Fits.known (fits : ground.Fits parts start still store) {place : Cell}
    {default : Default} (allowed : ground.Allows parts (.cell place default)) {content : Value}
    (filled : store.value? place = some content) : content.Within (ground.Allows parts) := by
  obtain rfl := fits.same
  obtain ⟨_, _, stands⟩ := ground.follows.filled place content filled
  refine (within_allows fits.has).mpr
    ⟨ground.bounded place content filled, stands.planned, ?_⟩
  intro part other reached
  refine allowed.apart part other (reached.imp fun inner stands => ?_)
  exact .through (.here (List.mem_singleton_self _)) filled stands

end Ground

/-- The discipline of what is apart from some parts. -/
def apartFrom (registry : Registry) (parts : List Part) (start : Store) (still : Cell → Prop) :
    Discipline registry (Ground registry) where
  fits := Ground.Fits parts start still
  allows := Ground.Allows parts
  mono := Ground.Allows.mono
  newObject fits _ := fits.newObject _
  evaluate default fits := fits.evaluate default
  resolve fits allowed empty := fits.resolve allowed empty
  known fits allowed filled := fits.known allowed filled

end SchemaFixtures.Fixture
