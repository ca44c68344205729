import Mathlib.Order.Basic
import SchemaFixtures.Proofs.Fixture.Freshness
import SchemaFixtures.Proofs.Fixture.Writing

/-!
# Disciplines

A discipline is an invariant of stores and values. It has worlds that only grow; a world tells
which stores fit it and which parts a value may have. Three things happen to a store: an object is
made, a default is evaluated, and the value of a default appears in a cell that was empty. If a
discipline survives these, in a world that has grown, it survives everything that is done to
values, since reading and writing, questions and changes, contents and recipes do nothing else.

The worlds of different disciplines are different things: the objects made so far, or the part of
a store that belongs to one value. The inductions over what can be done are here, once for all of
them.
-/

namespace SchemaFixtures.Fixture

/-- An invariant of stores and values, indexed by worlds that grow. -/
structure Discipline (registry : Registry) (World : Type) [Preorder World] where
  fits : World → Store → Prop
  allows : World → Part → Prop
  mono : ∀ {world grown : World} {part : Part}, world ≤ grown → allows world part →
    allows grown part
  newObject : ∀ {world : World} {store : Store} {fields : Entries Field}, fits world store →
    (∀ entry ∈ fields, entry.2.Within (allows world)) →
    ∃ grown, world ≤ grown ∧ fits grown (store.newObject fields).2 ∧
      allows grown (.object store.objects fields)
  evaluate : ∀ {world : World} {store : Store} (default : Default), fits world store →
    ∃ grown, world ≤ grown ∧ fits grown (default.evaluate registry store).2 ∧
      (default.evaluate registry store).1.Within (allows grown)
  resolve : ∀ {world : World} {store : Store} {place : Cell} {default : Default},
    fits world store → allows world (.cell place default) → store.value? place = none →
    ∃ grown, world ≤ grown ∧
      fits grown ((default.evaluate registry store).2.fill place
        (default.evaluate registry store).1) ∧
      (default.evaluate registry store).1.Within (allows grown)
  known : ∀ {world : World} {store : Store} {place : Cell} {default : Default} {value : Value},
    fits world store → allows world (.cell place default) → store.value? place = some value →
    value.Within (allows world)

namespace Discipline

variable {registry : Registry} {World : Type} [Preorder World]
  (discipline : Discipline registry World) {world : World} {store : Store}

/-- A store fits a world that has grown, in which something holds. -/
def Keeps (world : World) (store : Store) (holds : World → Prop) : Prop :=
  ∃ grown, world ≤ grown ∧ discipline.fits grown store ∧ holds grown

/-- All parts of the named values are allowed. -/
def Names (world : World) (bindings : Entries Value) : Prop :=
  ∀ entry ∈ bindings, entry.2.Within (discipline.allows world)

/-- The values of some names have allowed parts. -/
def Supplies (world : World) (bindings : Entries Value) (names : List String) : Prop :=
  ∀ name ∈ names, ∀ value, bindings.value? name = some value →
    value.Within (discipline.allows world)

variable {discipline}

theorem Keeps.here {holds : World → Prop} (fits : discipline.fits world store)
    (here : holds world) : discipline.Keeps world store holds :=
  ⟨world, le_refl world, fits, here⟩

theorem Keeps.next {after : Store} {holds next : World → Prop}
    (keeps : discipline.Keeps world store holds)
    (onward : ∀ grown, world ≤ grown → discipline.fits grown store → holds grown →
      discipline.Keeps grown after next) : discipline.Keeps world after next := by
  obtain ⟨grown, grows, fits, here⟩ := keeps
  obtain ⟨last, growsOn, fitsOn, there⟩ := onward grown grows fits here
  exact ⟨last, le_trans grows growsOn, fitsOn, there⟩

theorem Keeps.imp {holds other : World → Prop} (keeps : discipline.Keeps world store holds)
    (implied : ∀ grown, world ≤ grown → holds grown → other grown) :
    discipline.Keeps world store other := by
  obtain ⟨grown, grows, fits, here⟩ := keeps
  exact ⟨grown, grows, fits, implied grown grows here⟩

theorem value_grows {grown : World} (grows : world ≤ grown) {value : Value}
    (within : value.Within (discipline.allows world)) :
    value.Within (discipline.allows grown) :=
  within.imp fun _ => discipline.mono grows

theorem field_grows {grown : World} (grows : world ≤ grown) {field : Field}
    (within : field.Within (discipline.allows world)) :
    field.Within (discipline.allows grown) :=
  within.imp fun _ => discipline.mono grows

theorem fields_grow {grown : World} (grows : world ≤ grown) {fields : List (String × Field)}
    (within : ∀ entry ∈ fields, entry.2.Within (discipline.allows world)) :
    ∀ entry ∈ fields, entry.2.Within (discipline.allows grown) :=
  fun entry member => field_grows grows (within entry member)

theorem Names.grows {grown : World} (grows : world ≤ grown) {bindings : Entries Value}
    (names : discipline.Names world bindings) : discipline.Names grown bindings :=
  fun entry member => value_grows grows (names entry member)

/-- A new object around allowed fields. -/
theorem object_kept (fits : discipline.fits world store) {fields : Entries Field}
    (within : ∀ entry ∈ fields, entry.2.Within (discipline.allows world)) :
    discipline.Keeps world (store.newObject fields).2 fun grown =>
      (store.newObject fields).1.Within (discipline.allows grown) := by
  obtain ⟨grown, grows, fitsOn, allowed⟩ := discipline.newObject fits within
  exact ⟨grown, grows, fitsOn, (within_object _ _).mpr ⟨allowed, fields_grow grows within⟩⟩

/-! ## Reading -/

theorem peek_kept (fits : discipline.fits world store) {field : Field}
    (within : field.Within (discipline.allows world)) :
    discipline.Keeps world (field.peek registry store).2 fun grown =>
      (field.peek registry store).1.Within (discipline.allows grown) := by
  cases field with
  | held value => exact .here fits ((within_held value).mp within)
  | later place default =>
    simp only [Field.peek]
    cases filled : store.value? place with
    | some value => exact .here fits (discipline.known fits ((within_later _ _).mp within) filled)
    | none => exact discipline.evaluate default fits

theorem read_kept (fits : discipline.fits world store) {field : Field}
    (within : field.Within (discipline.allows world)) :
    discipline.Keeps world (field.read registry store).2 fun grown =>
      (field.read registry store).1.Within (discipline.allows grown) := by
  cases field with
  | held value => exact .here fits ((within_held value).mp within)
  | later place default =>
    have allowed := (within_later _ _).mp within
    simp only [Field.read]
    cases filled : store.value? place with
    | some value => exact .here fits (discipline.known fits allowed filled)
    | none => exact discipline.resolve fits allowed filled

theorem readField_kept (fits : discipline.fits world store) {fields : Entries Field}
    (within : ∀ entry ∈ fields, entry.2.Within (discipline.allows world)) (name : String) :
    discipline.Keeps world (readField registry fields name store).2 fun grown =>
      ∀ value ∈ (readField registry fields name store).1,
        value.Within (discipline.allows grown) := by
  cases found : fields.value? name with
  | none =>
    simp only [readField, found]
    exact .here fits (by simp)
  | some field =>
    simp only [readField, found]
    exact (read_kept fits (within_value? within found)).imp fun _ _ read => by simpa using read

theorem get?_kept (fits : discipline.fits world store) {value : Value}
    (within : value.Within (discipline.allows world)) (path : List String) :
    discipline.Keeps world (value.get? registry path store).2 fun grown =>
      ∀ found ∈ (value.get? registry path store).1, found.Within (discipline.allows grown) := by
  induction path generalizing value store world with
  | nil => exact .here fits (by simpa [Value.get?] using within)
  | cons name rest inductionHypothesis =>
    cases value with
    | object identity fields =>
      have read := readField_kept fits ((within_object _ _).mp within).2 name
      rw [get?_object]
      refine read.next fun grown _ fitsOn kept => ?_
      cases found : (readField registry fields name store).1 with
      | none => exact .here fitsOn (by simp)
      | some value => exact inductionHypothesis fitsOn (kept value (by simp [found]))
    | absent | null | boolean _ | int _ | float _ | string _ | enum _ | raw _ | list _ =>
      exact .here fits (by simp [Value.get?])

/-- Something that is done to an allowed value, with a store that fits, leaves one that fits. -/
def Visits {α : Type} (discipline : Discipline registry World) (world : World)
    (visit : Value → Store → α × Store) : Prop :=
  ∀ grown, world ≤ grown → ∀ store, discipline.fits grown store → ∀ value : Value,
    value.Within (discipline.allows grown) →
    discipline.Keeps grown (visit value store).2 fun _ => True

theorem Visits.grows {α : Type} {grown : World} (grows : world ≤ grown)
    {visit : Value → Store → α × Store} (visits : discipline.Visits world visit) :
    discipline.Visits grown visit :=
  fun last growsOn => visits last (le_trans grows growsOn)

theorem visitFields_kept {α : Type} {visit : String → Value → Store → α × Store}
    (visits : ∀ name, discipline.Visits world (visit name)) (fits : discipline.fits world store)
    {fields : List (String × Field)}
    (within : ∀ entry ∈ fields, entry.2.Within (discipline.allows world)) :
    discipline.Keeps world (visitFields registry visit fields store).2 fun _ => True := by
  induction fields generalizing store world with
  | nil => exact .here fits trivial
  | cons entry rest inductionHypothesis =>
    obtain ⟨first, others⟩ := List.forall_mem_cons.mp within
    refine (read_kept fits first).next fun read grows fitsRead kept => ?_
    refine (visits entry.1 read grows _ fitsRead _ kept).next fun visited growsOn fitsOn _ => ?_
    have grown := le_trans grows growsOn
    exact inductionHypothesis (fun name => (visits name).grows grown) fitsOn
      (fields_grow grown others)

theorem materializeFields_kept {convert : Value → Store → Json × Store}
    (converts : discipline.Visits world convert) (fits : discipline.fits world store)
    {fields : List (String × Field)}
    (within : ∀ entry ∈ fields, entry.2.Within (discipline.allows world)) :
    discipline.Keeps world (materializeFields registry convert fields store).2
      fun _ => True := by
  induction fields generalizing store world with
  | nil => exact .here fits trivial
  | cons entry rest inductionHypothesis =>
    obtain ⟨first, others⟩ := List.forall_mem_cons.mp within
    refine (read_kept fits first).next fun read grows fitsRead kept => ?_
    simp only [materializeFields]
    by_cases absent : (entry.2.read registry store).1.isAbsent = true
    · rw [if_pos absent]
      exact inductionHypothesis (converts.grows grows) fitsRead (fields_grow grows others)
    · rw [if_neg absent]
      refine (converts read grows _ fitsRead _ kept).next fun converted growsOn fitsOn _ => ?_
      have grown := le_trans grows growsOn
      exact inductionHypothesis (converts.grows grown) fitsOn (fields_grow grown others)

/-- Converting an object leaves a store that fits. -/
def Converts (discipline : Discipline registry World) (world : World)
    (convert : Entries Field → Store → Json × Store) : Prop :=
  ∀ grown, world ≤ grown → ∀ store, discipline.fits grown store → ∀ fields : Entries Field,
    (∀ entry ∈ fields, entry.2.Within (discipline.allows grown)) →
    discipline.Keeps grown (convert fields store).2 fun _ => True

theorem Converts.grows {grown : World} (grows : world ≤ grown)
    {convert : Entries Field → Store → Json × Store}
    (converts : discipline.Converts world convert) : discipline.Converts grown convert :=
  fun last growsOn => converts last (le_trans grows growsOn)

mutual

theorem materializeWith_kept {convert : Entries Field → Store → Json × Store} {world : World}
    (converts : discipline.Converts world convert) {store : Store}
    (fits : discipline.fits world store) : (value : Value) →
    value.Within (discipline.allows world) →
    discipline.Keeps world (materializeWith convert value store).2 fun _ => True
  | .list items, within =>
    materializeItems_kept converts fits items ((within_list items).mp within)
  | .object identity fields, within =>
    converts world (le_refl world) store fits fields ((within_object identity fields).mp within).2
  | .absent, _ | .null, _ | .boolean _, _ | .int _, _ | .float _, _ | .string _, _ | .enum _, _
  | .raw _, _ => .here fits trivial

theorem materializeItems_kept {convert : Entries Field → Store → Json × Store} {world : World}
    (converts : discipline.Converts world convert) {store : Store}
    (fits : discipline.fits world store) : (items : List Value) →
    (∀ item ∈ items, item.Within (discipline.allows world)) →
    discipline.Keeps world (materializeItems convert items store).2 fun _ => True
  | [], _ => .here fits trivial
  | item :: rest, within =>
    (materializeWith_kept converts fits item (within item List.mem_cons_self)).next
      fun _ grows fitsOn _ =>
        materializeItems_kept (converts.grows grows) fitsOn rest fun other member =>
          value_grows grows (within other (List.mem_cons_of_mem _ member))

end

theorem materializeObject_kept (world : World) (depth : Nat) :
    discipline.Converts world (materializeObject registry depth) := by
  induction depth generalizing world with
  | zero =>
    intro grown _ store fits fields within
    exact (readField_kept fits within typenameField).imp fun _ _ _ => trivial
  | succ depth inductionHypothesis =>
    intro grown grows store fits fields within
    refine materializeFields_kept (fun last growsOn store fits value within => ?_) fits within
    exact materializeWith_kept (inductionHypothesis last) fits value within

theorem materialize_kept (fits : discipline.fits world store) {value : Value}
    (within : value.Within (discipline.allows world)) (depth : Nat) :
    discipline.Keeps world (value.materialize registry depth store).2 fun _ => True :=
  materializeWith_kept (materializeObject_kept world depth) fits value within

/-! ## Writing -/

/-- A change leaves a store that fits and a value that is allowed, and so is what it tells. -/
def Changes {α : Type} (discipline : Discipline registry World) (world : World)
    (told : α → Option Value) (change : Edit α) : Prop :=
  ∀ grown, world ≤ grown → ∀ store, discipline.fits grown store → ∀ value : Value,
    value.Within (discipline.allows grown) →
    discipline.Keeps grown (change value store).2.2 fun last =>
      (change value store).2.1.Within (discipline.allows last) ∧
        ∀ found ∈ told (change value store).1, found.Within (discipline.allows last)

/-- An answer that is no value. -/
def untold {α : Type} : α → Option Value := fun _ => none

theorem Changes.grows {α : Type} {told : α → Option Value} {change : Edit α} {grown : World}
    (grows : world ≤ grown) (changes : discipline.Changes world told change) :
    discipline.Changes grown told change :=
  fun last growsOn => changes last (le_trans grows growsOn)

theorem Changes.of_untold {α : Type} {change : Edit α}
    (changed : ∀ grown, world ≤ grown → ∀ store, discipline.fits grown store → ∀ value : Value,
      value.Within (discipline.allows grown) →
      discipline.Keeps grown (change value store).2.2 fun last =>
        (change value store).2.1.Within (discipline.allows last)) :
    discipline.Changes world untold change :=
  fun grown grows store fits value within =>
    (changed grown grows store fits value within).imp fun _ _ kept => ⟨kept, by simp [untold]⟩

/-- Another answer to the same change. -/
theorem Changes.answer {α β : Type} {change : Edit α} {told : α → Option Value}
    (changes : discipline.Changes world told change) (answer : α → Value → Store → β) :
    discipline.Changes world untold fun value store =>
      (answer (change value store).1 (change value store).2.1 (change value store).2.2,
        (change value store).2.1, (change value store).2.2) :=
  .of_untold fun grown grows store fits value within =>
    (changes grown grows store fits value within).imp fun _ _ kept => kept.1

theorem edit_kept {α : Type} {told : α → Option Value} {change : Edit α}
    (changes : discipline.Changes world told change) (path : List String) :
    discipline.Changes world (fun answer => answer.bind told)
      fun value store => value.edit registry change path store := by
  induction path with
  | nil => exact changes
  | cons name rest inductionHypothesis =>
    intro grown grows store fits value within
    cases value with
    | object identity fields =>
      have allowed := ((within_object _ _).mp within).2
      cases found : Entries.value? fields name with
      | none =>
        simp only [Value.edit, found]
        exact (object_kept fits allowed).imp fun _ _ kept => ⟨kept, by simp⟩
      | some field =>
        simp only [edit_object change identity fields name rest store found]
        refine (peek_kept fits (within_value? allowed found)).next
          fun peeked growsOn fitsOn kept => ?_
        refine (inductionHypothesis peeked (le_trans grows growsOn) _ fitsOn _ kept).next
          fun edited growsLast fitsLast keptLast => ?_
        have put := within_put (fields_grow (le_trans growsOn growsLast) allowed) name
          ((within_held _).mpr keptLast.1)
        exact (object_kept fitsLast put).imp fun last growsEnd kept =>
          ⟨kept, fun value told => value_grows growsEnd (keptLast.2 value told)⟩
    | absent | null | boolean _ | int _ | float _ | string _ | enum _ | raw _ | list _ =>
      exact .here fits ⟨within, by simp [Value.edit]⟩

theorem assign_kept {replacement : Value} (within : replacement.Within (discipline.allows world)) :
    discipline.Changes world untold (Value.assign replacement) :=
  .of_untold fun _ grows _ fits _ _ => .here fits (value_grows grows within)

theorem push_kept {item : Value} (within : item.Within (discipline.allows world)) :
    discipline.Changes world untold (Value.push item) := by
  refine .of_untold fun grown grows store fits value allowed => ?_
  cases value with
  | list items =>
    refine .here fits ((within_list _).mpr fun other member => ?_)
    rcases List.mem_append.mp member with old | new
    · exact (within_list items).mp allowed other old
    · exact List.mem_singleton.mp new ▸ value_grows grows within
  | absent | null | boolean _ | int _ | float _ | string _ | enum _ | raw _ | object _ _ =>
    exact .here fits allowed

/-- The items of slots that come from outside are allowed. -/
def Slots (discipline : Discipline registry World) (world : World) (slots : List (Slot Value)) :
    Prop := ∀ item, Slot.fresh item ∈ slots → item.Within (discipline.allows world)

theorem arrange_kept {slots : List (Slot Value)} (within : discipline.Slots world slots) :
    discipline.Changes world untold (Value.arrange slots) := by
  refine .of_untold fun grown grows store fits value allowed => ?_
  cases value with
  | list items =>
    refine .here fits ((within_list _).mpr fun other member => ?_)
    obtain ⟨slot, stands, given⟩ := List.mem_filterMap.mp member
    cases slot with
    | kept index => exact (within_list items).mp allowed other (List.mem_of_getElem? given)
    | fresh item =>
      obtain rfl : item = other := Option.some.inj given
      exact value_grows grows (within item stands)
  | absent | null | boolean _ | int _ | float _ | string _ | enum _ | raw _ | object _ _ =>
    exact .here fits allowed

theorem editItem_kept {α : Type} {told : α → Option Value} {change : Edit α}
    (changes : discipline.Changes world told change) (index : Nat) :
    discipline.Changes world untold (Value.editItem index change) := by
  refine .of_untold fun grown grows store fits value allowed => ?_
  cases value with
  | list items =>
    simp only [Value.editItem]
    cases chosen : items[index]? with
    | none => exact .here fits allowed
    | some item =>
      have others := (within_list items).mp allowed
      have own := others item (List.mem_of_getElem? chosen)
      refine (changes grown grows store fits item own).imp fun last growsOn kept => ?_
      refine (within_list _).mpr fun other member => ?_
      rcases List.mem_or_eq_of_mem_set member with old | rfl
      · exact value_grows growsOn (others other old)
      · exact kept.1
  | absent | null | boolean _ | int _ | float _ | string _ | enum _ | raw _ | object _ _ =>
    exact .here fits allowed

theorem setField_kept (name : String) {content : Value}
    (within : content.Within (discipline.allows world)) :
    discipline.Changes world untold (Value.setField name content) := by
  refine .of_untold fun grown grows store fits value allowed => ?_
  cases value with
  | object identity fields =>
    exact object_kept fits (within_put ((within_object _ _).mp allowed).2 name
      ((within_held content).mpr (value_grows grows within)))
  | absent | null | boolean _ | int _ | float _ | string _ | enum _ | raw _ | list _ =>
    exact .here fits allowed

/-- A removal tells the value that it takes out. -/
theorem removeField_kept (world : World) (name : String) :
    discipline.Changes world (·.join) (Value.removeField registry name) := by
  intro grown _ store fits value allowed
  cases value with
  | object identity fields =>
    have within := ((within_object _ _).mp allowed).2
    simp only [Value.removeField]
    cases found : Entries.value? fields name with
    | none => exact (object_kept fits within).imp fun _ _ kept => ⟨kept, by simp⟩
    | some field =>
      refine (read_kept fits (within_value? within found)).next fun read grows fitsOn kept => ?_
      have fewer : ∀ entry ∈ Entries.remove fields name,
          entry.2.Within (discipline.allows read) := fun entry member =>
        field_grows grows (within entry (Entries.mem_of_mem_remove member))
      refine (object_kept fitsOn fewer).imp fun last growsOn renewed => ⟨renewed, ?_⟩
      simpa using value_grows growsOn kept
  | absent | null | boolean _ | int _ | float _ | string _ | enum _ | raw _ | list _ =>
    exact .here fits ⟨allowed, by simp [Value.removeField]⟩

end Discipline

end SchemaFixtures.Fixture
