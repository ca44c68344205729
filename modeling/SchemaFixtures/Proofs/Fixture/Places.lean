import SchemaFixtures.Proofs.Fixture.Development
import SchemaFixtures.Proofs.Fixture.Stability

/-!
# Places in a value

A place is the way to it from the value: into fields of objects and to items of lists. What stands
at a place is known as far as the fields on the way are known. A place shows what stands there for
parts to be told apart: an object by its identity, a field that was not worked out when its object
was made by its cell.

In a value that is made nothing has appeared in its cells yet, so its places show its own parts,
each one at one place.
-/

namespace SchemaFixtures.Fixture

/-- A turn of a way through a value. -/
inductive Turn where
  | field (name : String)
  | item (index : Nat)
deriving DecidableEq

/-- A way through a value. -/
abbrev Place := List Turn

/-- The place that a path of names leads to. -/
def Place.ofPath (path : List String) : Place := path.map Turn.field

namespace Value

/-- The field of a name, if the value is an object that has it. -/
def field? (value : Value) (name : String) : Option Field := value.fields?.bind (·.value? name)

/-- What stands one turn on, as far as it is known. -/
def turn? (store : Store) (value : Value) : Turn → Option Value
  | .field name => (value.field? name).bind (·.known? store)
  | .item index => value.items?.bind (·[index]?)

/-- What stands at a place, as far as it is known. -/
def at? (store : Store) : Place → Value → Option Value
  | [], value => some value
  | turn :: rest, value => (value.turn? store turn).bind (at? store rest)

/-- The field of a name of the object at a place. -/
def fieldAt? (store : Store) (place : Place) (name : String) (value : Value) : Option Field :=
  (value.at? store place).bind (·.field? name)

/-- Whether the object at a place has a field of a name whose value is known. -/
def resolvedAt (store : Store) (place : Place) (name : String) (value : Value) : Bool :=
  (value.fieldAt? store place name).any (·.isResolved store)

/-- A place shows an object, or the cell of the field that the last turn leads into. -/
inductive Shows (store : Store) : Value → Place → Key → Prop where
  | object {identity : Nat} {fields : List (String × Field)} :
      Shows store (.object identity fields) [] (.object identity)
  | cell {value : Value} {name : String} {cell : Cell} {default : Default}
      (stands : value.field? name = some (.later cell default)) :
      Shows store value [.field name] (.cell cell)
  | turn {value inner : Value} {turn : Turn} {rest : Place} {key : Key}
      (next : value.turn? store turn = some inner) (shown : Shows store inner rest key) :
      Shows store value (turn :: rest) key

end Value

variable {store before after : Store} {value inner : Value} {place : Place} {name : String}

/-! ## Ways through a value -/

@[simp] theorem field?_object (identity : Nat) (fields : List (String × Field)) (name : String) :
    (Value.object identity fields).field? name = Entries.value? fields name := rfl

theorem field?_some {field : Field} (stands : value.field? name = some field) :
    ∃ identity fields, value = .object identity fields ∧ (name, field) ∈ fields := by
  cases value with
  | object identity fields => exact ⟨identity, fields, rfl, Entries.mem_of_value? stands⟩
  | absent | null | boolean _ | int _ | float _ | string _ | enum _ | raw _ | list _ => cases stands

theorem items?_some {items : List Value} (stands : value.items? = some items) :
    value = .list items := by
  cases value with
  | list others => exact congrArg Value.list (Option.some.inj stands)
  | absent | null | boolean _ | int _ | float _ | string _ | enum _ | raw _ | object _ _ =>
    cases stands

theorem at?_append (first second : Place) :
    value.at? store (first ++ second) = (value.at? store first).bind (·.at? store second) := by
  induction first generalizing value with
  | nil => rfl
  | cons turn rest inductionHypothesis =>
    rw [List.cons_append, Value.at?, Value.at?, Option.bind_assoc]
    exact congrArg _ (funext fun _ => inductionHypothesis)

theorem fieldAt?_cons (turn : Turn) (rest : Place) (name : String) :
    value.fieldAt? store (turn :: rest) name =
      (value.turn? store turn).bind (·.fieldAt? store rest name) := by
  rw [Value.fieldAt?, Value.at?, Option.bind_assoc]
  rfl

theorem at?_turn {turn : Turn} (next : value.turn? store turn = some inner) :
    value.at? store [turn] = some inner := by
  rw [Value.at?, next]
  rfl

theorem turn?_field {field : Field} (stands : value.field? name = some field)
    (known : field.known? store = some inner) : value.turn? store (.field name) = some inner :=
  Option.bind_eq_some_iff.mpr ⟨field, stands, known⟩

theorem turn?_missing (missing : value.field? name = none) :
    value.turn? store (.field name) = none := by
  rw [Value.turn?, missing, Option.bind_none]

/-- A path whose first field is missing leads nowhere, and nothing is read. -/
theorem get?_missing {registry : Registry} (missing : value.field? name = none)
    (rest : List String) : value.get? registry (name :: rest) store = (none, store) := by
  cases value with
  | object identity fields =>
    have absent : Entries.value? fields name = none := missing
    simp only [get?_object, readField, absent]
  | absent | null | boolean _ | int _ | float _ | string _ | enum _ | raw _ | list _ => rfl

/-- A value that is no object and no list has no fields at any place. -/
theorem fieldAt?_leaf (noObject : value.fields? = none) (noList : value.items? = none)
    (place : Place) (name : String) : value.fieldAt? store place name = none := by
  have noField (name : String) : value.field? name = none := by
    rw [Value.field?, noObject]
    rfl
  cases place with
  | nil => exact noField name
  | cons turn rest =>
    have noTurn : value.turn? store turn = none := by
      cases turn with
      | field own => exact turn?_missing (noField own)
      | item index => rw [Value.turn?, noList, Option.bind_none]
    rw [fieldAt?_cons, noTurn, Option.bind_none]

theorem turn?_persists (persists : before.Persists after) {turn : Turn}
    (next : value.turn? before turn = some inner) : value.turn? after turn = some inner := by
  cases turn with
  | item index => exact next
  | field name =>
    obtain ⟨field, stands, known⟩ := Option.bind_eq_some_iff.mp next
    exact Option.bind_eq_some_iff.mpr ⟨field, stands, field.known?_persists persists known⟩

theorem at?_persists (persists : before.Persists after)
    (stands : value.at? before place = some inner) : value.at? after place = some inner := by
  induction place generalizing value with
  | nil => exact stands
  | cons turn rest inductionHypothesis =>
    obtain ⟨next, turned, onward⟩ := Option.bind_eq_some_iff.mp stands
    exact Option.bind_eq_some_iff.mpr ⟨next, turn?_persists persists turned,
      inductionHypothesis onward⟩

/-- A field is resolved exactly if its value is known. -/
theorem isResolved_eq (field : Field) (store : Store) :
    field.isResolved store = (field.known? store).isSome := by
  cases field <;> rfl

/-- What a part of a value shows, the value shows behind the place of the part. -/
theorem Value.Shows.under (stands : value.at? store place = some inner) {below : Place} {key : Key}
    (shown : inner.Shows store below key) : value.Shows store (place ++ below) key := by
  induction place generalizing value with
  | nil => exact Option.some.inj stands ▸ shown
  | cons turn rest inductionHypothesis =>
    obtain ⟨next, turned, onward⟩ := Option.bind_eq_some_iff.mp stands
    exact .turn turned (inductionHypothesis onward)

theorem shows_object {identity : Nat} {fields : List (String × Field)}
    (stands : value.at? store place = some (.object identity fields)) :
    value.Shows store place (.object identity) := by
  have shown := Value.Shows.object.under stands
  rwa [List.append_nil] at shown

theorem shows_cell {cell : Cell} {default : Default}
    (stands : value.fieldAt? store place name = some (.later cell default)) :
    value.Shows store (place ++ [.field name]) (.cell cell) := by
  obtain ⟨object, found, has⟩ := Option.bind_eq_some_iff.mp stands
  exact Value.Shows.under found (.cell has)

/-! ## Values whose cells are empty -/

/-- Nothing has appeared in the cells of a value. -/
def Value.Blank (store : Store) (value : Value) : Prop :=
  ∀ cell default, .cell cell default ∈ value.parts → store.value? cell = none

theorem part_of_field {identity : Nat} {fields : List (String × Field)} {field : Field}
    (member : (name, field) ∈ fields) {part : Part} (stands : part ∈ field.parts) :
    part ∈ (Value.object identity fields).parts :=
  List.mem_cons_of_mem _ (mem_fieldsParts.mpr ⟨_, member, stands⟩)

/-- A known field of a value whose cells are empty holds its value. -/
theorem Value.Blank.held (blank : value.Blank store) {field : Field}
    (stands : value.field? name = some field) (known : field.known? store = some inner) :
    field = .held inner := by
  obtain ⟨identity, fields, rfl, member⟩ := field?_some stands
  cases field with
  | held own => exact congrArg Field.held (Option.some.inj known)
  | later cell default =>
    have empty := blank cell default (part_of_field member (List.mem_singleton_self _))
    exact nomatch empty.symm.trans known

/-- A field that leads on from a value whose cells are empty holds what it leads to. -/
theorem Value.Blank.field_turn (blank : value.Blank store)
    (next : value.turn? store (.field name) = some inner) :
    ∃ identity fields, value = .object identity fields ∧ (name, Field.held inner) ∈ fields := by
  obtain ⟨field, found, known⟩ := Option.bind_eq_some_iff.mp next
  obtain rfl := blank.held found known
  exact field?_some found

theorem item_turn {index : Nat} (next : value.turn? store (.item index) = some inner) :
    ∃ items, value = .list items ∧ items[index]? = some inner := by
  obtain ⟨items, found, chosen⟩ := Option.bind_eq_some_iff.mp next
  exact ⟨items, items?_some found, chosen⟩

/-- The parts of what stands one turn on are parts of the value. -/
theorem Value.Blank.turn_parts (blank : value.Blank store) {turn : Turn}
    (next : value.turn? store turn = some inner) : ∀ part ∈ inner.parts, part ∈ value.parts := by
  intro part stands
  cases turn with
  | field name =>
    obtain ⟨identity, fields, rfl, member⟩ := blank.field_turn next
    exact part_of_field member stands
  | item index =>
    obtain ⟨items, rfl, chosen⟩ := item_turn next
    exact mem_itemsParts.mpr ⟨inner, List.mem_of_getElem? chosen, stands⟩

theorem Value.Blank.turn (blank : value.Blank store) {turn : Turn}
    (next : value.turn? store turn = some inner) : inner.Blank store :=
  fun cell default stands => blank cell default (blank.turn_parts next _ stands)

/-- What a value whose cells are empty shows is one of its parts. -/
theorem Value.Blank.shown_part (blank : value.Blank store) {key : Key}
    (shown : value.Shows store place key) : key ∈ value.parts.map Part.key := by
  induction shown with
  | object => exact List.mem_cons_self
  | cell found =>
    obtain ⟨identity, fields, rfl, member⟩ := field?_some found
    exact List.mem_map.mpr ⟨_, part_of_field member (List.mem_singleton_self _), rfl⟩
  | turn next _ inductionHypothesis =>
    obtain ⟨part, stands, same⟩ := List.mem_map.mp (inductionHypothesis (blank.turn next))
    exact List.mem_map.mpr ⟨part, blank.turn_parts next part stands, same⟩

/-- A cell that is shown is empty. -/
theorem Value.Blank.shown_empty (blank : value.Blank store) {cell : Cell}
    (shown : value.Shows store place (.cell cell)) : store.value? cell = none := by
  obtain ⟨part, stands, same⟩ := List.mem_map.mp (blank.shown_part shown)
  cases part with
  | object identity fields => nomatch same
  | cell own default =>
    obtain rfl : own = cell := Key.cell.inj same
    exact blank own default stands

/-- Of parts that stand once, what two members of a list share is at one index. -/
theorem same_index {α : Type} {parts : α → List Part} {members : List α}
    (once : ((members.flatMap parts).map Part.key).Nodup) {index other : Nat} {first second : α}
    (here : members[index]? = some first) (there : members[other]? = some second) {key : Key}
    (stands : key ∈ (parts first).map Part.key) (standsOther : key ∈ (parts second).map Part.key) :
    index = other := by
  rw [List.map_flatMap, List.nodup_flatMap] at once
  have apart := List.pairwise_iff_getElem.mp once.2
  obtain ⟨inside, rfl⟩ := List.getElem?_eq_some_iff.mp here
  obtain ⟨insideOther, rfl⟩ := List.getElem?_eq_some_iff.mp there
  rcases Nat.lt_trichotomy index other with less | same | greater
  · exact absurd standsOther (apart index other inside insideOther less stands)
  · exact same
  · exact absurd stands (apart other index insideOther inside greater standsOther)

theorem once_of_member {α : Type} {parts : α → List Part} {members : List α}
    (once : ((members.flatMap parts).map Part.key).Nodup) {member : α} (listed : member ∈ members) :
    ((parts member).map Part.key).Nodup := by
  rw [List.map_flatMap, List.nodup_flatMap] at once
  exact once.1 member listed

/-- The fields of a value have their parts once, and behind the identity of the object. -/
theorem once_fields {identity : Nat} {fields : List (String × Field)}
    (once : ((Value.object identity fields).parts.map Part.key).Nodup) :
    .object identity ∉ (fieldsParts fields).map Part.key ∧
      ((fields.flatMap (·.2.parts)).map Part.key).Nodup := by
  rw [← fieldsParts_eq]
  exact List.nodup_cons.mp once

/-- Two fields that share a part are one. -/
theorem same_field {identity : Nat} {fields : List (String × Field)}
    (once : ((Value.object identity fields).parts.map Part.key).Nodup)
    {first second : String × Field} (here : first ∈ fields) (there : second ∈ fields) {key : Key}
    (stands : key ∈ first.2.parts.map Part.key)
    (standsOther : key ∈ second.2.parts.map Part.key) : first = second := by
  obtain ⟨index, here⟩ := List.mem_iff_getElem?.mp here
  obtain ⟨other, there⟩ := List.mem_iff_getElem?.mp there
  obtain rfl := same_index (once_fields once).2 here there stands standsOther
  exact Option.some.inj (here.symm.trans there)

/-- A part that is one turn on is there once. -/
theorem Value.Blank.turn_once (blank : value.Blank store)
    (once : (value.parts.map Part.key).Nodup) {turn : Turn}
    (next : value.turn? store turn = some inner) : (inner.parts.map Part.key).Nodup := by
  cases turn with
  | field name =>
    obtain ⟨identity, fields, rfl, member⟩ := blank.field_turn next
    exact once_of_member (once_fields once).2 member
  | item index =>
    obtain ⟨items, rfl, chosen⟩ := item_turn next
    rw [Value.parts, itemsParts_eq] at once
    exact once_of_member once (List.mem_of_getElem? chosen)

/-- Two turns that lead to a shared part are one. -/
theorem Value.Blank.same_turn (blank : value.Blank store)
    (once : (value.parts.map Part.key).Nodup) {first second : Turn} {other : Value}
    (here : value.turn? store first = some inner) (there : value.turn? store second = some other)
    {key : Key} (stands : key ∈ inner.parts.map Part.key)
    (standsOther : key ∈ other.parts.map Part.key) : first = second := by
  cases first with
  | field name =>
    obtain ⟨identity, fields, rfl, member⟩ := blank.field_turn here
    cases second with
    | item index => cases there
    | field another =>
      obtain ⟨_, _, same, memberOther⟩ := blank.field_turn there
      cases same
      exact congrArg Turn.field
        (Prod.mk.inj (same_field once member memberOther stands standsOther)).1
  | item index =>
    obtain ⟨items, rfl, chosen⟩ := item_turn here
    cases second with
    | field another => cases there
    | item index =>
      rw [Value.parts, itemsParts_eq] at once
      exact congrArg Turn.item (same_index once chosen there stands standsOther)

/-- What is shown one turn on in an object is shown by a field that holds it. -/
theorem Value.Blank.shown_below {identity : Nat} {fields : List (String × Field)} {turn : Turn}
    {key : Key} (blank : (Value.object identity fields).Blank store)
    (next : (Value.object identity fields).turn? store turn = some inner)
    (shown : inner.Shows store place key) : ∃ name, (name, Field.held inner) ∈ fields ∧
      key ∈ (Field.held inner).parts.map Part.key := by
  cases turn with
  | item index => cases next
  | field name =>
    obtain ⟨_, _, same, member⟩ := blank.field_turn next
    cases same
    exact ⟨name, member, (blank.turn next).shown_part shown⟩

/-- An object does not stand in its own fields. -/
theorem Value.Blank.object_not_below {identity : Nat} {fields : List (String × Field)}
    {turn : Turn} (blank : (Value.object identity fields).Blank store)
    (once : ((Value.object identity fields).parts.map Part.key).Nodup)
    (next : (Value.object identity fields).turn? store turn = some inner) :
    ¬ inner.Shows store place (.object identity) := by
  intro shown
  obtain ⟨name, member, inside⟩ := blank.shown_below next shown
  obtain ⟨part, stands, same⟩ := List.mem_map.mp inside
  have among : part ∈ fieldsParts fields := mem_fieldsParts.mpr ⟨_, member, stands⟩
  exact (once_fields once).1 (List.mem_map.mpr ⟨part, among, same⟩)

/-- The cell of a field does not stand in what another field holds. -/
theorem Value.Blank.cell_not_below {cell : Cell} {default : Default} {turn : Turn}
    (blank : value.Blank store) (once : (value.parts.map Part.key).Nodup)
    (stands : value.field? name = some (.later cell default))
    (next : value.turn? store turn = some inner) : ¬ inner.Shows store place (.cell cell) := by
  intro shown
  obtain ⟨identity, fields, rfl, member⟩ := field?_some stands
  obtain ⟨other, memberOther, inside⟩ := blank.shown_below next shown
  cases same_field once member memberOther (List.mem_singleton_self _) inside

/-- If no part stands twice in a value whose cells are empty, no two places show the same. -/
theorem Value.Blank.same_place (blank : value.Blank store)
    (once : (value.parts.map Part.key).Nodup) {other : Place} {key : Key}
    (shown : value.Shows store place key) (shownOther : value.Shows store other key) :
    place = other := by
  induction shown generalizing other with
  | object =>
    cases shownOther with
    | object => rfl
    | turn next below => exact absurd below (blank.object_not_below once next)
  | cell found =>
    cases shownOther with
    | turn next below => exact absurd below (blank.cell_not_below once found next)
    | cell foundOther =>
      obtain ⟨identity, fields, rfl, member⟩ := field?_some found
      have memberOther := Entries.mem_of_value? foundOther
      have same := same_field once member memberOther (List.mem_singleton_self _)
        (List.mem_singleton_self _)
      rw [(Prod.mk.inj same).1]
  | turn next below inductionHypothesis =>
    cases shownOther with
    | object => exact absurd below (blank.object_not_below once next)
    | cell found => exact absurd below (blank.cell_not_below once found next)
    | turn nextOther belowOther =>
      have inside := (blank.turn next).shown_part below
      obtain rfl := blank.same_turn once next nextOther inside
        ((blank.turn nextOther).shown_part belowOther)
      obtain rfl := Option.some.inj (next.symm.trans nextOther)
      rw [inductionHypothesis (blank.turn next) (blank.turn_once once next) belowOther]

end SchemaFixtures.Fixture
