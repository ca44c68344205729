import SchemaFixtures.Proofs.Fixture.Copying
import SchemaFixtures.Proofs.Fixture.Creation
import SchemaFixtures.Proofs.Fixture.Places

/-!
# Exploring a fixture

A fixture is explored field by field: a field at a known place is read, and what appears in its
cell is a new value at a new place. The step keeps that no two places show the same object or the
same cell. So a cell that was filled was filled by a read at its own place, and whatever is read
in whatever order, no field is resolved but those that were asked for.
-/

namespace SchemaFixtures.Fixture

/-- Fields of objects at places: the ones that are asked for. -/
abbrev Demand := Place → String → Prop

/-- Fields that are asked for are read one after another, each at a place that is known then. -/
def Value.Reads (registry : Registry) (demand : Demand) (root : Value) : Store → Store → Prop :=
  Relation.ReflTransGen fun before after => ∃ place name field, demand place name ∧
    root.fieldAt? before place name = some field ∧ after = (field.read registry before).2

variable {registry : Registry} {demand : Demand} {root value inner : Value}
  {place : Place} {name : String}

namespace Ground

variable {ground grown : Ground registry}

/-! ## Values that were made -/

/-- A value that a default made, or one that stands in such a value. -/
structure Made (ground : Ground registry) (value : Value) : Prop where
  within : value.Within (ground.Allows [])
  created : value.tree.All (Created registry)

theorem Made.grows (grows : ground ≤ grown) (made : ground.Made value) : grown.Made value :=
  ⟨made.within.imp fun _ => Allows.mono grows, made.created⟩

theorem Made.item {items : List Value} (made : ground.Made (.list items)) {item : Value}
    (member : item ∈ items) : ground.Made item := by
  have created := made.created
  rw [Value.tree_list, all_list] at created
  exact ⟨(within_list items).mp made.within item member,
    created item.tree (List.mem_map_of_mem member)⟩

/-- The names of the fields of an object that was made stand once. -/
theorem Made.once {identity : Nat} {fields : List (String × Field)}
    (made : ground.Made (.object identity fields)) : (Entries.names fields).Nodup := by
  have created := made.created
  rw [Value.tree_object, all_object] at created
  have once := created.1.once
  rwa [Entries.names_mapValues] at once

/-- A field of an object that was made: it is there and planned, and so is what it holds. -/
theorem Made.field (made : ground.Made value) {field : Field}
    (stands : value.field? name = some field) :
    field.Within (ground.Allows []) ∧ field.Planned ground.plan ∧
      field.branch.All (Created registry) := by
  obtain ⟨identity, fields, rfl, member⟩ := field?_some stands
  have within := ((within_object _ _).mp made.within).2 _ member
  have created := made.created
  rw [Value.tree_object, all_object] at created
  exact ⟨within,
    (field_planned_iff_within _ _).mpr (within.imp fun _ allowed => allowed.planned),
    created.2 _ (List.mem_map.mpr ⟨_, member, rfl⟩)⟩

theorem branch_tree_created {branch : Branch} (created : branch.All (Created registry)) :
    (branch.tree registry).All (Created registry) := by
  cases branch with
  | held tree => exact created
  | later default => exact default_tree_created registry default

/-- What a field of a value that was made gives stands for a tree whose objects were created. -/
theorem Made.read_created (made : ground.Made value) {field : Field}
    (stands : value.field? name = some field) :
    (field.read registry ground.store).1.tree.All (Created registry) := by
  obtain ⟨_, planned, created⟩ := made.field stands
  obtain ⟨_, _, _, read⟩ := read_stands ground.follows field planned
  rw [read.same]
  exact branch_tree_created created

/-- What is read of a field of a value that was made was made, and the field is known then. -/
theorem Made.read (made : ground.Made value) {field : Field}
    (stands : value.field? name = some field) :
    ∃ grown : Ground registry, ground ≤ grown ∧
      grown.store = (field.read registry ground.store).2 ∧
      grown.Made (field.read registry ground.store).1 ∧
      field.known? grown.store = some (field.read registry ground.store).1 := by
  obtain ⟨within, planned, _⟩ := made.field stands
  obtain ⟨grown, grows, fits, read⟩ := Discipline.read_kept ground.fits_alone within
  refine ⟨grown, grows, fits.same, ⟨read, made.read_created stands⟩, ?_⟩
  rw [fits.same]
  exact field.known_of_read ground.follows planned

/-- The known value of a field of a value that was made was made. -/
theorem Made.known (made : ground.Made value) {field : Field}
    (stands : value.field? name = some field) (known : field.known? ground.store = some inner) :
    ground.Made inner := by
  have created := made.read_created stands
  rw [(field.read_known registry known).1] at created
  refine ⟨?_, created⟩
  have within := (made.field stands).1
  cases field with
  | held own =>
    obtain rfl : own = inner := Option.some.inj known
    exact (within_held own).mp within
  | later cell default =>
    exact ground.fits_alone.known ((within_later _ _).mp within) known

/-- What stands at a known place of a value that was made was made. -/
theorem Made.at (made : ground.Made value) (stands : value.at? ground.store place = some inner) :
    ground.Made inner := by
  induction place generalizing value with
  | nil => exact Option.some.inj stands ▸ made
  | cons turn rest inductionHypothesis =>
    obtain ⟨next, turned, onward⟩ := Option.bind_eq_some_iff.mp stands
    refine inductionHypothesis ?_ onward
    cases turn with
    | item index =>
      obtain ⟨items, rfl, chosen⟩ := item_turn turned
      exact made.item (List.mem_of_getElem? chosen)
    | field name =>
      obtain ⟨field, found, known⟩ := Option.bind_eq_some_iff.mp turned
      exact made.known found known

/-- What a value that was made shows is there. -/
theorem Made.has (made : ground.Made value) {key : Key}
    (shown : value.Shows ground.store place key) : ground.store.Has key := by
  have has {value : Value} (made : ground.Made value) :
      ∀ part ∈ value.parts, ground.store.Has part.key := (within_alone.mp made.within).1
  induction shown with
  | object => exact has made _ List.mem_cons_self
  | cell found =>
    obtain ⟨identity, fields, rfl, member⟩ := field?_some found
    exact has made _ (part_of_field member (List.mem_singleton_self _))
  | @turn value next turn rest key turned _ inductionHypothesis =>
    exact inductionHypothesis (made.at (at?_turn turned))

/-! ## Filling the cell of a field -/

/-- A value that was made, none of whose objects and cells stands at two places, and whose fields
were worked out only where they were asked for. -/
structure Explored (ground : Ground registry) (root : Value) (demand : Demand) : Prop where
  made : ground.Made root
  single : ∀ place other key, root.Shows ground.store place key →
    root.Shows ground.store other key → place = other
  asked : ∀ place name cell content, root.Shows ground.store (place ++ [.field name]) (.cell cell) →
    ground.store.value? cell = some content → demand place name

/-- The store after a default was evaluated for a cell. -/
abbrev filling (ground : Ground registry) (cell : Cell) (default : Default) : Store :=
  (default.evaluate registry ground.store).2.fill cell (default.evaluate registry ground.store).1

section Filling

variable {cell : Cell} {default : Default}

/-- One cell was filled, the others are as they were. -/
theorem filling_value? {other : Cell} {content : Value}
    (filled : (ground.filling cell default).value? other = some content) :
    (other = cell ∧ content = (default.evaluate registry ground.store).1) ∨
      ground.store.value? other = some content := by
  rw [← (evaluate_fresh registry default ground.store).1]
  exact value?_fill filled

/-- Nothing has appeared in the cells of what a cell is filled with. -/
theorem filling_blank (has : ground.store.Has (.cell cell)) :
    (default.evaluate registry ground.store).1.Blank (ground.filling cell default) := by
  intro other otherDefault stands
  have new := ((evaluate_fresh registry default ground.store).2.2 _ stands).2
  cases filled : (ground.filling cell default).value? other with
  | none => rfl
  | some content =>
    rcases filling_value? filled with ⟨rfl, -⟩ | old
    · exact absurd has new
    · exact absurd (Store.has_of_value? old) new

/-- A turn leads where it led, or into the cell that was filled. -/
theorem filling_turn {turn : Turn}
    (next : value.turn? (ground.filling cell default) turn = some inner) :
    value.turn? ground.store turn = some inner ∨
      ∃ name other, turn = .field name ∧ value.field? name = some (.later cell other) ∧
        inner = (default.evaluate registry ground.store).1 := by
  cases turn with
  | item index => exact .inl next
  | field name =>
    obtain ⟨field, stands, known⟩ := Option.bind_eq_some_iff.mp next
    cases field with
    | held own => exact .inl (Option.bind_eq_some_iff.mpr ⟨_, stands, known⟩)
    | later other otherDefault =>
      rcases filling_value? known with ⟨rfl, same⟩ | old
      · exact .inr ⟨name, otherDefault, rfl, stands, same⟩
      · exact .inl (Option.bind_eq_some_iff.mpr ⟨_, stands, old⟩)

/-- What is shown then was shown before, or it is shown by what the cell was filled with. -/
theorem Explored.filling_shows (explored : ground.Explored root demand)
    (stands : root.fieldAt? ground.store place name = some (.later cell default))
    {below : Place} {key : Key} (shown : value.Shows (ground.filling cell default) below key) :
    ∀ {start : Place}, root.at? ground.store start = some value →
      value.Shows ground.store below key ∨ ∃ rest, start ++ below = place ++ .field name :: rest ∧
        (default.evaluate registry ground.store).1.Shows
          (ground.filling cell default) rest key := by
  induction shown with
  | object => exact fun _ => .inl .object
  | cell found => exact fun _ => .inl (.cell found)
  | @turn value inner turn rest key next shown inductionHypothesis =>
    intro start here
    rcases filling_turn next with old | ⟨other, otherDefault, rfl, found, rfl⟩
    · have onward : root.at? ground.store (start ++ [turn]) = some inner := by
        rw [at?_append, here, Option.bind_some, Value.at?, old]
        rfl
      rcases inductionHypothesis onward with before | ⟨behind, same, new⟩
      · exact .inl (.turn old before)
      · rw [List.append_assoc] at same
        exact .inr ⟨behind, same, new⟩
    · -- The cell stands at one place only, so the turn is the one into the field.
      have cellHere : root.Shows ground.store (start ++ [.field other]) (.cell cell) :=
        .under here (.cell found)
      have same := explored.single _ _ _ cellHere (shows_cell stands)
      refine .inr ⟨rest, ?_, shown⟩
      rw [List.append_cons start, same, ← List.append_cons]

/-- Filling the cell of a field that is asked for keeps a value explored. -/
theorem Explored.fill (explored : ground.Explored root demand)
    (stands : root.fieldAt? ground.store place name = some (.later cell default))
    (empty : ground.store.value? cell = none) (wanted : demand place name) :
    ∃ grown : Ground registry, ground ≤ grown ∧ grown.store = ground.filling cell default ∧
      grown.Explored root demand := by
  have has : ground.store.Has (.cell cell) := explored.made.has (shows_cell stands)
  obtain ⟨_, new⟩ := (evaluate_fresh registry default ground.store).2
  have blank : (default.evaluate registry ground.store).1.Blank (ground.filling cell default) :=
    filling_blank has
  -- What is new is a part of what the cell was filled with, and was not there before.
  have apart {first second : Place} {key : Key} (old : root.Shows ground.store first key)
      (made : (default.evaluate registry ground.store).1.Shows (ground.filling cell default)
        second key) : False := by
    obtain ⟨part, inside, rfl⟩ := List.mem_map.mp (blank.shown_part made)
    exact (new part inside).2 (explored.made.has old)
  obtain ⟨object, found, field⟩ := Option.bind_eq_some_iff.mp stands
  obtain ⟨grown, grows, same, _⟩ := (explored.made.at found).read field
  simp only [Field.read, empty] at same
  have here : root.at? ground.store [] = some root := rfl
  refine ⟨grown, grows, same, explored.made.grows grows, ?_, ?_⟩
  · rw [same]
    intro first second key shown shownOther
    rcases explored.filling_shows stands shown here with old | ⟨rest, same, made⟩ <;>
      rcases explored.filling_shows stands shownOther here with
        oldOther | ⟨restOther, sameOther, madeOther⟩
    · exact explored.single first second key old oldOther
    · exact (apart old madeOther).elim
    · exact (apart oldOther made).elim
    · rw [List.nil_append] at same sameOther
      rw [same, sameOther,
        blank.same_place (evaluate_once registry default ground.store) made madeOther]
  · rw [same]
    intro other otherName otherCell content shown filled
    rcases explored.filling_shows stands shown here with old | ⟨rest, _, made⟩
    · rcases filling_value? filled with ⟨rfl, -⟩ | before
      · obtain ⟨rfl, last⟩ := List.append_inj' (explored.single _ _ _ old (shows_cell stands)) rfl
        obtain rfl : otherName = name := by simpa using last
        exact wanted
      · exact explored.asked other otherName otherCell content old before
    · cases (blank.shown_empty made).symm.trans filled

end Filling

/-! ## Reading what is asked for -/

/-- Reading a field that is asked for keeps a value explored. -/
theorem Explored.read (explored : ground.Explored root demand) {field : Field}
    (stands : root.fieldAt? ground.store place name = some field) (wanted : demand place name) :
    ∃ grown : Ground registry, ground ≤ grown ∧
      grown.store = (field.read registry ground.store).2 ∧ grown.Explored root demand := by
  cases known : field.known? ground.store with
  | some content =>
    rw [(field.read_known registry known).1]
    exact ⟨ground, le_refl ground, rfl, explored⟩
  | none =>
    cases field with
    | held own => cases known
    | later cell default =>
      have empty : ground.store.value? cell = none := known
      simp only [Field.read, empty]
      exact explored.fill stands empty wanted

/-- Whatever is read of what is asked for, in any order, a value stays explored. -/
theorem Explored.run (explored : ground.Explored root demand) {after : Store}
    (reads : root.Reads registry demand ground.store after) :
    ∃ grown : Ground registry, ground ≤ grown ∧ grown.store = after ∧
      grown.Explored root demand := by
  induction reads with
  | refl => exact ⟨ground, le_refl ground, rfl, explored⟩
  | tail _ step inductionHypothesis =>
    obtain ⟨between, grows, rfl, explored⟩ := inductionHypothesis
    obtain ⟨place, name, field, wanted, stands, rfl⟩ := step
    obtain ⟨grown, growsOn, same, further⟩ := explored.read stands wanted
    exact ⟨grown, le_trans grows growsOn, same, further⟩

theorem Explored.imp {other : Demand} (explored : ground.Explored root demand)
    (more : ∀ place name, demand place name → other place name) : ground.Explored root other :=
  ⟨explored.made, explored.single, fun place name cell content shown filled =>
    more place name (explored.asked place name cell content shown filled)⟩

/-- In what a default makes no field that it leaves open was asked for. -/
theorem evaluate_explored (ground : Ground registry) (default : Default) :
    ∃ grown : Ground registry, ground ≤ grown ∧
      grown.store = (default.evaluate registry ground.store).2 ∧
      grown.Explored (default.evaluate registry ground.store).1 fun _ _ => False := by
  obtain ⟨grown, grows, fits, within⟩ :=
    (grounds registry).evaluate default ground.fits_alone
  obtain ⟨same, _, new⟩ := evaluate_fresh registry default ground.store
  obtain ⟨_, _, _, stands⟩ := evaluate_stands ground.follows default
  have blank : (default.evaluate registry ground.store).1.Blank grown.store := by
    intro cell otherDefault inside
    rw [fits.same, same]
    cases filled : ground.store.value? cell with
    | none => rfl
    | some content => exact absurd (Store.has_of_value? filled) (new _ inside).2
  refine ⟨grown, grows, fits.same, ⟨within, ?_⟩, ?_, ?_⟩
  · rw [stands.same]
    exact default_tree_created registry default
  · intro place other key shown shownOther
    exact blank.same_place (evaluate_once registry default ground.store) shown shownOther
  · intro place name cell content shown filled
    exact nomatch (blank.shown_empty shown).symm.trans filled

end Ground

end SchemaFixtures.Fixture
