import Mathlib.Data.List.Perm.Subperm
import SchemaFixtures.Fixture.Store

/-!
# The parts of a value

The objects and the cells that stand in a value are its parts. A value also reaches the parts of
what has appeared in its cells, and so on. Two values share something exactly if they reach one
object, told by its identity, or one cell.
-/

namespace SchemaFixtures.Fixture

/-- A part of a value: an object with its fields, or a cell with the default beside it. -/
inductive Part where
  | object (identity : Nat) (fields : List (String × Field))
  | cell (place : Cell) (default : Default)

/-- What tells parts apart: the identity of an object, or the place of a cell. -/
inductive Key where
  | object (identity : Nat)
  | cell (place : Cell)
deriving DecidableEq

/-- What a part is told by. -/
def Part.key : Part → Key
  | .object identity _ => .object identity
  | .cell place _ => .cell place

/-- Whether an object or a cell was made already. -/
def Store.Has (store : Store) : Key → Prop
  | .object identity => identity < store.objects
  | .cell place => place.index < store.cells.size

mutual

/-- The parts of a value, without those in its cells. -/
def Value.parts : Value → List Part
  | .list items => itemsParts items
  | .object identity fields => .object identity fields :: fieldsParts fields
  | _ => []

/-- The parts of items. -/
def itemsParts : List Value → List Part
  | [] => []
  | item :: rest => item.parts ++ itemsParts rest

/-- The parts of fields. -/
def fieldsParts : List (String × Field) → List Part
  | [] => []
  | (_, field) :: rest => field.parts ++ fieldsParts rest

/-- The parts of a field. -/
def Field.parts : Field → List Part
  | .held value => value.parts
  | .later cell default => [.cell cell default]

end

/-- All parts of a value are allowed. -/
def Value.Within (allows : Part → Prop) (value : Value) : Prop := ∀ part ∈ value.parts, allows part

/-- All parts of a field are allowed. -/
def Field.Within (allows : Part → Prop) (field : Field) : Prop := ∀ part ∈ field.parts, allows part

/-- The parts that are reached from some parts by way of cells and what has appeared in them. -/
inductive Store.Reaches (store : Store) (start : List Part) : Part → Prop where
  | here {part : Part} (stands : part ∈ start) : Store.Reaches store start part
  | through {place : Cell} {default : Default} {content : Value} {part : Part}
      (reached : Store.Reaches store start (.cell place default))
      (filled : store.value? place = some content) (stands : part ∈ content.parts) :
      Store.Reaches store start part

/-- Nothing is reached from both. -/
def Store.Apart (store : Store) (left right : List Part) : Prop :=
  ∀ part other, store.Reaches left part → store.Reaches right other → part.key ≠ other.key

theorem Store.Apart.symm {store : Store} {left right : List Part}
    (apart : store.Apart left right) : store.Apart right left :=
  fun part other reached found => (apart other part found reached).symm

section Within

variable {allows : Part → Prop}

/-- The parts of items stand behind each other. -/
theorem itemsParts_eq (items : List Value) : itemsParts items = items.flatMap Value.parts := by
  induction items with
  | nil => rfl
  | cons item rest inductionHypothesis => exact congrArg (item.parts ++ ·) inductionHypothesis

/-- The parts of fields stand behind each other. -/
theorem fieldsParts_eq (fields : List (String × Field)) :
    fieldsParts fields = fields.flatMap (·.2.parts) := by
  induction fields with
  | nil => rfl
  | cons entry rest inductionHypothesis =>
    exact congrArg (entry.2.parts ++ ·) inductionHypothesis

theorem mem_itemsParts {items : List Value} {part : Part} :
    part ∈ itemsParts items ↔ ∃ item ∈ items, part ∈ item.parts := by
  rw [itemsParts_eq, List.mem_flatMap]

theorem mem_fieldsParts {fields : List (String × Field)} {part : Part} :
    part ∈ fieldsParts fields ↔ ∃ entry ∈ fields, part ∈ entry.2.parts := by
  rw [fieldsParts_eq, List.mem_flatMap]

theorem fieldsParts_append (fields others : List (String × Field)) :
    fieldsParts (fields ++ others) = fieldsParts fields ++ fieldsParts others := by
  simp only [fieldsParts_eq, List.flatMap_append]

@[simp] theorem within_list (items : List Value) :
    (Value.list items).Within allows ↔ ∀ item ∈ items, item.Within allows := by
  refine Iff.trans (forall_congr' fun part => imp_congr_left mem_itemsParts) ?_
  constructor
  · exact fun all item member part stands => all part ⟨item, member, stands⟩
  · exact fun all part ⟨item, member, stands⟩ => all item member part stands

@[simp] theorem within_object (identity : Nat) (fields : List (String × Field)) :
    (Value.object identity fields).Within allows ↔
      allows (.object identity fields) ∧ ∀ entry ∈ fields, entry.2.Within allows := by
  refine List.forall_mem_cons.trans (and_congr_right fun _ => ?_)
  constructor
  · exact fun all entry member part stands =>
      all part (mem_fieldsParts.mpr ⟨entry, member, stands⟩)
  · intro all part stands
    obtain ⟨entry, member, stands⟩ := mem_fieldsParts.mp stands
    exact all entry member part stands

@[simp] theorem within_held (value : Value) :
    (Field.held value).Within allows ↔ value.Within allows := Iff.rfl

@[simp] theorem within_later (cell : Cell) (default : Default) :
    (Field.later cell default).Within allows ↔ allows (.cell cell default) :=
  List.forall_mem_singleton

/-- A value without parts is allowed, whatever is. -/
theorem within_of_no_parts {value : Value} (none : value.parts = []) : value.Within allows := by
  intro part stands
  rw [none] at stands
  cases stands

@[simp] theorem within_absent : Value.absent.Within allows := within_of_no_parts rfl
@[simp] theorem within_null : Value.null.Within allows := within_of_no_parts rfl
@[simp] theorem within_boolean (value : Bool) : (Value.boolean value).Within allows :=
  within_of_no_parts rfl
@[simp] theorem within_int (value : Int64) : (Value.int value).Within allows :=
  within_of_no_parts rfl
@[simp] theorem within_float (value : Float) : (Value.float value).Within allows :=
  within_of_no_parts rfl
@[simp] theorem within_string (text : String) : (Value.string text).Within allows :=
  within_of_no_parts rfl
@[simp] theorem within_enum (name : String) : (Value.enum name).Within allows :=
  within_of_no_parts rfl
@[simp] theorem within_raw (source : String) : (Value.raw source).Within allows :=
  within_of_no_parts rfl

theorem Value.Within.imp {other : Part → Prop} {value : Value} (within : value.Within allows)
    (implied : ∀ part, allows part → other part) : value.Within other :=
  fun part stands => implied part (within part stands)

theorem Field.Within.imp {other : Part → Prop} {field : Field} (within : field.Within allows)
    (implied : ∀ part, allows part → other part) : field.Within other :=
  fun part stands => implied part (within part stands)

/-- What is put into allowed fields keeps them allowed. -/
theorem within_put {fields : Entries Field} (within : ∀ entry ∈ fields, entry.2.Within allows)
    (name : String) {field : Field} (added : field.Within allows) :
    ∀ entry ∈ fields.put name field, entry.2.Within allows := by
  intro entry member
  rcases Entries.mem_put member with kept | rfl
  · exact within entry kept
  · exact added

/-- What is read under a name is one of the fields. -/
theorem within_value? {fields : Entries Field}
    (within : ∀ entry ∈ fields, entry.2.Within allows) {name : String} {field : Field}
    (found : fields.value? name = some field) : field.Within allows :=
  within _ (Entries.mem_of_value? found)

end Within

/-! ## What is reached -/

theorem Store.Reaches.imp {store : Store} {start others : List Part} {part : Part}
    (reached : store.Reaches start part)
    (starts : ∀ inner ∈ start, store.Reaches others inner) : store.Reaches others part := by
  induction reached with
  | here stands => exact starts _ stands
  | through _ filled stands inductionHypothesis => exact .through inductionHypothesis filled stands

/-- What is reached from parts is reached from one of them. -/
theorem Store.Reaches.single {store : Store} {start : List Part} {part : Part}
    (reached : store.Reaches start part) : ∃ first ∈ start, store.Reaches [first] part := by
  induction reached with
  | here stands => exact ⟨_, stands, .here (List.mem_singleton_self _)⟩
  | through _ filled stands inductionHypothesis =>
    obtain ⟨first, member, reached⟩ := inductionHypothesis
    exact ⟨first, member, .through reached filled stands⟩

/-- Parts are apart from others exactly if each of them is. -/
theorem apart_iff {store : Store} {left right : List Part} :
    store.Apart left right ↔ ∀ part ∈ left, store.Apart [part] right := by
  constructor
  · intro apart first member part other reached found
    refine apart part other (reached.imp fun inner only => ?_) found
    exact .here (List.mem_singleton.mp only ▸ member)
  · intro all part other reached found
    obtain ⟨first, member, reached⟩ := reached.single
    exact all first member part other reached found

end SchemaFixtures.Fixture
