import SchemaFixtures.Fixture.Read

/-!
# Writing fixtures

A write never changes an object: it makes a new one around the fields that stay, and so
along the whole path that leads to it. The fields that stay keep their cells. The field
that the path follows gets a value of its own, worked out there if it was not known, and
the cell it had stays as it was for the other copies. This happens as far as the path can
be followed, whether or not it leads to a value in the end.
-/

namespace SchemaFixtures.Fixture

/-- What an edit does to the value at the end of a path. -/
abbrev Edit (α : Type) := Value → Store → α × Value × Store

/-- Where an item of a rearranged list comes from: from a place in the list as it was, or
from outside. -/
inductive Slot (α : Type) where
  | kept (index : Nat)
  | fresh (item : α)

/-- The item that stands in a slot; none if the list had no such place. -/
def Slot.item? {α : Type} (items : List α) : Slot α → Option α
  | kept index => items[index]?
  | fresh item => some item

namespace Value

/-- Edits the value at the end of a path; none if the path leads nowhere. The objects
along the path are new ones afterwards. -/
def edit {α : Type} (registry : Registry) (change : Edit α) :
    List String → Value → Store → Option α × Value × Store
  | [], value, store =>
    let (answer, value, store) := change value store
    (some answer, value, store)
  | name :: rest, .object _ fields, store =>
    match Entries.value? fields name with
    | none =>
      let (renewed, store) := store.newObject fields
      (none, renewed, store)
    | some field =>
      let (value, store) := field.peek registry store
      let (answer, value, store) := edit registry change rest value store
      let (renewed, store) := store.newObject (Entries.put fields name (.held value))
      (answer, renewed, store)
  | _ :: _, value, store => (none, value, store)

/-- Puts another value in place. -/
def assign (replacement : Value) : Edit Unit := fun _ store => ((), replacement, store)

/-- Adds an item to a list and tells its new length; none if the value is no list. -/
def push (item : Value) : Edit (Option Nat)
  | .list items, store => (some (items.length + 1), .list (items ++ [item]), store)
  | value, store => (none, value, store)

/-- Puts kept and new items in the place of a list's items and tells the new length; none
if the value is no list. -/
def arrange (slots : List (Slot Value)) : Edit (Option Nat)
  | .list items, store =>
    let arranged := slots.filterMap (·.item? items)
    (some arranged.length, .list arranged, store)
  | value, store => (none, value, store)

/-- Edits one item of a list in its place; none if the value is no list, and no answer if
the list has no such item. -/
def editItem {α : Type} (index : Nat) (change : Edit α) : Edit (Option (Option α))
  | .list items, store =>
    match items[index]? with
    | none => (some none, .list items, store)
    | some item =>
      let (answer, item, store) := change item store
      (some (some answer), .list (items.set index item), store)
  | value, store => (none, value, store)

/-- Puts a value into a field of an object; tells whether the value is an object. -/
def setField (name : String) (content : Value) : Edit Bool
  | .object _ fields, store =>
    let (renewed, store) := store.newObject (Entries.put fields name (.held content))
    (true, renewed, store)
  | value, store => (false, value, store)

/-- Takes a field out of an object and gives its value, which appears in its cell; none
if the value is no object. -/
def removeField (registry : Registry) (name : String) : Edit (Option (Option Value))
  | .object _ fields, store =>
    match Entries.value? fields name with
    | none =>
      let (renewed, store) := store.newObject fields
      (some none, renewed, store)
    | some field =>
      let (removed, store) := field.read registry store
      let (renewed, store) := store.newObject (Entries.remove fields name)
      (some (some removed), renewed, store)
  | value, store => (none, value, store)

end Value

end SchemaFixtures.Fixture
