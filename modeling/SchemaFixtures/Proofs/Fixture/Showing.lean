import SchemaFixtures.Fixture.Snapshot
import SchemaFixtures.Proofs.Fixture.Reading

/-!
# What a snapshot shows of a tree

A snapshot shows the part of a fixture that is worked out. It shows a tree when every part
that it has is the tree's part in that place, and only fields whose defaults are still to
be evaluated are left open. Which of these are open is all that a snapshot adds to the
tree.
-/

namespace SchemaFixtures.Fixture

mutual

/-- A snapshot shows a part of a tree. -/
inductive Snapshot.Shows (registry : Registry) : Snapshot → Tree → Prop where
  | absent : Snapshot.Shows registry .absent .absent
  | null : Snapshot.Shows registry .null .null
  | boolean (value : Bool) : Snapshot.Shows registry (.boolean value) (.boolean value)
  | int (value : Int64) : Snapshot.Shows registry (.int value) (.int value)
  | float (value : Float) : Snapshot.Shows registry (.float value) (.float value)
  | string (text : String) : Snapshot.Shows registry (.string text) (.string text)
  | enum (name : String) : Snapshot.Shows registry (.enum name) (.enum name)
  | raw (source : String) : Snapshot.Shows registry (.raw source) (.raw source)
  | list {items : List Snapshot} {trees : List Tree} (shown : ItemsShow registry items trees) :
      Snapshot.Shows registry (.list items) (.list trees)
  | object {fields : List (String × Option Snapshot)} {branches : List (String × Branch)}
      (shown : FieldsShow registry fields branches) :
      Snapshot.Shows registry (.object fields) (.object branches)

/-- Snapshots show the items of a list, one by one. -/
inductive ItemsShow (registry : Registry) : List Snapshot → List Tree → Prop where
  | nil : ItemsShow registry [] []
  | cons {item : Snapshot} {tree : Tree} {items : List Snapshot} {trees : List Tree}
      (first : item.Shows registry tree) (rest : ItemsShow registry items trees) :
      ItemsShow registry (item :: items) (tree :: trees)

/-- The fields of a snapshot are those of an object, in their order. A field that is known
shows what reading the field gives; only a default can be left open. -/
inductive FieldsShow (registry : Registry) :
    List (String × Option Snapshot) → List (String × Branch) → Prop where
  | nil : FieldsShow registry [] []
  | known {name : String} {field : Snapshot} {branch : Branch}
      {fields : List (String × Option Snapshot)} {branches : List (String × Branch)}
      (first : field.Shows registry (branch.tree registry))
      (rest : FieldsShow registry fields branches) :
      FieldsShow registry ((name, some field) :: fields) ((name, branch) :: branches)
  | unresolved {name : String} {default : Default}
      {fields : List (String × Option Snapshot)} {branches : List (String × Branch)}
      (rest : FieldsShow registry fields branches) :
      FieldsShow registry ((name, none) :: fields) ((name, .later default) :: branches)

end

variable {registry : Registry} {plan : Plan} {store : Store}

/-- What is known of a cell shows the tree of its planned default. -/
def LooksRight (registry : Registry) (plan : Plan) (look : Cell → Option Snapshot) : Prop :=
  ∀ cell default snapshot, plan[cell.index]? = some default → look cell = some snapshot →
    snapshot.Shows registry (default.tree registry)

mutual

/-- The snapshot of a planned value shows the tree that the value stands for. -/
theorem snapshotWith_shows {look : Cell → Option Snapshot}
    (right : LooksRight registry plan look) : (value : Value) → value.Planned plan →
    (snapshotWith look value).Shows registry value.tree
  | .absent, _ => .absent
  | .null, _ => .null
  | .boolean value, _ => .boolean value
  | .int value, _ => .int value
  | .float value, _ => .float value
  | .string text, _ => .string text
  | .enum name, _ => .enum name
  | .raw source, _ => .raw source
  | .list items, planned => .list (snapshotItems_show right items planned)
  | .object _ fields, planned => .object (snapshotFields_show right fields planned)

theorem snapshotItems_show {look : Cell → Option Snapshot}
    (right : LooksRight registry plan look) : (items : List Value) → ItemsPlanned plan items →
    ItemsShow registry (snapshotItems look items) (valueTrees items)
  | [], _ => .nil
  | item :: rest, planned =>
    .cons (snapshotWith_shows right item planned.1) (snapshotItems_show right rest planned.2)

theorem snapshotFields_show {look : Cell → Option Snapshot}
    (right : LooksRight registry plan look) : (fields : List (String × Field)) →
    FieldsPlanned plan fields →
    FieldsShow registry (snapshotFields look fields) (fieldBranches fields)
  | [], _ => .nil
  | (_, .held value) :: rest, planned =>
    .known (snapshotWith_shows right value planned.1) (snapshotFields_show right rest planned.2)
  | (name, .later cell default) :: rest, planned => by
    have others := snapshotFields_show right rest planned.2
    rw [snapshotFields, fieldBranches, Field.branch]
    cases seen : look cell with
    | none => exact .unresolved others
    | some snapshot => exact .known (right cell default snapshot planned.1 seen) others

end

/-- What a store knows of a cell is right, on ways of any length through its cells. -/
theorem lookWithin_right (follows : store.Follows registry plan) (cells : Nat) :
    LooksRight registry plan (store.lookWithin cells) := by
  induction cells with
  | zero =>
    intro cell default snapshot _ seen
    simp [Store.lookWithin] at seen
  | succ cells inductionHypothesis =>
    intro cell default snapshot known seen
    obtain ⟨value, filled, rfl⟩ := Option.map_eq_some_iff.mp seen
    obtain ⟨other, planned, stands⟩ := follows.filled cell value filled
    have same : default = other := Option.some.inj (known.symm.trans planned)
    rw [same, ← stands.same]
    exact snapshotWith_shows inductionHypothesis value stands.planned

/-- The snapshot of a value shows the tree that the value stands for. -/
theorem snapshot_shows (follows : store.Follows registry plan) {value : Value} {tree : Tree}
    (stands : value.Stands plan tree) : (store.snapshot value).Shows registry tree := by
  rw [← stands.same]
  exact snapshotWith_shows (lookWithin_right follows _) value stands.planned

end SchemaFixtures.Fixture
