import SchemaFixtures.Files.Tree

/-!
# What writing a file changes

A write that succeeds gives one place a file, and that place was no directory before. Whatever
leads through directories is therefore found as before, and the path of the write leads to the
very bytes that were written. Whether a write succeeds does not depend on what is written.
-/

namespace SchemaFixtures.Files.Tree

/-- Steps that end well end well one by one. -/
theorem bind_ok_iff {ε α β : Type} {first : Except ε α} {next : α → Except ε β} {result : β} :
    first >>= next = .ok result ↔ ∃ value, first = .ok value ∧ next value = .ok result := by
  cases first <;> simp [bind, Except.bind]

theorem requireDirectory_ok_iff (tree : Tree) (location : Location) :
    tree.requireDirectory location = .ok () ↔ tree.node? location = some .directory := by
  rw [requireDirectory]
  cases tree.node? location with
  | none => simp
  | some node => cases node <;> simp

variable {tree after : Tree} {place : Location}

/-- Two trees that differ only at a place which is no directory in the first one. -/
structure DiffersAt (tree after : Tree) (place : Location) : Prop where
  noDirectory : tree.node? place ≠ some .directory
  elsewhere : ∀ other, other ≠ place → after.node? other = tree.node? other

theorem DiffersAt.enter (differs : DiffersAt tree after place) {location next : Location}
    {piece : List Char} (entered : tree.enter location piece = .ok next) :
    after.enter location piece = .ok next := by
  obtain ⟨_, required, chosen⟩ := bind_ok_iff.mp entered
  have isDirectory := (requireDirectory_ok_iff tree location).mp required
  have apart : location ≠ place := fun same => differs.noDirectory (same ▸ isDirectory)
  have still := (differs.elsewhere location apart).trans isDirectory
  exact bind_ok_iff.mpr ⟨(), (requireDirectory_ok_iff after location).mpr still, chosen⟩

/-- A path is followed through directories, which the two trees share. -/
theorem DiffersAt.follow (differs : DiffersAt tree after place) {pieces : List (List Char)}
    {location next : Location} (followed : tree.follow pieces location = .ok next) :
    after.follow pieces location = .ok next := by
  induction pieces generalizing location with
  | nil => exact followed
  | cons piece rest inductionHypothesis =>
    obtain ⟨entrance, entered, further⟩ := bind_ok_iff.mp followed
    exact bind_ok_iff.mpr ⟨entrance, differs.enter entered, inductionHypothesis further⟩

theorem DiffersAt.locate (differs : DiffersAt tree after place) {directory next : Location}
    {path : String} (located : tree.locate directory path = .ok next) :
    after.locate directory path = .ok next := by
  obtain ⟨_, checked, followed⟩ := bind_ok_iff.mp located
  exact bind_ok_iff.mpr ⟨(), checked, differs.follow followed⟩

/-! ## Writing -/

end SchemaFixtures.Files.Tree
