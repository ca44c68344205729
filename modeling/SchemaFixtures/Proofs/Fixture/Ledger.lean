import SchemaFixtures.Proofs.Fixture.DisciplinedRun

/-!
# The ledger of a session

The objects that a session has made, in the order in which it made them, are its ledger. It is a
discipline: every object that a value reaches is in the ledger with its fields, each object has
only objects in its fields that are above it in the ledger, and the value in a cell has only cells
that were reserved after that cell. A ledger is only ever continued.
-/

namespace SchemaFixtures.Fixture

/-- The objects made so far, and the number of cells reserved so far. -/
structure Ledger where
  objects : List (Entries Field) := []
  cells : Nat := 0

instance : Preorder Ledger where
  le ledger grown := ledger.objects <+: grown.objects ∧ ledger.cells ≤ grown.cells
  le_refl ledger := ⟨List.prefix_refl _, Nat.le_refl _⟩
  le_trans _ _ _ first second :=
    ⟨first.1.trans second.1, Nat.le_trans first.2 second.2⟩

/-- A cell was reserved after another one; objects do not matter. -/
def Part.After (cell : Cell) : Part → Prop
  | .object _ _ => True
  | .cell place _ => cell.index < place.index

namespace Ledger

/-- What a ledger allows: its objects with their fields, and its cells. -/
def Allows (ledger : Ledger) (part : Part) : Prop := part.Recorded ledger.objects ledger.cells

theorem Allows.mono {ledger grown : Ledger} {part : Part} (grows : ledger ≤ grown)
    (allowed : ledger.Allows part) : grown.Allows part :=
  Part.Recorded.grows grows.1 grows.2 allowed

/-- A store and its ledger: the value that has appeared in a cell is made of recorded objects and
of cells reserved after that cell. -/
structure Fits (ledger : Ledger) (store : Store) : Prop where
  records : store.Records ledger.objects
  counted : store.cells.size = ledger.cells
  known : ∀ cell content, store.value? cell = some content →
    content.Within fun part => ledger.Allows part ∧ part.After cell

variable {ledger : Ledger} {store : Store}

/-- An object of the ledger has only objects of the ledger above it in its fields. -/
theorem Fits.earlier (fits : ledger.Fits store) {identity : Nat} {fields : Entries Field}
    (allowed : ledger.Allows (.object identity fields)) :
    ∀ part ∈ fieldsParts fields, part.Recorded (ledger.objects.take identity) ledger.cells := by
  rw [← fits.counted]
  exact fits.records.earlier identity fields allowed

theorem Fits.newObject (fits : ledger.Fits store) {fields : Entries Field}
    (within : ∀ entry ∈ fields, entry.2.Within ledger.Allows) :
    ∃ grown, ledger ≤ grown ∧ grown.Fits (store.newObject fields).2 ∧
      grown.Allows (.object store.objects fields) := by
  have more : ledger ≤ ⟨ledger.objects ++ [fields], ledger.cells⟩ :=
    ⟨List.prefix_append _ _, Nat.le_refl _⟩
  have inner : ∀ part ∈ fieldsParts fields, part.Recorded ledger.objects store.cells.size := by
    intro part stands
    obtain ⟨entry, member, stands⟩ := mem_fieldsParts.mp stands
    rw [fits.counted]
    exact within entry member part stands
  refine ⟨_, more, ⟨fits.records.newObject inner, fits.counted, fun cell content filled => ?_⟩, ?_⟩
  · exact (fits.known cell content filled).imp fun _ both => ⟨both.1.mono more, both.2⟩
  · rw [Allows, Part.Recorded, ← fits.records.count]
    exact List.getElem?_concat_length

/-- What a default makes continues the ledger, and its cells were reserved behind the ones there
were. -/
theorem Fits.evaluate (registry : Registry) (default : Default) (fits : ledger.Fits store) :
    ∃ grown, ledger ≤ grown ∧ grown.Fits (default.evaluate registry store).2 ∧
      (default.evaluate registry store).1.Within fun part =>
        grown.Allows part ∧ ∀ cell : Cell, cell.index < ledger.cells → part.After cell := by
  obtain ⟨objects, grows, records, same, counted, fresh, -⟩ :=
    evaluate_makes registry fits.records default
  have more : ledger ≤ ⟨objects, (default.evaluate registry store).2.cells.size⟩ :=
    ⟨grows, fits.counted ▸ counted⟩
  refine ⟨_, more, ⟨records, rfl, fun cell content filled => ?_⟩, fun part stands => ?_⟩
  · rw [same] at filled
    exact (fits.known cell content filled).imp fun _ both => ⟨both.1.mono more, both.2⟩
  · refine ⟨(fresh part stands).1, fun cell inside => ?_⟩
    cases part with
    | object identity fields => trivial
    | cell place _ =>
      have new : store.cells.size ≤ place.index := Nat.not_lt.mp (fresh _ stands).2
      exact Nat.lt_of_lt_of_le (fits.counted ▸ inside) new

/-- Only cells reserved later stand in the value that appears in a cell. -/
theorem Fits.resolve (registry : Registry) {place : Cell} {default : Default}
    (fits : ledger.Fits store) (allowed : ledger.Allows (.cell place default)) :
    ∃ grown, ledger ≤ grown ∧
      grown.Fits ((default.evaluate registry store).2.fill place
        (default.evaluate registry store).1) ∧
      (default.evaluate registry store).1.Within grown.Allows := by
  obtain ⟨grown, grows, fitsOn, made⟩ := fits.evaluate registry default
  generalize default.evaluate registry store = done at fitsOn made ⊢
  have size : (done.2.fill place done.1).cells.size = done.2.cells.size :=
    Array.size_setIfInBounds
  refine ⟨grown, grows, ⟨⟨fitsOn.records.count, ?_⟩, ?_, ?_⟩, made.imp fun _ both => both.1⟩
  · rw [size]
    exact fitsOn.records.earlier
  · rw [size]
    exact fitsOn.counted
  · intro cell content filled
    rcases value?_fill filled with ⟨rfl, rfl⟩ | old
    · exact made.imp fun _ both => ⟨both.1, both.2 _ allowed⟩
    · exact fitsOn.known cell content old

end Ledger

/-- The discipline of ledgers. -/
def ledgers (registry : Registry) : Discipline registry Ledger where
  fits := Ledger.Fits
  allows := Ledger.Allows
  mono := Ledger.Allows.mono
  newObject fits within := fits.newObject within
  evaluate default fits := by
    obtain ⟨grown, grows, fitsOn, made⟩ := fits.evaluate registry default
    exact ⟨grown, grows, fitsOn, made.imp fun _ both => both.1⟩
  resolve fits allowed _ := fits.resolve registry allowed
  known fits _ filled := (fits.known _ _ filled).imp fun _ both => both.1

/-- A session with its ledger. -/
structure Session.Keeps (ledger : Ledger) (session : Session) : Prop where
  fits : ledger.Fits session.store
  names : ∀ name value, session.bindings.value? name = some value →
    value.Within ledger.Allows
  once : session.bindings.names.Nodup

/-- Every moment of a script has a ledger. -/
theorem scriptMoments_ledger (accessor : Accessor) (script : List Instruction) :
    ∀ moment ∈ scriptMoments script { accessor }, ∃ ledger, moment.Keeps ledger := by
  have start : (ledgers accessor.registry).Holds {} { accessor } := by
    have empty : Ledger.Fits {} {} := ⟨⟨rfl, by simp⟩, rfl, by simp [Store.value?]⟩
    exact ⟨rfl, List.nodup_nil, {}, le_refl _, empty, fun _ none => absurd none List.not_mem_nil⟩
  intro moment member
  obtain ⟨-, once, ledger, -, fits, names⟩ := scriptMoments_hold script start moment member
  exact ⟨ledger, fits, fun _ _ stands => names _ (Entries.mem_of_value? stands), once⟩

end SchemaFixtures.Fixture
