import Mathlib.Logic.Relation
import SchemaFixtures.Proofs.Fixture.Ledger
import SchemaFixtures.Proofs.Fixture.Stability

/-!
# What is known of a value is a finite tree

An object leads to the objects that stand in its fields, as far as the values of the fields are
known. No object leads back to itself, even if a copy of it was put into a part of it: what is put
in is the object as it was, and a write makes a new one. An object leads by a held field to one
that is above it in the ledger. By a cell it leads to one whose cells were all reserved after that
cell, and which is therefore a different one.

So a writer that goes into every known field comes to an end, and what it writes is the snapshot.
-/

namespace SchemaFixtures.Fixture

/-! ## Objects that lead to objects -/

/-- An object or a cell that a named value reaches. -/
def Session.Reaches (session : Session) (part : Part) : Prop :=
  ∃ name value, session.bindings.value? name = some value ∧ session.store.Reaches value.parts part

/-- One object leads to another, which stands in the known value of one of its fields. -/
def Session.Leads (session : Session) (outer inner : Nat) : Prop :=
  ∃ fields others, session.Reaches (.object outer fields) ∧
    ∃ entry ∈ fields, ∃ value, entry.2.known? session.store = some value ∧
      .object inner others ∈ value.parts

mutual

/-- An object stands in a value with its fields. -/
theorem object_parts {identity : Nat} {fields : Entries Field} : (value : Value) →
    .object identity fields ∈ value.parts → ∀ part ∈ fieldsParts fields, part ∈ value.parts
  | .list items, stands => items_object_parts items stands
  | .object _ others, stands => by
    rcases List.mem_cons.mp stands with same | inside
    · cases same
      exact fun _ => List.mem_cons_of_mem _
    · exact fun part inner => List.mem_cons_of_mem _ (fields_object_parts others inside part inner)
  | .absent, stands | .null, stands | .boolean _, stands | .int _, stands | .float _, stands
  | .string _, stands | .enum _, stands | .raw _, stands => absurd stands List.not_mem_nil

theorem items_object_parts {identity : Nat} {fields : Entries Field} : (items : List Value) →
    .object identity fields ∈ itemsParts items →
    ∀ part ∈ fieldsParts fields, part ∈ itemsParts items
  | [], stands => absurd stands List.not_mem_nil
  | item :: rest, stands => fun part inner => by
    rcases List.mem_append.mp stands with first | later
    · exact List.mem_append_left _ (object_parts item first part inner)
    · exact List.mem_append_right _ (items_object_parts rest later part inner)

theorem fields_object_parts {identity : Nat} {fields : Entries Field} :
    (others : List (String × Field)) → .object identity fields ∈ fieldsParts others →
    ∀ part ∈ fieldsParts fields, part ∈ fieldsParts others
  | [], stands => absurd stands List.not_mem_nil
  | (_, .held value) :: rest, stands => fun part inner => by
    rcases List.mem_append.mp stands with first | later
    · exact List.mem_append_left _ (object_parts value first part inner)
    · exact List.mem_append_right _ (fields_object_parts rest later part inner)
  | (_, .later _ _) :: rest, stands => fun part inner => by
    rcases List.mem_cons.mp stands with own | later
    · cases own
    · exact List.mem_cons_of_mem _ (fields_object_parts rest later part inner)

end

theorem Part.After.trans {cell place : Cell} {default : Default} {part : Part}
    (first : (Part.cell place default).After cell) (second : part.After place) :
    part.After cell := by
  cases part with
  | object identity fields => trivial
  | cell other _ => exact Nat.lt_trans first second

namespace Ledger

variable {ledger : Ledger} {store : Store}

/-- All cells in the fields of an object were reserved after a cell. -/
def Above (ledger : Ledger) (cell : Cell) (identity : Nat) : Prop :=
  ∀ fields, ledger.objects[identity]? = some fields →
    ∀ part ∈ fieldsParts fields, part.After cell

/-- An object comes before another one if the other is no less above every cell, and is above
another cell besides or was made before it. -/
structure Precedes (ledger : Ledger) (outer inner : Nat) : Prop where
  above : ∀ cell, ledger.Above cell outer → ledger.Above cell inner
  strictly : inner < outer ∨ ∃ cell, ledger.Above cell inner ∧ ¬ ledger.Above cell outer

theorem Precedes.irrefl (identity : Nat) : ¬ ledger.Precedes identity identity := by
  intro precedes
  rcases precedes.strictly with earlier | ⟨cell, above, notAbove⟩
  · exact Nat.lt_irrefl _ earlier
  · exact notAbove above

theorem Precedes.trans {outer between inner : Nat} (first : ledger.Precedes outer between)
    (second : ledger.Precedes between inner) : ledger.Precedes outer inner := by
  refine ⟨fun cell above => second.above cell (first.above cell above), ?_⟩
  rcases first.strictly with earlier | ⟨cell, above, notAbove⟩
  · rcases second.strictly with earlierStill | ⟨cell, above, notAbove⟩
    · exact .inl (Nat.lt_trans earlierStill earlier)
    · exact .inr ⟨cell, above, fun outermost => notAbove (first.above cell outermost)⟩
  · exact .inr ⟨cell, second.above cell above, notAbove⟩

/-- The fields of one object are the parts of a value. -/
theorem above_of_parts {identity : Nat} {fields : Entries Field} {cell : Cell} {value : Value}
    (recorded : ledger.objects[identity]? = some fields)
    (stands : .object identity fields ∈ value.parts) (after : value.Within (Part.After cell)) :
    ledger.Above cell identity := by
  intro others found part inner
  obtain rfl := Option.some.inj (recorded.symm.trans found)
  exact after part (object_parts value stands part inner)

/-- An object comes before the objects that it leads to. -/
theorem precedes_of_known (fits : ledger.Fits store) {outer inner : Nat}
    {fields others : Entries Field} (allowed : ledger.Allows (.object outer fields))
    {entry : String × Field} (member : entry ∈ fields) {value : Value}
    (known : entry.2.known? store = some value) (stands : .object inner others ∈ value.parts) :
    ledger.Precedes outer inner := by
  have own : ∀ part ∈ entry.2.parts, part ∈ fieldsParts fields := fun part inside =>
    mem_fieldsParts.mpr ⟨entry, member, inside⟩
  obtain ⟨name, field⟩ := entry
  cases field with
  | held held =>
    obtain rfl : held = value := Option.some.inj known
    have recorded := fits.earlier allowed _ (own _ stands)
    obtain ⟨inside, found⟩ := List.getElem?_eq_some_iff.mp recorded
    rw [List.length_take] at inside
    have listed : ledger.objects[inner]? = some others :=
      (List.getElem?_take_of_lt (by omega)).symm.trans recorded
    refine ⟨fun cell above => above_of_parts listed stands fun part inside => ?_,
      .inl (by omega)⟩
    exact above fields allowed part (own part inside)
  | later place default =>
    have placed : Part.cell place default ∈ fieldsParts fields :=
      own _ (List.mem_singleton_self _)
    have content := fits.known place value known
    have listed : ledger.objects[inner]? = some others := (content _ stands).1
    have after : value.Within (Part.After place) := content.imp fun _ both => both.2
    refine ⟨fun cell above => above_of_parts listed stands (after.imp fun part => ?_),
      .inr ⟨place, above_of_parts listed stands after, fun above => ?_⟩⟩
    · exact (above fields allowed _ placed).trans
    · exact Nat.lt_irrefl _ (above fields allowed _ placed)

end Ledger

namespace Session

variable {ledger : Ledger} {session : Session}

/-- What a session reaches is in its ledger. -/
theorem Keeps.reaches (keeps : session.Keeps ledger) {part : Part}
    (reached : session.Reaches part) : ledger.Allows part := by
  obtain ⟨name, value, stands, reached⟩ := reached
  induction reached with
  | here inside => exact keeps.names name value stands _ inside
  | through _ filled inside _ => exact (keeps.fits.known _ _ filled _ inside).1

theorem Keeps.leads (keeps : session.Keeps ledger) {outer inner : Nat}
    (leads : session.Leads outer inner) : ledger.Precedes outer inner := by
  obtain ⟨fields, others, reached, entry, member, value, known, stands⟩ := leads
  exact Ledger.precedes_of_known keeps.fits (keeps.reaches reached) member known stands

theorem Keeps.transGen_leads (keeps : session.Keeps ledger) {outer inner : Nat}
    (leads : Relation.TransGen session.Leads outer inner) : ledger.Precedes outer inner := by
  induction leads with
  | single leads => exact keeps.leads leads
  | tail _ leads inductionHypothesis => exact inductionHypothesis.trans (keeps.leads leads)

end Session

/-! ## A writer that goes into every known field -/

mutual

/-- A value unfolds to a snapshot: every known field is gone into, however deep it is, and the
others are left open. -/
inductive Value.Unfolds (store : Store) : Value → Snapshot → Prop where
  | absent : Value.Unfolds store .absent .absent
  | null : Value.Unfolds store .null .null
  | boolean (value : Bool) : Value.Unfolds store (.boolean value) (.boolean value)
  | int (value : Int64) : Value.Unfolds store (.int value) (.int value)
  | float (value : Float) : Value.Unfolds store (.float value) (.float value)
  | string (text : String) : Value.Unfolds store (.string text) (.string text)
  | enum (name : String) : Value.Unfolds store (.enum name) (.enum name)
  | raw (source : String) : Value.Unfolds store (.raw source) (.raw source)
  | list {items : List Value} {shown : List Snapshot} (unfold : ItemsUnfold store items shown) :
      Value.Unfolds store (.list items) (.list shown)
  | object {identity : Nat} {fields : List (String × Field)}
      {shown : List (String × Option Snapshot)} (unfold : FieldsUnfold store fields shown) :
      Value.Unfolds store (.object identity fields) (.object shown)

/-- Items unfold one by one. -/
inductive ItemsUnfold (store : Store) : List Value → List Snapshot → Prop where
  | nil : ItemsUnfold store [] []
  | cons {item : Value} {shown : Snapshot} {items : List Value} {others : List Snapshot}
      (first : item.Unfolds store shown) (rest : ItemsUnfold store items others) :
      ItemsUnfold store (item :: items) (shown :: others)

/-- Fields unfold as far as they are known. -/
inductive FieldsUnfold (store : Store) :
    List (String × Field) → List (String × Option Snapshot) → Prop where
  | nil : FieldsUnfold store [] []
  | known {name : String} {field : Field} {value : Value} {shown : Snapshot}
      {fields : List (String × Field)} {others : List (String × Option Snapshot)}
      (known : field.known? store = some value) (first : value.Unfolds store shown)
      (rest : FieldsUnfold store fields others) :
      FieldsUnfold store ((name, field) :: fields) ((name, some shown) :: others)
  | unresolved {name : String} {field : Field} {fields : List (String × Field)}
      {others : List (String × Option Snapshot)} (unknown : field.known? store = none)
      (rest : FieldsUnfold store fields others) :
      FieldsUnfold store ((name, field) :: fields) ((name, none) :: others)

end

section Unfolding

variable {store : Store}

mutual

/-- A value unfolds in one way only. -/
theorem Value.Unfolds.unique {value : Value} {shown other : Snapshot} :
    value.Unfolds store shown → value.Unfolds store other → other = shown
  | .absent, .absent | .null, .null | .boolean _, .boolean _ | .int _, .int _
  | .float _, .float _ | .string _, .string _ | .enum _, .enum _ | .raw _, .raw _ => rfl
  | .list first, .list second => congrArg Snapshot.list (first.unique second)
  | .object first, .object second => congrArg Snapshot.object (first.unique second)

theorem ItemsUnfold.unique {items : List Value} {shown others : List Snapshot} :
    ItemsUnfold store items shown → ItemsUnfold store items others → others = shown
  | .nil, .nil => rfl
  | .cons first rest, .cons other others =>
    congrArg₂ List.cons (first.unique other) (rest.unique others)

theorem FieldsUnfold.unique {fields : List (String × Field)}
    {shown others : List (String × Option Snapshot)} :
    FieldsUnfold store fields shown → FieldsUnfold store fields others → others = shown
  | .nil, .nil => rfl
  | .known known first rest, .known again other others => by
    obtain rfl := Option.some.inj (known.symm.trans again)
    rw [first.unique other, rest.unique others]
  | .known known _ _, .unresolved unknown _ => absurd (known.symm.trans unknown) nofun
  | .unresolved unknown _, .known known _ _ => absurd (known.symm.trans unknown) nofun
  | .unresolved _ rest, .unresolved _ others => by rw [rest.unique others]

end

/-- What is known of a cell is its value, unfolded. -/
def LooksThrough (store : Store) (look : Cell → Option Snapshot) : Part → Prop
  | .object _ _ => True
  | .cell place _ => Option.Rel (Value.Unfolds store) (store.value? place) (look place)

mutual

/-- The snapshot of a value is what it unfolds to, if this is so of its cells. -/
theorem snapshotWith_unfolds {look : Cell → Option Snapshot} : (value : Value) →
    value.Within (LooksThrough store look) → value.Unfolds store (snapshotWith look value)
  | .absent, _ => .absent
  | .null, _ => .null
  | .boolean value, _ => .boolean value
  | .int value, _ => .int value
  | .float value, _ => .float value
  | .string text, _ => .string text
  | .enum name, _ => .enum name
  | .raw source, _ => .raw source
  | .list items, within => .list (snapshotItems_unfold items ((within_list items).mp within))
  | .object identity fields, within =>
    .object (snapshotFields_unfold fields ((within_object identity fields).mp within).2)

theorem snapshotItems_unfold {look : Cell → Option Snapshot} : (items : List Value) →
    (∀ item ∈ items, item.Within (LooksThrough store look)) →
    ItemsUnfold store items (snapshotItems look items)
  | [], _ => .nil
  | item :: rest, within =>
    have split := List.forall_mem_cons.mp within
    .cons (snapshotWith_unfolds item split.1) (snapshotItems_unfold rest split.2)

theorem snapshotFields_unfold {look : Cell → Option Snapshot} :
    (fields : List (String × Field)) →
    (∀ entry ∈ fields, entry.2.Within (LooksThrough store look)) →
    FieldsUnfold store fields (snapshotFields look fields)
  | [], _ => .nil
  | (_, .held value) :: rest, within =>
    have split := List.forall_mem_cons.mp within
    .known rfl (snapshotWith_unfolds value ((within_held value).mp split.1))
      (snapshotFields_unfold rest split.2)
  | (_, .later place default) :: rest, within => by
    obtain ⟨first, others⟩ := List.forall_mem_cons.mp within
    have looks := (within_later place default).mp first
    have rest := snapshotFields_unfold rest others
    simp only [LooksThrough] at looks
    rw [snapshotFields]
    cases filled : store.value? place with
    | none =>
      rw [filled] at looks
      cases seen : look place with
      | none => exact .unresolved filled rest
      | some shown => rw [seen] at looks; cases looks
    | some value =>
      rw [filled] at looks
      cases seen : look place with
      | none => rw [seen] at looks; cases looks
      | some shown =>
        rw [seen] at looks
        cases looks with
        | some unfolds => exact .known filled unfolds rest

end

/-- A way through cells goes to cells that were reserved later, so that their number is more than
enough for it. -/
theorem lookWithin_unfolds {ledger : Ledger} (fits : ledger.Fits store) (ways : Nat)
    {value : Value} (allowed : value.Within ledger.Allows) (reserved : Nat)
    (later : value.Within fun part => ∀ place default, part = .cell place default →
      reserved ≤ place.index) (enough : ledger.cells ≤ reserved + ways) :
    value.Unfolds store (snapshotWith (store.lookWithin ways) value) := by
  induction ways generalizing value reserved with
  | zero =>
    refine snapshotWith_unfolds value fun part stands => ?_
    cases part with
    | object identity fields => trivial
    | cell place default =>
      have inside : place.index < ledger.cells := allowed _ stands
      have := later _ stands place default rfl
      omega
  | succ ways inductionHypothesis =>
    refine snapshotWith_unfolds value fun part stands => ?_
    cases part with
    | object identity fields => trivial
    | cell place default =>
      simp only [LooksThrough, Store.lookWithin]
      cases filled : store.value? place with
      | none => exact .none
      | some content =>
        have known := fits.known place content filled
        refine .some (inductionHypothesis (known.imp fun _ both => both.1) (place.index + 1) ?_ ?_)
        · refine known.imp fun part both other _ same => ?_
          subst same
          exact both.2
        · have := later _ stands place default rfl
          omega

/-- The snapshot of a value is what it unfolds to. -/
theorem snapshot_unfolds {ledger : Ledger} (fits : ledger.Fits store) {value : Value}
    (allowed : value.Within ledger.Allows) : value.Unfolds store (store.snapshot value) :=
  lookWithin_unfolds fits store.cells.size allowed 0 (fun _ _ _ _ _ => Nat.zero_le _)
    (Nat.le_of_eq (by rw [Nat.zero_add, fits.counted]))

end Unfolding

/-- What is known of the values of a session is finite. At every moment in the course of a
script, whatever it has put into what, no object leads back to itself by known fields and items;
an object has one list of fields wherever it is reached; and a value that is made of parts that
are reached unfolds to exactly one snapshot, of which its text is written with nothing worked
out. -/
theorem known_values_are_trees (accessor : Accessor) (script : List Instruction) :
    ∀ moment ∈ scriptMoments script { accessor },
      (∀ identity, ¬ Relation.TransGen moment.Leads identity identity) ∧
      (∀ identity fields others, moment.Reaches (.object identity fields) →
        moment.Reaches (.object identity others) → fields = others) ∧
      ∀ value : Value, value.Within moment.Reaches →
        ∃ shown, value.Unfolds moment.store shown ∧
          (∀ other, value.Unfolds moment.store other → other = shown) ∧
          Reading.text.answer moment.registry value moment.store =
            (.text shown.text, moment.store) ∧
          ∀ identity fields, value = .object identity fields →
            Reading.objectText.answer moment.registry value moment.store =
              (.text shown.text, moment.store) := by
  intro moment member
  obtain ⟨ledger, keeps⟩ := scriptMoments_ledger accessor script moment member
  refine ⟨fun identity leads => ?_, fun identity fields others reached again => ?_,
    fun value reached => ?_⟩
  · exact Ledger.Precedes.irrefl identity (keeps.transGen_leads leads)
  · have first : ledger.objects[identity]? = some fields := keeps.reaches reached
    exact Option.some.inj (first.symm.trans (keeps.reaches again))
  · have unfolds := snapshot_unfolds keeps.fits (reached.imp fun _ => keeps.reaches)
    refine ⟨_, unfolds, fun other again => unfolds.unique again, rfl, ?_⟩
    rintro identity fields rfl
    rfl

/-- A node that was put behind the next of its own draft leads to the node that it was, and is
written to the end. -/
theorem inserted_draft_is_written :
    let accessor := Accessor.recipe
      ⟨[⟨"Node", .inputObject, .record none [("next", .factory "Node")]⟩]⟩
    let insertion := [Instruction.step (.copy "draft" ["next"] "next"),
      .step (.operate "draft" (.write ["next"] (.set "next" (.copy "draft" []))))]
    let moment := (runScript [.step (.fixture "Node" "node"),
      .produce "node" "draft" insertion none "node"] { accessor }).2
    (∀ identity, ¬ Relation.TransGen moment.Leads identity identity) ∧
    ∃ value shown, moment.bindings.value? "node" = some value ∧
      value.Unfolds moment.store shown ∧
      (∀ other, value.Unfolds moment.store other → other = shown) ∧
      shown.text = "\x7b\"next\": \x7b\"next\": \x7b\"next\": \x7b\"next\": <unresolved>" ++
        "\x7d\x7d\x7d\x7d" := by
  intro accessor insertion moment
  obtain ⟨value, stands⟩ : ∃ value, moment.bindings.value? "node" = some value :=
    Option.isSome_iff_exists.mp (by decide +kernel)
  obtain ⟨acyclic, -, trees⟩ := known_values_are_trees accessor _ moment
    (runScript_mem_moments _ _)
  obtain ⟨shown, unfolds, unique, answer, -⟩ :=
    trees value fun part inside => ⟨"node", value, stands, .here inside⟩
  refine ⟨acyclic, value, shown, stands, unfolds, unique, ?_⟩
  have same : (moment.store.snapshot value).text = shown.text :=
    Answer.text.inj (Prod.ext_iff.mp answer).1
  have written : (moment.bindings.value? "node").map (fun value =>
      (moment.store.snapshot value).text) = some
        ("\x7b\"next\": \x7b\"next\": \x7b\"next\": \x7b\"next\": <unresolved>" ++
          "\x7d\x7d\x7d\x7d") := by decide +kernel
  rw [stands] at written
  exact same.symm.trans (Option.some.inj written)

end SchemaFixtures.Fixture
