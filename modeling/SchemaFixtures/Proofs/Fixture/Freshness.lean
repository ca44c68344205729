import Mathlib.Data.List.Flatten
import Mathlib.Data.List.Nodup
import SchemaFixtures.Proofs.Fixture.Parts
import SchemaFixtures.Proofs.Fixture.Persistence

/-!
# What is made is new

Evaluating a default makes parts that are all new: the objects are counted on from those of the
store, the cells are reserved behind those of the store, and each object has only objects in its
fields that were made before it. Nothing appears in a cell, and no cell is looked at: the value
depends only on how many objects and cells there were.
-/

namespace SchemaFixtures.Fixture

theorem Store.Has.grows {before after : Store} (objects : before.objects ≤ after.objects)
    (cells : before.cells.size ≤ after.cells.size) {key : Key} (has : before.Has key) :
    after.Has key := by
  cases key with
  | object identity => exact Nat.lt_of_lt_of_le has objects
  | cell place => exact Nat.lt_of_lt_of_le has cells

/-- An object is recorded with its fields, and a cell is one of the cells that are counted. -/
def Part.Recorded (objects : List (Entries Field)) (cells : Nat) : Part → Prop
  | .object identity fields => objects[identity]? = some fields
  | .cell place _ => place.index < cells

theorem Part.Recorded.grows {objects grown : List (Entries Field)} {cells more : Nat}
    (grows : objects <+: grown) (counted : cells ≤ more) {part : Part}
    (recorded : part.Recorded objects cells) : part.Recorded grown more := by
  cases part with
  | object identity fields =>
    obtain ⟨added, rfl⟩ := grows
    have inside := (List.getElem?_eq_some_iff.mp recorded).1
    exact (List.getElem?_append_left inside).trans recorded
  | cell place default => exact Nat.lt_of_lt_of_le recorded counted

/-- The objects of a store in the order in which they were made: each has objects in its fields
that were made before it, and cells of the store. -/
structure Store.Records (store : Store) (objects : List (Entries Field)) : Prop where
  count : objects.length = store.objects
  earlier : ∀ identity fields, objects[identity]? = some fields → ∀ part ∈ fieldsParts fields,
    part.Recorded (objects.take identity) store.cells.size

/-- Parts were made between two stores: the objects are recorded behind those that were there, no
value has appeared, none of the parts was there before, and no two of them are the same. -/
def Store.Makes (before : Store) (objects : List (Entries Field)) (after : Store)
    (made : List Part) : Prop :=
  ∃ grown, objects <+: grown ∧ after.Records grown ∧ after.value? = before.value? ∧
    before.cells.size ≤ after.cells.size ∧
    (∀ part ∈ made, part.Recorded grown after.cells.size ∧ ¬ before.Has part.key) ∧
    (made.map Part.key).Nodup

/-- The pairs that become entries are among the pairs. -/
theorem ofPairs_subperm {α : Type} (pairs : List (String × α)) :
    (Entries.ofPairs pairs).Subperm pairs := by
  have put (entries : Entries α) (name : String) (value : α) :
      (entries.put name value).Subperm (entries ++ [(name, value)]) := by
    induction entries with
    | nil => exact List.Subperm.refl _
    | cons entry rest inductionHypothesis =>
      obtain ⟨key, old⟩ := entry
      by_cases found : key = name
      · subst found
        rw [Entries.put, if_pos rfl]
        exact (List.perm_append_singleton _ rest).symm.subperm.trans
          (List.sublist_cons_self (key, old) _).subperm
      · rw [Entries.put, if_neg found, List.cons_append]
        exact (List.subperm_cons _).mpr inductionHypothesis
  have onto (entries : Entries α) :
      (pairs.foldl (fun entries pair => entries.put pair.1 pair.2) entries).Subperm
        (entries ++ pairs) := by
    induction pairs generalizing entries with
    | nil => rw [List.foldl_nil, List.append_nil]
    | cons pair rest inductionHypothesis =>
      have split : entries ++ pair :: rest = (entries ++ [pair]) ++ rest := by simp
      rw [List.foldl_cons, split]
      exact (inductionHypothesis _).trans ((put entries pair.1 pair.2).append (List.Subperm.refl _))
  exact onto []

/-- Entries have no part twice that their pairs do not have twice. -/
theorem nodup_entriesParts {pairs : List (String × Field)}
    (once : ((fieldsParts pairs).map Part.key).Nodup) :
    ((fieldsParts (Entries.ofPairs pairs)).map Part.key).Nodup := by
  obtain ⟨some, same, sub⟩ := ofPairs_subperm pairs
  rw [fieldsParts_eq] at once ⊢
  have among := ((sub.flatMap _).map Part.key).nodup once
  exact ((same.flatMap_right _).map Part.key).nodup_iff.mp among

namespace Store

variable {before between after store : Store} {objects : List (Entries Field)}

theorem Records.has (records : store.Records objects) {part : Part}
    (recorded : part.Recorded objects store.cells.size) : store.Has part.key := by
  cases part with
  | object identity fields =>
    show identity < store.objects
    rw [← records.count]
    exact (List.getElem?_eq_some_iff.mp recorded).1
  | cell place default => exact recorded

theorem Makes.nothing (records : store.Records objects) : store.Makes objects store [] :=
  ⟨objects, List.prefix_refl _, records, rfl, Nat.le_refl _, by simp, List.nodup_nil⟩

/-- What is made one after another is made. -/
theorem Makes.append {made more : List Part} (first : before.Makes objects between made)
    (then_ : ∀ grown, between.Records grown → between.Makes grown after more)
    (records : before.Records objects) : before.Makes objects after (made ++ more) := by
  obtain ⟨grown, grows, recorded, same, counted, fresh, once⟩ := first
  obtain ⟨last, growsOn, recordedOn, sameOn, countedOn, freshOn, onceOn⟩ := then_ grown recorded
  refine ⟨last, grows.trans growsOn, recordedOn, sameOn.trans same,
    Nat.le_trans counted countedOn, ?_, ?_⟩
  · intro part member
    rcases List.mem_append.mp member with early | late
    · exact ⟨(fresh part early).1.grows growsOn countedOn, (fresh part early).2⟩
    · refine ⟨(freshOn part late).1, fun has => (freshOn part late).2 (has.grows ?_ counted)⟩
      rw [← records.count, ← recorded.count]
      exact grows.length_le
  · rw [List.map_append, List.nodup_append']
    refine ⟨once, onceOn, fun key early late => ?_⟩
    obtain ⟨part, made, rfl⟩ := List.mem_map.mp early
    obtain ⟨other, madeOn, equal⟩ := List.mem_map.mp late
    exact (freshOn other madeOn).2 (equal ▸ recorded.has (fresh part made).1)

/-- A new object is recorded behind the others, if the parts of its fields are recorded. -/
theorem Records.newObject (records : store.Records objects) {fields : Entries Field}
    (inner : ∀ part ∈ fieldsParts fields, part.Recorded objects store.cells.size) :
    (store.newObject fields).2.Records (objects ++ [fields]) := by
  refine ⟨by simp [records.count, Store.newObject], fun identity others found part stands => ?_⟩
  by_cases old : identity < objects.length
  · rw [List.getElem?_append_left old] at found
    rw [List.take_append_of_le_length (Nat.le_of_lt old)]
    exact records.earlier identity others found part stands
  · obtain rfl : identity = objects.length := by
      have bound := (List.getElem?_eq_some_iff.mp found).1
      simp only [List.length_append, List.length_singleton] at bound
      omega
    rw [List.getElem?_concat_length] at found
    obtain rfl := Option.some.inj found
    rw [List.take_left]
    exact inner part stands

/-- A new object around fields that were made. -/
theorem Makes.newObject {pairs : List (String × Field)}
    (first : before.Makes objects store (fieldsParts pairs)) (records : before.Records objects) :
    before.Makes objects (store.newObject (Entries.ofPairs pairs)).2
      (store.newObject (Entries.ofPairs pairs)).1.parts := by
  obtain ⟨grown, grows, recorded, same, counted, fresh, once⟩ := first
  have inner : ∀ part ∈ fieldsParts (Entries.ofPairs pairs),
      part.Recorded grown store.cells.size ∧ ¬ before.Has part.key := by
    intro part stands
    obtain ⟨entry, member, stands⟩ := mem_fieldsParts.mp stands
    exact fresh part (mem_fieldsParts.mpr ⟨entry, Entries.mem_of_mem_ofPairs member, stands⟩)
  have more : grown <+: grown ++ [Entries.ofPairs pairs] := List.prefix_append _ _
  refine ⟨_, grows.trans more, recorded.newObject fun part stands => (inner part stands).1, same,
    counted, ?_, ?_⟩
  · refine List.forall_mem_cons.mpr ⟨⟨?_, ?_⟩, fun part stands => ?_⟩
    · rw [Part.Recorded, ← recorded.count]
      exact List.getElem?_concat_length
    · show ¬ store.objects < before.objects
      rw [← recorded.count, ← records.count]
      exact Nat.not_lt.mpr grows.length_le
    · exact ⟨(inner part stands).1.grows more (Nat.le_refl _), (inner part stands).2⟩
  · refine List.nodup_cons.mpr ⟨fun member => ?_, nodup_entriesParts once⟩
    obtain ⟨part, stands, equal⟩ := List.mem_map.mp member
    have has := recorded.has (inner part stands).1
    rw [equal] at has
    exact Nat.lt_irrefl _ has

/-- Reserving one cell after another. -/
theorem reserveFields_makes (records : store.Records objects) (fields : List (String × Default)) :
    store.Makes objects (store.reserveFields fields).2
      (fieldsParts (store.reserveFields fields).1) := by
  induction fields generalizing store objects with
  | nil => exact .nothing records
  | cons entry rest inductionHypothesis =>
    obtain ⟨name, default⟩ := entry
    have reserved : store.Makes objects store.reserve.2 [.cell store.reserve.1 default] := by
      have size : store.reserve.2.cells.size = store.cells.size + 1 := Array.size_push _
      refine ⟨objects, List.prefix_refl _, ⟨records.count, ?_⟩, value?_reserve store,
        by rw [size]; exact Nat.le_succ _, ?_, List.nodup_singleton _⟩
      · intro identity fields found part stands
        exact (records.earlier identity fields found part stands).grows (List.prefix_refl _)
          (by rw [size]; exact Nat.le_succ _)
      · refine List.forall_mem_singleton.mpr ⟨?_, Nat.lt_irrefl _⟩
        show store.cells.size < store.reserve.2.cells.size
        rw [size]
        exact Nat.lt_succ_self _
    exact reserved.append (fun grown recorded => inductionHypothesis recorded) records

end Store

mutual

theorem ofJson_makes {objects : List (Entries Field)} : (json : Json) → (store : Store) →
    store.Records objects → store.Makes objects (ofJson json store).2 (ofJson json store).1.parts
  | .null, _, records | .bool _, _, records | .int _, _, records | .float _, _, records
  | .string _, _, records => .nothing records
  | .array items, store, records => ofJsonItems_makes items store records
  | .object members, store, records => (ofJsonMembers_makes members store records).newObject records

theorem ofJsonItems_makes {objects : List (Entries Field)} : (items : List Json) →
    (store : Store) → store.Records objects →
    store.Makes objects (ofJsonItems items store).2 (itemsParts (ofJsonItems items store).1)
  | [], _, records => .nothing records
  | item :: rest, store, records =>
    (ofJson_makes item store records).append
      (fun _ recorded => ofJsonItems_makes rest _ recorded) records

theorem ofJsonMembers_makes {objects : List (Entries Field)} :
    (members : List (String × Json)) → (store : Store) → store.Records objects →
    store.Makes objects (ofJsonMembers members store).2
      (fieldsParts (ofJsonMembers members store).1)
  | [], _, records => .nothing records
  | (_, member) :: rest, store, records =>
    (ofJson_makes member store records).append
      (fun _ recorded => ofJsonMembers_makes rest _ recorded) records

end

section Evaluation

variable {objects : List (Entries Field)} {store : Store}

theorem produce_makes (records : store.Records objects) (default : Default) :
    store.Makes objects (default.produce store).2 (default.produce store).1.parts := by
  cases default with
  | literal configured =>
    simp only [Default.produce, Literal.value]
    cases configured.meaning with
    | json json => exact ofJson_makes json store records
    | undefined | quoted _ | raw => exact .nothing records
  | emptyObject =>
    have none : store.Makes objects store (fieldsParts []) := .nothing records
    exact none.newObject records
  | absent | emptyList | emptyString | zeroInt | zeroFloat | false | factory _ =>
    exact .nothing records

theorem body_produce_makes (records : store.Records objects) (body : Body) :
    store.Makes objects (body.produce store).2 (body.produce store).1.parts := by
  cases body with
  | scalar default => exact produce_makes records default
  | record typename fields =>
    have named : store.Makes objects store (fieldsParts (typename.toList.map fun name =>
        (typenameField, Field.held (.string name)))) := by
      cases typename <;> exact .nothing records
    have all := named.append (fun _ recorded => Store.reserveFields_makes recorded fields) records
    rw [← fieldsParts_append] at all
    exact all.newObject records
  | union _ | enum _ => exact .nothing records

/-- The value of a default is made of new parts. -/
theorem evaluate_makes (registry : Registry) (records : store.Records objects)
    (default : Default) :
    store.Makes objects (default.evaluate registry store).2
      (default.evaluate registry store).1.parts := by
  cases default with
  | factory name =>
    simp only [Default.evaluate]
    cases registry.chain name with
    | none => exact .nothing records
    | some chainEnd =>
      cases chainEnd with
      | missing => exact .nothing records
      | factory found => exact body_produce_makes records found.body
  | literal configured => exact produce_makes records (.literal configured)
  | emptyObject => exact produce_makes records .emptyObject
  | absent | emptyList | emptyString | zeroInt | zeroFloat | false => exact .nothing records

end Evaluation

/-- Any store has records that tell nothing about the fields of its objects. -/
theorem blank_records (store : Store) : store.Records (List.replicate store.objects []) := by
  refine ⟨List.length_replicate, fun identity fields found part stands => ?_⟩
  obtain rfl : fields = [] := by
    rw [List.getElem?_replicate] at found
    split at found
    · exact (Option.some.inj found).symm
    · cases found
  cases stands

/-- Evaluating a default lets no value appear and makes only new parts. -/
theorem evaluate_fresh (registry : Registry) (default : Default) (store : Store) :
    let made := default.evaluate registry store
    made.2.value? = store.value? ∧ (∀ key, store.Has key → made.2.Has key) ∧
      ∀ part ∈ made.1.parts, made.2.Has part.key ∧ ¬ store.Has part.key := by
  have records := blank_records store
  obtain ⟨grown, grows, recorded, same, counted, fresh, -⟩ :=
    evaluate_makes registry records default
  refine ⟨same, fun key has => has.grows ?_ counted, fun part stands => ?_⟩
  · rw [← records.count, ← recorded.count]
    exact grows.length_le
  · exact ⟨recorded.has (fresh part stands).1, (fresh part stands).2⟩

/-- No part stands twice in the value of a default. -/
theorem evaluate_once (registry : Registry) (default : Default) (store : Store) :
    ((default.evaluate registry store).1.parts.map Part.key).Nodup := by
  obtain ⟨_, _, _, _, _, _, once⟩ := evaluate_makes registry (blank_records store) default
  exact once

/-- What stands in a cell after one was filled: what it was filled with, or what stood there. -/
theorem value?_fill {store : Store} {place other : Cell} {value content : Value}
    (filled : (store.fill place value).value? other = some content) :
    (other = place ∧ content = value) ∨ store.value? other = some content := by
  by_cases same : place.index = other.index
  · simp only [Store.value?, Store.fill, Array.getElem?_setIfInBounds, same, if_true] at filled
    split at filled
    · obtain rfl := Option.some.inj filled
      exact .inl ⟨congrArg Cell.mk same.symm, rfl⟩
    · cases filled
  · rw [Store.value?, Store.fill, Array.getElem?_setIfInBounds_ne same] at filled
    exact .inr filled

/-! ## No cell is looked at -/

/-- Two stores have as many cells and objects. -/
structure Store.Counts (store other : Store) : Prop where
  cells : store.cells.size = other.cells.size
  objects : store.objects = other.objects

section Counts

variable {store other : Store}

theorem newObject_counts (counts : store.Counts other) (fields : Entries Field) :
    (store.newObject fields).1 = (other.newObject fields).1 ∧
      (store.newObject fields).2.Counts (other.newObject fields).2 := by
  simp only [Store.newObject, counts.objects, true_and]
  exact ⟨counts.cells, rfl⟩

theorem reserveFields_counts (counts : store.Counts other) (fields : List (String × Default)) :
    (store.reserveFields fields).1 = (other.reserveFields fields).1 ∧
      (store.reserveFields fields).2.Counts (other.reserveFields fields).2 := by
  induction fields generalizing store other with
  | nil => exact ⟨rfl, counts⟩
  | cons entry rest inductionHypothesis =>
    have reserved : store.reserve.2.Counts other.reserve.2 :=
      ⟨by simp [Store.reserve, counts.cells], counts.objects⟩
    obtain ⟨same, counted⟩ := inductionHypothesis reserved
    exact ⟨congrArg₂ List.cons (by rw [counts.cells]) same, counted⟩

end Counts

mutual

theorem ofJson_counts : (json : Json) → {store other : Store} → store.Counts other →
    (ofJson json store).1 = (ofJson json other).1 ∧
      (ofJson json store).2.Counts (ofJson json other).2
  | .null, _, _, counts | .bool _, _, _, counts | .int _, _, _, counts | .float _, _, _, counts
  | .string _, _, _, counts => ⟨rfl, counts⟩
  | .array items, _, _, counts => by
    obtain ⟨same, counted⟩ := ofJsonItems_counts items counts
    exact ⟨congrArg Value.list same, counted⟩
  | .object members, _, _, counts => by
    obtain ⟨same, counted⟩ := ofJsonMembers_counts members counts
    simp only [ofJson, same]
    exact newObject_counts counted _

theorem ofJsonItems_counts : (items : List Json) → {store other : Store} → store.Counts other →
    (ofJsonItems items store).1 = (ofJsonItems items other).1 ∧
      (ofJsonItems items store).2.Counts (ofJsonItems items other).2
  | [], _, _, counts => ⟨rfl, counts⟩
  | item :: rest, _, _, counts => by
    obtain ⟨first, counted⟩ := ofJson_counts item counts
    obtain ⟨others, countedOn⟩ := ofJsonItems_counts rest counted
    exact ⟨congrArg₂ List.cons first others, countedOn⟩

theorem ofJsonMembers_counts : (members : List (String × Json)) → {store other : Store} →
    store.Counts other →
    (ofJsonMembers members store).1 = (ofJsonMembers members other).1 ∧
      (ofJsonMembers members store).2.Counts (ofJsonMembers members other).2
  | [], _, _, counts => ⟨rfl, counts⟩
  | (name, member) :: rest, _, _, counts => by
    obtain ⟨first, counted⟩ := ofJson_counts member counts
    obtain ⟨others, countedOn⟩ := ofJsonMembers_counts rest counted
    exact ⟨congrArg₂ List.cons (by rw [first]) others, countedOn⟩

end

theorem produce_counts {store other : Store} (counts : store.Counts other) (default : Default) :
    (default.produce store).1 = (default.produce other).1 ∧
      (default.produce store).2.Counts (default.produce other).2 := by
  cases default with
  | literal configured =>
    simp only [Default.produce, Literal.value]
    cases configured.meaning with
    | json json => exact ofJson_counts json counts
    | undefined | quoted _ | raw => exact ⟨rfl, counts⟩
  | emptyObject => exact newObject_counts counts []
  | absent | emptyList | emptyString | zeroInt | zeroFloat | false | factory _ =>
    exact ⟨rfl, counts⟩

theorem body_produce_counts {store other : Store} (counts : store.Counts other) (body : Body) :
    (body.produce store).1 = (body.produce other).1 ∧
      (body.produce store).2.Counts (body.produce other).2 := by
  cases body with
  | scalar default => exact produce_counts counts default
  | record typename fields =>
    obtain ⟨same, counted⟩ := reserveFields_counts counts fields
    simp only [Body.produce, same]
    exact newObject_counts counted _
  | union _ | enum _ => exact ⟨rfl, counts⟩

/-- The value of a default depends only on how many cells and objects there are, not on what
stands in the cells. -/
theorem evaluate_counts (registry : Registry) {store other : Store} (counts : store.Counts other)
    (default : Default) :
    (default.evaluate registry store).1 = (default.evaluate registry other).1 ∧
      (default.evaluate registry store).2.Counts (default.evaluate registry other).2 := by
  cases default with
  | factory name =>
    simp only [Default.evaluate]
    cases registry.chain name with
    | none => exact ⟨rfl, counts⟩
    | some chainEnd =>
      cases chainEnd with
      | missing => exact ⟨rfl, counts⟩
      | factory found => exact body_produce_counts counts found.body
  | literal configured => exact produce_counts counts (.literal configured)
  | emptyObject => exact produce_counts counts .emptyObject
  | absent | emptyList | emptyString | zeroInt | zeroFloat | false => exact ⟨rfl, counts⟩

end SchemaFixtures.Fixture
