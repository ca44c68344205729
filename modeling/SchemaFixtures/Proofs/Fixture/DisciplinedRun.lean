import SchemaFixtures.Proofs.Fixture.Course
import SchemaFixtures.Proofs.Fixture.Discipline

/-!
# Disciplined runs

A step copies what it finds in named values, and works on a named value. If what it copies is
allowed and so is the value that it works on, it leaves a store that fits and names only allowed
values besides those that it leaves alone. So a script whose names all stand for allowed values
goes only through moments of this kind, whatever its recipes do.
-/

namespace SchemaFixtures.Fixture

/-! ## What is copied -/

mutual

/-- The copies in a content: of what a path finds in a named value. -/
def Content.copies : Content → List (String × List String)
  | .list items => itemCopies items
  | .object fields => fieldCopies fields
  | .copy source path => [(source, path)]
  | _ => []

/-- The copies in items. -/
def itemCopies : List Content → List (String × List String)
  | [] => []
  | item :: rest => item.copies ++ itemCopies rest

/-- The copies in fields. -/
def fieldCopies : List (String × Content) → List (String × List String)
  | [] => []
  | (_, content) :: rest => content.copies ++ fieldCopies rest

end

/-- The copies in slots. -/
def slotCopies (slots : List (Slot Content)) : List (String × List String) :=
  slots.flatMap fun
    | .kept _ => []
    | .fresh content => content.copies

/-- The copies in what a change puts in. -/
def Writing.copies : Writing → List (String × List String)
  | .reach => []
  | .assign content => content.copies
  | .push content => content.copies
  | .set _ content => content.copies
  | .remove _ => []
  | .arrange slots => slotCopies slots
  | .onItem _ _ writing => writing.copies

/-- The copies in an operation. -/
def Operation.copies : Operation → List (String × List String)
  | .read _ _ => []
  | .write _ writing => writing.copies

/-- The copies in a recipe. -/
def RecipeSteps.copies (steps : RecipeSteps) : List (String × List String) :=
  steps.replacement.toList.flatMap Content.copies ++ steps.operations.flatMap Operation.copies

/-- The copies that a step makes. The draft of a recipe is one. -/
def Step.copies : Step → List (String × List String)
  | .fixture _ _ => []
  | .content made _ => made.copies
  | .copy source path _ => [(source, path)]
  | .produce source steps _ => (source, []) :: steps.copies
  | .fixtureWith _ steps _ => steps.copies
  | .operate _ operation => operation.copies
  | .sameObject left right => [left, right]
  | .drop _ => []
  | .accessor => []

/-- The names whose values a step works on. -/
def Step.handles : Step → List String
  | .operate source _ => [source]
  | _ => []

namespace Discipline

variable {registry : Registry} {World : Type} [Preorder World]
  {discipline : Discipline registry World} {world : World} {store : Store}
  {bindings : Entries Value}

theorem copyOf_kept (fits : discipline.fits world store) {source : String}
    (supplies : ∀ value, bindings.value? source = some value →
      value.Within (discipline.allows world)) (path : List String) :
    discipline.Keeps world (copyOf registry bindings source path store).2 fun grown =>
      ∀ found ∈ (copyOf registry bindings source path store).1,
        found.Within (discipline.allows grown) := by
  simp only [copyOf]
  cases stands : bindings.value? source with
  | none => exact .here fits (by simp)
  | some value => exact get?_kept fits (supplies value stands) path

/-- Whenever the copies are made, the store still fits, and what is copied is allowed. -/
def Finds (discipline : Discipline registry World) (world : World) (bindings : Entries Value)
    (copies : List (String × List String)) : Prop :=
  ∀ copy ∈ copies, ∀ grown, world ≤ grown → ∀ store, discipline.fits grown store →
    discipline.Keeps grown (copyOf registry bindings copy.1 copy.2 store).2 fun last =>
      ∀ found ∈ (copyOf registry bindings copy.1 copy.2 store).1,
        found.Within (discipline.allows last)

theorem Finds.grows {grown : World} (grows : world ≤ grown)
    {copies : List (String × List String)} (finds : discipline.Finds world bindings copies) :
    discipline.Finds grown bindings copies :=
  fun copy member last growsOn => finds copy member last (le_trans grows growsOn)

theorem finds_append {copies others : List (String × List String)} :
    discipline.Finds world bindings (copies ++ others) ↔
      discipline.Finds world bindings copies ∧ discipline.Finds world bindings others := by
  rw [Finds, List.forall_mem_append]
  rfl

theorem finds_cons {copy : String × List String} {others : List (String × List String)} :
    discipline.Finds world bindings (copy :: others) ↔
      discipline.Finds world bindings [copy] ∧ discipline.Finds world bindings others := by
  rw [← List.singleton_append, finds_append]

theorem finds_flatMap {α : Type} {items : List α} {copies : α → List (String × List String)} :
    discipline.Finds world bindings (items.flatMap copies) ↔
      ∀ item ∈ items, discipline.Finds world bindings (copies item) := by
  simp only [Finds, List.mem_flatMap]
  constructor
  · exact fun all item member copy stands => all copy ⟨item, member, stands⟩
  · exact fun all copy ⟨item, member, stands⟩ => all item member copy stands

/-- Named values that are all allowed supply every name. -/
theorem Names.supplies (names : discipline.Names world bindings) (sources : List String) :
    discipline.Supplies world bindings sources :=
  fun _ _ _ stands => names _ (Entries.mem_of_value? stands)

/-- Copies of allowed values are allowed. -/
theorem Supplies.finds {copies : List (String × List String)}
    (supplies : discipline.Supplies world bindings (copies.map (·.1))) :
    discipline.Finds world bindings copies :=
  fun copy member _ grows _ fits => copyOf_kept fits
    (fun value stands => value_grows grows
      (supplies copy.1 (List.mem_map_of_mem member) value stands)) copy.2

theorem Names.finds (names : discipline.Names world bindings)
    (copies : List (String × List String)) : discipline.Finds world bindings copies :=
  (names.supplies _).finds

/-! ## Contents -/

mutual

theorem content_kept {world : World} {store : Store} (fits : discipline.fits world store) :
    (content : Content) → discipline.Finds world bindings content.copies →
    discipline.Keeps world (content.value registry bindings store).2 fun grown =>
      (content.value registry bindings store).1.Within (discipline.allows grown)
  | .list items, finds =>
    (contentItems_kept fits items finds).imp fun _ _ kept => (within_list _).mpr kept
  | .object fields, finds =>
    (contentFields_kept fits fields finds).next fun _ _ fitsOn kept =>
      object_kept fitsOn fun entry member => kept entry (Entries.mem_of_mem_ofPairs member)
  | .copy source path, finds => by
    refine (finds _ List.mem_cons_self world (le_refl _) store fits).imp
      fun grown _ kept => ?_
    simp only [Content.value]
    cases found : (copyOf registry bindings source path store).1 with
    | none => exact within_absent
    | some value => exact kept value found
  | .absent, _ | .null, _ | .boolean _, _ | .int _, _ | .float _, _ | .string _, _ | .enum _, _
  | .raw _, _ => .here fits (by simp [Content.value])

theorem contentItems_kept {world : World} {store : Store} (fits : discipline.fits world store) :
    (items : List Content) → discipline.Finds world bindings (itemCopies items) →
    discipline.Keeps world (contentItems registry bindings items store).2 fun grown =>
      ∀ item ∈ (contentItems registry bindings items store).1,
        item.Within (discipline.allows grown)
  | [], _ => .here fits (by simp [contentItems])
  | item :: rest, finds => by
    obtain ⟨first, others⟩ := finds_append.mp finds
    refine (content_kept fits item first).next fun grown grows fitsOn kept => ?_
    refine (contentItems_kept fitsOn rest (others.grows grows)).imp fun last growsOn keptOn => ?_
    exact List.forall_mem_cons.mpr ⟨value_grows growsOn kept, keptOn⟩

theorem contentFields_kept {world : World} {store : Store} (fits : discipline.fits world store) :
    (fields : List (String × Content)) →
    discipline.Finds world bindings (fieldCopies fields) →
    discipline.Keeps world (contentFields registry bindings fields store).2 fun grown =>
      ∀ entry ∈ (contentFields registry bindings fields store).1,
        entry.2.Within (discipline.allows grown)
  | [], _ => .here fits (by simp [contentFields])
  | (_, content) :: rest, finds => by
    obtain ⟨first, others⟩ := finds_append.mp finds
    refine (content_kept fits content first).next fun grown grows fitsOn kept => ?_
    refine (contentFields_kept fitsOn rest (others.grows grows)).imp fun last growsOn keptOn => ?_
    exact List.forall_mem_cons.mpr ⟨(within_held _).mpr (value_grows growsOn kept), keptOn⟩

end

theorem contentValue?_kept (fits : discipline.fits world store) (content? : Option Content)
    (finds : discipline.Finds world bindings (content?.toList.flatMap Content.copies)) :
    discipline.Keeps world (contentValue? registry bindings content? store).2 fun grown =>
      ∀ value ∈ (contentValue? registry bindings content? store).1,
        value.Within (discipline.allows grown) := by
  cases content? with
  | none => exact .here fits (by simp [contentValue?])
  | some content =>
    refine (content_kept fits content (by simpa using finds)).imp fun _ _ kept => ?_
    simpa [contentValue?] using kept

theorem slotValues_kept (fits : discipline.fits world store) {slots : List (Slot Content)}
    (finds : discipline.Finds world bindings (slotCopies slots)) :
    discipline.Keeps world (slotValues registry bindings slots store).2 fun grown =>
      discipline.Slots grown (slotValues registry bindings slots store).1 := by
  induction slots generalizing store world with
  | nil => exact .here fits (by simp [Slots, slotValues])
  | cons slot rest inductionHypothesis =>
    obtain ⟨first, others⟩ := finds_append.mp finds
    cases slot with
    | kept index =>
      refine (inductionHypothesis fits others).imp fun _ _ kept item member => ?_
      exact kept item (by simpa [slotValues] using member)
    | fresh content =>
      refine (content_kept fits content first).next fun grown grows fitsOn kept => ?_
      refine (inductionHypothesis fitsOn (others.grows grows)).imp fun last growsOn keptOn => ?_
      intro item member
      rcases List.mem_cons.mp member with same | later
      · rw [Slot.fresh.inj same]
        exact value_grows growsOn kept
      · exact keptOn item later

/-! ## Questions and changes -/

theorem aboutObject_kept {answer : Entries Field → Store → Answer × Store}
    (answers : ∀ fields, (∀ entry ∈ fields, entry.2.Within (discipline.allows world)) →
      discipline.Keeps world (answer fields store).2 fun _ => True)
    (fits : discipline.fits world store) {value : Value}
    (within : value.Within (discipline.allows world)) :
    discipline.Keeps world (aboutObject value store answer).2 fun _ => True := by
  cases value with
  | object identity fields => exact answers fields ((within_object _ _).mp within).2
  | absent | null | boolean _ | int _ | float _ | string _ | enum _ | raw _ | list _ =>
    exact .here fits trivial

theorem answer_kept (fits : discipline.fits world store) (reading : Reading) {value : Value}
    (within : value.Within (discipline.allows world)) :
    discipline.Keeps world (reading.answer registry value store).2 fun _ => True := by
  induction reading generalizing value store world with
  | value | text | parts => exact .here fits trivial
  | materialize depth => exact materialize_kept fits within depth
  | field name =>
    exact aboutObject_kept (fun fields allowed =>
      (readField_kept fits allowed name).imp fun _ _ _ => trivial) fits within
  | isResolved _ | contains _ | names | size | objectText =>
    exact aboutObject_kept (fun _ _ => .here fits trivial) fits within
  | typename =>
    exact aboutObject_kept (fun fields allowed =>
      (readField_kept fits allowed typenameField).imp fun _ _ _ => trivial) fits within
  | visit =>
    refine aboutObject_kept (fun fields allowed => ?_) fits within
    exact visitFields_kept (fun _ _ _ _ fits _ _ => .here fits trivial) fits allowed
  | onItem index path reading inductionHypothesis =>
    cases value with
    | list items =>
      cases chosen : items[index]? with
      | none =>
        simp only [Reading.answer, chosen]
        exact .here fits trivial
      | some item =>
        have own := (within_list items).mp within item (List.mem_of_getElem? chosen)
        have reached := get?_kept fits own path
        simp only [Reading.answer, chosen]
        generalize item.get? registry path store = found at reached ⊢
        obtain ⟨_ | target, after⟩ := found
        · exact reached.imp fun _ _ _ => trivial
        · exact reached.next fun grown _ fitsOn kept =>
            inductionHypothesis fitsOn (kept target rfl)
    | absent | null | boolean _ | int _ | float _ | string _ | enum _ | raw _ | object _ _ =>
      exact .here fits trivial

/-- Working out the content of a change leaves a store that fits, and the change is one that
does. -/
theorem writing_kept (fits : discipline.fits world store) (writing : Writing)
    (finds : discipline.Finds world bindings writing.copies) :
    discipline.Keeps world (writing.edit registry bindings store).2 fun grown =>
      discipline.Changes grown untold (writing.edit registry bindings store).1 := by
  induction writing generalizing store world with
  | reach => exact .here fits (.of_untold fun _ _ _ fits _ within => .here fits within)
  | assign content =>
    exact (content_kept fits content finds).imp fun _ _ kept =>
      (assign_kept kept).answer fun _ _ _ => Answer.done
  | push content =>
    exact (content_kept fits content finds).imp fun _ _ kept =>
      (push_kept kept).answer fun length _ _ => (length.map Answer.length).getD .notList
  | set name content =>
    exact (content_kept fits content finds).imp fun _ _ kept =>
      (setField_kept name kept).answer fun isObject _ _ =>
        if isObject then Answer.done else .notObject
  | remove name =>
    exact .here fits ((removeField_kept world name).answer fun removed _ store =>
      (removed.map fun found => Answer.value (found.map store.snapshot)).getD .notObject)
  | arrange slots =>
    exact (slotValues_kept fits finds).imp fun _ _ kept =>
      (arrange_kept kept).answer fun length _ _ => (length.map Answer.length).getD .notList
  | onItem index path writing inductionHypothesis =>
    exact (inductionHypothesis fits finds).imp fun _ _ changes =>
      (editItem_kept (edit_kept changes path) index).answer fun found _ _ =>
        writing.itemAnswer found

theorem operation_kept (operation : Operation)
    (finds : discipline.Finds world bindings operation.copies) :
    discipline.Changes world untold (operation.run registry bindings) := by
  refine .of_untold fun grown grows store fits value within => ?_
  cases operation with
  | read path reading =>
    have reached := get?_kept fits within path
    simp only [Operation.run]
    generalize value.get? registry path store = found at reached ⊢
    obtain ⟨_ | target, after⟩ := found
    · exact reached.imp fun _ growsOn _ => value_grows growsOn within
    · refine reached.next fun last growsOn fitsOn kept => ?_
      exact (answer_kept fitsOn reading (kept target rfl)).imp fun _ growsLast _ =>
        value_grows (le_trans growsOn growsLast) within
  | write path writing =>
    refine (writing_kept fits writing (finds.grows grows)).next
      fun prepared growsOn fitsOn changes => ?_
    exact ((edit_kept changes path) prepared (le_refl _) _ fitsOn _
      (value_grows growsOn within)).imp fun _ _ kept => kept.1

theorem runOperations_kept {operations : List Operation}
    (finds : ∀ operation ∈ operations,
      discipline.Finds world bindings operation.copies) :
    discipline.Changes world untold (runOperations registry bindings operations) := by
  induction operations with
  | nil => exact .of_untold fun _ _ _ fits _ within => .here fits within
  | cons operation rest inductionHypothesis =>
    obtain ⟨first, others⟩ := List.forall_mem_cons.mp finds
    refine .of_untold fun grown grows store fits value within => ?_
    refine (operation_kept operation first grown grows store fits value within).next
      fun done growsOn fitsOn kept => ?_
    exact (inductionHypothesis others done (le_trans grows growsOn) _ fitsOn _ kept.1).imp
      fun _ _ last => last.1

/-- Working out the replacement of a recipe leaves a store that fits, and the recipe leaves a draft
and a replacement that are allowed. -/
theorem recipe_kept (fits : discipline.fits world store) {steps : RecipeSteps}
    (finds : discipline.Finds world bindings steps.copies) :
    discipline.Keeps world (steps.recipe registry bindings store).2 fun grown =>
      discipline.Changes grown (·.2) (steps.recipe registry bindings store).1 := by
  obtain ⟨replaced, operated⟩ := finds_append.mp finds
  refine (contentValue?_kept fits _ replaced).imp fun grown grows kept => ?_
  intro last growsOn store fits value within
  have all : ∀ operation ∈ steps.operations,
      discipline.Finds last bindings operation.copies :=
    finds_flatMap.mp (operated.grows (le_trans grows growsOn))
  refine (runOperations_kept all last (le_refl _) store fits value within).imp
    fun done growsLast drafted => ?_
  exact ⟨drafted.1, fun value told =>
    value_grows (le_trans growsOn growsLast) (kept value told)⟩

/-- What a recipe produces is allowed: the draft, or what replaces it. -/
theorem produce_kept {α : Type} {recipe : Recipe α} {base : Value}
    (changes : discipline.Changes world (·.2) recipe) (fits : discipline.fits world store)
    (within : base.Within (discipline.allows world)) :
    discipline.Keeps world (produce base recipe store).2.2 fun grown =>
      (produce base recipe store).2.1.Within (discipline.allows grown) := by
  refine (changes world (le_refl _) store fits base within).imp fun grown _ kept => ?_
  show ((recipe base store).1.2.getD (recipe base store).2.1).Within (discipline.allows grown)
  cases given : (recipe base store).1.2 with
  | none => exact kept.1
  | some replacement => exact kept.2 replacement given

theorem instantiate?_kept (fits : discipline.fits world store) {name : String}
    {made : Value × Store} (given : registry.instantiate? name store = some made) :
    discipline.Keeps world made.2 fun grown => made.1.Within (discipline.allows grown) := by
  rw [Registry.instantiate?] at given
  split at given
  · exact Option.some.inj given ▸ discipline.evaluate (.factory name) fits
  · cases given

/-! ## Steps -/

/-- Every name stands for what it stood for before or for an allowed value. -/
def Renames (discipline : Discipline registry World) (world : World)
    (before after : Entries Value) : Prop :=
  ∀ entry ∈ after, entry ∈ before ∨ entry.2.Within (discipline.allows world)

theorem Renames.same (world : World) (bindings : Entries Value) :
    discipline.Renames world bindings bindings := fun _ member => .inl member

theorem put_renames {target : String} {value : Value}
    (within : value.Within (discipline.allows world)) :
    discipline.Renames world bindings (bindings.put target value) := by
  intro entry member
  rcases Entries.mem_put member with old | rfl
  · exact .inl old
  · exact .inr within

theorem keep_renames {session : Session} {target : String} {value? : Option Value}
    (within : ∀ value ∈ value?, value.Within (discipline.allows world)) (store : Store) :
    discipline.Renames world session.bindings (session.keep target value? store).2.bindings := by
  cases value? with
  | none => exact .same world _
  | some value => exact put_renames (within value rfl)

/-- Naming a value that was made. -/
theorem keep_kept {session : Session} {target : String} {value? : Option Value}
    (kept : discipline.Keeps world store fun grown =>
      ∀ value ∈ value?, value.Within (discipline.allows grown)) :
    discipline.Keeps world (session.keep target value? store).2.store fun grown =>
      discipline.Renames grown session.bindings
        (session.keep target value? store).2.bindings := by
  rw [Session.keep_store]
  exact kept.imp fun _ _ within => keep_renames within store

theorem keep_some_kept {session : Session} {target : String} {value : Value}
    (kept : discipline.Keeps world store fun grown => value.Within (discipline.allows grown)) :
    discipline.Keeps world (session.keep target (some value) store).2.store fun grown =>
      discipline.Renames grown session.bindings
        (session.keep target (some value) store).2.bindings :=
  keep_kept (kept.imp fun _ _ within => by simpa using within)

/-- A step that follows names with allowed values. -/
theorem step_kept {session : Session} (same : session.registry = registry)
    (fits : discipline.fits world session.store) (step : Step)
    (supplies : discipline.Supplies world session.bindings step.handles)
    (finds : discipline.Finds world session.bindings step.copies) :
    discipline.Keeps world (session.step step).2.store fun grown =>
      discipline.Renames grown session.bindings (session.step step).2.bindings := by
  subst same
  cases step with
  | fixture type target =>
    simp only [Session.step, Accessor.fixture?]
    cases made : session.accessor.registry.instantiate? type session.store with
    | none => exact .here fits (.same _ _)
    | some fixture => exact keep_some_kept (instantiate?_kept fits made)
  | content content target => exact keep_some_kept (content_kept fits content finds)
  | copy source path target =>
    exact keep_kept (finds _ List.mem_cons_self world (le_refl _) _ fits)
  | produce source steps target =>
    obtain ⟨based, copied⟩ := finds_cons.mp finds
    simp only [Session.step]
    cases stands : session.bindings.value? source with
    | none => exact .here fits (.same _ _)
    | some base =>
      have own : copyOf session.registry session.bindings source [] session.store =
          (some base, session.store) := by
        rw [copyOf, stands]
        rfl
      have drafted := based (source, []) List.mem_cons_self world (le_refl _) _ fits
      simp only [own, Option.mem_some_iff, forall_eq'] at drafted
      refine keep_some_kept (drafted.next fun grown grows fitsOn within => ?_)
      refine (recipe_kept fitsOn (copied.grows grows)).next fun last growsOn fitsLast changes => ?_
      exact produce_kept changes fitsLast (value_grows growsOn within)
  | fixtureWith type steps target =>
    have prepared := recipe_kept fits finds
    simp only [Session.step, fixtureWith?]
    cases made : session.registry.instantiate? type
        (steps.recipe session.registry session.bindings session.store).2 with
    | none => exact prepared.imp fun grown _ _ => .same grown _
    | some fixture =>
      refine keep_some_kept (prepared.next fun grown _ fitsOn changes => ?_)
      refine (instantiate?_kept fitsOn made).next fun last growsOn fitsLast within => ?_
      exact produce_kept (changes.grows growsOn) fitsLast within
  | operate source operation =>
    simp only [Session.step]
    cases stands : session.bindings.value? source with
    | none => exact .here fits (.same _ _)
    | some value =>
      have based := supplies source List.mem_cons_self
      exact keep_some_kept ((operation_kept operation finds world (le_refl _) _ fits value
        (based value stands)).imp fun _ _ kept => kept.1)
  | sameObject left right =>
    refine (finds left List.mem_cons_self world (le_refl _) _ fits).next
      fun grown grows fitsOn _ => ?_
    exact (finds right (by simp [Step.copies]) grown grows _ fitsOn).imp
      fun last _ _ => .same last _
  | drop source => exact .here fits fun entry member => .inl (Entries.mem_of_mem_remove member)
  | accessor => exact .here fits (.same _ _)

theorem itemOf_kept (fits : discipline.fits world store) {source : String}
    (supplies : ∀ value, bindings.value? source = some value →
      value.Within (discipline.allows world)) (path : List String) (index : Nat)
    (rest : List String) :
    discipline.Keeps world (itemOf registry bindings source path index rest store).2 fun grown =>
      ∀ found ∈ (itemOf registry bindings source path index rest store).1,
        found.Within (discipline.allows grown) := by
  have copied := copyOf_kept fits supplies path
  simp only [itemOf]
  generalize copyOf registry bindings source path store = found at copied ⊢
  cases chosen : (found.1.bind (·.items?)).bind (·[index]?) with
  | none => exact copied.imp fun _ _ _ => by simp
  | some item =>
    refine copied.next fun grown _ fitsOn kept => get?_kept fitsOn ?_ rest
    obtain ⟨items, listed, given⟩ := Option.bind_eq_some_iff.mp chosen
    obtain ⟨value, stands, shown⟩ := Option.bind_eq_some_iff.mp listed
    cases value with
    | list others =>
      obtain rfl : others = items := Option.some.inj shown
      exact (within_list _).mp (kept _ stands) item (List.mem_of_getElem? given)
    | absent | null | boolean _ | int _ | float _ | string _ | enum _ | raw _ | object _ _ =>
      cases shown

theorem pick_kept {session : Session} (same : session.registry = registry)
    (fits : discipline.fits world session.store) {source : String}
    (supplies : ∀ value, session.bindings.value? source = some value →
      value.Within (discipline.allows world)) (path : List String) (index : Nat)
    (rest : List String) (target : String) :
    discipline.Keeps world (session.pick source path index rest target).2.store fun grown =>
      discipline.Renames grown session.bindings
        (session.pick source path index rest target).2.bindings := by
  subst same
  exact keep_kept (itemOf_kept fits supplies path index rest)

theorem take_kept {session : Session} (same : session.registry = registry)
    (fits : discipline.fits world session.store) {source : String}
    (supplies : ∀ value, session.bindings.value? source = some value →
      value.Within (discipline.allows world)) (path : List String) (name target : String) :
    discipline.Keeps world (session.take source path name target).2.store fun grown =>
      discipline.Renames grown session.bindings
        (session.take source path name target).2.bindings := by
  subst same
  simp only [Session.take]
  cases stands : session.bindings.value? source with
  | none => exact .here fits (.same _ _)
  | some value =>
    have edited := edit_kept (removeField_kept world name) path world (le_refl _) _ fits value
      (supplies value stands)
    simp only at edited ⊢
    generalize value.edit session.registry (Value.removeField session.registry name) path
      session.store = done at edited ⊢
    rw [Session.keep_store]
    refine edited.imp fun grown _ kept entry member => ?_
    have told : ∀ value ∈ done.1.join.join, value.Within (discipline.allows grown) := by
      intro value member
      refine kept.2 value ?_
      cases given : done.1 with
      | none => simp [given] at member
      | some inner => simpa [given] using member
    rcases keep_renames told done.2.2 entry member with old | within
    · exact put_renames kept.1 entry old
    · exact .inr within

/-! ## Scripts -/

/-- The store of a session fits a world that has grown, in which all its values are allowed. -/
structure Holds (discipline : Discipline registry World) (world : World) (session : Session) :
    Prop where
  registered : session.registry = registry
  once : session.bindings.names.Nodup
  keeps : discipline.Keeps world session.store fun grown =>
    discipline.Names grown session.bindings

theorem Names.renamed {after : Entries Value} (names : discipline.Names world bindings)
    (renames : discipline.Renames world bindings after) : discipline.Names world after := by
  intro entry member
  rcases renames entry member with old | within
  · exact names entry old
  · exact within

theorem Names.put (names : discipline.Names world bindings) {target : String} {value : Value}
    (within : value.Within (discipline.allows world)) :
    discipline.Names world (bindings.put target value) :=
  names.renamed (put_renames within)

theorem Holds.widen {grown : World} {session : Session} (grows : world ≤ grown)
    (holds : discipline.Holds grown session) : discipline.Holds world session := by
  obtain ⟨last, growsOn, rest⟩ := holds.keeps
  exact ⟨holds.registered, holds.once, last, le_trans grows growsOn, rest⟩

/-- The session in which a recipe runs on an allowed draft. -/
theorem drafting_holds {session : Session} (registered : session.registry = registry)
    (once : session.bindings.names.Nodup) (fits : discipline.fits world store)
    (names : discipline.Names world session.bindings) {draft : Value}
    (within : draft.Within (discipline.allows world)) (name : String) :
    discipline.Holds world (session.drafting name draft store) :=
  ⟨registered, Entries.nodup_put once name draft, .here fits (names.put within)⟩

/-- From a session that follows only allowed values, with a store that fits, the session after
it holds. -/
theorem Holds.after {writes : String → Bool} {session after : Session}
    (holds : discipline.Holds world session) (leaves : session.Leaves writes after)
    (kept : ∀ grown, world ≤ grown → discipline.fits grown session.store →
      discipline.Names grown session.bindings →
      discipline.Keeps grown after.store fun last =>
        discipline.Renames last session.bindings after.bindings) :
    discipline.Holds world after := by
  refine ⟨(congrArg Accessor.registry leaves.accessor).trans holds.registered, leaves.once,
    holds.keeps.next fun grown grows fits names => ?_⟩
  exact (kept grown grows fits names).imp fun last growsOn renames =>
    (names.grows growsOn).renamed renames

end Discipline

open Discipline

section Scripts

variable {registry : Registry} {World : Type} [Preorder World]
  {discipline : Discipline registry World} {world : World} {store : Store}

theorem restore_names {session : Session} {before : Option Value}
    (names : discipline.Names world session.bindings)
    (within : ∀ value ∈ before, value.Within (discipline.allows world)) (draft : String) :
    discipline.Names world (session.restore draft before).bindings := by
  cases before with
  | none => exact fun entry member => names entry (Entries.mem_of_mem_remove member)
  | some value => exact names.put (within value rfl)

/-- When the script of a recipe has ended, the draft is given back to what it stood for, which is
still allowed, and what is produced is the draft as it was left or what replaces it. -/
theorem recipe_holds {session : Session} (registered : session.registry = registry)
    (names : discipline.Names world session.bindings) (base : Value) (draft : String)
    {script : Session → List Response × Session}
    (ran : discipline.Holds world (script (session.drafting draft base store)).2)
    (replacement : Option Content) (target : String) :
    discipline.Holds world
      ((session.recipe draft script replacement base store).1.1.2.keep target
        (some (produce base (session.recipe draft script replacement) store).2.1)
        (session.recipe draft script replacement base store).2.2).2 := by
  obtain ⟨registeredOn, once, keeps⟩ := ran
  simp only [Session.drafting] at registeredOn once keeps
  simp only [produce, Session.recipe]
  generalize script _ = done at registeredOn once keeps ⊢
  subst registeredOn
  have restored := Session.restore_spares once draft (session.bindings.value? draft)
  refine ⟨?_, (Session.keep_spares restored.once target _ _).once, ?_⟩
  · simp only [Session.keep, Session.restore]
    cases session.bindings.value? draft <;> rfl
  rw [Session.keep_store]
  refine keeps.next fun grown grows fitsOn ended => ?_
  refine (contentValue?_kept fitsOn replacement
    (ended.finds _)).imp fun last growsOn replaced => ?_
  have restored : discipline.Names last
      (done.2.restore draft (session.bindings.value? draft)).bindings := by
    refine restore_names (ended.grows growsOn) (fun value before => ?_) draft
    exact value_grows (le_trans grows growsOn) (names _ (Entries.mem_of_value? before))
  refine restored.renamed (keep_renames (fun value given => ?_) _)
  rw [Option.mem_some_iff] at given
  subst given
  generalize contentValue? done.2.registry done.2.bindings replacement done.2.store = worked
    at replaced ⊢
  obtain ⟨_ | value, after⟩ := worked
  · show ((done.2.bindings.value? draft).getD .absent).Within _
    cases stands : done.2.bindings.value? draft with
    | none => exact within_absent
    | some value => exact value_grows growsOn (ended _ (Entries.mem_of_value? stands))
  · exact replaced value rfl

mutual

/-- Every instruction keeps to a discipline. -/
theorem Instruction.run_holds : (instruction : Instruction) → {session : Session} →
    {world : World} → discipline.Holds world session →
    discipline.Holds world (instruction.run session).2
  | .step step, _, _, holds =>
    holds.after (Session.step_leaves holds.once step) fun _ _ fits names =>
      step_kept holds.registered fits step (names.supplies _) (names.finds _)
  | .pick source path index rest target, _, _, holds =>
    holds.after (Session.pick_leaves holds.once source path index rest target)
      fun _ _ fits names => pick_kept holds.registered fits
        (fun value stands => names _ (Entries.mem_of_value? stands)) path index rest target
  | .take source path field target, _, _, holds =>
    holds.after (Session.take_leaves holds.once source path field target)
      fun _ _ fits names => take_kept holds.registered fits
        (fun value stands => names _ (Entries.mem_of_value? stands)) path field target
  | .produce source draft recipe replacement target, session, _, holds => by
    simp only [Instruction.run]
    cases stands : session.bindings.value? source with
    | none => exact holds
    | some base =>
      obtain ⟨registered, once, grown, grows, fits, names⟩ := holds
      have within := names _ (Entries.mem_of_value? stands)
      have ran := runScript_holds recipe (drafting_holds registered once fits names within draft)
      exact (recipe_holds registered names base draft ran replacement target).widen grows
  | .fixtureWith type draft recipe replacement target, session, _, holds => by
    simp only [Instruction.run, fixtureWith?]
    cases made : session.registry.instantiate? type session.store with
    | none => exact holds
    | some fixture =>
      obtain ⟨registered, once, grown, grows, fits, names⟩ := holds
      obtain ⟨more, growsMade, fitsMade, within⟩ :=
        instantiate?_kept fits (registered ▸ made)
      have others := names.grows growsMade
      have ran := runScript_holds recipe
        (drafting_holds registered once fitsMade others within draft)
      exact (recipe_holds registered others fixture.1 draft ran replacement target).widen
        (le_trans grows growsMade)

/-- Every script keeps to a discipline. -/
theorem runScript_holds : (script : List Instruction) → {session : Session} → {world : World} →
    discipline.Holds world session → discipline.Holds world (runScript script session).2
  | [], _, _, holds => holds
  | instruction :: rest, _, _, holds => runScript_holds rest (instruction.run_holds holds)

end

mutual

theorem Instruction.moments_hold : (instruction : Instruction) → {session : Session} →
    {world : World} → discipline.Holds world session →
    ∀ moment ∈ instruction.moments session, discipline.Holds world moment
  | .step _, _, _, _ | .pick _ _ _ _ _, _, _, _ | .take _ _ _ _, _, _, _ =>
    fun _ none => absurd none List.not_mem_nil
  | .produce source draft recipe _ _, session, _, holds => by
    simp only [Instruction.moments]
    cases stands : session.bindings.value? source with
    | none => exact fun _ none => absurd none List.not_mem_nil
    | some base =>
      obtain ⟨registered, once, grown, grows, fits, names⟩ := holds
      have within := names _ (Entries.mem_of_value? stands)
      exact fun moment member => (scriptMoments_hold recipe
        (drafting_holds registered once fits names within draft) moment member).widen grows
  | .fixtureWith type draft recipe _ _, session, _, holds => by
    simp only [Instruction.moments]
    cases made : session.registry.instantiate? type session.store with
    | none => exact fun _ none => absurd none List.not_mem_nil
    | some fixture =>
      obtain ⟨registered, once, grown, grows, fits, names⟩ := holds
      obtain ⟨more, growsMade, fitsMade, within⟩ :=
        instantiate?_kept fits (registered ▸ made)
      exact fun moment member => (scriptMoments_hold recipe
        (drafting_holds registered once fitsMade (names.grows growsMade) within draft)
        moment member).widen (le_trans grows growsMade)

/-- Every moment of a script keeps to a discipline, if its start does. -/
theorem scriptMoments_hold : (script : List Instruction) → {session : Session} →
    {world : World} → discipline.Holds world session →
    ∀ moment ∈ scriptMoments script session, discipline.Holds world moment
  | [], _, _, holds => fun _ only => List.mem_singleton.mp only ▸ holds
  | instruction :: rest, _, _, holds => by
    intro moment member
    rcases List.mem_cons.mp member with rfl | later
    · exact holds
    · rcases List.mem_append.mp later with inside | behind
      · exact instruction.moments_hold holds moment inside
      · exact scriptMoments_hold rest (instruction.run_holds holds) moment behind

end

end Scripts

end SchemaFixtures.Fixture
