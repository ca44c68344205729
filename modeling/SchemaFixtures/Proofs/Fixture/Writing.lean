import Mathlib.Data.List.Forall2
import SchemaFixtures.Proofs.Fixture.Reading

/-!
# Writing is rebuilding privately

An edit of a value does what the edit of its private tree does: the value that comes out
stands for the tree that comes out. An edit may hold values of its own, which were planned
when it was made; so it is compared under all plans that grow from then on. The fields that
a write keeps keep their cells, and the fields along its path hold values of their own: both
stand for the branches that the private tree has there.
-/

namespace SchemaFixtures.Fixture

variable {registry : Registry} {plan : Plan} {α β : Type}

/-- An edit does to values what a private edit does to their trees, and their answers agree. -/
def EditsAlike (registry : Registry) (plan : Plan) (answers : Plan → α → β → Prop)
    (change : Edit α) (privately : TreeEdit β) : Prop :=
  ∀ ⦃grown : Plan⦄ ⦃store : Store⦄ ⦃value : Value⦄ ⦃tree : Tree⦄, plan <+: grown →
    store.Follows registry grown → value.Stands grown tree →
    (change value store).2.2.Continues registry grown fun last =>
      (change value store).2.1.Stands last (privately tree).2 ∧
        answers last (change value store).1 (privately tree).1

/-- What is done alike from one plan on is done alike from every later one on. -/
theorem EditsAlike.grows {grown : Plan} {answers : Plan → α → β → Prop} {change : Edit α}
    {privately : TreeEdit β} (alike : EditsAlike registry plan answers change privately)
    (grows : plan <+: grown) : EditsAlike registry grown answers change privately :=
  fun _ _ _ _ growsOn => alike (grows.trans growsOn)

/-- Putting a value under a name of planned fields puts its tree under the name. -/
theorem put_stands (identity : Nat) {fields : Entries Field} {name : String} {value : Value}
    {tree : Tree} (planned : ∀ entry ∈ fields, entry.2.Planned plan)
    (stands : value.Stands plan tree) :
    (Value.object identity (Entries.put fields name (.held value))).Stands plan
      (.object (Entries.put (Entries.mapValues Field.branch fields) name (.held tree))) := by
  have put : ∀ entry ∈ Entries.put fields name (.held value), entry.2.Planned plan := by
    intro entry member
    rcases Entries.mem_put member with old | rfl
    · exact planned entry old
    · exact stands.planned
  have held : Field.branch (.held value) = .held tree := by rw [Field.branch, stands.same]
  rw [← held, ← Entries.mapValues_put]
  exact object_stands identity put

/-- Following a path through an object, an edit looks at the field, edits its value and puts
it back as a value that the new object holds. -/
theorem edit_object (change : Edit α) (identity : Nat) (fields : List (String × Field))
    (name : String) (rest : List String) (store : Store) {field : Field}
    (found : Entries.value? fields name = some field) :
    (Value.object identity fields).edit registry change (name :: rest) store =
      let looked := field.peek registry store
      let edited := looked.1.edit registry change rest looked.2
      let renewed := edited.2.2.newObject (Entries.put fields name (.held edited.2.1))
      (edited.1, renewed.1, renewed.2) := by
  rw [Value.edit, found]

/-- Editing at the end of a path is editing the private tree at the end of the path. The
induction is on the path; where it ends early, the value is rebuilt and stands for the same
tree as before. -/
theorem edit_alike {answers : Plan → α → β → Prop} {change : Edit α} {privately : TreeEdit β}
    (alike : EditsAlike registry plan answers change privately) (path : List String) :
    EditsAlike registry plan (fun last => Option.Rel (answers last))
      (fun value store => value.edit registry change path store)
      (fun tree => tree.edit registry privately path) := by
  induction path with
  | nil =>
    intro grown store value tree grows follows stands
    exact (alike grows follows stands).imp fun _ _ edited => ⟨edited.1, .some edited.2⟩
  | cons name rest inductionHypothesis =>
    intro grown store value tree grows follows stands
    rcases stands.fields with ⟨identity, fields, rfl, planned, rfl⟩ | ⟨notObject, notTree⟩
    · cases found : Entries.value? fields name with
      | none =>
        have missing : Entries.value? (Entries.mapValues Field.branch fields) name = none := by
          rw [Entries.value?_mapValues, found, Option.map_none]
        simp only [Value.edit, found, Tree.edit, missing]
        exact (follows.newObject fields).continues ⟨object_stands _ planned, .none⟩
      | some field =>
        obtain ⟨fieldPlanned, branch⟩ := value?_planned planned found
        simp only [edit_object change identity fields name rest store found, Tree.edit, branch]
        refine (peek_stands follows field fieldPlanned).next
          fun looked growsLooked followsLooked looks => ?_
        refine (inductionHypothesis (grows.trans growsLooked) followsLooked looks).next
          fun last growsLast followsLast edited => ?_
        have kept : ∀ entry ∈ fields, entry.2.Planned last := fun entry member =>
          entry.2.planned_grows (growsLooked.trans growsLast) (planned entry member)
        exact (followsLast.newObject _).continues ⟨put_stands _ kept edited.1, edited.2⟩
    · have nowhere : value.edit registry change (name :: rest) store = (none, value, store) := by
        cases value <;> simp_all [Value.edit]
      have nothing : tree.edit registry privately (name :: rest) = (none, tree) := by
        cases tree <;> simp_all [Tree.edit]
      simp only [nowhere, nothing]
      exact follows.continues ⟨stands, .none⟩

/-- Assigning a value is assigning its tree. -/
theorem assign_alike {replacement : Value} {tree : Tree} (stands : replacement.Stands plan tree) :
    EditsAlike registry plan (fun _ => Eq) (Value.assign replacement) (Tree.assign tree) :=
  fun _ _ _ _ grows follows _ => follows.continues ⟨stands.grows grows, rfl⟩

/-- A value that stands for a list is a list whose items stand for its trees. -/
theorem Value.Stands.items {value : Value} {tree : Tree} (stands : value.Stands plan tree) :
    (∃ items, value = .list items ∧ (∀ item ∈ items, item.Planned plan) ∧
      tree = .list (items.map Value.tree)) ∨
    ((∀ items, value ≠ .list items) ∧ ∀ trees, tree ≠ .list trees) := by
  obtain ⟨planned, rfl⟩ := stands
  cases value with
  | list items =>
    exact Or.inl ⟨items, rfl, (planned_list plan items).mp planned, Value.tree_list items⟩
  | absent | null | boolean _ | int _ | float _ | string _ | enum _ | raw _ | object _ _ =>
    exact Or.inr ⟨by simp, by simp [Value.tree]⟩

/-- A list of planned items stands for the list of their trees. -/
theorem list_stands {items : List Value} (planned : ∀ item ∈ items, item.Planned plan) :
    (Value.list items).Stands plan (.list (items.map Value.tree)) :=
  ⟨(planned_list plan items).mpr planned, Value.tree_list items⟩

/-- Adding an item to a list is adding its tree. -/
theorem push_alike {item : Value} {tree : Tree} (stands : item.Stands plan tree) :
    EditsAlike registry plan (fun _ => Eq) (Value.push item) (Tree.push tree) := by
  intro grown store value edited grows follows whole
  rcases whole.items with ⟨items, rfl, planned, rfl⟩ | ⟨notList, notTree⟩
  · have pushed : ∀ other ∈ items ++ [item], other.Planned grown := by
      intro other member
      rcases List.mem_append.mp member with old | last
      · exact planned other old
      · exact List.mem_singleton.mp last ▸ (stands.grows grows).planned
    refine follows.continues ⟨?_, by simp [Value.push, Tree.push]⟩
    have listed := list_stands pushed
    rwa [List.map_append, List.map_singleton, stands.same] at listed
  · have unchanged : Value.push item value store = (none, value, store) := by
      cases value <;> simp_all [Value.push]
    have same : Tree.push tree edited = (none, edited) := by
      cases edited <;> simp_all [Tree.push]
    rw [unchanged, same]
    exact follows.continues ⟨whole, rfl⟩

/-- A slot for a value agrees with a slot for its tree. -/
inductive SlotStands (plan : Plan) : Slot Value → Slot Tree → Prop where
  | kept (index : Nat) : SlotStands plan (.kept index) (.kept index)
  | fresh {value : Value} {tree : Tree} (stands : value.Stands plan tree) :
      SlotStands plan (.fresh value) (.fresh tree)

theorem SlotStands.grows {grown : Plan} {slot : Slot Value} {other : Slot Tree}
    (stands : SlotStands plan slot other) (grows : plan <+: grown) :
    SlotStands grown slot other := by
  cases stands with
  | kept index => exact .kept index
  | fresh stands => exact .fresh (stands.grows grows)

/-- The items in slots stand for the trees in the slots that agree with them. -/
theorem slots_stand {slots : List (Slot Value)} {others : List (Slot Tree)} {items : List Value}
    (stand : List.Forall₂ (SlotStands plan) slots others)
    (planned : ∀ item ∈ items, item.Planned plan) :
    (∀ item ∈ slots.filterMap (·.item? items), item.Planned plan) ∧
      (slots.filterMap (·.item? items)).map Value.tree =
        others.filterMap (·.item? (items.map Value.tree)) := by
  induction stand with
  | nil => exact ⟨by simp, rfl⟩
  | cons first _ inductionHypothesis =>
    obtain ⟨restPlanned, restTrees⟩ := inductionHypothesis
    cases first with
    | kept index =>
      have place : Slot.item? (items.map Value.tree) (.kept index) =
          (Slot.item? items (.kept index)).map Value.tree := List.getElem?_map
      cases kept : Slot.item? items (.kept index) with
      | none =>
        rw [kept, Option.map_none] at place
        rw [List.filterMap_cons_none kept, List.filterMap_cons_none place]
        exact ⟨restPlanned, restTrees⟩
      | some item =>
        rw [kept, Option.map_some] at place
        rw [List.filterMap_cons_some kept, List.filterMap_cons_some place]
        have member : item ∈ items := List.mem_of_getElem? kept
        exact ⟨List.forall_mem_cons.mpr ⟨planned item member, restPlanned⟩,
          congrArg (item.tree :: ·) restTrees⟩
    | fresh stands =>
      simp only [List.filterMap_cons, Slot.item?]
      exact ⟨List.forall_mem_cons.mpr ⟨stands.planned, restPlanned⟩,
        congrArg₂ List.cons stands.same restTrees⟩

/-- Rearranging a list is rearranging its trees. -/
theorem arrange_alike {slots : List (Slot Value)} {others : List (Slot Tree)}
    (stand : List.Forall₂ (SlotStands plan) slots others) :
    EditsAlike registry plan (fun _ => Eq) (Value.arrange slots) (Tree.arrange others) := by
  intro grown store value tree grows follows whole
  rcases whole.items with ⟨items, rfl, planned, rfl⟩ | ⟨notList, notTree⟩
  · obtain ⟨arranged, trees⟩ := slots_stand (stand.imp fun _ _ first => first.grows grows) planned
    have listed := list_stands arranged
    rw [trees] at listed
    refine follows.continues ⟨listed, ?_⟩
    simpa only [Value.arrange, Tree.arrange, List.length_map, Option.some.injEq] using
      congrArg List.length trees
  · have unchanged : Value.arrange slots value store = (none, value, store) := by
      cases value <;> simp_all [Value.arrange]
    have same : Tree.arrange others tree = (none, tree) := by
      cases tree <;> simp_all [Tree.arrange]
    rw [unchanged, same]
    exact follows.continues ⟨whole, rfl⟩

/-- Editing an item of a list in its place is editing the tree of the item. -/
theorem editItem_alike {answers : Plan → α → β → Prop} {change : Edit α}
    {privately : TreeEdit β} (alike : EditsAlike registry plan answers change privately)
    (index : Nat) :
    EditsAlike registry plan (fun last => Option.Rel (Option.Rel (answers last)))
      (Value.editItem index change) (Tree.editItem index privately) := by
  intro grown store value tree grows follows whole
  rcases whole.items with ⟨items, rfl, planned, rfl⟩ | ⟨notList, notTree⟩
  · cases chosen : items[index]? with
    | none =>
      simp only [Value.editItem, Tree.editItem, List.getElem?_map, chosen, Option.map_none]
      exact follows.continues ⟨whole, .some .none⟩
    | some item =>
      have member : item ∈ items := List.mem_of_getElem? chosen
      simp only [Value.editItem, Tree.editItem, List.getElem?_map, chosen, Option.map_some]
      refine (alike grows follows ⟨planned item member, rfl⟩).imp fun last growsLast edited => ?_
      have replaced : ∀ other ∈ items.set index (change item store).2.1, other.Planned last := by
        intro other present
        rcases List.mem_or_eq_of_mem_set present with old | rfl
        · exact other.planned_grows growsLast (planned other old)
        · exact edited.1.planned
      have listed := list_stands replaced
      rw [List.map_set, edited.1.same] at listed
      exact ⟨listed, .some (.some edited.2)⟩
  · have unchanged : Value.editItem index change value store = (none, value, store) := by
      cases value <;> simp_all [Value.editItem]
    have same : Tree.editItem index privately tree = (none, tree) := by
      cases tree <;> simp_all [Tree.editItem]
    rw [unchanged, same]
    exact follows.continues ⟨whole, .none⟩

/-- Setting a field is setting it in the private tree. -/
theorem setField_alike (name : String) {content : Value} {tree : Tree}
    (stands : content.Stands plan tree) :
    EditsAlike registry plan (fun _ => Eq) (Value.setField name content)
      (Tree.setField name tree) := by
  intro grown store value edited grows follows whole
  rcases whole.fields with ⟨identity, fields, rfl, planned, rfl⟩ | ⟨notObject, notTree⟩
  · exact (follows.newObject _).continues ⟨put_stands _ planned (stands.grows grows), rfl⟩
  · have unchanged : Value.setField name content value store = (false, value, store) := by
      cases value <;> simp_all [Value.setField]
    have same : Tree.setField name tree edited = (false, edited) := by
      cases edited <;> simp_all [Tree.setField]
    rw [unchanged, same]
    exact follows.continues ⟨whole, rfl⟩

/-- Taking a field out is taking it out of the private tree; what is taken out is worked out
in the shared cell and stands for what the private branch gives. -/
theorem removeField_alike (registry : Registry) (plan : Plan) (name : String) :
    EditsAlike registry plan (fun last => Option.Rel (Option.Rel (Value.Stands last)))
      (Value.removeField registry name) (Tree.removeField registry name) := by
  intro grown store value tree grows follows whole
  rcases whole.fields with ⟨identity, fields, rfl, planned, rfl⟩ | ⟨notObject, notTree⟩
  · have left : ∀ entry ∈ Entries.remove fields name, entry.2.Planned grown :=
      fun entry member => planned entry (Entries.mem_of_mem_remove member)
    cases found : Entries.value? fields name with
    | none =>
      have missing : Entries.value? (Entries.mapValues Field.branch fields) name = none := by
        rw [Entries.value?_mapValues, found, Option.map_none]
      simp only [Value.removeField, found, Tree.removeField, missing, Option.map_none]
      have nothing : Entries.remove fields name = fields := Entries.remove_missing found
      refine (follows.newObject fields).continues ⟨?_, .some .none⟩
      rw [← Entries.mapValues_remove, nothing]
      exact object_stands _ planned
    | some field =>
      obtain ⟨fieldPlanned, branch⟩ := value?_planned planned found
      simp only [Value.removeField, found, Tree.removeField, branch, Option.map_some]
      refine (read_stands follows field fieldPlanned).next
        fun read growsRead followsRead stands => ?_
      refine (followsRead.newObject _).continues ⟨?_, .some (.some stands)⟩
      rw [← Entries.mapValues_remove]
      exact object_stands _ fun entry member => entry.2.planned_grows growsRead (left entry member)
  · have unchanged : Value.removeField registry name value store = (none, value, store) := by
      cases value <;> simp_all [Value.removeField]
    have same : Tree.removeField registry name tree = (none, tree) := by
      cases tree <;> simp_all [Tree.removeField]
    rw [unchanged, same]
    exact follows.continues ⟨whole, .none⟩

end SchemaFixtures.Fixture
