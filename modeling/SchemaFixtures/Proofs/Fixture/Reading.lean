import SchemaFixtures.Proofs.Fixture.Plan

/-!
# Reading is evaluating privately

Making a fixture, reading a field and following a path each give what the private tree
gives, and leave a store that keeps to a grown plan. Cells that a reading fills do not show:
whether a field is evaluated now or was evaluated earlier, through this value or through a
copy of it, the tree is that of its default.
-/

namespace SchemaFixtures.Fixture

variable {registry : Registry} {plan : Plan} {store : Store}

/-- An object with planned fields stands for the object of their branches. -/
theorem object_stands (identity : Nat) {fields : List (String × Field)}
    (planned : ∀ entry ∈ fields, entry.2.Planned plan) :
    (Value.object identity fields).Stands plan (.object (Entries.mapValues Field.branch fields)) :=
  ⟨(planned_object plan identity fields).mpr planned, Value.tree_object identity fields⟩

/-- The object of planned pairs stands for the object of their branches. -/
theorem paired_object_stands (identity : Nat) {pairs : List (String × Field)}
    (planned : ∀ entry ∈ pairs, entry.2.Planned plan) :
    (Value.object identity (Entries.ofPairs pairs)).Stands plan
      (.object (Entries.ofPairs (Entries.mapValues Field.branch pairs))) := by
  have gathered : ∀ entry ∈ Entries.ofPairs pairs, entry.2.Planned plan :=
    fun entry member => planned entry (Entries.mem_of_mem_ofPairs member)
  rw [← Entries.mapValues_ofPairs]
  exact object_stands identity gathered

mutual

/-- A JSON default has no cells, so it stands for its tree under every plan. -/
theorem ofJson_stands (plan : Plan) : (json : Json) → (store : Store) →
    (ofJson json store).2.cells = store.cells ∧
      (ofJson json store).1.Stands plan (jsonTree json)
  | .null, _ | .bool _, _ | .int _, _ | .float _, _ | .string _, _ =>
    ⟨rfl, by simp only [ofJson, Value.Planned], rfl⟩
  | .array items, store => by
    obtain ⟨cells, planned, trees⟩ := ofJsonItems_stand plan items store
    refine ⟨cells, (planned_list plan _).mpr planned, ?_⟩
    simp only [ofJson, Value.tree_list, jsonTree, trees]
  | .object members, store => by
    obtain ⟨cells, planned, branches⟩ := ofJsonMembers_stand plan members store
    refine ⟨cells, ?_⟩
    rw [jsonTree, ← branches]
    exact paired_object_stands _ planned

theorem ofJsonItems_stand (plan : Plan) : (items : List Json) → (store : Store) →
    (ofJsonItems items store).2.cells = store.cells ∧
      (∀ item ∈ (ofJsonItems items store).1, item.Planned plan) ∧
      (ofJsonItems items store).1.map Value.tree = jsonTrees items
  | [], _ => ⟨rfl, by simp [ofJsonItems], rfl⟩
  | item :: rest, store => by
    obtain ⟨cells, stands⟩ := ofJson_stands plan item store
    obtain ⟨others, planned, trees⟩ := ofJsonItems_stand plan rest (ofJson item store).2
    refine ⟨others.trans cells, List.forall_mem_cons.mpr ⟨stands.planned, planned⟩, ?_⟩
    simp only [ofJsonItems, List.map_cons, stands.same, trees, jsonTrees]

theorem ofJsonMembers_stand (plan : Plan) : (members : List (String × Json)) → (store : Store) →
    (ofJsonMembers members store).2.cells = store.cells ∧
      (∀ entry ∈ (ofJsonMembers members store).1, entry.2.Planned plan) ∧
      Entries.mapValues Field.branch (ofJsonMembers members store).1 = jsonBranches members
  | [], _ => ⟨rfl, by simp [ofJsonMembers], rfl⟩
  | (name, member) :: rest, store => by
    obtain ⟨cells, stands⟩ := ofJson_stands plan member store
    obtain ⟨others, planned, branches⟩ := ofJsonMembers_stand plan rest (ofJson member store).2
    refine ⟨others.trans cells, List.forall_mem_cons.mpr ⟨stands.planned, planned⟩, ?_⟩
    rw [jsonBranches, ← branches, ← stands.same]
    rfl

end

/-- A default that calls no factory reserves no cell. -/
theorem produce_stands (plan : Plan) (default : Default) (store : Store) :
    (default.produce store).2.cells = store.cells ∧
      (default.produce store).1.Stands plan default.plainTree := by
  cases default with
  | literal configured =>
    simp only [Default.produce, Default.plainTree, Literal.value, Literal.tree]
    cases configured.meaning with
    | json json => exact ofJson_stands plan json store
    | undefined | quoted _ | raw => exact ⟨rfl, trivial, rfl⟩
  | emptyList => exact ⟨rfl, trivial, rfl⟩
  | emptyObject => exact ⟨rfl, trivial, rfl⟩
  | absent | emptyString | zeroInt | zeroFloat | false | factory _ => exact ⟨rfl, trivial, rfl⟩

/-- Reserved fields are planned with the defaults that they were reserved for. -/
theorem reserveFields_planned (follows : store.Follows registry plan)
    (fields : List (String × Default)) :
    (store.reserveFields fields).2.Continues registry plan fun grown =>
      (∀ entry ∈ (store.reserveFields fields).1, entry.2.Planned grown) ∧
        Entries.mapValues Field.branch (store.reserveFields fields).1 =
          fields.map fun (name, default) => (name, .later default) := by
  induction fields generalizing store plan with
  | nil => exact follows.continues ⟨by simp [Store.reserveFields], rfl⟩
  | cons entry rest inductionHypothesis =>
    obtain ⟨name, default⟩ := entry
    obtain ⟨grown, grows, followsOn, planned, branches⟩ :=
      inductionHypothesis (follows.reserve default)
    have reserved : (plan ++ [default])[store.cells.size]? = some default := by
      simp [follows.size]
    refine ⟨grown, (List.prefix_append plan [default]).trans grows, followsOn, ?_, ?_⟩
    · exact List.forall_mem_cons.mpr ⟨planned_cell_grows grows reserved, planned⟩
    · rw [List.map_cons, ← branches]
      rfl

/-- What a factory makes stands for the tree of its body. -/
theorem body_produce_stands (follows : store.Follows registry plan) (body : Body) :
    (body.produce store).2.Continues registry plan fun grown =>
      (body.produce store).1.Stands grown body.tree := by
  cases body with
  | scalar default =>
    obtain ⟨cells, stands⟩ := produce_stands plan default store
    exact (follows.of_cells cells).continues stands
  | record typename fields =>
    obtain ⟨grown, grows, followsOn, planned, branches⟩ := reserveFields_planned follows fields
    refine ⟨grown, grows, followsOn.newObject _, ?_⟩
    have discriminated : ∀ entry ∈ (typename.toList.map fun name =>
        (typenameField, Field.held (.string name))) ++ (store.reserveFields fields).1,
        entry.2.Planned grown := by
      intro entry member
      rcases List.mem_append.mp member with named | reserved
      · obtain ⟨name, _, rfl⟩ := List.mem_map.mp named
        exact trivial
      · exact planned entry reserved
    have stands := paired_object_stands store.objects discriminated
    refine ⟨stands.planned, stands.same.trans ?_⟩
    rw [Body.tree, ← branches]
    simp only [Entries.mapValues, List.map_append, List.map_map]
    rfl
  | union _ => exact follows.continues ⟨trivial, rfl⟩
  | enum _ => exact follows.continues ⟨trivial, rfl⟩

/-- Evaluating a default gives a value that stands for the tree of the default. It looks at
no cell that was there before. -/
theorem evaluate_stands (follows : store.Follows registry plan) (default : Default) :
    (default.evaluate registry store).2.Continues registry plan fun grown =>
      (default.evaluate registry store).1.Stands grown (default.tree registry) := by
  cases default with
  | factory name =>
    simp only [Default.evaluate, Default.tree]
    cases registry.chain name with
    | none => exact follows.continues ⟨trivial, rfl⟩
    | some chainEnd =>
      cases chainEnd with
      | missing => exact follows.continues ⟨trivial, rfl⟩
      | factory found => exact body_produce_stands follows found.body
  | literal configured =>
    obtain ⟨cells, stands⟩ := produce_stands plan (.literal configured) store
    exact (follows.of_cells cells).continues stands
  | emptyObject => exact (follows.newObject []).continues ⟨trivial, rfl⟩
  | absent | emptyList | emptyString | zeroInt | zeroFloat | false =>
    exact follows.continues ⟨trivial, rfl⟩

/-- A fixture of a type stands for the tree of the type, and there is one exactly when there
is the other. -/
theorem instantiate?_stands (follows : store.Follows registry plan) (name : String) :
    Option.Rel (fun made tree =>
        made.2.Continues registry plan fun grown => made.1.Stands grown tree)
      (registry.instantiate? name store) (registry.tree? name) := by
  by_cases known : registry.contains name = true
  · simp only [Registry.instantiate?, Registry.tree?, known, if_true]
    exact .some (evaluate_stands follows (.factory name))
  · simp only [Registry.instantiate?, Registry.tree?, known]
    exact .none

/-- Looking at a field without filling its cell gives the tree of its branch. -/
theorem peek_stands (follows : store.Follows registry plan) (field : Field)
    (planned : field.Planned plan) :
    (field.peek registry store).2.Continues registry plan fun grown =>
      (field.peek registry store).1.Stands grown (field.branch.tree registry) := by
  cases field with
  | held value => exact follows.continues ⟨planned, rfl⟩
  | later cell default =>
    simp only [Field.peek, Field.branch, Branch.tree]
    cases filled : store.value? cell with
    | none => exact evaluate_stands follows default
    | some value =>
      obtain ⟨other, known, stands⟩ := follows.filled cell value filled
      have same : default = other := Option.some.inj (planned.symm.trans known)
      exact follows.continues (same ▸ stands)

/-- Reading a field gives the tree of its branch, also when the value now fills the cell
for every copy of the object. -/
theorem read_stands (follows : store.Follows registry plan) (field : Field)
    (planned : field.Planned plan) :
    (field.read registry store).2.Continues registry plan fun grown =>
      (field.read registry store).1.Stands grown (field.branch.tree registry) := by
  cases field with
  | held value => exact follows.continues ⟨planned, rfl⟩
  | later cell default =>
    simp only [Field.read, Field.branch, Branch.tree]
    cases filled : store.value? cell with
    | none =>
      obtain ⟨grown, grows, followsOn, stands⟩ := evaluate_stands follows default
      exact ⟨grown, grows, followsOn.fill (planned_cell_grows grows planned) stands, stands⟩
    | some value =>
      obtain ⟨other, known, stands⟩ := follows.filled cell value filled
      have same : default = other := Option.some.inj (planned.symm.trans known)
      exact follows.continues (same ▸ stands)

/-- What is found stays planned. -/
theorem found_grows {grown : Plan} {value? : Option Value} {tree? : Option Tree}
    (found : Option.Rel (Value.Stands plan) value? tree?) (grows : plan <+: grown) :
    Option.Rel (Value.Stands grown) value? tree? := by
  cases found with
  | some stands => exact .some (stands.grows grows)
  | none => exact .none

/-- A field of planned fields is planned, and its branch is that of its name. -/
theorem value?_planned {fields : Entries Field} {name : String} {field : Field}
    (planned : ∀ entry ∈ fields, entry.2.Planned plan) (found : fields.value? name = some field) :
    field.Planned plan ∧
      Entries.value? (Entries.mapValues Field.branch fields) name = some field.branch := by
  refine ⟨planned _ (Entries.mem_of_value? found), ?_⟩
  rw [Entries.value?_mapValues, found, Option.map_some]

/-- Reading the field of a name gives the tree that its branch gives. -/
theorem readField_stands (follows : store.Follows registry plan) (fields : Entries Field)
    (planned : ∀ entry ∈ fields, entry.2.Planned plan) (name : String) :
    (readField registry fields name store).2.Continues registry plan fun grown =>
      Option.Rel (Value.Stands grown) (readField registry fields name store).1
        ((Entries.value? (Entries.mapValues Field.branch fields) name).map
          (·.tree registry)) := by
  cases found : fields.value? name with
  | none =>
    simp only [readField, found, Entries.value?_mapValues, Option.map_none]
    exact follows.continues .none
  | some field =>
    obtain ⟨fieldPlanned, branch⟩ := value?_planned planned found
    simp only [readField, found, branch, Option.map_some]
    exact (read_stands follows field fieldPlanned).imp fun _ _ stands => .some stands

/-- A value that stands for an object is an object whose fields stand for its branches. -/
theorem Value.Stands.fields {value : Value} {tree : Tree} (stands : value.Stands plan tree) :
    (∃ identity fields, value = .object identity fields ∧
      (∀ entry ∈ fields, entry.2.Planned plan) ∧
      tree = .object (Entries.mapValues Field.branch fields)) ∨
    ((∀ identity fields, value ≠ .object identity fields) ∧
      ∀ branches, tree ≠ .object branches) := by
  obtain ⟨planned, rfl⟩ := stands
  cases value with
  | object identity fields =>
    exact Or.inl ⟨identity, fields, rfl, (planned_object plan identity fields).mp planned,
      Value.tree_object identity fields⟩
  | absent | null | boolean _ | int _ | float _ | string _ | enum _ | raw _ | list _ =>
    exact Or.inr ⟨by simp, by simp [Value.tree]⟩

/-- Following a path through an object reads its field and follows the rest of the path. -/
theorem get?_object (identity : Nat) (fields : List (String × Field)) (name : String)
    (rest : List String) (store : Store) :
    (Value.object identity fields).get? registry (name :: rest) store =
      match (readField registry fields name store).1 with
      | some value => value.get? registry rest (readField registry fields name store).2
      | none => (none, (readField registry fields name store).2) := by
  rw [Value.get?]
  rcases readField registry fields name store with ⟨_ | value, after⟩ <;> rfl

/-- Reading along a path finds in a value what it finds in the tree of the value. -/
theorem get?_stands (follows : store.Follows registry plan) {value : Value} {tree : Tree}
    (stands : value.Stands plan tree) (path : List String) :
    (value.get? registry path store).2.Continues registry plan fun grown =>
      Option.Rel (Value.Stands grown) (value.get? registry path store).1
        (tree.get? registry path) := by
  induction path generalizing value tree store plan with
  | nil => exact follows.continues (.some stands)
  | cons name rest inductionHypothesis =>
    rcases stands.fields with ⟨identity, fields, rfl, planned, rfl⟩ | ⟨notObject, notTree⟩
    · rw [get?_object, Tree.get?]
      refine (readField_stands follows fields planned name).next fun grown _ followsOn read => ?_
      cases branch : Entries.value? (Entries.mapValues Field.branch fields) name with
      | none =>
        rw [branch, Option.map_none] at read
        cases found : (readField registry fields name store).1 with
        | none => exact followsOn.continues .none
        | some _ => simp [found] at read
      | some branch =>
        rw [branch, Option.map_some] at read
        cases found : (readField registry fields name store).1 with
        | none => simp [found] at read
        | some value =>
          rw [found] at read
          cases read with
          | some stands => exact inductionHypothesis followsOn stands
    · have nowhere : value.get? registry (name :: rest) store = (none, store) := by
        cases value <;> simp_all [Value.get?]
      have nothing : tree.get? registry (name :: rest) = none := by
        cases tree <;> simp_all [Tree.get?]
      rw [nowhere, nothing]
      exact follows.continues .none

end SchemaFixtures.Fixture
