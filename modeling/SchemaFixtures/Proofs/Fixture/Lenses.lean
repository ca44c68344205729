import SchemaFixtures.Proofs.Fixture.Acyclicity
import SchemaFixtures.Proofs.Fixture.Places

/-!
# Paths are lenses

What can be seen of a value is its face at every place: which kind of value stands there, the text
or the number, the names of an object in their order, how many items a list has. A reader who goes
to a place works out the fields on its way.

A write at a path is seen there and nowhere else. It is made exactly if a reader finds something at
the path. Otherwise nothing can be seen of it, although the objects on the way are new and their
fields may have been worked out. What is assigned is seen behind the path, what was read there can
be assigned back without a trace, and only the last of two assignments is seen.

The laws are shown for private trees, and values show what their trees show.
-/

namespace SchemaFixtures.Fixture

/-! ## What is seen -/

/-- What is seen of a value without going into it. -/
inductive Face where
  | absent
  | null
  | boolean (value : Bool)
  | int (value : Int64)
  | float (value : Float)
  | string (text : String)
  | enum (name : String)
  | raw (source : String)
  | list (length : Nat)
  | object (names : List String)

/-- The face of a value. -/
def Value.face : Value → Face
  | .absent => .absent
  | .null => .null
  | .boolean value => .boolean value
  | .int value => .int value
  | .float value => .float value
  | .string text => .string text
  | .enum name => .enum name
  | .raw source => .raw source
  | .list items => .list items.length
  | .object _ fields => .object (Entries.names fields)

/-- The face of a tree. -/
def Tree.face : Tree → Face
  | .absent => .absent
  | .null => .null
  | .boolean value => .boolean value
  | .int value => .int value
  | .float value => .float value
  | .string text => .string text
  | .enum name => .enum name
  | .raw source => .raw source
  | .list items => .list items.length
  | .object branches => .object (Entries.names branches)

/-- What a reader sees who goes to a place, from a value in a store on. -/
def Value.seen (registry : Registry) : Place → Value → Store → Option Face
  | [], value, _ => some value.face
  | .field name :: rest, value, store =>
    match value.get? registry [name] store with
    | (some inner, after) => inner.seen registry rest after
    | (none, _) => none
  | .item index :: rest, value, store =>
    match value.items?.bind (·[index]?) with
    | some item => item.seen registry rest store
    | none => none

/-- What a reader sees at a place of a tree. -/
def Tree.seen (registry : Registry) : Place → Tree → Option Face
  | [], tree => some tree.face
  | .field name :: rest, tree => (tree.get? registry [name]).bind (·.seen registry rest)
  | .item index :: rest, tree => (tree.items?.bind (·[index]?)).bind (·.seen registry rest)

variable {registry : Registry} {plan : Plan} {store : Store} {value : Value} {tree : Tree}
variable {α β : Type}

theorem face_stands (stands : value.Stands plan tree) : value.face = tree.face := by
  rw [← stands.same]
  cases value with
  | list items => rw [Value.tree_list, Tree.face, List.length_map, Value.face]
  | object identity fields =>
    rw [Value.tree_object, Tree.face, Entries.names_mapValues, Value.face]
  | absent | null | boolean _ | int _ | float _ | string _ | enum _ | raw _ => rfl

/-- A value shows what the tree shows that it stands for, at every place. -/
theorem seen_stands (follows : store.Follows registry plan) (stands : value.Stands plan tree)
    (place : Place) : value.seen registry place store = tree.seen registry place := by
  induction place generalizing value tree store plan with
  | nil => exact congrArg some (face_stands stands)
  | cons turn rest inductionHypothesis =>
    cases turn with
    | field name =>
      rw [Value.seen, Tree.seen]
      obtain ⟨grown, _, followsOn, found⟩ := get?_stands follows stands [name]
      generalize tree.get? registry [name] = inner? at found ⊢
      generalize value.get? registry [name] store = read at followsOn found ⊢
      obtain ⟨next?, after⟩ := read
      cases found with
      | none => rfl
      | some stands => exact inductionHypothesis followsOn stands
    | item index =>
      rw [Value.seen, Tree.seen]
      rcases stands.items with ⟨items, rfl, planned, rfl⟩ | ⟨notList, notTree⟩
      · simp only [Value.items?, Tree.items?, Option.bind_some, List.getElem?_map]
        cases chosen : items[index]? with
        | none => rfl
        | some item => exact inductionHypothesis follows ⟨planned _ (List.mem_of_getElem? chosen), rfl⟩
      · have noItems : value.items? = none := by
          cases value <;> simp_all [Value.items?]
        have noTrees : tree.items? = none := by
          cases tree <;> simp_all [Tree.items?]
        rw [noItems, noTrees]
        rfl

/-! ## Behind a path -/

/-- A path is followed one name after another. -/
theorem get?_cons (name : String) (rest : List String) (value : Value) (store : Store) :
    value.get? registry (name :: rest) store =
      match value.get? registry [name] store with
      | (some inner, after) => inner.get? registry rest after
      | (none, after) => (none, after) := by
  cases value with
  | object identity fields =>
    rw [get?_object, get?_object]
    generalize readField registry fields name store = read
    obtain ⟨_ | inner, after⟩ := read <;> rfl
  | absent | null | boolean _ | int _ | float _ | string _ | enum _ | raw _ | list _ => rfl

/-- What is seen behind a path is seen of what the path reads. -/
theorem seen_ofPath (path : List String) (place : Place) (value : Value) (store : Store) :
    value.seen registry (Place.ofPath path ++ place) store =
      match value.get? registry path store with
      | (some found, after) => found.seen registry place after
      | (none, _) => none := by
  induction path generalizing value store with
  | nil => rfl
  | cons name rest inductionHypothesis =>
    rw [get?_cons]
    change value.seen registry (.field name :: (Place.ofPath rest ++ place)) store = _
    rw [Value.seen]
    generalize value.get? registry [name] store = read
    obtain ⟨_ | inner, after⟩ := read
    · rfl
    · exact inductionHypothesis inner after

theorem Tree.get?_cons (name : String) (rest : List String) (tree : Tree) :
    tree.get? registry (name :: rest) =
      (tree.get? registry [name]).bind (·.get? registry rest) := by
  cases tree with
  | object branches =>
    rw [Tree.get?, Tree.get?]
    cases Entries.value? branches name <;> rfl
  | absent | null | boolean _ | int _ | float _ | string _ | enum _ | raw _ | list _ => rfl

theorem Tree.seen_ofPath (path : List String) (place : Place) (tree : Tree) :
    tree.seen registry (Place.ofPath path ++ place) =
      (tree.get? registry path).bind (·.seen registry place) := by
  induction path generalizing tree with
  | nil => rfl
  | cons name rest inductionHypothesis =>
    rw [Tree.get?_cons, Option.bind_assoc]
    change tree.seen registry (.field name :: (Place.ofPath rest ++ place)) = _
    rw [Tree.seen]
    exact congrArg _ (funext inductionHypothesis)

/-! ## Writing to a tree -/

namespace Tree

variable (change : TreeEdit α)

/-- The field of a name of an object is found by the branch of the name. -/
theorem get?_branch {branches : List (String × Branch)} {name : String} {branch : Branch}
    (stands : Entries.value? branches name = some branch) (rest : List String) :
    (object branches).get? registry (name :: rest) =
      (branch.tree registry).get? registry rest := by
  rw [get?, stands]

theorem edit_branch {branches : List (String × Branch)} {name : String} {branch : Branch}
    (stands : Entries.value? branches name = some branch) (rest : List String) :
    (object branches).edit registry change (name :: rest) =
      (((branch.tree registry).edit registry change rest).1,
        .object (Entries.put branches name
          (.held ((branch.tree registry).edit registry change rest).2))) := by
  rw [edit, stands]

/-- Only a path that a reader can follow leads an edit anywhere. -/
theorem isSome_edit (path : List String) (tree : Tree) :
    (tree.edit registry change path).1.isSome = (tree.get? registry path).isSome := by
  induction path generalizing tree with
  | nil => rfl
  | cons name rest inductionHypothesis =>
    cases tree with
    | object branches =>
      cases stands : Entries.value? branches name with
      | none => simp [edit, get?, stands]
      | some branch =>
        rw [edit_branch change stands, get?_branch stands]
        exact inductionHypothesis (branch.tree registry)
    | absent | null | boolean _ | int _ | float _ | string _ | enum _ | raw _ | list _ => rfl

/-- A reader finds at the path what the edit has put there. -/
theorem get?_edit {path : List String} {old : Tree} (found : tree.get? registry path = some old) :
    (tree.edit registry change path).2.get? registry path = some (change old).2 := by
  induction path generalizing tree with
  | nil =>
    obtain rfl := Option.some.inj found
    rfl
  | cons name rest inductionHypothesis =>
    cases tree with
    | object branches =>
      cases stands : Entries.value? branches name with
      | none => simp [get?, stands] at found
      | some branch =>
        rw [get?_branch stands] at found
        rw [edit_branch change stands, get?_branch (Entries.value?_put_self _ _ _)]
        exact inductionHypothesis found
    | absent | null | boolean _ | int _ | float _ | string _ | enum _ | raw _ | list _ => cases found

/-- Nothing else is seen of an edit. The induction is on the path; an object on the way keeps its
names and their order, and its other fields. -/
theorem seen_edit {path : List String} {place : Place}
    (apart : tree.get? registry path = none ∨ ¬ Place.ofPath path <+: place) :
    (tree.edit registry change path).2.seen registry place = tree.seen registry place := by
  induction path generalizing tree place with
  | nil =>
    rcases apart with nowhere | outside
    · cases nowhere
    · exact absurd List.nil_prefix outside
  | cons name rest inductionHypothesis =>
    cases tree with
    | object branches =>
      cases stands : Entries.value? branches name with
      | none => simp [edit, stands]
      | some branch =>
        rw [edit_branch change stands]
        rw [get?_branch stands] at apart
        have known : name ∈ Entries.names branches := by
          by_contra missing
          rw [(Entries.value?_eq_none_iff branches name).mpr missing] at stands
          cases stands
        cases place with
        | nil => simp [seen, face, Entries.names_put, known]
        | cons turn behind =>
          cases turn with
          | item index => rfl
          | field other =>
            rw [seen, seen]
            by_cases same : name = other
            · subst same
              rw [get?_branch (Entries.value?_put_self _ _ _), get?_branch stands]
              apply inductionHypothesis
              apply apart.imp_right
              intro outside inside
              exact outside ((List.prefix_cons_inj _).mpr inside)
            · rw [get?, get?, Entries.value?_put_other _ _ same]
    | absent | null | boolean _ | int _ | float _ | string _ | enum _ | raw _ | list _ => rfl

end Tree

/-! ## Writing to a value -/

/-- Whether a path leads anywhere does not depend on what is to be done there, and if it leads
nowhere, nothing of that is done. -/
theorem edit_same_way (change : Edit α) (other : Edit β) (path : List String) (value : Value)
    (store : Store) :
    (value.edit registry change path store).1.isSome =
        (value.edit registry other path store).1.isSome ∧
      ((value.edit registry change path store).1 = none →
        (value.edit registry change path store).2 = (value.edit registry other path store).2) := by
  induction path generalizing value store with
  | nil => exact ⟨rfl, nofun⟩
  | cons name rest inductionHypothesis =>
    cases value with
    | object identity fields =>
      cases stands : Entries.value? fields name with
      | none => simp [Value.edit, stands]
      | some field =>
        rw [edit_object change identity fields name rest store stands,
          edit_object other identity fields name rest store stands]
        obtain ⟨isSome, nowhere⟩ := inductionHypothesis (field.peek registry store).1
          (field.peek registry store).2
        exact ⟨isSome, fun missing => by simp only [nowhere missing]⟩
    | absent | null | boolean _ | int _ | float _ | string _ | enum _ | raw _ | list _ =>
      exact ⟨rfl, fun _ => rfl⟩

theorem isSome_of_rel {agrees : α → β → Prop} {given? : Option α} {other? : Option β}
    (alike : Option.Rel agrees given? other?) : given?.isSome = other?.isSome := by
  cases alike <;> rfl

/-- Reading a path finds something exactly if it does so in the tree. -/
theorem isSome_get?_stands (follows : store.Follows registry plan)
    (stands : value.Stands plan tree) (path : List String) :
    (value.get? registry path store).1.isSome = (tree.get? registry path).isSome := by
  obtain ⟨grown, _, _, found⟩ := get?_stands follows stands path
  exact isSome_of_rel found

/-- A value to which another one was assigned stands for the tree to which the tree of the other
one was assigned. -/
theorem assigned_stands (follows : store.Follows registry plan) (stands : value.Stands plan tree)
    {replacement : Value} {other : Tree} (replaces : replacement.Stands plan other)
    (path : List String) :
    (value.edit registry (Value.assign replacement) path store).2.2.Continues registry plan
      fun grown =>
        (value.edit registry (Value.assign replacement) path store).2.1.Stands grown
            (tree.edit registry (Tree.assign other) path).2 ∧
          (value.edit registry (Value.assign replacement) path store).1.isSome =
            (tree.edit registry (Tree.assign other) path).1.isSome := by
  apply (edit_alike (assign_alike replaces) path (List.prefix_refl plan) follows stands).imp
  rintro grown - ⟨edited, answers⟩
  exact ⟨edited, isSome_of_rel answers⟩

/-- A path is written exactly if it can be read. -/
theorem isSome_edit (follows : store.Follows registry plan) (planned : value.Planned plan)
    (change : Edit α) (path : List String) :
    (value.edit registry change path store).1.isSome =
      (value.get? registry path store).1.isSome := by
  have stands : value.Stands plan value.tree := ⟨planned, rfl⟩
  have absent : Value.absent.Stands plan .absent := ⟨trivial, rfl⟩
  obtain ⟨grown, _, _, _, isSome⟩ := assigned_stands follows stands absent path
  rw [(edit_same_way change (Value.assign .absent) path value store).1, isSome, Tree.isSome_edit,
    isSome_get?_stands follows stands]

/-- Nothing is seen of an edit whose path leads nowhere. -/
theorem seen_edit_nowhere (follows : store.Follows registry plan) (planned : value.Planned plan)
    (change : Edit α) {path : List String}
    (nowhere : (value.get? registry path store).1 = none) (place : Place) :
    (value.edit registry change path store).2.1.seen registry place
        (value.edit registry change path store).2.2 = value.seen registry place store := by
  have stands : value.Stands plan value.tree := ⟨planned, rfl⟩
  have absent : Value.absent.Stands plan .absent := ⟨trivial, rfl⟩
  have unread : value.tree.get? registry path = none := by
    rw [← Option.isNone_iff_eq_none, ← Option.not_isSome, ← isSome_get?_stands follows stands,
      nowhere]
    rfl
  have unwritten : (value.edit registry change path store).1 = none := by
    rw [← Option.isNone_iff_eq_none, ← Option.not_isSome, isSome_edit follows planned, nowhere]
    rfl
  obtain ⟨grown, _, followsOn, edited, _⟩ := assigned_stands follows stands absent path
  rw [(edit_same_way change (Value.assign .absent) path value store).2 unwritten,
    seen_stands followsOn edited, Tree.seen_edit _ (.inl unread), seen_stands follows stands]

/-- What is seen after an assignment: what was assigned behind the path, and everything else as
before. -/
theorem seen_assigned (follows : store.Follows registry plan) (planned : value.Planned plan)
    {replacement : Value} (replaces : replacement.Planned plan) {path : List String}
    (found : (value.get? registry path store).1.isSome) :
    let edited := value.edit registry (Value.assign replacement) path store
    (∀ place, edited.2.1.seen registry (Place.ofPath path ++ place) edited.2.2 =
      replacement.seen registry place store) ∧
    ∀ place, ¬ Place.ofPath path <+: place →
      edited.2.1.seen registry place edited.2.2 = value.seen registry place store := by
  intro edited
  have stands : value.Stands plan value.tree := ⟨planned, rfl⟩
  have others : replacement.Stands plan replacement.tree := ⟨replaces, rfl⟩
  obtain ⟨grown, _, followsOn, standsOn, _⟩ := assigned_stands follows stands others path
  rw [isSome_get?_stands follows stands] at found
  obtain ⟨old, found⟩ := Option.isSome_iff_exists.mp found
  constructor
  · intro place
    rw [seen_stands followsOn standsOn, Tree.seen_ofPath, Tree.get?_edit _ found, Option.bind_some,
      seen_stands follows others]
    rfl
  · intro place outside
    rw [seen_stands followsOn standsOn, Tree.seen_edit _ (.inr outside), seen_stands follows stands]

/-- Only the last of two assignments is seen. -/
theorem seen_assigned_twice (follows : store.Follows registry plan) (planned : value.Planned plan)
    {replacement other : Value} (replaces : replacement.Planned plan)
    (replacesNext : other.Planned plan) {path : List String}
    (found : (value.get? registry path store).1.isSome) (place : Place) :
    let assigned := value.edit registry (Value.assign replacement) path store
    let again := assigned.2.1.edit registry (Value.assign other) path assigned.2.2
    let once := value.edit registry (Value.assign other) path store
    again.2.1.seen registry place again.2.2 = once.2.1.seen registry place once.2.2 := by
  intro assigned again once
  have stands : value.Stands plan value.tree := ⟨planned, rfl⟩
  have replacing : replacement.Stands plan replacement.tree := ⟨replaces, rfl⟩
  have others : other.Stands plan other.tree := ⟨replacesNext, rfl⟩
  obtain ⟨grown, grows, followsOn, edited, _⟩ := assigned_stands follows stands replacing path
  have foundAgain : (assigned.2.1.get? registry path assigned.2.2).1.isSome := by
    rw [isSome_get?_stands follows stands] at found
    obtain ⟨old, found⟩ := Option.isSome_iff_exists.mp found
    rw [isSome_get?_stands followsOn edited, Tree.get?_edit _ found, Option.isSome_some]
  obtain ⟨inside, outside⟩ := seen_assigned follows planned replacesNext found
  obtain ⟨-, outsideFirst⟩ := seen_assigned follows planned replaces found
  obtain ⟨insideAgain, outsideAgain⟩ :=
    seen_assigned followsOn edited.planned (other.planned_grows grows replacesNext) foundAgain
  by_cases goesOn : Place.ofPath path <+: place
  · obtain ⟨behind, rfl⟩ := goesOn
    rw [insideAgain, inside, seen_stands follows others,
      seen_stands followsOn (others.grows grows)]
  · rw [outsideAgain _ goesOn, outsideFirst _ goesOn, outside _ goesOn]

/-! ## Assigning what was read -/

/-- Only the cells of a store matter to what is known. -/
theorem Field.known?_of_cells {last : Store} (same : last.cells = store.cells) (field : Field) :
    field.known? last = field.known? store := by
  cases field with
  | held value => rfl
  | later cell default => simp only [Field.known?, Store.value?, same]

theorem lookWithin_of_cells {last : Store} (same : last.cells = store.cells) (ways : Nat) :
    last.lookWithin ways = store.lookWithin ways := by
  induction ways with
  | zero => rfl
  | succ ways inductionHypothesis =>
    funext cell
    simp only [Store.lookWithin, Store.value?, same, inductionHypothesis]

theorem snapshot_of_cells {last : Store} (same : last.cells = store.cells) (value : Value) :
    last.snapshot value = store.snapshot value := by
  have look : last.look = store.look := by
    funext cell
    rw [Store.look, Store.look, lookWithin_of_cells same, same]
  rw [Store.snapshot, Store.snapshot, look]

/-- A field that holds what unfolds alike takes the place of a known field. -/
theorem FieldsUnfold.put {fields : Entries Field} {others : List (String × Option Snapshot)}
    {name : String} {field : Field} {old new : Value} (unfold : FieldsUnfold store fields others)
    (stands : fields.value? name = some field) (known : field.known? store = some old)
    (alike : ∀ shown, old.Unfolds store shown → new.Unfolds store shown) :
    FieldsUnfold store (fields.put name (.held new)) others := by
  induction fields generalizing others with
  | nil => cases stands
  | cons entry rest inductionHypothesis =>
    obtain ⟨key, first⟩ := entry
    rw [Entries.value?] at stands
    rw [Entries.put]
    by_cases same : key = name
    · rw [if_pos same] at stands ⊢
      obtain rfl := Option.some.inj stands
      cases unfold with
      | known again unfolds unfoldRest =>
        obtain rfl := Option.some.inj (known.symm.trans again)
        exact .known rfl (alike _ unfolds) unfoldRest
      | unresolved unknown _ => cases known.symm.trans unknown
    · rw [if_neg same] at stands ⊢
      cases unfold with
      | known again unfolds unfoldRest =>
        exact .known again unfolds (inductionHypothesis unfoldRest stands)
      | unresolved unknown unfoldRest =>
        exact .unresolved unknown (inductionHypothesis unfoldRest stands)

/-- An assignment at a known path works nothing out. -/
theorem cells_assigned (registry : Registry) {path : List String} {found : Value}
    (known : value.known? store path = some found) (replacement : Value) :
    (value.edit registry (Value.assign replacement) path store).2.2.cells = store.cells := by
  induction path generalizing value with
  | nil => rfl
  | cons name rest inductionHypothesis =>
    obtain ⟨identity, fields, field, next, rfl, stands, worked, onward⟩ := known?_cons known
    rw [edit_object _ identity fields name rest store stands, (field.read_known registry worked).2]
    exact inductionHypothesis onward

/-- A value to which is assigned what was read unfolds as before. The induction is on the path; a
field on it was resolved and holds the same now. -/
theorem unfolds_assigned_back (registry : Registry) {last : Store}
    (same : last.cells = store.cells) {path : List String} {found : Value}
    (known : value.known? store path = some found) {shown : Snapshot}
    (unfolds : value.Unfolds last shown) :
    (value.edit registry (Value.assign found) path store).2.1.Unfolds last shown := by
  induction path generalizing value shown with
  | nil =>
    obtain rfl := Option.some.inj known
    exact unfolds
  | cons name rest inductionHypothesis =>
    obtain ⟨identity, fields, field, next, rfl, stands, worked, onward⟩ := known?_cons known
    rw [edit_object _ identity fields name rest store stands, (field.read_known registry worked).2]
    cases unfolds with
    | object unfold =>
      have workedLast : field.known? last = some next := by
        rw [field.known?_of_cells same, worked]
      exact .object (unfold.put stands workedLast fun _ => inductionHypothesis onward)

/-- Assigning what was read changes no snapshot. -/
theorem snapshot_assigned_back (registry : Registry) {ledger : Ledger} (fits : ledger.Fits store)
    (allowed : value.Within ledger.Allows) {path : List String} {found : Value}
    (known : value.known? store path = some found) (allowedFound : found.Within ledger.Allows) :
    let edited := value.edit registry (Value.assign found) path store
    edited.2.2.snapshot edited.2.1 = store.snapshot value := by
  intro edited
  have assigns : (ledgers registry).Changes ledger Discipline.untold (Value.assign found) :=
    Discipline.assign_kept allowedFound
  obtain ⟨grown, grows, fitsOn, within, -⟩ :=
    Discipline.edit_kept assigns path ledger (le_refl _) store fits value allowed
  have cells : edited.2.2.cells = store.cells := cells_assigned registry known found
  have before := snapshot_unfolds fitsOn (allowed.imp fun _ => Ledger.Allows.mono grows)
  have after := unfolds_assigned_back registry cells known before
  rw [after.unique (snapshot_unfolds fitsOn within), snapshot_of_cells cells]

/-- What was read is seen after it was assigned back. -/
theorem seen_assigned_back (follows : store.Follows registry plan) (planned : value.Planned plan)
    {path : List String} {found : Value}
    (read : (value.get? registry path store).1 = some found) (place : Place) :
    let after := (value.get? registry path store).2
    let edited := value.edit registry (Value.assign found) path after
    edited.2.1.seen registry place edited.2.2 = value.seen registry place store := by
  intro after edited
  have stands : value.Stands plan value.tree := ⟨planned, rfl⟩
  have known := known_of_get? follows planned read
  have readAgain := get?_known registry known
  obtain ⟨grown, grows, followsOn, foundStands⟩ := get?_stands follows stands path
  rw [read] at foundStands
  obtain ⟨inner, foundInner⟩ : ∃ inner, found.Stands grown inner := by
    generalize value.tree.get? registry path = inner? at foundStands
    cases foundStands with
    | some stands => exact ⟨_, stands⟩
  have same : value.seen registry place after = value.seen registry place store := by
    rw [seen_stands followsOn (stands.grows grows), seen_stands follows stands]
  obtain ⟨inside, outside⟩ := seen_assigned followsOn (value.planned_grows grows planned)
    foundInner.planned (by rw [readAgain, Option.isSome_some])
  by_cases behind : Place.ofPath path <+: place
  · obtain ⟨behind, rfl⟩ := behind
    rw [inside, ← same, seen_ofPath, readAgain]
  · rw [outside _ behind, same]

/-! ## The laws -/

/-- Reading and writing a path of a value are a lens. At every moment of a script and for every
named value, a path can be written exactly if it can be read. If it leads nowhere, nothing is seen
of a write at any place. If it leads to a value, an assignment is seen behind the path, and
everything else is seen as before: also the names on the way to it, in their order. Only the last of
two assignments is seen. Assigning what was read leaves everything as it was seen, and all that
shows without reading on: the text and which fields are resolved. -/
theorem paths_are_lenses (accessor : Accessor) (script : List Instruction) :
    ∀ moment ∈ scriptMoments script { accessor }, ∀ name value,
      moment.bindings.value? name = some value → ∀ path,
        let registry := moment.registry
        let read := value.get? registry path moment.store
        (∀ (α : Type) (change : Edit α),
          let edited := value.edit registry change path moment.store
          edited.1.isSome = read.1.isSome ∧
            (read.1 = none → ∀ place,
              edited.2.1.seen registry place edited.2.2 =
                value.seen registry place moment.store)) ∧
        ∀ found, read.1 = some found →
          (∀ first replacement, moment.bindings.value? first = some replacement →
            let assigned := value.edit registry (Value.assign replacement) path moment.store
            (∀ place, assigned.2.1.seen registry (Place.ofPath path ++ place) assigned.2.2 =
              replacement.seen registry place moment.store) ∧
            (∀ place, ¬ Place.ofPath path <+: place →
              assigned.2.1.seen registry place assigned.2.2 =
                value.seen registry place moment.store) ∧
            ∀ second other, moment.bindings.value? second = some other → ∀ place,
              let again := assigned.2.1.edit registry (Value.assign other) path assigned.2.2
              let once := value.edit registry (Value.assign other) path moment.store
              again.2.1.seen registry place again.2.2 = once.2.1.seen registry place once.2.2) ∧
          let back := value.edit registry (Value.assign found) path read.2
          back.2.2.snapshot back.2.1 = read.2.snapshot value ∧
            ∀ place, back.2.1.seen registry place back.2.2 =
              value.seen registry place moment.store := by
  intro moment member name value stands path registry read
  obtain ⟨plan, follows, planned⟩ :=
    (scriptMoments_sound script _ (start_sound accessor) moment member).planned
  obtain ⟨ledger, keeps⟩ := scriptMoments_ledger accessor script moment member
  have own := planned name value stands
  constructor
  · intro α change edited
    exact ⟨isSome_edit follows own change path,
      fun nowhere place => seen_edit_nowhere follows own change nowhere place⟩
  intro found finds
  have leads : (value.get? registry path moment.store).1.isSome := by
    rw [show (value.get? registry path moment.store).1 = some found from finds]
    rfl
  constructor
  · intro first replacement standsFirst assigned
    have replaces := planned first replacement standsFirst
    obtain ⟨inside, outside⟩ := seen_assigned follows own replaces leads
    refine ⟨inside, outside, ?_⟩
    intro second other standsSecond place
    exact seen_assigned_twice follows own replaces (planned second other standsSecond) leads place
  · intro back
    obtain ⟨grown, grows, fits, allowed⟩ :=
      (ledgers registry).get?_kept keeps.fits (keeps.names name value stands) path
    have allowedOn := (keeps.names name value stands).imp fun _ => Ledger.Allows.mono grows
    have known := known_of_get? follows own finds
    exact ⟨snapshot_assigned_back registry fits allowedOn known (allowed found finds),
      seen_assigned_back follows own finds⟩

/-- A name that is assigned to the friend of a user is seen there, and the user's own name as
before. -/
theorem friend_is_named :
    let fields := [("friend", Default.factory "User"), ("name", Default.emptyString)]
    let accessor := Accessor.recipe ⟨[⟨"User", .object, .record (some "User") fields⟩]⟩
    let script := [Instruction.step (.fixture "User" "user"),
      .step (.content (.string "Ann") "text")]
    let moment := (runScript script { accessor }).2
    ∃ user, moment.bindings.value? "user" = some user ∧
      let named := user.edit moment.registry (Value.assign (.string "Ann")) ["friend", "name"]
        moment.store
      named.2.1.seen moment.registry [.field "friend", .field "name"] named.2.2 =
          some (.string "Ann") ∧
        named.2.1.seen moment.registry [.field "name"] named.2.2 =
          user.seen moment.registry [.field "name"] moment.store := by
  intro fields accessor script moment
  obtain ⟨user, stands⟩ : ∃ user, moment.bindings.value? "user" = some user :=
    Option.isSome_iff_exists.mp (by decide +kernel)
  have finds : ((moment.bindings.value? "user").bind fun user =>
      (user.get? moment.registry ["friend", "name"] moment.store).1).isSome = true := by
    decide +kernel
  rw [stands, Option.bind_some] at finds
  obtain ⟨found, finds⟩ := Option.isSome_iff_exists.mp finds
  have text : moment.bindings.value? "text" = some (.string "Ann") := by rfl
  obtain ⟨inside, outside, -⟩ := ((paths_are_lenses accessor script moment
    (runScript_mem_moments _ _) "user" user stands ["friend", "name"]).2 found finds).1 "text" _ text
  exact ⟨user, stands, inside [], outside [.field "name"] (by decide)⟩

end SchemaFixtures.Fixture
