import SchemaFixtures.Proofs.Fixture.Demand
import SchemaFixtures.Proofs.Fixture.Separation

/-!
# Reading in any order

A fixture is only looked at: it is read under its names, a path at a time, and what paths find in
it is compared. Then the fields that are resolved afterwards are those that were so when their
object was made and those that a look asked for, no others, and none of these is missing. What a
look tells depends on the tree of the fixture alone, apart from the questions about what is
resolved. So the order of the looks does not matter: the same fields are resolved afterwards, and
each look tells the same.
-/

namespace SchemaFixtures.Fixture

/-- The fields that a step asks for in the value that it looks at. -/
def Step.demand : Step → Demand
  | .operate _ (.read path reading) => .through path reading.demand
  | .sameObject left right => fun place name =>
    Demand.along left.2 place name ∨ Demand.along right.2 place name
  | _ => fun _ _ => False

/-- A step looks at a value: it reads it under a name, or compares what two paths find in it. -/
inductive Step.Looks (bindings : Entries Value) (root : Value) : Step → Prop where
  | read {name : String} {path : List String} {reading : Reading}
      (stands : bindings.value? name = some root) :
      Step.Looks bindings root (.operate name (.read path reading))
  | compare {left right : String × List String} (standsLeft : bindings.value? left.1 = some root)
      (standsRight : bindings.value? right.1 = some root) :
      Step.Looks bindings root (.sameObject left right)

/-- The fields that steps ask for. -/
def demandOf (looks : List Step) : Demand := fun place name =>
  ∃ look ∈ looks, look.demand place name

/-- Whether a tree is an object. -/
def Tree.isObject : Tree → Bool
  | .object _ => true
  | _ => false

/-- Whether two paths find one object in a tree, if both find objects: no two paths lead to the
same object. -/
def Tree.sameObject? (registry : Registry) (tree : Tree) (left right : List String) : Option Bool :=
  if (tree.get? registry left).any (·.isObject) && (tree.get? registry right).any (·.isObject) then
    some (left == right)
  else none

/-- The branch of a name, if the tree is an object that has it. -/
def Tree.branch? (tree : Tree) (name : String) : Option Branch :=
  match tree with
  | .object branches => Entries.value? branches name
  | _ => none

/-- What the answer to a step that looks at a value tells of the tree of the value. -/
def Step.Told (registry : Registry) (tree : Tree) : Step → StepAnswer → Prop
  | .operate _ (.read path reading), answer =>
    answer.Tells registry <| .operated ((tree.get? registry path).elim reading.missingReply
      (reading.reply registry)) (some tree)
  | .sameObject left right, answer =>
    answer = .sameObject (tree.sameObject? registry left.2 right.2)
  | _, _ => True

/-- The resolved fields of a value are the held ones and those that were asked for. -/
def Value.Exact (store : Store) (demand : Demand) (value : Value) : Prop :=
  ∀ place name field, value.fieldAt? store place name = some field →
    (field.isResolved store = true ↔ (∃ content, field = .held content) ∨ demand place name)

variable {registry : Registry} {demand other : Demand} {root value inner : Value}
  {place : Place} {name : String}

theorem Step.demand_closed (step : Step) : step.demand.Closed := by
  cases step with
  | operate source operation =>
    cases operation with
    | read path reading => exact Demand.through_closed path reading.demand_closed
    | write path writing => exact fun _ _ _ _ asked => asked
  | sameObject left right =>
    intro place field below name asked
    exact asked.imp (Demand.along_closed left.2 place field below name)
      (Demand.along_closed right.2 place field below name)
  | fixture _ _ | content _ _ | copy _ _ _ | produce _ _ _ | fixtureWith _ _ _ | drop _
  | accessor => exact fun _ _ _ _ asked => asked

namespace Ground

variable {ground grown : Ground registry}

/-! ## One look after another -/

/-- What is explored first and what is explored then. -/
theorem Explores.append {between after : Store} (closed : demand.Closed)
    (first : ground.Explores value demand between)
    (then_ : ∀ grown : Ground registry, ground ≤ grown → grown.store = between →
      grown.Explores value other after) :
    ground.Explores value (fun place name => demand place name ∨ other place name) after := by
  obtain ⟨middle, grows, rfl, reads, serves⟩ := first
  obtain ⟨last, growsOn, rfl, readsOn, servesOn⟩ := then_ middle grows rfl
  refine ⟨last, le_trans grows growsOn, rfl, ?_, ?_⟩
  · exact (reads.imp fun _ _ asked => .inl asked).trans (readsOn.imp fun _ _ asked => .inr asked)
  · rintro place name field stands (asked | asked)
    · exact serves.persists closed growsOn.1.persists place name field stands asked
    · exact servesOn place name field stands asked

/-- What is explored stays explored, and it is exactly what was asked for. -/
theorem Explored.exact (explored : ground.Explored root demand)
    (serves : root.Serves ground.store demand) : root.Exact ground.store demand := by
  intro place name field stands
  constructor
  · intro resolved
    cases field with
    | held content => exact .inl ⟨content, rfl⟩
    | later cell default =>
      obtain ⟨content, filled⟩ := Option.isSome_iff_exists.mp resolved
      exact .inr (explored.asked place name cell content (shows_cell stands) filled)
  · rintro (⟨content, rfl⟩ | asked)
    · rfl
    · exact serves place name field stands asked

theorem Made.look_explores {session : Session} (registered : session.registry = registry)
    (made : ground.Made root) (same : ground.store = session.store) {look : Step}
    (looks : look.Looks session.bindings root) :
    ground.Explores root look.demand (session.step look).2.store := by
  subst registered
  cases looks with
  | @read name path reading stands =>
    have explored := made.asked_explores reading path fun made => made.answer_explores reading
    rw [same] at explored
    simp only [Session.step, stands, Session.keep_store, Operation.run]
    generalize root.get? session.registry path session.store = found at explored ⊢
    obtain ⟨_ | target, after⟩ := found <;> exact explored
  | @compare left right standsLeft standsRight =>
    simp only [Session.step, copyOf_named _ standsLeft, copyOf_named _ standsRight, ← same]
    exact made.path_explores left.2 |>.append (Demand.along_closed left.2) fun grown grows stored =>
      stored ▸ (made.grows grows).path_explores right.2

/-- A question under a name is answered like the question about the tree of the value. -/
theorem Made.read_told {session : Session} (registered : session.registry = registry)
    (made : ground.Made root) (same : ground.store = session.store) {name : String}
    (stands : session.bindings.value? name = some root) (path : List String) (reading : Reading) :
    Step.Told registry root.tree (.operate name (.read path reading))
      (session.step (.operate name (.read path reading))).1 := by
  subst registered
  have planned : root.Stands ground.plan root.tree := ⟨(within_alone.mp made.within).2, rfl⟩
  have named : BindingsStand ground.plan [] [] :=
    ⟨fun _ none => absurd none List.not_mem_nil, rfl⟩
  obtain ⟨grown, _, follows, changed, told⟩ := Operation.run_tells named (.read path reading)
    (List.prefix_refl _) (same ▸ ground.follows) planned
  have reply : ((Operation.read path reading).treeEdit session.registry [] root.tree) =
      ((root.tree.get? session.registry path).elim reading.missingReply
        (reading.reply session.registry), root.tree) := by
    simp only [Operation.treeEdit]
    cases root.tree.get? session.registry path <;> rfl
  rw [reply] at changed told
  simp only [Session.step, stands, Session.keep]
  exact .operated told (.some (snapshot_shows follows changed))

/-- A value has an identity exactly if its tree is an object. -/
theorem isObject_tree (value : Value) : value.tree.isObject = value.identity?.isSome := by
  cases value <;> simp [Value.tree, Tree.isObject, Value.identity?]

theorem ofPath_injective {left right : List String}
    (same : Place.ofPath left = Place.ofPath right) : left = right :=
  List.map_injective_iff.mpr (fun _ _ => Turn.field.inj) same

/-- Of two paths that find objects only equal ones find one object. -/
theorem Explored.same_object (explored : ground.Explored root demand) {left right : List String}
    {first second : Value} {identity identityOther : Nat}
    (here : root.at? ground.store (Place.ofPath left) = some first)
    (there : root.at? ground.store (Place.ofPath right) = some second)
    (own : first.identity? = some identity) (ownOther : second.identity? = some identityOther) :
    identity = identityOther ↔ left = right := by
  constructor
  · rintro rfl
    have shows_ {path : List String} {value : Value}
        (stands : root.at? ground.store (Place.ofPath path) = some value)
        (own : value.identity? = some identity) :
        root.Shows ground.store (Place.ofPath path) (.object identity) := by
      cases value with
      | object other fields =>
        obtain rfl : other = identity := Option.some.inj own
        exact shows_object stands
      | absent | null | boolean _ | int _ | float _ | string _ | enum _ | raw _ | list _ =>
        cases own
    exact ofPath_injective (explored.single _ _ _ (shows_ here own) (shows_ there ownOther))
  · rintro rfl
    obtain rfl := Option.some.inj (here.symm.trans there)
    exact Option.some.inj (own.symm.trans ownOther)

/-- The comparison of what two paths find tells whether the paths are equal. -/
theorem Explored.sameObject?_told (explored : ground.Explored root demand)
    {left right : List String} {plan planOther : Plan} {found other : Option Value}
    (here : ∀ value, found = some value →
      root.at? ground.store (Place.ofPath left) = some value)
    (there : ∀ value, other = some value →
      root.at? ground.store (Place.ofPath right) = some value)
    (stands : Option.Rel (Value.Stands plan) found (root.tree.get? registry left))
    (standsOther : Option.Rel (Value.Stands planOther) other (root.tree.get? registry right)) :
    (do Value.sameObject? (← found) (← other)) = root.tree.sameObject? registry left right := by
  rw [Tree.sameObject?]
  generalize root.tree.get? registry left = tree? at stands ⊢
  generalize root.tree.get? registry right = otherTree? at standsOther ⊢
  cases stands with
  | none => rfl
  | @some value tree stands =>
    cases standsOther with
    | none => simp
    | @some otherValue otherTree standsOther =>
      obtain rfl := stands.same
      obtain rfl := standsOther.same
      simp only [Option.any_some, isObject_tree]
      cases own : value.identity? with
      | none => simp [Value.sameObject?, own]
      | some identity =>
        cases ownOther : otherValue.identity? with
        | none => simp [Value.sameObject?, ownOther]
        | some identityOther =>
          have same := explored.same_object (here _ rfl) (there _ rfl) own ownOther
          simp [Value.sameObject?, own, ownOther, same]

theorem Made.compare_told {session : Session} (registered : session.registry = registry)
    (made : ground.Made root) (same : ground.store = session.store)
    {left right : String × List String} (standsLeft : session.bindings.value? left.1 = some root)
    (standsRight : session.bindings.value? right.1 = some root)
    (explored : grown.Explored root demand)
    (stored : grown.store = (session.step (.sameObject left right)).2.store) :
    Step.Told registry root.tree (.sameObject left right)
      (session.step (.sameObject left right)).1 := by
  subst registered
  obtain ⟨between, grows, sameLeft, _, _, finds⟩ := made.get?_explores left.2
  obtain ⟨last, growsOn, sameRight, _, _, findsOther⟩ := (made.grows grows).get?_explores right.2
  have planned {ground : Ground session.registry} (made : ground.Made root) :
      root.Stands ground.plan root.tree := ⟨(within_alone.mp made.within).2, rfl⟩
  obtain ⟨_, _, _, found⟩ := get?_stands ground.follows (planned made) left.2
  obtain ⟨_, _, _, foundOther⟩ := get?_stands between.follows (planned (made.grows grows)) right.2
  simp only [Session.step, copyOf_named _ standsLeft, copyOf_named _ standsRight, ← same,
    ← sameLeft] at stored ⊢
  have lastStore : grown.store = last.store := stored.trans sameRight.symm
  refine congrArg StepAnswer.sameObject (explored.sameObject?_told ?_ ?_ found foundOther)
  · intro value here
    rw [lastStore]
    exact at?_persists growsOn.1.persists (finds.trans here)
  · intro value there
    rw [lastStore]
    exact findsOther.trans there

/-- A look leaves a value explored, resolves what it asks for, and tells of the tree. -/
theorem Explored.look {session : Session} (registered : session.registry = registry)
    (explored : ground.Explored root demand) (same : ground.store = session.store) {look : Step}
    (looks : look.Looks session.bindings root)
    (among : ∀ place name, look.demand place name → demand place name) :
    ∃ grown : Ground registry, ground ≤ grown ∧ grown.store = (session.step look).2.store ∧
      grown.Explored root demand ∧ root.Serves grown.store look.demand ∧
      look.Told registry root.tree (session.step look).1 ∧
      (session.step look).2.registry = registry ∧
      ∀ name, (session.step look).2.bindings.value? name = session.bindings.value? name := by
  obtain ⟨_, _, _, reads, serves⟩ := explored.made.look_explores registered same looks
  obtain ⟨grown, grows, stored, further⟩ := explored.run (reads.imp among)
  refine ⟨grown, grows, stored, further, stored ▸ serves, ?_, ?_, ?_⟩
  · cases looks with
    | read stands => exact explored.made.read_told registered same stands _ _
    | @compare left right standsLeft standsRight =>
      exact explored.made.compare_told registered same standsLeft standsRight further stored
  · cases looks with
    | read stands =>
      simp only [Session.step, stands]
      exact registered
    | compare _ _ => exact registered
  · intro name
    cases looks with
    | @read source path reading stands =>
      simp only [Session.step, stands, Session.read_same, Session.keep]
      by_cases own : source = name
      · rw [← own, stands]
        exact Entries.value?_put_self _ _ _
      · exact Entries.value?_put_other _ _ own
    | compare _ _ => rfl

theorem looks_renamed {bindings renamed : Entries Value}
    (same : ∀ name, renamed.value? name = bindings.value? name) {look : Step}
    (looks : look.Looks bindings root) : look.Looks renamed root := by
  cases looks with
  | read stands => exact .read ((same _).trans stands)
  | compare standsLeft standsRight =>
    exact .compare ((same _).trans standsLeft) ((same _).trans standsRight)

/-- Looks one after another leave a value explored, resolve what they ask for, and each tells of
the tree. -/
theorem Explored.run_looks (looks : List Step) {session : Session}
    (registered : session.registry = registry) (explored : ground.Explored root demand)
    (same : ground.store = session.store)
    (each : ∀ look ∈ looks, look.Looks session.bindings root)
    (among : ∀ place name, demandOf looks place name → demand place name) :
    ∃ grown : Ground registry, ground ≤ grown ∧ grown.store = (session.run looks).2.store ∧
      grown.Explored root demand ∧ root.Serves grown.store (demandOf looks) ∧
      List.Forall₂ (Step.Told registry root.tree) looks (session.run looks).1 := by
  induction looks generalizing session ground with
  | nil =>
    exact ⟨ground, le_refl ground, same, explored,
      fun _ _ _ _ ⟨_, member, _⟩ => absurd member List.not_mem_nil, .nil⟩
  | cons look rest inductionHypothesis =>
    obtain ⟨first, others⟩ := List.forall_mem_cons.mp each
    obtain ⟨between, grows, stored, further, serves, told, registeredOn, names⟩ :=
      explored.look registered same first fun place name asked =>
        among place name ⟨look, List.mem_cons_self, asked⟩
    obtain ⟨grown, growsOn, last, furtherOn, servesOn, toldOn⟩ := inductionHypothesis registeredOn
      further stored (fun other member => looks_renamed names (others other member))
      fun place name ⟨other, member, asked⟩ =>
        among place name ⟨other, List.mem_cons_of_mem _ member, asked⟩
    refine ⟨grown, le_trans grows growsOn, last, furtherOn, ?_, .cons told toldOn⟩
    rintro place name field stands ⟨asker, member, asked⟩
    rcases List.mem_cons.mp member with rfl | later
    · exact serves.persists asker.demand_closed growsOn.1.persists place name field stands asked
    · exact servesOn place name field stands ⟨asker, later, asked⟩

/-! ## Two ways to explore one value -/

/-- Two values stand for one tree, and the same was asked for in both. -/
structure Alike (first second : Ground registry) (demand : Demand) (here there : Value) : Prop where
  madeHere : first.Made here
  madeThere : second.Made there
  same : here.tree = there.tree
  exactHere : here.Exact first.store demand
  exactThere : there.Exact second.store demand

variable {first second : Ground registry} {here there : Value}

/-- A known value stands for the tree of its field. -/
theorem Made.known_tree (made : ground.Made value) {field : Field}
    (stands : value.field? name = some field) (known : field.known? ground.store = some inner) :
    inner.tree = field.branch.tree registry := by
  obtain ⟨_, planned, _⟩ := made.field stands
  obtain ⟨_, _, _, read⟩ := read_stands ground.follows field planned
  rw [(field.read_known registry known).1] at read
  exact read.same

theorem Made.known?_tree (made : ground.Made value) {field : Field}
    (stands : value.field? name = some field) :
    (field.known? ground.store).map Value.tree =
      if field.isResolved ground.store then some (field.branch.tree registry) else none := by
  rw [isResolved_eq]
  cases known : field.known? ground.store with
  | none => rfl
  | some inner => exact congrArg some (made.known_tree stands known)

theorem branch?_tree (value : Value) (name : String) :
    value.tree.branch? name = (value.field? name).map Field.branch := by
  cases value with
  | object identity fields =>
    rw [Value.tree_object, field?_object, ← Entries.value?_mapValues]
    rfl
  | absent | null | boolean _ | int _ | float _ | string _ | enum _ | raw _ | list _ => rfl

theorem items?_tree (value : Value) :
    value.tree.items? = value.items?.map (·.map Value.tree) := by
  cases value with
  | list items => rw [Value.tree_list]; rfl
  | absent | null | boolean _ | int _ | float _ | string _ | enum _ | raw _ | object _ _ => rfl

theorem item_tree (value : Value) (index : Nat) :
    (value.items?.bind (·[index]?)).map Value.tree = value.tree.items?.bind (·[index]?) := by
  rw [items?_tree]
  cases value.items? <;> simp

theorem held_iff (field : Field) :
    (∃ content, field = .held content) ↔ ∃ tree, field.branch = .held tree := by
  cases field <;> simp [Field.branch]

/-- Both values have a field of a name or neither has, and the fields have one branch. -/
theorem Alike.fields (alike : Alike first second demand here there) (name : String) :
    Option.Rel (fun field other => field.branch = other.branch ∧
      field.isResolved first.store = other.isResolved second.store)
      (here.field? name) (there.field? name) := by
  have same := branch?_tree here name
  rw [alike.same, branch?_tree] at same
  have exactHere := alike.exactHere [] name
  have exactThere := alike.exactThere [] name
  simp only [Value.fieldAt?, Value.at?, Option.bind_some] at exactHere exactThere
  generalize here.field? name = field? at same exactHere ⊢
  generalize there.field? name = other? at same exactThere ⊢
  cases field? with
  | none =>
    cases other? with
    | none => exact .none
    | some _ => cases same
  | some field =>
    cases other? with
    | none => cases same
    | some other =>
      have branches : field.branch = other.branch := (Option.some.inj same).symm
      refine .some ⟨branches, Bool.eq_iff_iff.mpr ?_⟩
      rw [exactHere field rfl, exactThere other rfl, held_iff, held_iff, branches]

theorem exact_turn {store : Store} {turn : Turn} (exactHere : value.Exact store demand)
    (next : value.turn? store turn = some inner) :
    inner.Exact store fun rest => demand (turn :: rest) := by
  intro place name field stands
  refine exactHere (turn :: place) name field ?_
  rw [fieldAt?_cons, next]
  exact stands

/-- The same stands one turn on, or nothing is known there of both. -/
theorem Alike.turn_tree (alike : Alike first second demand here there) (turn : Turn) :
    (here.turn? first.store turn).map Value.tree =
      (there.turn? second.store turn).map Value.tree := by
  cases turn with
  | item index =>
    exact (item_tree here index).trans
      ((congrArg (·.items?.bind (·[index]?)) alike.same).trans (item_tree there index).symm)
  | field name =>
    have fields := alike.fields name
    simp only [Value.turn?]
    generalize stands : here.field? name = field? at fields ⊢
    generalize standsOther : there.field? name = other? at fields ⊢
    cases fields with
    | none => rfl
    | some both =>
      rw [Option.bind_some, Option.bind_some, alike.madeHere.known?_tree stands,
        alike.madeThere.known?_tree standsOther, both.1, both.2]

/-- What stands one turn on is alike again. -/
theorem Alike.turn (alike : Alike first second demand here there) (turn : Turn) :
    Option.Rel (Alike first second fun rest => demand (turn :: rest))
      (here.turn? first.store turn) (there.turn? second.store turn) := by
  have same := alike.turn_tree turn
  cases next : here.turn? first.store turn with
  | none =>
    cases nextOther : there.turn? second.store turn with
    | none => exact .none
    | some _ => simp [next, nextOther] at same
  | some inner =>
    cases nextOther : there.turn? second.store turn with
    | none => simp [next, nextOther] at same
    | some another =>
      rw [next, nextOther] at same
      exact .some ⟨alike.madeHere.at (at?_turn next), alike.madeThere.at (at?_turn nextOther),
        Option.some.inj same, exact_turn alike.exactHere next,
        exact_turn alike.exactThere nextOther⟩

/-- The same is known at every place. -/
theorem Alike.at (alike : Alike first second demand here there) (place : Place) :
    Option.Rel (Alike first second fun rest => demand (place ++ rest))
      (here.at? first.store place) (there.at? second.store place) := by
  induction place generalizing here there demand with
  | nil => exact .some alike
  | cons turn rest inductionHypothesis =>
    have turned := alike.turn turn
    rw [Value.at?, Value.at?]
    generalize here.turn? first.store turn = next? at turned ⊢
    generalize there.turn? second.store turn = other? at turned ⊢
    cases turned with
    | none => exact .none
    | some next => exact inductionHypothesis next

/-- Two ways to explore one value know the same trees and have resolved the same fields. -/
theorem Alike.places (alike : Alike first second demand here there) (place : Place) :
    (here.at? first.store place).map Value.tree = (there.at? second.store place).map Value.tree ∧
      ∀ name,
        here.resolvedAt first.store place name = there.resolvedAt second.store place name := by
  have reached := alike.at place
  simp only [Value.resolvedAt, Value.fieldAt?]
  generalize here.at? first.store place = found at reached ⊢
  generalize there.at? second.store place = other at reached ⊢
  cases reached with
  | none => exact ⟨rfl, fun _ => rfl⟩
  | @some inner another alike =>
    refine ⟨congrArg some alike.same, fun name => ?_⟩
    have fields := alike.fields name
    rw [Option.bind_some, Option.bind_some]
    generalize inner.field? name = field? at fields ⊢
    generalize another.field? name = other? at fields ⊢
    cases fields with
    | none => rfl
    | some both => exact both.2

end Ground

/-- Questions that work nothing out. -/
def Reading.isQuiet : Reading → Bool
  | .value | .text | .parts | .isResolved _ | .contains _ | .names | .size | .objectText => true
  | .materialize _ | .field _ | .typename | .visit | .onItem _ _ _ => false

theorem quiet_leaves (registry : Registry) {reading : Reading} (quiet : reading.isQuiet = true)
    (value : Value) (store : Store) : (reading.answer registry value store).2 = store := by
  cases reading with
  | value | text | parts => rfl
  | isResolved _ | contains _ | names | size | objectText => cases value <;> rfl
  | materialize _ | field _ | typename | visit | onItem _ _ _ => cases quiet

theorem compared_leaves (session : Session) (left right : String) :
    (session.step (.sameObject (left, []) (right, []))).2.store = session.store := by
  have found (name : String) (store : Store) :
      (copyOf session.registry session.bindings name [] store).2 = store := by
    rw [copyOf]
    cases session.bindings.value? name <;> rfl
  simp only [Session.step, found]

/-- What looks leave of a value that a default made. -/
theorem evaluated_explored {moment : Session} (ground : Ground moment.registry)
    (default : Default) {bindings : Entries Value} {looks : List Step} :
    let made := default.evaluate moment.registry ground.store
    let done := Session.run { moment with bindings, store := made.2 } looks
    (∀ look ∈ looks, look.Looks bindings made.1) →
    ∃ grown : Ground moment.registry, grown.store = done.2.store ∧ grown.Made made.1 ∧
      made.1.Exact grown.store (demandOf looks) ∧
      List.Forall₂ (Step.Told moment.registry made.1.tree) looks done.1 := by
  intro made done each
  obtain ⟨fresh, _, stored, explored⟩ := Ground.evaluate_explored ground default
  let session : Session := { moment with bindings, store := made.2 }
  have registered : session.registry = moment.registry := rfl
  have asked : ∀ place name, False → demandOf looks place name := fun _ _ never => never.elim
  obtain ⟨grown, _, last, further, serves, told⟩ :=
    (explored.imp asked).run_looks looks registered stored each fun _ _ asked => asked
  exact ⟨grown, last, further.made, further.exact serves, told⟩

/-- A fixture is worked out exactly as far as it is looked at. Questions about what is there, and
whether two values are one object, work nothing out at all. At any moment of a script a fixture is
made, and then it is looked at, under any names that stand for it. Of the fields that it has
afterwards, at whatever place, just those are resolved that hold their values since they were
created, or that a look asked for; an object that is there was created for a literal, with all its
fields held, or for a record, with the name of its type held. Every look tells of the tree of the
fixture. Looks in another order tell the same, know the same at every place and leave the same
fields resolved. -/
theorem fixtures_are_exactly_lazy (accessor : Accessor) (script : List Instruction) :
    (∀ registry reading, Reading.isQuiet reading = true → ∀ value store,
      (reading.answer registry value store).2 = store) ∧
    (∀ (session : Session) left right,
      (session.step (.sameObject (left, []) (right, []))).2.store = session.store) ∧
    ∀ moment ∈ scriptMoments script { accessor }, ∀ type root made,
      moment.registry.instantiate? type moment.store = some (root, made) →
      ∀ bindings looks, (∀ look ∈ looks, Step.Looks bindings root look) →
        let done := Session.run { moment with bindings, store := made } looks
        (∀ place name field, root.fieldAt? done.2.store place name = some field →
          (field.isResolved done.2.store = true ↔
            (∃ content, field = .held content) ∨ ∃ look ∈ looks, look.demand place name)) ∧
        (∀ place identity fields, root.at? done.2.store place = some (.object identity fields) →
          Created moment.registry (Entries.mapValues Field.branch fields)) ∧
        List.Forall₂ (Step.Told moment.registry root.tree) looks done.1 ∧
        ∀ others, looks.Perm others →
          let again := Session.run { moment with bindings, store := made } others
          List.Forall₂ (Step.Told moment.registry root.tree) others again.1 ∧
          ∀ place, (root.at? done.2.store place).map Value.tree =
              (root.at? again.2.store place).map Value.tree ∧
            ∀ name, root.resolvedAt done.2.store place name =
              root.resolvedAt again.2.store place name := by
  refine ⟨fun registry _ quiet => quiet_leaves registry quiet, compared_leaves, ?_⟩
  intro moment member type root made instantiated bindings looks each done
  obtain ⟨ground, _, rests⟩ := (Session.start_rests accessor).moments script moment member
  generalize accessor.registry = registry at ground rests
  obtain rfl := rests.registered
  have known : moment.registry.contains type = true := by
    rw [Registry.instantiate?] at instantiated
    split at instantiated
    · assumption
    · cases instantiated
  rw [Registry.instantiate?, if_pos known, ← rests.same] at instantiated
  obtain ⟨rfl, rfl⟩ := Prod.mk.inj (Option.some.inj instantiated)
  obtain ⟨grown, stored, madeGrown, exactly, told⟩ := evaluated_explored ground (.factory type) each
  refine ⟨stored ▸ exactly, ?_, told, ?_⟩
  · intro place identity fields stands
    have created := (madeGrown.at (stored ▸ stands)).created
    rw [Value.tree_object, all_object] at created
    exact created.1
  · intro others permuted again
    have eachOther : ∀ look ∈ others, Step.Looks bindings _ look := fun look member =>
      each look (permuted.mem_iff.mpr member)
    obtain ⟨last, storedLast, madeLast, exactlyLast, toldLast⟩ :=
      evaluated_explored ground (.factory type) eachOther
    have same : demandOf others = demandOf looks := by
      funext place name
      exact propext (exists_congr fun look => and_congr_left fun _ => permuted.symm.mem_iff)
    have alike : Ground.Alike grown last (demandOf looks) _ _ :=
      ⟨madeGrown, madeLast, rfl, exactly, same ▸ exactlyLast⟩
    refine ⟨toldLast, fun place => ?_⟩
    have places := alike.places place
    rw [stored, storedLast] at places
    exact places

/-- A user whose friend is read and who is converted to a depth of one knows the friend of the
friend, but not the name of that one, in either order. -/
theorem user_read_in_any_order :
    let fields := [("friend", Default.factory "User"), ("name", Default.emptyString)]
    let start : Session :=
      { accessor := .recipe ⟨[⟨"User", .object, .record (some "User") fields⟩]⟩ }
    let made := (Default.factory "User").evaluate start.registry start.store
    let bindings := [("user", made.1), ("copy", made.1)]
    let looks := [Step.operate "user" (.read ["friend"] .visit),
      .operate "copy" (.read [] (.materialize 1)),
      .sameObject ("user", ["friend", "none"]) ("copy", ["friend"])]
    let friend : Place := [.field "friend", .field "friend"]
    made.1.resolvedAt (Session.run { start with bindings, store := made.2 } looks).2.store
      friend "name" = false ∧
    made.1.resolvedAt (Session.run { start with bindings, store := made.2 } looks.reverse).2.store
      friend "name" = false ∧
    made.1.resolvedAt (Session.run { start with bindings, store := made.2 } looks.reverse).2.store
      friend typenameField = true := by
  intro fields start made bindings looks friend
  obtain ⟨-, -, lazy⟩ := fixtures_are_exactly_lazy start.accessor []
  have each : ∀ look ∈ looks, Step.Looks bindings made.1 look := by
    refine List.forall_mem_cons.mpr ⟨.read rfl, List.forall_mem_cons.mpr ⟨.read rfl, ?_⟩⟩
    exact List.forall_mem_singleton.mpr (.compare rfl rfl)
  obtain ⟨-, -, -, permuted⟩ := lazy start (List.mem_singleton_self _) "User" made.1 made.2
    (if_pos (by decide)) bindings looks each
  obtain ⟨-, places⟩ := permuted looks.reverse (List.reverse_perm looks).symm
  have unknown : made.1.resolvedAt (Session.run { start with bindings, store := made.2 }
      looks).2.store friend "name" = false := by decide +kernel
  have held : made.1.resolvedAt (Session.run { start with bindings, store := made.2 }
      looks).2.store friend typenameField = true := by decide +kernel
  exact ⟨unknown, ((places friend).2 "name").symm.trans unknown,
    ((places friend).2 typenameField).symm.trans held⟩

end SchemaFixtures.Fixture
