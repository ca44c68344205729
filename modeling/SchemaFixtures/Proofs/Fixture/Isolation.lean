import SchemaFixtures.Proofs.Fixture.Frame
import SchemaFixtures.Proofs.Fixture.Mirroring

/-!
# Named values are isolated

Whatever scripts do to named values in one store, they see what they would see if every
named value were a private tree. Fields and cells are shared by copies, drafts and values
that were put into others, cells are filled by whoever reads first, and none of this shows
in any answer that is not about sharing itself.

The relation between the two machines is that the store follows a plan under which every
named value stands for the tree of its name. Each step keeps it, and so does a recipe that
runs a script on a named draft; the induction is on the script, with one case per
instruction. Since what a value stands for does not depend on the store, a value that was
read at one time reads the same at any later time.
-/

namespace SchemaFixtures.Fixture

/-- The answer to a step tells what a private reply tells. -/
inductive StepAnswer.Tells (registry : Registry) : StepAnswer → StepReply → Prop where
  | made {snapshot? : Option Snapshot} {tree? : Option Tree}
      (shown : Option.Rel (Snapshot.Shows registry) snapshot? tree?) :
      StepAnswer.Tells registry (.made snapshot?) (.made tree?)
  | produced {answers : List Answer} {replies : List Reply} {snapshot? : Option Snapshot}
      {tree? : Option Tree} (told : List.Forall₂ (Answer.Tells registry) answers replies)
      (shown : Option.Rel (Snapshot.Shows registry) snapshot? tree?) :
      StepAnswer.Tells registry (.produced answers snapshot?) (.produced replies tree?)
  | operated {answer : Answer} {reply : Reply} {snapshot? : Option Snapshot}
      {tree? : Option Tree} (told : answer.Tells registry reply)
      (shown : Option.Rel (Snapshot.Shows registry) snapshot? tree?) :
      StepAnswer.Tells registry (.operated answer snapshot?) (.operated reply tree?)
  | dropped (existed : Bool) : StepAnswer.Tells registry (.dropped existed) (.dropped existed)
  | accessor (takesRecipes : Bool) (size : Nat) :
      StepAnswer.Tells registry (.accessor takesRecipes size) (.accessor takesRecipes size)
  | sameObject (same : Option Bool) : StepAnswer.Tells registry (.sameObject same) .unspoken

/-- The answer to an instruction tells what a private reply tells. -/
inductive Response.Tells (registry : Registry) : Response → ScriptReply → Prop where
  | step {answer : StepAnswer} {reply : StepReply} (told : answer.Tells registry reply) :
      Response.Tells registry (.step answer) (.step reply)
  | produced {responses : List Response} {replies : List ScriptReply}
      {snapshot? : Option Snapshot} {tree? : Option Tree}
      (told : List.Forall₂ (Response.Tells registry) responses replies)
      (shown : Option.Rel (Snapshot.Shows registry) snapshot? tree?) :
      Response.Tells registry (.produced responses snapshot?) (.produced replies tree?)

/-- A session and a private session have one accessor, and the named values stand for the
named trees. -/
structure Session.Named (accessor : Accessor) (plan : Plan) (session : Session)
    (alone : PrivateSession) : Prop where
  shared : session.accessor = accessor
  own : alone.accessor = accessor
  bindings : BindingsStand plan session.bindings alone.bindings

/-- The store of the session follows the plan besides. -/
structure Session.Mirrors (accessor : Accessor) (plan : Plan) (session : Session)
    (alone : PrivateSession) : Prop extends Session.Named accessor plan session alone where
  follows : session.store.Follows accessor.registry plan

/-- Both machines have done the same: they mirror each other under a grown plan, and what
they answered agrees. -/
def DoneAlike {α β : Type} (accessor : Accessor) (plan : Plan) (tells : α → β → Prop)
    (done : α × Session) (alone : β × PrivateSession) : Prop :=
  ∃ grown, plan <+: grown ∧ done.2.Mirrors accessor grown alone.2 ∧ tells done.1 alone.1

variable {accessor : Accessor} {plan : Plan} {session : Session} {alone : PrivateSession}

theorem Session.Named.registry (named : session.Named accessor plan alone) :
    session.registry = accessor.registry := congrArg Accessor.registry named.shared

theorem Session.Named.alone_registry (named : session.Named accessor plan alone) :
    alone.registry = accessor.registry := congrArg Accessor.registry named.own

theorem Session.Named.grows {grown : Plan} (named : session.Named accessor plan alone)
    (grows : plan <+: grown) : session.Named accessor grown alone :=
  ⟨named.shared, named.own, named.bindings.grows grows⟩

/-- Naming does not look at the store, so it goes with every store that follows the plan. -/
theorem Session.Named.mirrors {store : Store} (named : session.Named accessor plan alone)
    (follows : store.Follows accessor.registry plan) :
    Session.Mirrors accessor plan { session with store } alone :=
  ⟨⟨named.shared, named.own, named.bindings⟩, follows⟩

/-- Machines that do nothing and give agreeing answers have done the same. -/
theorem Session.Mirrors.done {α β : Type} {tells : α → β → Prop} {answer : α} {reply : β}
    (mirrors : session.Mirrors accessor plan alone) (told : tells answer reply) :
    DoneAlike accessor plan tells (answer, session) (reply, alone) :=
  ⟨plan, List.prefix_refl plan, mirrors, told⟩

/-- A name put in both machines is named in both. -/
theorem BindingsStand.put {bindings : Entries Value} {trees : Entries Tree} {value : Value}
    {tree : Tree} (stand : BindingsStand plan bindings trees) (name : String)
    (stands : value.Stands plan tree) :
    BindingsStand plan (bindings.put name value) (trees.put name tree) := by
  refine ⟨fun entry member => ?_, ?_⟩
  · rcases Entries.mem_put member with old | rfl
    · exact stand.planned entry old
    · exact stands.planned
  · rw [Entries.mapValues_put, stand.same, stands.same]

/-- A name taken out of both machines is named in neither. -/
theorem BindingsStand.remove {bindings : Entries Value} {trees : Entries Tree}
    (stand : BindingsStand plan bindings trees) (name : String) :
    BindingsStand plan (bindings.remove name) (trees.remove name) := by
  refine ⟨fun entry member => stand.planned entry (Entries.mem_of_mem_remove member), ?_⟩
  rw [Entries.mapValues_remove, stand.same]

theorem Session.Named.put {value : Value} {tree : Tree}
    (named : session.Named accessor plan alone) (name : String)
    (stands : value.Stands plan tree) :
    Session.Named accessor plan
      { session with bindings := session.bindings.put name value }
      { alone with bindings := alone.bindings.put name tree } :=
  ⟨named.shared, named.own, named.bindings.put name stands⟩

/-- Naming what was made, in a store that follows the plan by now, is done alike. -/
theorem keep_alike {store : Store} (named : session.Named accessor plan alone)
    (follows : store.Follows accessor.registry plan) (target : String) {value? : Option Value}
    {tree? : Option Tree} (made : Option.Rel (Value.Stands plan) value? tree?) :
    (session.keep target value? store).2.Mirrors accessor plan (alone.keep target tree?) ∧
      Option.Rel (Snapshot.Shows accessor.registry) (session.keep target value? store).1
        tree? := by
  cases made with
  | none => exact ⟨named.mirrors follows, .none⟩
  | some stands =>
    exact ⟨(named.put target stands).mirrors follows, .some (snapshot_shows follows stands)⟩

/-- A recipe that edits its draft alike and gives replacements alike produces values that
stand for the trees that are produced privately. -/
theorem produce_alike {α β : Type} {registry : Registry} {store : Store}
    {answers : Plan → α → β → Prop} {recipe : Recipe α}
    {privately : TreeEdit (β × Option Tree)}
    (alike : EditsAlike registry plan
      (fun last given other =>
        answers last given.1 other.1 ∧ Option.Rel (Value.Stands last) given.2 other.2)
      recipe privately)
    (follows : store.Follows registry plan) {base : Value} {tree : Tree}
    (stands : base.Stands plan tree) :
    (produce base recipe store).2.2.Continues registry plan fun last =>
      (produce base recipe store).2.1.Stands last (produceTree tree privately).2 ∧
        answers last (produce base recipe store).1 (produceTree tree privately).1 := by
  refine (alike (List.prefix_refl plan) follows stands).imp fun last _ edited => ?_
  obtain ⟨drafted, answered, replaced⟩ := edited
  refine ⟨?_, answered⟩
  simp only [produce, produceTree]
  generalize (recipe base store).1.2 = value? at replaced ⊢
  generalize (privately tree).1.2 = tree? at replaced ⊢
  cases replaced with
  | none => exact drafted
  | some stands => exact stands

/-- The recipe of a step does to its draft what the private recipe does. -/
theorem recipe_alike {registry : Registry} {store : Store} {bindings : Entries Value}
    {trees : Entries Tree} (follows : store.Follows registry plan)
    (stand : BindingsStand plan bindings trees) (steps : RecipeSteps) :
    (steps.recipe registry bindings store).2.Continues registry plan fun grown =>
      EditsAlike registry grown
        (fun last given other => List.Forall₂ (Answer.Tells registry) given.1 other.1 ∧
          Option.Rel (Value.Stands last) given.2 other.2)
        (steps.recipe registry bindings store).1 (steps.treeRecipe registry trees) := by
  obtain ⟨grown, grows, followsOn, replaced⟩ :=
    contentValue?_stands follows stand steps.replacement
  refine ⟨grown, grows, followsOn, ?_⟩
  intro later store' value tree growsLater followsLater stands
  refine (runOperations_tell (stand.grows grows) steps.operations growsLater followsLater
    stands).imp fun last growsLast run => ⟨run.1, run.2, ?_⟩
  exact found_grows replaced (growsLater.trans growsLast)

/-- What a step makes in a store that continues the plan is named alike. -/
theorem made_alike {store : Store} (named : session.Named accessor plan alone)
    (target : String) {value? : Option Value} {tree? : Option Tree}
    (made : store.Continues accessor.registry plan fun grown =>
      Option.Rel (Value.Stands grown) value? tree?) :
    DoneAlike accessor plan (StepAnswer.Tells accessor.registry)
      (.made (session.keep target value? store).1, (session.keep target value? store).2)
      (.made tree?, alone.keep target tree?) := by
  obtain ⟨grown, grows, follows, found⟩ := made
  obtain ⟨mirrors, shown⟩ := keep_alike (named.grows grows) follows target found
  exact ⟨grown, grows, mirrors, .made shown⟩

/-- What a recipe produces in a store that continues the plan is named alike. -/
theorem produced_alike {store : Store} (named : session.Named accessor plan alone)
    (target : String) {answers : List Answer} {replies : List Reply} {value : Value}
    {tree : Tree}
    (made : store.Continues accessor.registry plan fun grown =>
      value.Stands grown tree ∧ List.Forall₂ (Answer.Tells accessor.registry) answers replies) :
    DoneAlike accessor plan (StepAnswer.Tells accessor.registry)
      (.produced answers (session.keep target (some value) store).1,
        (session.keep target (some value) store).2)
      (.produced replies (some tree), alone.keep target (some tree)) := by
  obtain ⟨grown, grows, follows, stands, told⟩ := made
  obtain ⟨mirrors, shown⟩ := keep_alike (named.grows grows) follows target (.some stands)
  exact ⟨grown, grows, mirrors, .produced told shown⟩

/-- Producing from a named value is done alike. -/
theorem produceStep_alike (mirrors : session.Mirrors accessor plan alone) (source : String)
    (steps : RecipeSteps) (target : String) :
    DoneAlike accessor plan (StepAnswer.Tells accessor.registry)
      (session.step (.produce source steps target))
      (alone.step (.produce source steps target)) := by
  have named : session.Named accessor plan alone := mirrors.toNamed
  have based := named_stands named.bindings source
  unfold Session.step PrivateSession.step
  simp only [named.registry, named.alone_registry]
  generalize session.bindings.value? source = value? at based ⊢
  generalize alone.bindings.value? source = tree? at based ⊢
  cases based with
  | none => exact mirrors.done (.produced .nil .none)
  | some base =>
    refine produced_alike named target ?_
    refine (recipe_alike mirrors.follows named.bindings steps).next
      fun grown grows followsOn alike => ?_
    exact produce_alike alike followsOn (base.grows grows)

/-- Producing from a fresh fixture is done alike. The content of a replacement is worked out
first, also where there is no fixture to produce from. -/
theorem fixtureWithStep_alike (mirrors : session.Mirrors accessor plan alone) (type : String)
    (steps : RecipeSteps) (target : String) :
    DoneAlike accessor plan (StepAnswer.Tells accessor.registry)
      (session.step (.fixtureWith type steps target))
      (alone.step (.fixtureWith type steps target)) := by
  have named : session.Named accessor plan alone := mirrors.toNamed
  unfold Session.step PrivateSession.step
  simp only [fixtureWith?, named.registry, named.alone_registry]
  obtain ⟨grown, grows, followsOn, alike⟩ := recipe_alike mirrors.follows named.bindings steps
  have based := instantiate?_stands followsOn type
  generalize steps.recipe accessor.registry session.bindings session.store = worked
    at followsOn alike based ⊢
  generalize accessor.registry.instantiate? type worked.2 = made? at based ⊢
  generalize accessor.registry.tree? type = tree? at based ⊢
  cases based with
  | none => exact ⟨grown, grows, (named.grows grows).mirrors followsOn, .produced .nil .none⟩
  | some made =>
    refine produced_alike named target ?_
    obtain ⟨ready, growsReady, followsReady, base⟩ := made
    obtain ⟨last, growsLast, followsLast, produced⟩ :=
      produce_alike (alike.grows growsReady) followsReady base
    exact ⟨last, grows.trans (growsReady.trans growsLast), followsLast, produced⟩

/-- An operation on a named value is done alike. -/
theorem operate_alike (mirrors : session.Mirrors accessor plan alone) (source : String)
    (operation : Operation) :
    DoneAlike accessor plan (StepAnswer.Tells accessor.registry)
      (session.step (.operate source operation)) (alone.step (.operate source operation)) := by
  have named : session.Named accessor plan alone := mirrors.toNamed
  have based := named_stands named.bindings source
  unfold Session.step PrivateSession.step
  simp only [named.registry, named.alone_registry]
  generalize session.bindings.value? source = value? at based ⊢
  generalize alone.bindings.value? source = tree? at based ⊢
  cases based with
  | none =>
    refine mirrors.done (.operated ?_ .none)
    cases operation with
    | read path reading => exact reading.missing_tells _
    | write path writing => exact writing.missing_tells _
  | some base =>
    obtain ⟨grown, grows, followsOn, changed, told⟩ :=
      operation.run_tells named.bindings (List.prefix_refl plan) mirrors.follows base
    obtain ⟨kept, shown⟩ := keep_alike (named.grows grows) followsOn source (.some changed)
    exact ⟨grown, grows, kept, .operated told shown⟩

/-- Following two paths to compare what they find changes nothing but cells. -/
theorem sameObject_alike (mirrors : session.Mirrors accessor plan alone)
    (left right : String × List String) :
    DoneAlike accessor plan (StepAnswer.Tells accessor.registry)
      (session.step (.sameObject left right)) (alone.step (.sameObject left right)) := by
  have named : session.Named accessor plan alone := mirrors.toNamed
  unfold Session.step PrivateSession.step
  simp only [named.registry]
  obtain ⟨read, growsRead, followsRead, _⟩ :=
    copyOf_stands mirrors.follows named.bindings left.1 left.2
  obtain ⟨last, growsLast, followsLast, _⟩ :=
    copyOf_stands followsRead (named.bindings.grows growsRead) right.1 right.2
  have grows := growsRead.trans growsLast
  exact ⟨last, grows, (named.grows grows).mirrors followsLast, .sameObject _⟩

/-- Every step of a session is answered like the private step, and the sessions mirror each
other after it. -/
theorem step_alike (mirrors : session.Mirrors accessor plan alone) (step : Step) :
    DoneAlike accessor plan (StepAnswer.Tells accessor.registry) (session.step step)
      (alone.step step) := by
  have named : session.Named accessor plan alone := mirrors.toNamed
  have shared : session.registry = accessor.registry := named.registry
  have own : alone.registry = accessor.registry := named.alone_registry
  have follows : session.store.Follows accessor.registry plan := mirrors.follows
  cases step with
  | fixture type target =>
    have made := instantiate?_stands follows type
    simp only [Session.step, PrivateSession.step, Accessor.fixture?, named.shared, own]
    generalize accessor.registry.instantiate? type session.store = made? at made ⊢
    generalize accessor.registry.tree? type = tree? at made ⊢
    cases made with
    | none => exact mirrors.done (.made .none)
    | some stands => exact made_alike named target (stands.imp fun _ _ stands => .some stands)
  | content content target =>
    simp only [Session.step, PrivateSession.step, shared, own]
    exact made_alike named target
      ((content_stands follows named.bindings content).imp fun _ _ stands => .some stands)
  | copy source path target =>
    simp only [Session.step, PrivateSession.step, PrivateSession.found, shared, own]
    exact made_alike named target (copyOf_stands follows named.bindings source path)
  | produce source steps target => exact produceStep_alike mirrors source steps target
  | fixtureWith type steps target => exact fixtureWithStep_alike mirrors type steps target
  | operate source operation => exact operate_alike mirrors source operation
  | sameObject left right => exact sameObject_alike mirrors left right
  | drop source =>
    have existed : (alone.bindings.value? source).isSome =
        (session.bindings.value? source).isSome := by
      rw [← named.bindings.same, Entries.value?_mapValues, Option.isSome_map]
    simp only [Session.step, PrivateSession.step, existed]
    exact ⟨plan, List.prefix_refl plan,
      ⟨⟨named.shared, named.own, named.bindings.remove source⟩, follows⟩, .dropped _⟩
  | accessor =>
    simp only [Session.step, PrivateSession.step, shared, own, named.shared, named.own]
    exact mirrors.done (.accessor _ _)

/-- The items of what was found stand for the items of what was found privately. -/
theorem item_stands {value? : Option Value} {tree? : Option Tree}
    (found : Option.Rel (Value.Stands plan) value? tree?) (index : Nat) :
    Option.Rel (Value.Stands plan) ((value?.bind (·.items?)).bind (·[index]?))
      ((tree?.bind (·.items?)).bind (·[index]?)) := by
  cases found with
  | none => exact .none
  | some stands =>
    rcases stands.items with ⟨items, rfl, planned, rfl⟩ | ⟨notList, notTree⟩
    · simp only [Option.bind_some, Value.items?, Tree.items?, List.getElem?_map]
      cases chosen : items[index]? with
      | none => exact .none
      | some item => exact .some ⟨planned item (List.mem_of_getElem? chosen), rfl⟩
    · rename_i value tree
      have noItems : value.items? = none := by cases value <;> simp_all [Value.items?]
      have noTrees : tree.items? = none := by cases tree <;> simp_all [Tree.items?]
      rw [Option.bind_some, Option.bind_some, noItems, noTrees]
      exact .none

/-- A path from an item of a list finds what it finds privately. -/
theorem itemOf_stands {registry : Registry} {store : Store} {bindings : Entries Value}
    {trees : Entries Tree} (follows : store.Follows registry plan)
    (stand : BindingsStand plan bindings trees) (source : String) (path : List String)
    (index : Nat) (rest : List String) :
    (itemOf registry bindings source path index rest store).2.Continues registry plan
      fun grown => Option.Rel (Value.Stands grown)
        (itemOf registry bindings source path index rest store).1
        (itemTreeOf registry trees source path index rest) := by
  refine (copyOf_stands follows stand source path).next fun grown _ followsOn found => ?_
  have item := item_stands found index
  simp only [itemOf, itemTreeOf]
  generalize copyOf registry bindings source path store = copied at followsOn item ⊢
  generalize ((treeOf registry trees source path).bind (·.items?)).bind (·[index]?) = tree?
    at item ⊢
  generalize ((copied.1.bind (·.items?)).bind (·[index]?)) = value? at item ⊢
  cases item with
  | none => exact followsOn.continues .none
  | some stands => exact get?_stands followsOn stands rest

/-- Options of options that agree, agree as options. -/
theorem join_alike {α β : Type} {agrees : α → β → Prop} {given? : Option (Option α)}
    {other? : Option (Option β)} (alike : Option.Rel (Option.Rel agrees) given? other?) :
    Option.Rel agrees given?.join other?.join := by
  cases alike with
  | none => exact .none
  | some inner => exact inner

/-- Taking a field out and naming its value is done alike. -/
theorem take_alike (mirrors : session.Mirrors accessor plan alone) (source : String)
    (path : List String) (name target : String) :
    DoneAlike accessor plan (StepAnswer.Tells accessor.registry)
      (session.take source path name target) (alone.take source path name target) := by
  have named : session.Named accessor plan alone := mirrors.toNamed
  have based := named_stands named.bindings source
  simp only [Session.take, PrivateSession.take, named.registry, named.alone_registry]
  generalize session.bindings.value? source = value? at based ⊢
  generalize alone.bindings.value? source = tree? at based ⊢
  cases based with
  | none => exact mirrors.done (.made .none)
  | some base =>
    obtain ⟨grown, grows, follows, rebuilt, removed⟩ :=
      edit_alike (removeField_alike accessor.registry plan name) path (List.prefix_refl plan)
        mirrors.follows base
    have changed := (named.grows grows).put source rebuilt
    obtain ⟨after, shown⟩ :=
      keep_alike changed follows target (join_alike (join_alike removed))
    exact ⟨grown, grows, after, .made shown⟩

/-- Naming what stands in a list is done alike. -/
theorem pick_alike (mirrors : session.Mirrors accessor plan alone) (source : String)
    (path : List String) (index : Nat) (rest : List String) (target : String) :
    DoneAlike accessor plan (StepAnswer.Tells accessor.registry)
      (session.pick source path index rest target) (alone.pick source path index rest target) := by
  have named : session.Named accessor plan alone := mirrors.toNamed
  have found := itemOf_stands mirrors.follows named.bindings source path index rest
  simp only [Session.pick, PrivateSession.pick, named.registry, named.alone_registry]
  exact made_alike named target found

/-- A name that is given back is given back in both machines. -/
theorem restore_alike (named : session.Named accessor plan alone) (name : String)
    {value? : Option Value} {tree? : Option Tree}
    (before : Option.Rel (Value.Stands plan) value? tree?) :
    (session.restore name value?).Named accessor plan (alone.restore name tree?) := by
  cases before with
  | none => exact ⟨named.shared, named.own, named.bindings.remove name⟩
  | some stands => exact ⟨named.shared, named.own, named.bindings.put name stands⟩

/-- Two machines follow a script alike when they answer alike and mirror each other after it,
from all sessions that mirror each other. -/
def ScriptsAlike (accessor : Accessor) (script : Session → List Response × Session)
    (privately : PrivateSession → List ScriptReply × PrivateSession) : Prop :=
  ∀ ⦃plan : Plan⦄ ⦃session : Session⦄ ⦃alone : PrivateSession⦄,
    session.Mirrors accessor plan alone →
      DoneAlike accessor plan (List.Forall₂ (Response.Tells accessor.registry)) (script session)
        (privately alone)

/-- A script in a recipe was answered alike, and names the same afterwards. -/
structure RecipeAlike (accessor : Accessor) (plan : Plan) (done : List Response × Session)
    (alone : List ScriptReply × PrivateSession) : Prop where
  told : List.Forall₂ (Response.Tells accessor.registry) done.1 alone.1
  named : done.2.Named accessor plan alone.2

/-- A recipe that runs a script on its named draft does what the private recipe does. The
draft is a value like any other while the script runs, so the script may put the draft into
itself or into other values, and the values of other names into the draft. -/
theorem scriptRecipe_alike (named : session.Named accessor plan alone) (draft : String)
    {script : Session → List Response × Session}
    {privately : PrivateSession → List ScriptReply × PrivateSession}
    (alike : ScriptsAlike accessor script privately) (replacement : Option Content) :
    EditsAlike accessor.registry plan
      (fun last given other =>
        RecipeAlike accessor last given.1 other.1 ∧ Option.Rel (Value.Stands last) given.2 other.2)
      (session.recipe draft script replacement) (alone.recipe draft privately replacement) := by
  intro grown store value tree grows follows stands
  have opened : Session.Mirrors accessor grown
      { session with bindings := session.bindings.put draft value, store }
      { alone with bindings := alone.bindings.put draft tree } :=
    ((named.grows grows).put draft stands).mirrors follows
  obtain ⟨run, growsRun, ran, told⟩ := alike opened
  simp only [Session.recipe, PrivateSession.recipe]
  generalize script _ = done at ran told ⊢
  generalize privately _ = doneAlone at ran told ⊢
  obtain ⟨last, growsLast, followsLast, replaced⟩ :=
    contentValue?_stands ran.follows ran.bindings replacement
  have ended := ran.toNamed.grows growsLast
  have before := found_grows (named_stands named.bindings draft)
    (grows.trans (growsRun.trans growsLast))
  have drafted := named_stands ended.bindings draft
  refine ⟨last, growsRun.trans growsLast, ?_⟩
  simp only [ran.registry, ran.alone_registry]
  refine ⟨followsLast, ?_, ⟨told, restore_alike ended draft before⟩, replaced⟩
  generalize done.2.bindings.value? draft = value? at drafted ⊢
  generalize doneAlone.2.bindings.value? draft = tree? at drafted ⊢
  cases drafted with
  | none => exact ⟨trivial, rfl⟩
  | some stands => exact stands

/-- What a script recipe produces is named alike. -/
theorem scriptProduced_alike {store : Store} (target : String)
    {done : List Response × Session} {doneAlone : List ScriptReply × PrivateSession}
    {value : Value} {tree : Tree}
    (made : store.Continues accessor.registry plan fun grown =>
      value.Stands grown tree ∧ RecipeAlike accessor grown done doneAlone) :
    DoneAlike accessor plan (Response.Tells accessor.registry)
      (.produced done.1 (done.2.keep target (some value) store).1,
        (done.2.keep target (some value) store).2)
      (.produced doneAlone.1 (some tree), doneAlone.2.keep target (some tree)) := by
  obtain ⟨grown, grows, follows, stands, recipe⟩ := made
  obtain ⟨mirrors, shown⟩ := keep_alike recipe.named follows target (.some stands)
  exact ⟨grown, grows, mirrors, .produced recipe.told shown⟩

/-- A step that is done alike is an instruction that is followed alike. -/
theorem step_told {done : StepAnswer × Session} {doneAlone : StepReply × PrivateSession}
    (alike : DoneAlike accessor plan (StepAnswer.Tells accessor.registry) done doneAlone) :
    DoneAlike accessor plan (Response.Tells accessor.registry) (.step done.1, done.2)
      (.step doneAlone.1, doneAlone.2) := by
  obtain ⟨grown, grows, mirrors, told⟩ := alike
  exact ⟨grown, grows, mirrors, .step told⟩

mutual

/-- Every instruction is followed alike. -/
theorem run_alike (accessor : Accessor) {plan : Plan} {session : Session}
    {alone : PrivateSession} (mirrors : session.Mirrors accessor plan alone) :
    (instruction : Instruction) →
    DoneAlike accessor plan (Response.Tells accessor.registry) (instruction.run session)
      (instruction.runPrivately alone)
  | .step step => step_told (step_alike mirrors step)
  | .pick source path index rest target =>
    step_told (pick_alike mirrors source path index rest target)
  | .take source path name target => step_told (take_alike mirrors source path name target)
  | .produce source draft recipe replacement target => by
    have named := mirrors.toNamed
    have based := named_stands named.bindings source
    simp only [Instruction.run, Instruction.runPrivately]
    generalize session.bindings.value? source = value? at based ⊢
    generalize alone.bindings.value? source = tree? at based ⊢
    cases based with
    | none => exact mirrors.done (.produced .nil .none)
    | some base =>
      have alike := scriptRecipe_alike named draft (runScript_alike accessor recipe) replacement
      exact scriptProduced_alike target (produce_alike alike mirrors.follows base)
  | .fixtureWith type draft recipe replacement target => by
    have named := mirrors.toNamed
    have based := instantiate?_stands mirrors.follows type
    simp only [Instruction.run, Instruction.runPrivately, fixtureWith?, named.registry,
      named.alone_registry]
    generalize accessor.registry.instantiate? type session.store = made? at based ⊢
    generalize accessor.registry.tree? type = tree? at based ⊢
    cases based with
    | none => exact mirrors.done (.produced .nil .none)
    | some made =>
      simp only [Option.map_some]
      refine scriptProduced_alike target (made.next fun grown grows followsOn base => ?_)
      have alike := scriptRecipe_alike (named.grows grows) draft (runScript_alike accessor recipe)
        replacement
      exact produce_alike alike followsOn base

/-- Every script is followed alike, instruction by instruction. -/
theorem runScript_alike (accessor : Accessor) : (script : List Instruction) →
    ScriptsAlike accessor (runScript script) (runScriptPrivately script)
  | [] => fun _ _ _ mirrors => mirrors.done .nil
  | instruction :: rest => by
    intro plan session alone mirrors
    obtain ⟨grown, grows, after, told⟩ := run_alike accessor mirrors instruction
    obtain ⟨last, growsLast, ended, others⟩ := runScript_alike accessor rest after
    exact ⟨last, grows.trans growsLast, ended, .cons told others⟩

end

/-- New sessions mirror each other under the plan of no cells. -/
theorem start_mirrors (accessor : Accessor) :
    Session.Mirrors accessor [] { accessor } { accessor } :=
  ⟨⟨rfl, rfl, fun _ member => absurd member List.not_mem_nil, rfl⟩, Store.empty_follows _⟩

/-- What a path finds under a name, as a tree. -/
def Session.yields (session : Session) (name : String) (path : List String) : Option Tree :=
  (copyOf session.registry session.bindings name path session.store).1.map Value.tree

/-- What a path finds in a value that was found earlier, as a tree. -/
def yieldsIn (registry : Registry) (store : Store) (found : Option Value) (path : List String) :
    Option Tree :=
  (found.bind fun value => (value.get? registry path store).1).map Value.tree

theorem same_trees {value? : Option Value} {tree? : Option Tree}
    (found : Option.Rel (Value.Stands plan) value? tree?) : value?.map Value.tree = tree? := by
  cases found with
  | none => rfl
  | some stands => exact congrArg some stands.same

/-- A name yields in the store what it yields privately. -/
theorem Session.Mirrors.yields (mirrors : session.Mirrors accessor plan alone) (name : String)
    (path : List String) : session.yields name path = alone.found name path := by
  obtain ⟨grown, _, _, found⟩ := copyOf_stands mirrors.follows mirrors.bindings name path
  rw [Session.yields, PrivateSession.found, mirrors.toNamed.registry,
    mirrors.toNamed.alone_registry]
  exact same_trees found

/-- A value yields what the tree yields that it stands for, whatever plan the store has come
to follow since. -/
theorem yieldsIn_stands {registry : Registry} {store : Store}
    (follows : store.Follows registry plan) {value? : Option Value} {tree? : Option Tree}
    (found : Option.Rel (Value.Stands plan) value? tree?) (path : List String) :
    yieldsIn registry store value? path = tree?.bind (·.get? registry path) := by
  cases found with
  | none => rfl
  | some stands =>
    obtain ⟨grown, _, _, reached⟩ := get?_stands follows stands path
    exact same_trees reached

/-- Values that share fields and cells are never told apart from private trees. After any
script, every answer tells what the machine that shares nothing replies, and every name
yields at every path what it yields there. A further script changes nothing at any path of
a name that it does not write, whether the name is the base of its drafts or stands for a
part of a value that it writes. A value that was found by any path before the further
script yields at every path of its own what it yielded when it was found. -/
theorem scripts_share_nothing (accessor : Accessor) (script further : List Instruction) :
    let done := runScript script { accessor }
    let alone := runScriptPrivately script { accessor }
    List.Forall₂ (Response.Tells accessor.registry) done.1 alone.1 ∧
      (∀ name path, done.2.yields name path = alone.2.found name path) ∧
      (∀ name path, scriptWrites name further = false →
        (runScript further done.2).2.yields name path = done.2.yields name path) ∧
      ∀ name path rest,
        let (found, store) := copyOf accessor.registry done.2.bindings name path done.2.store
        yieldsIn accessor.registry (runScript further { done.2 with store }).2.store found rest =
          yieldsIn accessor.registry store found rest := by
  intro done alone
  obtain ⟨plan, _, mirrors, told⟩ := runScript_alike accessor script (start_mirrors accessor)
  refine ⟨told, mirrors.yields, ?_, ?_⟩
  · intro name path unwritten
    obtain ⟨_, _, after, _⟩ := runScript_alike accessor further mirrors
    have once : alone.2.bindings.names.Nodup :=
      (runScript_frames name script { accessor } List.nodup_nil).once
    have kept := (runScript_frames name further alone.2 once).same unwritten
    rw [after.yields, mirrors.yields, PrivateSession.found, PrivateSession.found,
      after.toNamed.alone_registry, mirrors.toNamed.alone_registry, treeOf, treeOf, kept]
  · intro name path rest
    obtain ⟨read, grows, followsRead, found⟩ :=
      copyOf_stands mirrors.follows mirrors.bindings name path
    have named := mirrors.toNamed.grows grows
    have reading : Session.Mirrors accessor read
        { done.2 with
          store := (copyOf accessor.registry done.2.bindings name path done.2.store).2 }
        alone.2 := named.mirrors followsRead
    obtain ⟨last, growsLast, after, _⟩ := runScript_alike accessor further reading
    exact (yieldsIn_stands after.follows (found_grows found growsLast) rest).trans
      (yieldsIn_stands followsRead found rest).symm

/-- A write through a copy, below a field that neither value has evaluated, leaves the value
that was copied as it was. -/
theorem copied_user_keeps_friend :
    let fields := [("friend", Default.factory "User"), ("name", Default.emptyString)]
    let accessor := Accessor.recipe ⟨[⟨"User", .object, .record (some "User") fields⟩]⟩
    let script := [Instruction.step (.fixture "User" "user"), .step (.copy "user" [] "copy")]
    let further := [Instruction.step
      (.operate "copy" (.write ["friend", "name"] (.assign (.string "Ann"))))]
    let before := (runScript script { accessor }).2
    scriptWrites "user" further = false ∧
      (runScript further before).2.yields "user" ["friend", "name"] =
        before.yields "user" ["friend", "name"] := by
  intro fields accessor script further before
  have unwritten : scriptWrites "user" further = false := by decide
  exact ⟨unwritten,
    (scripts_share_nothing accessor script further).2.2.1 "user" ["friend", "name"] unwritten⟩

end SchemaFixtures.Fixture
