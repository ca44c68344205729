import SchemaFixtures.Proofs.Fixture.Course
import SchemaFixtures.Proofs.Fixture.Creation

/-!
# What all objects of a script have in common

A script makes an object in four ways: it evaluates a default, it puts fields together, it puts a
value into a field of an object that it has, or it takes a field out of one. What holds of the
fields of an object in all four cases holds of every object that stands in a named value, at every
moment of every script. The first such property is that an object has each of its names once.

The inductions are on private trees, where a value has no fields but its own.
-/

namespace SchemaFixtures.Fixture

/-- A property of the fields of objects that everything keeps which is done to objects. -/
structure Lasting (registry : Registry) (allows : Entries Branch → Prop) : Prop where
  default : ∀ default : Default, (default.tree registry).All allows
  pairs : ∀ pairs : List (String × Branch), allows (Entries.ofPairs pairs)
  put : ∀ {branches : Entries Branch} (name : String) (branch : Branch), allows branches →
    allows (branches.put name branch)
  remove : ∀ {branches : Entries Branch} (name : String), allows branches →
    allows (branches.remove name)

/-- The names of an object stand once. -/
def DistinctNames (branches : Entries Branch) : Prop := branches.names.Nodup

mutual

/-- A property of all objects in a tree follows from a narrower one. -/
theorem Tree.All.imp {allows others : Entries Branch → Prop}
    (implied : ∀ branches, allows branches → others branches) :
    (tree : Tree) → tree.All allows → tree.All others
  | .list items, all => TreesAll.imp implied items all
  | .object branches, all => ⟨implied branches all.1, BranchesAll.imp implied branches all.2⟩
  | .absent, _ | .null, _ | .boolean _, _ | .int _, _ | .float _, _ | .string _, _ | .enum _, _
  | .raw _, _ => by simp only [Tree.All]

theorem TreesAll.imp {allows others : Entries Branch → Prop}
    (implied : ∀ branches, allows branches → others branches) :
    (items : List Tree) → TreesAll allows items → TreesAll others items
  | [], _ => trivial
  | item :: rest, all => ⟨Tree.All.imp implied item all.1, TreesAll.imp implied rest all.2⟩

theorem BranchesAll.imp {allows others : Entries Branch → Prop}
    (implied : ∀ branches, allows branches → others branches) :
    (branches : List (String × Branch)) → BranchesAll allows branches → BranchesAll others branches
  | [], _ => trivial
  | (_, .held tree) :: rest, all =>
    ⟨Tree.All.imp implied tree all.1, BranchesAll.imp implied rest all.2⟩
  | (_, .later _) :: rest, all => ⟨trivial, BranchesAll.imp implied rest all.2⟩

end

/-- Names that stand once do so in everything that a script makes. -/
theorem distinctNames_lasting (registry : Registry) : Lasting registry DistinctNames where
  default default :=
    Tree.All.imp (fun _ created => created.once) _ (default_tree_created registry default)
  pairs := Entries.nodup_ofPairs
  put name branch once := Entries.nodup_put once name branch
  remove name once := by
    rw [DistinctNames, Entries.names_remove]
    exact once.erase name

namespace Lasting

variable {registry : Registry} {allows : Entries Branch → Prop} {α β : Type}
  {tree found : Tree} {bindings : Entries Tree}

/-! ## Reading and writing -/

theorem branch (lasts : Lasting registry allows) {branch : Branch} (all : branch.All allows) :
    (branch.tree registry).All allows := by
  cases branch with
  | held tree => exact all_held.mp all
  | later default => exact lasts.default default

theorem field (lasts : Lasting registry allows) {branches : Entries Branch}
    (all : (Tree.object branches).All allows) {name : String} {branch : Branch}
    (stands : branches.value? name = some branch) : (branch.tree registry).All allows :=
  lasts.branch ((all_object.mp all).2 _ (Entries.mem_of_value? stands))

theorem get? (lasts : Lasting registry allows) {path : List String} (all : tree.All allows)
    (finds : tree.get? registry path = some found) : found.All allows := by
  induction path generalizing tree with
  | nil => exact Option.some.inj finds ▸ all
  | cons name rest inductionHypothesis =>
    cases tree with
    | object branches =>
      cases stands : Entries.value? branches name with
      | none => simp [Tree.get?, stands] at finds
      | some branch =>
        simp only [Tree.get?, stands] at finds
        exact inductionHypothesis (lasts.field all stands) finds
    | absent | null | boolean _ | int _ | float _ | string _ | enum _ | raw _ | list _ =>
      cases finds

/-- A change keeps a property of all objects, also in the tree that it tells. -/
def Keeps (allows : Entries Branch → Prop) (told : α → Option Tree) (change : TreeEdit α) : Prop :=
  ∀ tree : Tree, tree.All allows → (change tree).2.All allows ∧
    ∀ found ∈ told (change tree).1, found.All allows

/-- An answer that is no tree. -/
def silent : α → Option Tree := fun _ => none

theorem Keeps.of_silent {change : TreeEdit α}
    (changed : ∀ tree : Tree, tree.All allows → (change tree).2.All allows) :
    Keeps allows silent change :=
  fun tree all => ⟨changed tree all, fun _ none => nomatch none⟩

theorem put_object (lasts : Lasting registry allows) {branches : Entries Branch}
    (all : (Tree.object branches).All allows) (name : String) {content : Tree}
    (held : content.All allows) : (Tree.object (branches.put name (.held content))).All allows := by
  obtain ⟨allowed, others⟩ := all_object.mp all
  refine all_object.mpr ⟨lasts.put name _ allowed, fun entry member => ?_⟩
  rcases Entries.mem_put member with old | rfl
  · exact others entry old
  · exact all_held.mpr held

theorem edit (lasts : Lasting registry allows) {told : α → Option Tree} {change : TreeEdit α}
    (keeps : Keeps allows told change) (path : List String) :
    Keeps allows (·.bind told) fun tree => tree.edit registry change path := by
  induction path with
  | nil => exact keeps
  | cons name rest inductionHypothesis =>
    intro tree all
    cases tree with
    | object branches =>
      cases stands : Entries.value? branches name with
      | none => simpa [Tree.edit, stands] using all
      | some branch =>
        obtain ⟨edited, answers⟩ := inductionHypothesis _ (lasts.field all stands)
        simp only [Tree.edit, stands]
        exact ⟨lasts.put_object all name edited, answers⟩
    | absent | null | boolean _ | int _ | float _ | string _ | enum _ | raw _ | list _ =>
      exact ⟨all, fun found told => absurd told (Option.not_mem_none found)⟩

theorem push {item : Tree} (held : item.All allows) : Keeps allows silent (Tree.push item) := by
  refine .of_silent fun tree all => ?_
  cases tree with
  | list items =>
    refine all_list.mpr fun other member => ?_
    rcases List.mem_append.mp member with old | new
    · exact all_list.mp all other old
    · exact List.mem_singleton.mp new ▸ held
  | absent | null | boolean _ | int _ | float _ | string _ | enum _ | raw _ | object _ => exact all

theorem arrange {slots : List (Slot Tree)} (held : ∀ item, .fresh item ∈ slots → item.All allows) :
    Keeps allows silent (Tree.arrange slots) := by
  refine .of_silent fun tree all => ?_
  cases tree with
  | list items =>
    refine all_list.mpr fun other member => ?_
    obtain ⟨slot, stands, given⟩ := List.mem_filterMap.mp member
    cases slot with
    | kept index => exact all_list.mp all other (List.mem_of_getElem? given)
    | fresh item => exact Option.some.inj given ▸ held item stands
  | absent | null | boolean _ | int _ | float _ | string _ | enum _ | raw _ | object _ => exact all

theorem editItem {told : α → Option Tree} {change : TreeEdit α} (keeps : Keeps allows told change)
    (index : Nat) : Keeps allows silent (Tree.editItem index change) := by
  refine .of_silent fun tree all => ?_
  cases tree with
  | list items =>
    simp only [Tree.editItem]
    cases chosen : items[index]? with
    | none => exact all
    | some item =>
      have others := all_list.mp all
      refine all_list.mpr fun other member => ?_
      rcases List.mem_or_eq_of_mem_set member with old | rfl
      · exact others other old
      · exact (keeps item (others item (List.mem_of_getElem? chosen))).1
  | absent | null | boolean _ | int _ | float _ | string _ | enum _ | raw _ | object _ => exact all

theorem setField (lasts : Lasting registry allows) (name : String) {content : Tree}
    (held : content.All allows) : Keeps allows silent (Tree.setField name content) := by
  refine .of_silent fun tree all => ?_
  cases tree with
  | object branches => exact lasts.put_object all name held
  | absent | null | boolean _ | int _ | float _ | string _ | enum _ | raw _ | list _ => exact all

theorem removeField (lasts : Lasting registry allows) (name : String) :
    Keeps allows (·.join) (Tree.removeField registry name) := by
  intro tree all
  cases tree with
  | object branches =>
    obtain ⟨allowed, others⟩ := all_object.mp all
    refine ⟨all_object.mpr ⟨lasts.remove name allowed, fun entry member =>
      others entry (Entries.mem_of_mem_remove member)⟩, fun found removed => ?_⟩
    obtain ⟨branch, stands, rfl⟩ := Option.map_eq_some_iff.mp removed
    exact lasts.field all stands
  | absent | null | boolean _ | int _ | float _ | string _ | enum _ | raw _ | list _ =>
    exact ⟨all, fun _ none => nomatch none⟩

/-! ## Contents and operations -/

/-- A property holds of all objects in named trees. -/
def Names (allows : Entries Branch → Prop) (bindings : Entries Tree) : Prop :=
  ∀ entry ∈ bindings, entry.2.All allows

theorem treeOf (lasts : Lasting registry allows) (names : Names allows bindings)
    (source : String) (path : List String) (finds : Fixture.treeOf registry bindings source path =
      some found) : found.All allows := by
  obtain ⟨tree, stands, reads⟩ := Option.bind_eq_some_iff.mp finds
  exact lasts.get? (names _ (Entries.mem_of_value? stands)) reads

mutual

theorem content (lasts : Lasting registry allows) (names : Names allows bindings) :
    (content : Content) → (content.tree registry bindings).All allows
  | .list items => by
    rw [Content.tree, Tree.All]
    exact lasts.contents names items
  | .object fields => by
    rw [Content.tree, all_object]
    exact ⟨lasts.pairs _, fun entry member =>
      lasts.contentFields names fields entry (Entries.mem_of_mem_ofPairs member)⟩
  | .copy source path => by
    rw [Content.tree]
    cases finds : Fixture.treeOf registry bindings source path with
    | none => simp only [Option.getD_none, Tree.All]
    | some found => exact lasts.treeOf names source path finds
  | .absent | .null | .boolean _ | .int _ | .float _ | .string _ | .enum _ | .raw _ => by
    simp only [Content.tree, Tree.All]

theorem contents (lasts : Lasting registry allows) (names : Names allows bindings) :
    (items : List Content) → TreesAll allows (contentTrees registry bindings items)
  | [] => trivial
  | item :: rest => ⟨lasts.content names item, lasts.contents names rest⟩

theorem contentFields (lasts : Lasting registry allows) (names : Names allows bindings) :
    (fields : List (String × Content)) →
    ∀ entry ∈ contentBranches registry bindings fields, entry.2.All allows
  | [] => fun _ none => absurd none List.not_mem_nil
  | (_, content) :: rest => List.forall_mem_cons.mpr
    ⟨all_held.mpr (lasts.content names content), lasts.contentFields names rest⟩

end

/-- Every writing keeps what all objects have in common. -/
theorem writing (lasts : Lasting registry allows) (names : Names allows bindings)
    (writing : Writing) : Keeps allows silent (writing.treeEdit registry bindings) := by
  induction writing with
  | reach => exact .of_silent fun _ all => all
  | assign content => exact .of_silent fun _ _ => lasts.content names content
  | push content => exact .of_silent fun tree all => (push (lasts.content names content) tree all).1
  | set name content =>
    exact .of_silent fun tree all => (lasts.setField name (lasts.content names content) tree all).1
  | remove name => exact .of_silent fun tree all => (lasts.removeField name tree all).1
  | arrange slots =>
    refine .of_silent fun tree all => (arrange (fun item listed => ?_) tree all).1
    obtain ⟨slot, -, same⟩ := List.mem_map.mp listed
    cases slot with
    | kept index => cases same
    | fresh content =>
      cases same
      exact lasts.content names content
  | onItem index path writing inductionHypothesis =>
    exact .of_silent fun tree all =>
      (editItem (lasts.edit inductionHypothesis path) index tree all).1

theorem operation (lasts : Lasting registry allows) (names : Names allows bindings)
    (operation : Operation) : Keeps allows silent (operation.treeEdit registry bindings) := by
  refine .of_silent fun tree all => ?_
  cases operation with
  | read path reading =>
    simp only [Operation.treeEdit]
    cases tree.get? registry path <;> exact all
  | write path writing => exact (lasts.edit (lasts.writing names writing) path tree all).1

theorem operations (lasts : Lasting registry allows) (names : Names allows bindings)
    (operations : List Operation) :
    Keeps allows silent (treeOperations registry bindings operations) := by
  induction operations with
  | nil => exact .of_silent fun _ all => all
  | cons operation rest inductionHypothesis =>
    exact .of_silent fun tree all =>
      (inductionHypothesis _ (lasts.operation names operation tree all).1).1

/-- What a recipe produces is the draft or the replacement, and both keep the property. -/
theorem produced {recipe : TreeEdit (β × Option Tree)} (keeps : Keeps allows (·.2) recipe)
    {base : Tree} (all : base.All allows) : (produceTree base recipe).2.All allows := by
  obtain ⟨drafted, replaced⟩ := keeps base all
  simp only [produceTree]
  cases replacement : (recipe base).1.2 with
  | none => exact drafted
  | some tree => exact replaced tree replacement

theorem replacement (lasts : Lasting registry allows) (names : Names allows bindings)
    {replacement : Option Content}
    (replaces : replacement.map (·.tree registry bindings) = some found) : found.All allows := by
  obtain ⟨content, -, rfl⟩ := Option.map_eq_some_iff.mp replaces
  exact lasts.content names content

theorem recipeSteps (lasts : Lasting registry allows) (names : Names allows bindings)
    (steps : RecipeSteps) : Keeps allows (·.2) (steps.treeRecipe registry bindings) :=
  fun tree all => ⟨(lasts.operations names steps.operations tree all).1,
    fun _ replaces => lasts.replacement names replaces⟩

theorem tree? (lasts : Lasting registry allows) {name : String}
    (made : registry.tree? name = some found) : found.All allows := by
  rw [Registry.tree?] at made
  split at made
  · exact Option.some.inj made ▸ lasts.default (.factory name)
  · cases made

/-! ## Scripts -/

/-- A private session with the factories of a registry, whose objects all have a property. -/
structure Holds (registry : Registry) (allows : Entries Branch → Prop)
    (session : PrivateSession) : Prop where
  registered : session.registry = registry
  names : Names allows session.bindings

variable {session : PrivateSession}

theorem Names.put (names : Names allows bindings) (target : String) (all : tree.All allows) :
    Names allows (bindings.put target tree) := by
  intro entry member
  rcases Entries.mem_put member with old | rfl
  · exact names entry old
  · exact all

theorem Names.remove (names : Names allows bindings) (target : String) :
    Names allows (bindings.remove target) :=
  fun entry member => names entry (Entries.mem_of_mem_remove member)

theorem Holds.put (holds : Holds registry allows session) (target : String)
    (all : tree.All allows) :
    Holds registry allows { session with bindings := session.bindings.put target tree } :=
  ⟨holds.registered, holds.names.put target all⟩

theorem Holds.keep (holds : Holds registry allows session) (target : String)
    {tree? : Option Tree} (all : ∀ tree ∈ tree?, tree.All allows) :
    Holds registry allows (session.keep target tree?) := by
  cases tree? with
  | none => exact holds
  | some tree => exact holds.put target (all tree rfl)

theorem Holds.restore (holds : Holds registry allows session) (draft : String)
    {before : Option Tree} (all : ∀ tree ∈ before, tree.All allows) :
    Holds registry allows (session.restore draft before) := by
  cases before with
  | none => exact ⟨holds.registered, holds.names.remove draft⟩
  | some tree => exact holds.put draft (all tree rfl)

theorem Holds.named (holds : Holds registry allows session) {name : String}
    (stands : session.bindings.value? name = some tree) : tree.All allows :=
  holds.names _ (Entries.mem_of_value? stands)

/-- Every step keeps what all objects have in common. -/
theorem step (lasts : Lasting registry allows) (holds : Holds registry allows session)
    (step : Step) : Holds registry allows (session.step step).2 := by
  obtain rfl := holds.registered
  cases step with
  | fixture type target => exact holds.keep target fun _ made => lasts.tree? made
  | content content target =>
    exact holds.keep target fun _ made => Option.some.inj made ▸ lasts.content holds.names content
  | copy source path target =>
    exact holds.keep target fun _ finds => lasts.treeOf holds.names source path finds
  | produce source steps target =>
    simp only [PrivateSession.step]
    cases stands : session.bindings.value? source with
    | none => exact holds
    | some base =>
      exact holds.put target (produced (lasts.recipeSteps holds.names steps) (holds.named stands))
  | fixtureWith type steps target =>
    simp only [PrivateSession.step]
    cases made : session.registry.tree? type with
    | none => exact holds
    | some base =>
      exact holds.put target (produced (lasts.recipeSteps holds.names steps) (lasts.tree? made))
  | operate source operation =>
    simp only [PrivateSession.step]
    cases stands : session.bindings.value? source with
    | none => exact holds
    | some tree =>
      exact holds.put source
        (lasts.operation holds.names operation tree (holds.named stands)).1
  | sameObject _ _ | accessor => exact holds
  | drop source => exact ⟨rfl, holds.names.remove source⟩

theorem pick (lasts : Lasting registry allows) (holds : Holds registry allows session)
    (source : String) (path : List String) (index : Nat) (rest : List String) (target : String) :
    Holds registry allows (session.pick source path index rest target).2 := by
  obtain rfl := holds.registered
  refine holds.keep target fun picked finds => ?_
  simp only [itemTreeOf, Option.mem_def] at finds
  split at finds
  · rename_i item chosen
    obtain ⟨items, given, among⟩ := Option.bind_eq_some_iff.mp chosen
    obtain ⟨list, reads, isList⟩ := Option.bind_eq_some_iff.mp given
    have all := lasts.treeOf holds.names source path reads
    cases list with
    | list others =>
      cases isList
      exact lasts.get? (all_list.mp all item (List.mem_of_getElem? among)) finds
    | absent | null | boolean _ | int _ | float _ | string _ | enum _ | raw _ | object _ =>
      cases isList
  · cases finds

theorem take (lasts : Lasting registry allows) (holds : Holds registry allows session)
    (source : String) (path : List String) (name target : String) :
    Holds registry allows (session.take source path name target).2 := by
  obtain rfl := holds.registered
  simp only [PrivateSession.take]
  cases stands : session.bindings.value? source with
  | none => exact holds
  | some tree =>
    obtain ⟨edited, told⟩ :=
      lasts.edit (lasts.removeField name) path tree (holds.named stands)
    refine (holds.put source edited).keep target fun taken finds => told taken ?_
    cases removed :
        (tree.edit session.registry (Tree.removeField session.registry name) path).1 with
    | none => simp [removed] at finds
    | some inner => simpa [removed] using finds

/-- A script that keeps what all objects have in common. -/
def Runs (registry : Registry) (allows : Entries Branch → Prop)
    (script : PrivateSession → α × PrivateSession) : Prop :=
  ∀ session, Holds registry allows session → Holds registry allows (script session).2

/-- A recipe that runs a script keeps to it as the script does, and so does what it produces. -/
theorem recipe (lasts : Lasting registry allows) (holds : Holds registry allows session)
    (draft : String) {script : PrivateSession → List ScriptReply × PrivateSession}
    (runs : Runs registry allows script) (replacement : Option Content) (target : String)
    {base : Tree} (all : base.All allows) :
    Holds registry allows
      ((produceTree base (session.recipe draft script replacement)).1.2.keep target
        (some (produceTree base (session.recipe draft script replacement)).2)) := by
  have restored : Holds registry allows
      (produceTree base (session.recipe draft script replacement)).1.2 :=
    (runs _ (holds.put draft all)).restore draft fun _ before => holds.named before
  have keeps : Keeps allows (·.2) (session.recipe draft script replacement) := by
    intro tree all
    have ended := runs _ (holds.put draft all)
    simp only [PrivateSession.recipe]
    generalize script _ = done at ended ⊢
    obtain ⟨registered, names⟩ := ended
    subst registered
    refine ⟨?_, fun _ replaces => lasts.replacement names replaces⟩
    cases stands : done.2.bindings.value? draft with
    | none => simp only [Option.getD_none, Tree.All]
    | some drafted => exact names _ (Entries.mem_of_value? stands)
  exact restored.put target (produced keeps all)

mutual

/-- Every instruction keeps what all objects have in common. -/
theorem instruction (lasts : Lasting registry allows) : (instruction : Instruction) →
    Runs registry allows instruction.runPrivately
  | .step step, _, holds => lasts.step holds step
  | .pick source path index rest target, _, holds => lasts.pick holds source path index rest target
  | .take source path name target, _, holds => lasts.take holds source path name target
  | .produce source draft recipe replacement target, session, holds => by
    simp only [Instruction.runPrivately]
    cases stands : session.bindings.value? source with
    | none => exact holds
    | some base =>
      exact lasts.recipe holds draft (lasts.script recipe) replacement target
        (holds.named stands)
  | .fixtureWith type draft recipe replacement target, session, holds => by
    simp only [Instruction.runPrivately]
    cases made : session.registry.tree? type with
    | none => exact holds
    | some base =>
      exact lasts.recipe holds draft (lasts.script recipe) replacement target
        (lasts.tree? (holds.registered ▸ made))

/-- Every script keeps what all objects have in common. -/
theorem script (lasts : Lasting registry allows) : (script : List Instruction) →
    Runs registry allows (runScriptPrivately script)
  | [], _, holds => holds
  | instruction :: rest, _, holds => lasts.script rest _ (lasts.instruction instruction _ holds)

end

end Lasting

/-! ## Moments -/

open Lasting

/-- A session whose named values stand for trees in which all objects have a property. -/
def Session.Shares (accessor : Accessor) (allows : Entries Branch → Prop)
    (session : Session) : Prop :=
  ∃ plan alone, session.Mirrors accessor plan alone ∧ Holds accessor.registry allows alone

section Moments

variable {accessor : Accessor} {allows : Entries Branch → Prop}

theorem Session.Shares.tree {session : Session} (shares : session.Shares accessor allows)
    {name : String} {value : Value} (stands : session.bindings.value? name = some value) :
    value.tree.All allows := by
  obtain ⟨plan, alone, mirrors, holds⟩ := shares
  have named := named_stands mirrors.bindings name
  rw [stands] at named
  cases found : alone.bindings.value? name with
  | none => rw [found] at named; cases named
  | some tree =>
    rw [found] at named
    cases named with
    | some same => exact same.same ▸ holds.named found

mutual

theorem Instruction.moments_share (lasts : Lasting accessor.registry allows) :
    (instruction : Instruction) → (session : Session) → session.Shares accessor allows →
    ∀ moment ∈ instruction.moments session, moment.Shares accessor allows
  | .step _, _, _ | .pick _ _ _ _ _, _, _ | .take _ _ _ _, _, _ =>
    fun _ none => absurd none List.not_mem_nil
  | .produce source draft recipe _ _, session, ⟨plan, alone, mirrors, holds⟩ => by
    have based := named_stands mirrors.bindings source
    simp only [Instruction.moments]
    cases stands : alone.bindings.value? source with
    | none =>
      rw [stands] at based
      generalize session.bindings.value? source = value? at based ⊢
      cases based
      exact fun _ none => absurd none List.not_mem_nil
    | some tree =>
      rw [stands] at based
      generalize session.bindings.value? source = value? at based ⊢
      cases based with
      | some base =>
        have opened := (mirrors.toNamed.put draft base).mirrors mirrors.follows
        exact scriptMoments_share lasts recipe _
          ⟨plan, _, opened, holds.put draft (holds.named stands)⟩
  | .fixtureWith type draft recipe _ _, session, ⟨plan, alone, mirrors, holds⟩ => by
    have based := instantiate?_stands mirrors.follows type
    simp only [Instruction.moments, mirrors.toNamed.registry]
    cases made : accessor.registry.tree? type with
    | none =>
      rw [made] at based
      generalize accessor.registry.instantiate? type session.store = made? at based ⊢
      cases based
      exact fun _ none => absurd none List.not_mem_nil
    | some tree =>
      rw [made] at based
      generalize accessor.registry.instantiate? type session.store = made? at based ⊢
      cases based with
      | some fixture =>
        obtain ⟨grown, grows, follows, base⟩ := fixture
        have opened := ((mirrors.toNamed.grows grows).put draft base).mirrors follows
        exact scriptMoments_share lasts recipe _
          ⟨grown, _, opened, holds.put draft (lasts.tree? made)⟩

theorem scriptMoments_share (lasts : Lasting accessor.registry allows) :
    (script : List Instruction) → (session : Session) → session.Shares accessor allows →
    ∀ moment ∈ scriptMoments script session, moment.Shares accessor allows
  | [], _, shares => fun _ only => List.mem_singleton.mp only ▸ shares
  | instruction :: rest, session, shares => by
    intro moment member
    rcases List.mem_cons.mp member with rfl | later
    · exact shares
    · rcases List.mem_append.mp later with inside | behind
      · exact instruction.moments_share lasts session shares moment inside
      · obtain ⟨plan, alone, mirrors, holds⟩ := shares
        obtain ⟨grown, _, after, _⟩ := run_alike accessor mirrors instruction
        exact scriptMoments_share lasts rest _
          ⟨grown, _, after, lasts.instruction instruction _ holds⟩ moment behind

end

/-- At every moment of a script all objects in named values have what every object has. -/
theorem Lasting.moments (lasts : Lasting accessor.registry allows) (script : List Instruction) :
    ∀ moment ∈ scriptMoments script { accessor }, ∀ name value,
      moment.bindings.value? name = some value → value.tree.All allows := by
  have start : Session.Shares accessor allows { accessor } :=
    ⟨[], _, start_mirrors accessor, rfl, fun _ none => absurd none List.not_mem_nil⟩
  intro moment member name value stands
  exact (scriptMoments_share lasts script _ start moment member).tree stands

end Moments

end SchemaFixtures.Fixture
