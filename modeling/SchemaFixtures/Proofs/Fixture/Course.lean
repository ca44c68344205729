import SchemaFixtures.Proofs.Fixture.Isolation
import SchemaFixtures.Proofs.Fixture.Persistence

/-!
# The course of a script

A session goes through moments while it follows a script: one before each instruction, one at
the end, and between them the moments of every recipe that an instruction runs. Later moments
have the same factories and still have every value that has appeared in a cell.

A name that a script does not write stands for the very value it stood for, with its identity
and its cells. On private trees this was known; here it holds of the shared values.
-/

namespace SchemaFixtures.Fixture

/-! ## What is left as it is -/

/-- What one session names after another: it looks fixtures up in the same way, names stand
once, and a name that is not written stands for the value it stood for. -/
structure Session.Spares (writes : String → Bool) (before after : Session) : Prop where
  accessor : after.accessor = before.accessor
  once : after.bindings.names.Nodup
  same : ∀ name, writes name = false → after.bindings.value? name = before.bindings.value? name

/-- The values that have appeared are there besides. -/
structure Session.Leaves (writes : String → Bool) (before after : Session) : Prop
    extends Session.Spares writes before after where
  persists : before.store.Persists after.store

namespace Session

variable {session after : Session} {writes : String → Bool} {store : Store}

theorem Spares.refl (once : session.bindings.names.Nodup) (writes : String → Bool) :
    session.Spares writes session := ⟨rfl, once, fun _ _ => rfl⟩

theorem Leaves.refl (once : session.bindings.names.Nodup) (writes : String → Bool) :
    session.Leaves writes session := ⟨Spares.refl once writes, .refl _⟩

theorem Spares.trans {between : Session} {others : String → Bool}
    (first : session.Spares writes between) (second : between.Spares others after) :
    session.Spares (fun name => others name || writes name) after := by
  refine ⟨second.accessor.trans first.accessor, second.once, fun name unwritten => ?_⟩
  obtain ⟨later, earlier⟩ := Bool.or_eq_false_iff.mp unwritten
  exact (second.same name later).trans (first.same name earlier)

theorem Leaves.trans {between : Session} {others : String → Bool}
    (first : session.Leaves writes between) (second : between.Leaves others after) :
    session.Leaves (fun name => others name || writes name) after :=
  ⟨first.toSpares.trans second.toSpares, first.persists.trans second.persists⟩

/-- A session with another store names the same. -/
theorem Spares.leaves (spares : session.Spares writes after)
    (persists : session.store.Persists store) : session.Leaves writes { after with store } :=
  ⟨⟨spares.accessor, spares.once, spares.same⟩, persists⟩

theorem put_spares (once : session.bindings.names.Nodup) (target : String) (value : Value) :
    session.Spares (fun name => target == name)
      { session with bindings := session.bindings.put target value } := by
  refine ⟨rfl, Entries.nodup_put once target value, fun name other => ?_⟩
  exact Entries.value?_put_other _ _ (by simpa using other)

theorem remove_spares (once : session.bindings.names.Nodup) (target : String) :
    session.Spares (fun name => target == name)
      { session with bindings := session.bindings.remove target } := by
  refine ⟨rfl, ?_, fun name other => Entries.value?_remove_other _ (by simpa using other)⟩
  rw [Entries.names_remove]
  exact once.erase target

theorem keep_spares (once : session.bindings.names.Nodup) (target : String)
    (value? : Option Value) (store : Store) :
    session.Spares (fun name => target == name) (session.keep target value? store).2 := by
  cases value? with
  | none => exact ⟨rfl, once, fun _ _ => rfl⟩
  | some value =>
    have put := put_spares once target value
    exact ⟨put.accessor, put.once, put.same⟩

theorem keep_store (session : Session) (target : String) (value? : Option Value) (store : Store) :
    (session.keep target value? store).2.store = store := by
  cases value? <;> rfl

/-- Naming a value that was made in a later store. -/
theorem keep_leaves (once : session.bindings.names.Nodup) (target : String)
    (value? : Option Value) (persists : session.store.Persists store) :
    session.Leaves (fun name => target == name) (session.keep target value? store).2 := by
  refine ⟨keep_spares once target value? store, ?_⟩
  rw [keep_store]
  exact persists

/-- Putting a name back to the value it stands for changes nothing. -/
theorem keep_same {source : String} {value : Value} (once : session.bindings.names.Nodup)
    (found : session.bindings.value? source = some value)
    (persists : session.store.Persists store) (writes : String → Bool) :
    session.Leaves writes (session.keep source (some value) store).2 := by
  have kept := keep_leaves once source (some value) persists
  refine ⟨⟨kept.accessor, kept.once, fun name _ => ?_⟩, kept.persists⟩
  by_cases own : source = name
  · rw [← own, found]
    exact Entries.value?_put_self _ _ _
  · exact Entries.value?_put_other _ _ own

/-- Asking a question leaves the value as it is. -/
theorem read_same (registry : Registry) (bindings : Entries Value) (path : List String)
    (reading : Reading) (value : Value) (store : Store) :
    ((Operation.read path reading).run registry bindings value store).2.1 = value := by
  simp only [Operation.run]
  generalize value.get? registry path store = found
  obtain ⟨_ | target, after⟩ := found <;> rfl

/-- Every step leaves the names that it does not write. -/
theorem step_leaves (once : session.bindings.names.Nodup) (step : Step) :
    session.Leaves (fun name => step.writes name) (session.step step).2 := by
  cases step with
  | fixture type target =>
    simp only [Session.step]
    cases made : session.accessor.fixture? type session.store with
    | none => exact .refl once _
    | some made' =>
      exact keep_leaves once target (some _) (.of_values (value?_instantiate? _ made))
  | content content target =>
    exact keep_leaves once target (some _) (content_persists _ _ content _)
  | copy source path target =>
    exact keep_leaves once target _ (copyOf_persists _ _ source path _)
  | produce source steps target =>
    simp only [Session.step]
    cases session.bindings.value? source with
    | none => exact .refl once _
    | some base =>
      obtain ⟨prepared, applied⟩ :=
        recipe_persists session.registry session.bindings steps session.store
      exact keep_leaves once target (some _) (prepared.trans (applied base _))
  | fixtureWith type steps target =>
    obtain ⟨prepared, applied⟩ :=
      recipe_persists session.registry session.bindings steps session.store
    simp only [Session.step, fixtureWith?]
    cases made : session.registry.instantiate? type
        (steps.recipe session.registry session.bindings session.store).2 with
    | none => exact (Spares.refl once _).leaves prepared
    | some fixture =>
      have instantiated := Store.Persists.of_values (value?_instantiate? _ made)
      exact keep_leaves once target (some _)
        ((prepared.trans instantiated).trans (applied fixture.1 fixture.2))
  | operate source operation =>
    simp only [Session.step]
    cases found : session.bindings.value? source with
    | none => exact .refl once _
    | some value =>
      have operated := operation_persists session.registry session.bindings operation value
        session.store
      cases operation with
      | write path writing => exact keep_leaves once source (some _) operated
      | read path reading =>
        -- A question puts the value back that was there.
        have same := read_same session.registry session.bindings path reading value session.store
        simp only [same]
        exact keep_same once found operated _
  | sameObject left right =>
    exact (Spares.refl once _).leaves
      ((copyOf_persists _ _ left.1 left.2 _).trans (copyOf_persists _ _ right.1 right.2 _))
  | drop source => exact (remove_spares once source).leaves (.refl _)
  | accessor => exact .refl once _

theorem itemOf_persists (registry : Registry) (bindings : Entries Value) (source : String)
    (path : List String) (index : Nat) (rest : List String) (store : Store) :
    store.Persists (itemOf registry bindings source path index rest store).2 := by
  have found := copyOf_persists registry bindings source path store
  rw [itemOf]
  generalize copyOf registry bindings source path store = copied at found ⊢
  cases chosen : (copied.1.bind (·.items?)).bind (·[index]?) with
  | none =>
    simp only [chosen]
    exact found
  | some item =>
    simp only [chosen]
    exact found.trans (get?_persists registry rest item copied.2)

theorem pick_leaves (once : session.bindings.names.Nodup) (source : String) (path : List String)
    (index : Nat) (rest : List String) (target : String) :
    session.Leaves (fun name => target == name)
      (session.pick source path index rest target).2 :=
  keep_leaves once target _ (itemOf_persists _ _ source path index rest _)

theorem take_leaves (once : session.bindings.names.Nodup) (source : String) (path : List String)
    (field target : String) :
    session.Leaves (fun name => source == name || target == name)
      (session.take source path field target).2 := by
  simp only [take]
  cases session.bindings.value? source with
  | none => exact .refl once _
  | some value =>
    have edited : session.store.Persists (value.edit session.registry
        (Value.removeField session.registry field) path session.store).2.2 :=
      edit_persists session.registry (removeField_persists session.registry field) path value _
    simp only
    generalize value.edit session.registry (Value.removeField session.registry field) path
      session.store = done at edited ⊢
    have rebuilt := put_spares once source done.2.1
    have named := rebuilt.trans (keep_spares rebuilt.once target done.1.join.join done.2.2)
    refine ⟨⟨named.accessor, named.once, fun name unwritten => named.same name ?_⟩, ?_⟩
    · rw [Bool.or_comm]
      exact unwritten
    · rw [keep_store]
      exact edited

/-! ## Recipes -/

/-- The session in which a recipe runs: its draft has a name. -/
def drafting (session : Session) (draft : String) (value : Value) (store : Store) : Session :=
  { session with bindings := session.bindings.put draft value, store }

theorem drafting_leaves (once : session.bindings.names.Nodup) (draft : String) (value : Value)
    (persists : session.store.Persists store) :
    session.Leaves (fun name => draft == name) (session.drafting draft value store) :=
  (put_spares once draft value).leaves persists

theorem restore_spares (once : session.bindings.names.Nodup) (draft : String)
    (before : Option Value) :
    session.Spares (fun name => draft == name) (session.restore draft before) := by
  cases before with
  | none => exact remove_spares once draft
  | some value => exact put_spares once draft value

/-- A name that was given back stands for what it stood for. -/
theorem restore_value (once : session.bindings.names.Nodup) (draft : String)
    (before : Option Value) : (session.restore draft before).bindings.value? draft = before := by
  cases before with
  | none => exact Entries.value?_remove_self once draft
  | some value => exact Entries.value?_put_self _ _ _

/-- A recipe spares the names that its script does not write, and the name of its draft. -/
theorem recipe_spares {script : Session → List Response × Session}
    (once : session.bindings.names.Nodup) (draft : String)
    (ran : ∀ inner : Session, inner.bindings.names.Nodup → inner.Leaves writes (script inner).2)
    (replacement : Option Content) (value : Value) (store : Store) :
    session.Spares (fun name => draft != name && writes name)
        (session.recipe draft script replacement value store).1.1.2 ∧
      store.Persists (session.recipe draft script replacement value store).2.2 := by
  have opened := put_spares once draft value
  have inner := ran (session.drafting draft value store) opened.once
  simp only [recipe, drafting] at inner ⊢
  generalize script _ = done at inner ⊢
  have restored := restore_spares inner.once draft (session.bindings.value? draft)
  refine ⟨⟨?_, restored.once, fun name unwritten => ?_⟩, ?_⟩
  · exact restored.accessor.trans inner.accessor
  · by_cases own : draft = name
    · rw [← own]
      exact restore_value inner.once draft _
    · have other : (draft == name) = false := by simpa using own
      have notWritten : writes name = false := by simpa [own] using unwritten
      calc _ = done.2.bindings.value? name := restored.same name other
        _ = _ := inner.same name notWritten
        _ = session.bindings.value? name := opened.same name other
  · exact inner.persists.trans (contentValue?_persists _ _ replacement _)

/-- Naming what a recipe produced. -/
theorem produced_leaves (spares : session.Spares writes after) (target : String) (value : Value)
    (persists : session.store.Persists store) :
    session.Leaves (fun name => target == name || writes name)
      (after.keep target (some value) store).2 := by
  refine ⟨spares.trans (keep_spares spares.once target (some value) store), ?_⟩
  rw [keep_store]
  exact persists

end Session

open Session

mutual

/-- Every instruction leaves the names that it does not write. -/
theorem Instruction.run_leaves : (instruction : Instruction) → (session : Session) →
    session.bindings.names.Nodup →
    session.Leaves (fun name => instruction.writes name) (instruction.run session).2
  | .step step, _, once => step_leaves once step
  | .pick source path index rest target, _, once => pick_leaves once source path index rest target
  | .take source path field target, _, once => take_leaves once source path field target
  | .produce source draft recipe replacement target, session, once => by
    simp only [Instruction.run]
    cases session.bindings.value? source with
    | none => exact .refl once _
    | some base =>
      obtain ⟨spares, persists⟩ :=
        recipe_spares once draft (runScript_leaves recipe) replacement base session.store
      exact produced_leaves spares target _ persists
  | .fixtureWith type draft recipe replacement target, session, once => by
    simp only [Instruction.run, fixtureWith?]
    cases made : session.registry.instantiate? type session.store with
    | none => exact .refl once _
    | some fixture =>
      obtain ⟨spares, persists⟩ :=
        recipe_spares once draft (runScript_leaves recipe) replacement fixture.1 fixture.2
      exact produced_leaves spares target _
        ((Store.Persists.of_values (value?_instantiate? _ made)).trans persists)

/-- Every script leaves the names that it does not write. -/
theorem runScript_leaves : (script : List Instruction) → (session : Session) →
    session.bindings.names.Nodup →
    session.Leaves (fun name => scriptWrites name script) (runScript script session).2
  | [], _, once => .refl once _
  | instruction :: rest, session, once => by
    have first := instruction.run_leaves session once
    have others := runScript_leaves rest _ first.once
    have both := first.trans others
    refine ⟨⟨both.accessor, both.once, fun name unwritten => both.same name ?_⟩, both.persists⟩
    rw [Bool.or_comm]
    exact unwritten

end

/-! ## Moments -/

mutual

/-- The moments in the course of an instruction: those of the recipe that it runs. -/
def Instruction.moments : Instruction → Session → List Session
  | .step _, _ => []
  | .pick _ _ _ _ _, _ => []
  | .take _ _ _ _, _ => []
  | .produce source draft recipe _ _, session =>
    match session.bindings.value? source with
    | none => []
    | some base => scriptMoments recipe (session.drafting draft base session.store)
  | .fixtureWith type draft recipe _ _, session =>
    match session.registry.instantiate? type session.store with
    | none => []
    | some (fixture, store) => scriptMoments recipe (session.drafting draft fixture store)

/-- The moments in the course of a script: one before each instruction, followed by the moments
of the instruction, and one at the end. -/
def scriptMoments : List Instruction → Session → List Session
  | [], session => [session]
  | instruction :: rest, session =>
    session :: (instruction.moments session ++ scriptMoments rest (instruction.run session).2)

end

/-- The end of a script is a moment of it. -/
theorem runScript_mem_moments : (script : List Instruction) → (session : Session) →
    (runScript script session).2 ∈ scriptMoments script session
  | [], session => List.mem_singleton_self session
  | instruction :: rest, session =>
    List.mem_cons_of_mem _ (List.mem_append_right _
      (runScript_mem_moments rest (instruction.run session).2))

/-- A later session has the same factories and every value that has appeared. -/
structure Session.Onward (before after : Session) : Prop where
  accessor : after.accessor = before.accessor
  persists : before.store.Persists after.store

theorem Session.Onward.refl (session : Session) : session.Onward session := ⟨rfl, .refl _⟩

theorem Session.Onward.trans {before between after : Session} (first : before.Onward between)
    (second : between.Onward after) : before.Onward after :=
  ⟨second.accessor.trans first.accessor, first.persists.trans second.persists⟩

theorem Session.Leaves.onward {writes : String → Bool} {before after : Session}
    (leaves : before.Leaves writes after) : before.Onward after :=
  ⟨leaves.accessor, leaves.persists⟩

/-- The moments between two sessions are in order. -/
structure Course (first : Session) (moments : List Session) (last : Session) : Prop where
  begins : ∀ moment ∈ moments, first.Onward moment
  ends : ∀ moment ∈ moments, moment.Onward last
  ordered : moments.Pairwise Session.Onward

namespace Course

variable {first between last : Session} {moments others : List Session}

theorem nil (first last : Session) : Course first [] last :=
  ⟨fun _ none => absurd none List.not_mem_nil, fun _ none => absurd none List.not_mem_nil, .nil⟩

theorem single (session : Session) : Course session [session] session :=
  ⟨fun _ only => List.mem_singleton.mp only ▸ .refl _,
    fun _ only => List.mem_singleton.mp only ▸ .refl _, List.pairwise_singleton _ _⟩

/-- A course within later bounds. -/
theorem widen (course : Course first moments last) {before after : Session}
    (begins : before.Onward first) (ends : last.Onward after) : Course before moments after :=
  ⟨fun moment member => begins.trans (course.begins moment member),
    fun moment member => (course.ends moment member).trans ends, course.ordered⟩

theorem append (course : Course first moments between) (further : Course between others last)
    (begins : first.Onward between) (ends : between.Onward last) :
    Course first (moments ++ others) last := by
  refine ⟨fun moment member => ?_, fun moment member => ?_, ?_⟩
  · rcases List.mem_append.mp member with early | late
    · exact course.begins moment early
    · exact begins.trans (further.begins moment late)
  · rcases List.mem_append.mp member with early | late
    · exact (course.ends moment early).trans ends
    · exact further.ends moment late
  · rw [List.pairwise_append]
    exact ⟨course.ordered, further.ordered, fun early isEarly late isLate =>
      (course.ends early isEarly).trans (further.begins late isLate)⟩

end Course

/-- When the script of a recipe has ended, its draft is given back and the replacement is worked
out. -/
theorem recipe_onward (session : Session) (draft : String)
    (script : Session → List Response × Session) (replacement : Option Content) (value : Value)
    (store : Store) (target : String) :
    (script (session.drafting draft value store)).2.Onward
      ((session.recipe draft script replacement value store).1.1.2.keep target
        (some (produce value (session.recipe draft script replacement) store).2.1)
        (session.recipe draft script replacement value store).2.2).2 := by
  refine ⟨?_, contentValue?_persists _ _ replacement _⟩
  simp only [Session.keep, Session.recipe, Session.drafting]
  cases session.bindings.value? draft <;> rfl

mutual

/-- The moments of an instruction lie between the sessions before and after it. -/
theorem Instruction.run_course : (instruction : Instruction) → (session : Session) →
    session.bindings.names.Nodup →
    Course session (instruction.moments session) (instruction.run session).2
  | .step _, _, _ | .pick _ _ _ _ _, _, _ | .take _ _ _ _, _, _ => Course.nil _ _
  | .produce source draft recipe replacement target, session, once => by
    simp only [Instruction.moments, Instruction.run]
    cases session.bindings.value? source with
    | none => exact Course.nil _ _
    | some base =>
      have opened := drafting_leaves once draft base (.refl session.store)
      exact (runScript_course recipe _ opened.once).widen opened.onward
        (recipe_onward session draft (runScript recipe) replacement base session.store target)
  | .fixtureWith type draft recipe replacement target, session, once => by
    simp only [Instruction.moments, Instruction.run, fixtureWith?]
    cases made : session.registry.instantiate? type session.store with
    | none => exact Course.nil _ _
    | some fixture =>
      have opened := drafting_leaves once draft fixture.1
        (.of_values (value?_instantiate? _ made))
      exact (runScript_course recipe _ opened.once).widen opened.onward
        (recipe_onward session draft (runScript recipe) replacement fixture.1 fixture.2 target)

/-- The moments of a script lie between its start and its end. -/
theorem runScript_course : (script : List Instruction) → (session : Session) →
    session.bindings.names.Nodup →
    Course session (scriptMoments script session) (runScript script session).2
  | [], session, _ => Course.single session
  | instruction :: rest, session, once => by
    have first := instruction.run_leaves session once
    have others := (runScript_leaves rest _ first.once).onward
    have course := (instruction.run_course session once).append
      (runScript_course rest _ first.once) first.onward others
    exact (Course.single session).append course (.refl _) (first.onward.trans others)

end

/-- A session that a session of private trees mirrors, with names that stand once. -/
structure Session.Sound (accessor : Accessor) (session : Session) : Prop where
  mirrored : ∃ plan alone, session.Mirrors accessor plan alone
  once : session.bindings.names.Nodup

/-- A new session is sound. -/
theorem start_sound (accessor : Accessor) : Session.Sound accessor { accessor } :=
  ⟨⟨[], _, start_mirrors accessor⟩, List.nodup_nil⟩

mutual

theorem Instruction.moments_sound {accessor : Accessor} : (instruction : Instruction) →
    (session : Session) → session.Sound accessor →
    ∀ moment ∈ instruction.moments session, moment.Sound accessor
  | .step _, _, _ | .pick _ _ _ _ _, _, _ | .take _ _ _ _, _, _ =>
    fun _ none => absurd none List.not_mem_nil
  | .produce source draft recipe _ _, session, ⟨⟨plan, alone, mirrors⟩, once⟩ => by
    have based := named_stands mirrors.bindings source
    simp only [Instruction.moments]
    generalize session.bindings.value? source = value? at based ⊢
    generalize alone.bindings.value? source = tree? at based
    cases based with
    | none => exact fun _ none => absurd none List.not_mem_nil
    | some base =>
      have opened := (mirrors.toNamed.put draft base).mirrors mirrors.follows
      exact scriptMoments_sound recipe _ ⟨⟨plan, _, opened⟩, Entries.nodup_put once draft _⟩
  | .fixtureWith type draft recipe _ _, session, ⟨⟨plan, alone, mirrors⟩, once⟩ => by
    have based := instantiate?_stands mirrors.follows type
    simp only [Instruction.moments, mirrors.toNamed.registry]
    generalize accessor.registry.instantiate? type session.store = made? at based ⊢
    generalize accessor.registry.tree? type = tree? at based
    cases based with
    | none => exact fun _ none => absurd none List.not_mem_nil
    | some made =>
      obtain ⟨grown, grows, follows, base⟩ := made
      have opened := ((mirrors.toNamed.grows grows).put draft base).mirrors follows
      exact scriptMoments_sound recipe _ ⟨⟨grown, _, opened⟩, Entries.nodup_put once draft _⟩

/-- Every moment of a script is sound, if its start is. -/
theorem scriptMoments_sound {accessor : Accessor} : (script : List Instruction) →
    (session : Session) → session.Sound accessor →
    ∀ moment ∈ scriptMoments script session, moment.Sound accessor
  | [], _, sound => fun _ only => List.mem_singleton.mp only ▸ sound
  | instruction :: rest, session, sound => by
    obtain ⟨plan, alone, mirrors⟩ := sound.mirrored
    obtain ⟨grown, _, after, _⟩ := run_alike accessor mirrors instruction
    have next := (instruction.run_leaves session sound.once).once
    intro moment member
    rcases List.mem_cons.mp member with rfl | later
    · exact sound
    · rcases List.mem_append.mp later with inside | behind
      · exact instruction.moments_sound session sound moment inside
      · exact scriptMoments_sound rest _ ⟨⟨grown, _, after⟩, next⟩ moment behind

end

/-- A script leaves a sound session. -/
theorem runScript_sound {accessor : Accessor} (script : List Instruction) {session : Session}
    (sound : session.Sound accessor) : (runScript script session).2.Sound accessor :=
  scriptMoments_sound script session sound _ (runScript_mem_moments script session)

/-- What a name stands for in a sound session has its cells in the plan that the store follows. -/
theorem Session.Sound.planned {accessor : Accessor} {session : Session}
    (sound : session.Sound accessor) : ∃ plan, session.store.Follows session.registry plan ∧
      ∀ name value, session.bindings.value? name = some value → value.Planned plan := by
  obtain ⟨plan, _, mirrors⟩ := sound.mirrored
  exact ⟨plan, mirrors.toNamed.registry ▸ mirrors.follows,
    fun _ _ stands => mirrors.bindings.planned _ (Entries.mem_of_value? stands)⟩

theorem Session.Sound.accessor_eq {accessor : Accessor} {session : Session}
    (sound : session.Sound accessor) : session.accessor = accessor := by
  obtain ⟨_, _, mirrors⟩ := sound.mirrored
  exact mirrors.shared

end SchemaFixtures.Fixture
