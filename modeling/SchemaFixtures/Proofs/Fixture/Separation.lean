import SchemaFixtures.Proofs.Fixture.Copying

/-!
# Values that stay apart

Two named values that share no object and no cell go on to share none, whatever is read and
written in a script, as long as no instruction stores in one of them what is not apart from the
other. What a recipe stores in its draft counts as stored in the value that it produces. What is
stored may come from anywhere: from the value itself, from a third one, or from the other one if
it shares nothing with it, like a text.

Values that are made are apart from all that were there. So they are where this begins.
-/

namespace SchemaFixtures.Fixture

/-! ## Sessions on their ground -/

/-- A session and the ground that its values stand on. -/
structure Session.Rests {registry : Registry} (ground : Ground registry) (session : Session) :
    Prop where
  registered : session.registry = registry
  once : session.bindings.names.Nodup
  same : ground.store = session.store
  named : ∀ name value, session.bindings.value? name = some value →
    value.Within (ground.Allows [])

/-- The ground of a new session. -/
def Ground.empty (registry : Registry) : Ground registry where
  store := {}
  plan := []
  bounded := by simp [Store.Bounded, Store.value?]
  follows := Store.empty_follows registry

namespace Session

variable {registry : Registry} {ground grown : Ground registry} {session after : Session}
  {left right : String} {value other : Value}

theorem Rests.names (rests : session.Rests ground) :
    (grounds registry).Names ground session.bindings :=
  fun _ member => rests.named _ _ (Entries.value?_of_mem rests.once member)

theorem Rests.fits (rests : session.Rests ground) :
    (grounds registry).fits ground session.store := rests.same ▸ ground.fits_alone

theorem Rests.holds (rests : session.Rests ground) : (grounds registry).Holds ground session :=
  ⟨rests.registered, rests.once, .here rests.fits rests.names⟩

theorem Rests.of_holds (holds : (grounds registry).Holds ground session) :
    ∃ grown, ground ≤ grown ∧ session.Rests grown := by
  obtain ⟨registered, once, grown, grows, fits, names⟩ := holds
  exact ⟨grown, grows, registered, once, fits.same,
    fun _ _ stands => names _ (Entries.mem_of_value? stands)⟩

/-- Every later session has a ground that has grown. -/
theorem Rests.moments (rests : session.Rests ground) (script : List Instruction) :
    ∀ later ∈ scriptMoments script session, ∃ grown, ground ≤ grown ∧ later.Rests grown :=
  fun later member => Rests.of_holds (scriptMoments_hold script rests.holds later member)

theorem Rests.run (rests : session.Rests ground) (instruction : Instruction) :
    ∃ grown, ground ≤ grown ∧ (instruction.run session).2.Rests grown :=
  Rests.of_holds (instruction.run_holds rests.holds)

theorem Rests.script (rests : session.Rests ground) (script : List Instruction) :
    ∃ grown, ground ≤ grown ∧ (runScript script session).2.Rests grown :=
  Rests.of_holds (runScript_holds script rests.holds)

theorem start_rests (accessor : Accessor) :
    Session.Rests (Ground.empty accessor.registry) { accessor } :=
  ⟨rfl, List.nodup_nil, rfl, fun name value stands => by cases stands⟩

theorem Rests.bounded (rests : session.Rests ground) : session.store.Bounded :=
  rests.same ▸ ground.bounded

theorem Rests.has (rests : session.Rests ground) {name : String}
    (stands : session.bindings.value? name = some value) :
    ∀ part ∈ value.parts, session.store.Has part.key :=
  rests.same ▸ (Ground.within_alone.mp (rests.named name value stands)).1

theorem Rests.develops (rests : session.Rests ground) (grows : ground ≤ grown)
    (later : after.Rests grown) : session.store.Develops after.store := by
  rw [← rests.same, ← later.same]
  exact grows.1

/-- A draft that is there gets a name. -/
theorem Rests.drafting (rests : session.Rests ground) (grows : ground ≤ grown)
    (within : value.Within (grown.Allows [])) (name : String) :
    (session.drafting name value grown.store).Rests grown := by
  refine ⟨rests.registered, Entries.nodup_put rests.once name value, rfl, ?_⟩
  intro own found stands
  rcases Entries.mem_put (Entries.mem_of_value? stands) with old | new
  · exact (rests.names _ old).imp fun _ => Ground.Allows.mono grows
  · cases new
    exact within

/-- A draft of a named value gets a name. -/
theorem Rests.drafting_named (rests : session.Rests ground) {source : String}
    (stands : session.bindings.value? source = some value) (name : String) :
    (session.drafting name value session.store).Rests ground := by
  have drafted := rests.drafting (le_refl ground) (rests.named source value stands) name
  rwa [rests.same] at drafted

/-- A draft that is made gets a name. -/
theorem Rests.drafting_made (rests : session.Rests ground) {type : String} {made : Value × Store}
    (instantiated : session.registry.instantiate? type session.store = some made) (name : String) :
    ∃ grown : Ground registry, (session.drafting name made.1 made.2).Rests grown ∧
      session.store.Develops made.2 := by
  obtain ⟨grown, grows, fits, within⟩ :=
    Discipline.instantiate?_kept rests.fits (rests.registered ▸ instantiated)
  have drafted := rests.drafting grows within name
  have develops := grows.1
  rw [fits.same] at drafted develops
  rw [rests.same] at develops
  exact ⟨grown, drafted, develops⟩

/-! ## Two names -/

/-- What two names stand for shares no object and no cell. -/
def Separate (session : Session) (left right : String) : Prop :=
  ∀ value other, session.bindings.value? left = some value →
    session.bindings.value? right = some other → session.store.Apart value.parts other.parts

theorem Separate.symm (separate : session.Separate left right) : session.Separate right left :=
  fun _ _ standsRight standsLeft => (separate _ _ standsLeft standsRight).symm

/-- A name that stands for nothing shares nothing. -/
theorem separate_unnamed (unnamed : session.bindings.value? right = none) :
    session.Separate left right := by
  intro value other _ standsRight
  cases unnamed.symm.trans standsRight

/-- What some copies find is apart from what a name stands for. -/
def CopiesApart (session : Session) (copies : List (String × List String)) (name : String) :
    Prop :=
  ∀ other, session.bindings.value? name = some other → ∀ copy ∈ copies, ∀ found,
    (copyOf session.registry session.bindings copy.1 copy.2 session.store).1 = some found →
      (copyOf session.registry session.bindings copy.1 copy.2 session.store).2.Apart
        found.parts other.parts

/-- Values that are not written stay apart. -/
theorem Separate.persists (separate : session.Separate left right) (rests : session.Rests ground)
    (develops : session.store.Develops after.store)
    (sameLeft : after.bindings.value? left = session.bindings.value? left)
    (sameRight : after.bindings.value? right = session.bindings.value? right) :
    after.Separate left right := by
  intro value other standsLeft standsRight
  rw [sameLeft] at standsLeft
  rw [sameRight] at standsRight
  exact develops.apart rests.bounded (rests.has standsLeft) (rests.has standsRight)
    (separate value other standsLeft standsRight)

/-- What is apart from a named value, allowed where nothing else is. -/
theorem Separate.within (separate : session.Separate left right) (rests : session.Rests ground)
    (standsLeft : session.bindings.value? left = some value)
    (standsRight : session.bindings.value? right = some other) :
    value.Within (ground.Allows other.parts) := by
  have has := rests.has standsRight
  have alone := Ground.within_alone.mp (rests.named left value standsLeft)
  have apart := separate value other standsLeft standsRight
  rw [← rests.same] at has apart
  exact (Ground.within_allows has).mpr ⟨alone.1, alone.2, apart⟩

/-- What a value was written with is apart from another one, if it is allowed. -/
theorem Separate.renamed (separate : session.Separate left right) (rests : session.Rests ground)
    (standsRight : session.bindings.value? right = some other)
    (sameRight : after.bindings.value? right = session.bindings.value? right)
    (kept : (awayFrom registry other.parts).Keeps ground after.store fun grown =>
      (awayFrom registry other.parts).Renames grown session.bindings after.bindings) :
    after.Separate left right := by
  obtain ⟨grown, grows, fits, renames⟩ := kept
  intro value another standsLeft standsAfter
  obtain rfl : other = another :=
    Option.some.inj ((sameRight.trans standsRight).symm.trans standsAfter)
  have within : value.Within (grown.Allows other.parts) := by
    rcases renames _ (Entries.mem_of_value? standsLeft) with old | allowed
    · have stood := Entries.value?_of_mem rests.once old
      exact (separate.within rests stood standsRight).imp fun _ => Ground.Allows.mono grows
    · exact allowed
  rw [← fits.same]
  exact ((Ground.within_allows (fits.same ▸ fits.has)).mp within).2.2

/-- Copies that find what is apart are allowed. -/
theorem CopiesApart.finds {copies : List (String × List String)}
    (apart : session.CopiesApart copies right) (rests : session.Rests ground)
    (standsRight : session.bindings.value? right = some other) :
    (awayFrom registry other.parts).Finds ground session.bindings copies := by
  obtain rfl := rests.registered
  intro copy member grown grows store fits
  obtain rfl := fits.same
  have has := rests.has standsRight
  have found := apart other standsRight copy member
  rw [← rests.same] at has found
  simp only [copyOf] at found ⊢
  cases stands : session.bindings.value? copy.1 with
  | none => exact .here fits (by simp)
  | some value =>
    simp only [stands] at found
    exact Ground.found_kept has grows (rests.named _ _ stands) copy.2 found

theorem Rests.away (rests : session.Rests ground)
    (standsRight : session.bindings.value? right = some other) :
    (awayFrom registry other.parts).fits ground session.store := by
  have has := rests.has standsRight
  rw [← rests.same] at has ⊢
  exact ground.fits has

end Session

/-! ## Steps -/

/-- A step gives at most one name another value. -/
theorem Step.writes_one {step : Step} {name other : String} (writes : step.writes name = true)
    (also : step.writes other = true) : name = other := by
  cases step with
  | operate source operation =>
    cases operation with
    | read path reading => cases writes
    | write path writing =>
      simp only [Step.writes, beq_iff_eq] at writes also
      exact writes.symm.trans also
  | sameObject left right => cases writes
  | accessor => cases writes
  | fixture _ target | content _ target | copy _ _ target | produce _ _ target
  | fixtureWith _ _ target | drop target =>
    simp only [Step.writes, beq_iff_eq] at writes also
    exact writes.symm.trans also

/-- A step that gives a name another value works on no other. -/
theorem Step.handles_written {step : Step} {name : String} (writes : step.writes name = true) :
    ∀ handled ∈ step.handles, handled = name := by
  cases step with
  | operate source operation =>
    cases operation with
    | read path reading => cases writes
    | write path writing =>
      simp only [Step.writes, beq_iff_eq] at writes
      exact fun handled member => (List.mem_singleton.mp member).trans writes
  | fixture _ _ | content _ _ | copy _ _ _ | produce _ _ _ | fixtureWith _ _ _ | sameObject _ _
  | drop _ | accessor => exact fun _ none => absurd none List.not_mem_nil

namespace Session

variable {registry : Registry} {ground grown : Ground registry} {session after : Session}
  {left right : String} {value other : Value}

/-- A step that writes one of two values, and copies only what is apart from the other. -/
theorem step_separate_left (rests : session.Rests ground) (differ : left ≠ right)
    (separate : session.Separate left right) {step : Step} (writes : step.writes left = true)
    (apart : session.CopiesApart step.copies right) :
    (session.step step).2.Separate left right := by
  have spared : step.writes right = false := by
    cases also : step.writes right with
    | false => rfl
    | true => exact absurd (Step.writes_one writes also) differ
  have sameRight := (step_leaves rests.once step).same right spared
  cases standsRight : session.bindings.value? right with
  | none => exact separate_unnamed (sameRight.trans standsRight)
  | some other =>
    refine separate.renamed rests standsRight sameRight (Discipline.step_kept rests.registered
      (rests.away standsRight) step (fun handled member value stands => ?_)
      (apart.finds rests standsRight))
    obtain rfl := Step.handles_written writes handled member
    exact separate.within rests stands standsRight

theorem step_separate (rests : session.Rests ground) (differ : left ≠ right)
    (separate : session.Separate left right) (step : Step)
    (apartRight : step.writes left = true → session.CopiesApart step.copies right)
    (apartLeft : step.writes right = true → session.CopiesApart step.copies left) :
    (session.step step).2.Separate left right := by
  have leaves := step_leaves rests.once step
  cases writesLeft : step.writes left with
  | true => exact step_separate_left rests differ separate writesLeft (apartRight writesLeft)
  | false =>
    cases writesRight : step.writes right with
    | true =>
      exact (step_separate_left rests differ.symm separate.symm writesRight
        (apartLeft writesRight)).symm
    | false =>
      obtain ⟨grown, grows, later⟩ := rests.run (.step step)
      exact separate.persists rests (rests.develops grows later) (leaves.same left writesLeft)
        (leaves.same right writesRight)

/-- Taking a field out of one of two values, under a third name. -/
theorem take_separate_left (rests : session.Rests ground) (differ : left ≠ right)
    (separate : session.Separate left right) (path : List String) (field : String)
    {target : String} (third : target ≠ right) :
    (session.take left path field target).2.Separate left right := by
  have sameRight := (take_leaves rests.once left path field target).same right
    (by simp [differ, third])
  cases standsRight : session.bindings.value? right with
  | none => exact separate_unnamed (sameRight.trans standsRight)
  | some other =>
    exact separate.renamed rests standsRight sameRight (Discipline.take_kept rests.registered
      (rests.away standsRight) (fun value stands => separate.within rests stands standsRight)
      path field target)

/-! ## Recipes -/

/-- What a recipe produces, when its script has ended: its draft, or what replaces it. -/
def produced (ended : Session) (draft : String) (replacement : Option Content) : Value × Store :=
  let worked := contentValue? ended.registry ended.bindings replacement ended.store
  (worked.1.getD ((ended.bindings.value? draft).getD .absent), worked.2)

/-- The session after a recipe: the draft is given back, and what was produced is named. -/
def closed (session ended : Session) (draft : String) (replacement : Option Content)
    (target : String) : Session :=
  { ended.restore draft (session.bindings.value? draft) with
    bindings := (ended.restore draft (session.bindings.value? draft)).bindings.put target
      (ended.produced draft replacement).1
    store := (ended.produced draft replacement).2 }

theorem closed_other (session : Session) {ended : Session} (once : ended.bindings.names.Nodup)
    {draft target name : String} (replacement : Option Content) (notDraft : draft ≠ name)
    (notTarget : target ≠ name) :
    (session.closed ended draft replacement target).bindings.value? name =
      ended.bindings.value? name := by
  rw [closed, Entries.value?_put_other _ _ notTarget]
  exact (restore_spares once draft _).same name (by simpa using notDraft)

/-- What a recipe produces is apart from a value, if the draft is when the script has ended, and
so is all that the replacement copies. -/
theorem produced_apart {ended : Session} (rests : ended.Rests ground) {draft name : String}
    (separate : ended.Separate draft name) {replacement : Option Content}
    (apart : ended.CopiesApart (replacement.toList.flatMap Content.copies) name)
    (stands : ended.bindings.value? name = some other) :
    (ended.produced draft replacement).2.Apart (ended.produced draft replacement).1.parts
      other.parts := by
  obtain rfl := rests.registered
  obtain ⟨grown, grows, fits, worked⟩ := Discipline.contentValue?_kept (rests.away stands)
    replacement (apart.finds rests stands)
  have within : (ended.produced draft replacement).1.Within (grown.Allows other.parts) := by
    simp only [produced]
    cases replaced : (contentValue? ended.registry ended.bindings replacement ended.store).1 with
    | some value => exact worked value replaced
    | none =>
      cases drafted : ended.bindings.value? draft with
      | none => exact within_absent
      | some value =>
        exact (separate.within rests drafted stands).imp fun _ => Ground.Allows.mono grows
  have same : grown.store = (ended.produced draft replacement).2 := fits.same
  rw [← same]
  exact ((Ground.within_allows (fits.same ▸ fits.has)).mp within).2.2

theorem closed_separate_left (session : Session) {ended : Session} (rests : ended.Rests ground)
    {draft target name : String} (separate : ended.Separate draft name)
    {replacement : Option Content}
    (apart : ended.CopiesApart (replacement.toList.flatMap Content.copies) name)
    (notDraft : draft ≠ name) (notTarget : target ≠ name) :
    (session.closed ended draft replacement target).Separate target name := by
  intro value other standsTarget standsName
  rw [closed_other session rests.once replacement notDraft notTarget] at standsName
  obtain rfl := Option.some.inj ((Entries.value?_put_self _ _ _).symm.trans standsTarget)
  exact produced_apart rests separate apart standsName

/-- What a recipe must do to keep what two names stand for apart. Its script must, and if it is
for one of them, its draft must be kept apart from the other. If the draft has one of the names
and is for another one, then what the name stands for in the recipe must be apart, and so must be
what it stands for again when the recipe has ended. -/
structure RecipeSeparates (left right draft target : String) (replacement : Option Content)
    (separates : String → String → Prop) (opened ended closed : Session) : Prop where
  script : separates left right
  forLeft : target = left → draft ≠ right → opened.Separate draft right ∧ separates draft right ∧
    ended.CopiesApart (replacement.toList.flatMap Content.copies) right
  forRight : target = right → draft ≠ left → opened.Separate left draft ∧ separates left draft ∧
    ended.CopiesApart (replacement.toList.flatMap Content.copies) left
  renamed : draft = left ∨ draft = right → draft ≠ target →
    opened.Separate left right ∧ closed.Separate left right

end Session

mutual

/-- What an instruction stores in one of two named values is apart from the other one. -/
def Instruction.Separates : Instruction → (left right : String) → Session → Prop
  | .step step, left, right, session =>
    (step.writes left = true → session.CopiesApart step.copies right) ∧
      (step.writes right = true → session.CopiesApart step.copies left)
  | .pick source path index rest target, left, right, session =>
    target = left ∨ target = right →
      (session.pick source path index rest target).2.Separate left right
  | .take source path field target, left, right, session =>
    target = left ∨ target = right → (session.take source path field target).2.Separate left right
  | .produce source draft recipe replacement target, left, right, session =>
    ∀ base, session.bindings.value? source = some base →
      let opened := session.drafting draft base session.store
      let ended := (runScript recipe opened).2
      Session.RecipeSeparates left right draft target replacement
        (fun left right => ScriptSeparates recipe left right opened) opened ended
        (session.closed ended draft replacement target)
  | .fixtureWith type draft recipe replacement target, left, right, session =>
    ∀ made, session.registry.instantiate? type session.store = some made →
      let opened := session.drafting draft made.1 made.2
      let ended := (runScript recipe opened).2
      Session.RecipeSeparates left right draft target replacement
        (fun left right => ScriptSeparates recipe left right opened) opened ended
        (session.closed ended draft replacement target)

/-- What a script stores in one of two named values is apart from the other one. -/
def ScriptSeparates : List Instruction → (left right : String) → Session → Prop
  | [], _, _, _ => True
  | instruction :: rest, left, right, session =>
    instruction.Separates left right session ∧
      ScriptSeparates rest left right (instruction.run session).2

end

namespace Session

variable {registry : Registry} {ground grown : Ground registry} {session opened ended : Session}
  {left right draft target : String} {replacement : Option Content}
  {separates : String → String → Prop}

/-- When the draft of a recipe has got its name, two values are apart. -/
theorem RecipeSeparates.begins {closed : Session}
    (conditions : RecipeSeparates left right draft target replacement separates opened ended closed)
    (differ : left ≠ right)
    (outside : draft ≠ left → draft ≠ right → opened.Separate left right) :
    opened.Separate left right := by
  by_cases isLeft : draft = left
  · by_cases same : draft = target
    · obtain ⟨separate, -, -⟩ := conditions.forLeft (same.symm.trans isLeft) (isLeft ▸ differ)
      exact isLeft ▸ separate
    · exact (conditions.renamed (.inl isLeft) same).1
  · by_cases isRight : draft = right
    · by_cases same : draft = target
      · obtain ⟨separate, -, -⟩ := conditions.forRight (same.symm.trans isRight) isLeft
        exact isRight ▸ separate
      · exact (conditions.renamed (.inr isRight) same).1
    · exact outside isLeft isRight

theorem drafting_separate (rests : session.Rests ground) (separate : session.Separate left right)
    (value : Value) {store : Store} (develops : session.store.Develops store)
    (notLeft : draft ≠ left) (notRight : draft ≠ right) :
    (session.drafting draft value store).Separate left right :=
  separate.persists rests develops (Entries.value?_put_other _ _ notLeft)
    (Entries.value?_put_other _ _ notRight)

/-- A recipe keeps two values apart. -/
theorem RecipeSeparates.ends
    (conditions : RecipeSeparates left right draft target replacement separates opened ended
      (session.closed ended draft replacement target))
    (differ : left ≠ right) (rests : ended.Rests ground)
    (outside : draft ≠ left → draft ≠ right → opened.Separate left right)
    (ran : ∀ left right, left ≠ right → separates left right → opened.Separate left right →
      ended.Separate left right) :
    (session.closed ended draft replacement target).Separate left right := by
  by_cases renamed : (draft = left ∨ draft = right) ∧ draft ≠ target
  · exact (conditions.renamed renamed.1 renamed.2).2
  by_cases isLeft : target = left
  · have notRight : draft ≠ right := fun same =>
      renamed ⟨.inr same, fun isTarget => differ (isLeft.symm.trans (isTarget.symm.trans same))⟩
    obtain ⟨separate, script, apart⟩ := conditions.forLeft isLeft notRight
    have drafted := ran draft right notRight script separate
    subst isLeft
    exact closed_separate_left session rests drafted apart notRight differ
  by_cases isRight : target = right
  · subst isRight
    have notLeft : draft ≠ left := fun same =>
      renamed ⟨.inl same, fun isTarget => isLeft (isTarget.symm.trans same)⟩
    obtain ⟨separate, script, apart⟩ := conditions.forRight rfl notLeft
    have drafted := ran left draft notLeft.symm script separate
    exact (closed_separate_left session rests drafted.symm apart notLeft isLeft).symm
  · have notLeft : draft ≠ left := fun same => renamed ⟨.inl same, fun isTarget =>
      isLeft (isTarget.symm.trans same)⟩
    have notRight : draft ≠ right := fun same => renamed ⟨.inr same, fun isTarget =>
      isRight (isTarget.symm.trans same)⟩
    have separate := ran left right differ conditions.script (outside notLeft notRight)
    refine separate.persists rests ?_ (closed_other session rests.once replacement notLeft isLeft)
      (closed_other session rests.once replacement notRight isRight)
    obtain rfl := rests.registered
    obtain ⟨grown, grows, fits, -⟩ :=
      Discipline.contentValue?_kept rests.fits replacement (rests.names.finds _)
    have same : grown.store = (session.closed ended draft replacement target).store := fits.same
    rw [← same, ← rests.same]
    exact grows.1

end Session

mutual

/-- An instruction keeps two values apart. -/
theorem Instruction.run_separate : (instruction : Instruction) → {registry : Registry} →
    {ground : Ground registry} → {session : Session} → {left right : String} →
    session.Rests ground → left ≠ right → session.Separate left right →
    instruction.Separates left right session → (instruction.run session).2.Separate left right
  | .step step, _, _, _, _, _, rests, differ, separate, separates =>
    Session.step_separate rests differ separate step separates.1 separates.2
  | .pick source path index rest target, _, _, session, left, right, rests, differ, separate,
      separates => by
    by_cases named : target = left ∨ target = right
    · exact separates named
    · obtain ⟨grown, grows, later⟩ := rests.run (.pick source path index rest target)
      obtain ⟨notLeft, notRight⟩ := not_or.mp named
      have leaves := Session.pick_leaves rests.once source path index rest target
      exact separate.persists rests (rests.develops grows later)
        (leaves.same left (by simpa using notLeft)) (leaves.same right (by simpa using notRight))
  | .take source path field target, _, _, session, left, right, rests, differ, separate,
      separates => by
    by_cases named : target = left ∨ target = right
    · exact separates named
    obtain ⟨notLeft, notRight⟩ := not_or.mp named
    by_cases isLeft : source = left
    · subst isLeft
      exact Session.take_separate_left rests differ separate path field notRight
    by_cases isRight : source = right
    · subst isRight
      exact (Session.take_separate_left rests differ.symm separate.symm path field notLeft).symm
    · obtain ⟨grown, grows, later⟩ := rests.run (.take source path field target)
      have leaves := Session.take_leaves rests.once source path field target
      exact separate.persists rests (rests.develops grows later)
        (leaves.same left (by simp [isLeft, notLeft]))
        (leaves.same right (by simp [isRight, notRight]))
  | .produce source draft recipe replacement target, _, _, session, left, right, rests, differ,
      separate, separates => by
    simp only [Instruction.run]
    cases stands : session.bindings.value? source with
    | none => exact separate
    | some base =>
      have drafted := rests.drafting_named stands draft
      obtain ⟨_, _, ended⟩ := drafted.script recipe
      refine (separates base stands).ends differ ended ?_ fun _ _ differ script apart =>
        runScript_separate recipe drafted differ apart script
      exact Session.drafting_separate rests separate base (.refl session.store)
  | .fixtureWith type draft recipe replacement target, _, _, session, left, right, rests, differ,
      separate, separates => by
    simp only [Instruction.run, fixtureWith?]
    cases made : session.registry.instantiate? type session.store with
    | none => exact separate
    | some fixture =>
      obtain ⟨grown, drafted, develops⟩ := rests.drafting_made made draft
      obtain ⟨_, _, ended⟩ := drafted.script recipe
      refine (separates fixture made).ends differ ended ?_ fun _ _ differ script apart =>
        runScript_separate recipe drafted differ apart script
      exact Session.drafting_separate rests separate fixture.1 develops

/-- A script keeps two values apart. -/
theorem runScript_separate : (script : List Instruction) → {registry : Registry} →
    {ground : Ground registry} → {session : Session} → {left right : String} →
    session.Rests ground → left ≠ right → session.Separate left right →
    ScriptSeparates script left right session → (runScript script session).2.Separate left right
  | [], _, _, _, _, _, _, _, separate, _ => separate
  | instruction :: rest, _, _, _, _, _, rests, differ, separate, separates => by
    obtain ⟨grown, _, later⟩ := rests.run instruction
    exact runScript_separate rest later differ
      (instruction.run_separate rests differ separate separates.1) separates.2

end

mutual

theorem Instruction.moments_separate : (instruction : Instruction) → {registry : Registry} →
    {ground : Ground registry} → {session : Session} → {left right : String} →
    session.Rests ground → left ≠ right → session.Separate left right →
    instruction.Separates left right session →
    ∀ moment ∈ instruction.moments session, moment.Separate left right
  | .step _, _, _, _, _, _, _, _, _, _ | .pick _ _ _ _ _, _, _, _, _, _, _, _, _, _
  | .take _ _ _ _, _, _, _, _, _, _, _, _, _ => fun _ none => absurd none List.not_mem_nil
  | .produce source draft recipe replacement target, _, _, session, left, right, rests, differ,
      separate, separates => by
    simp only [Instruction.moments]
    cases stands : session.bindings.value? source with
    | none => exact fun _ none => absurd none List.not_mem_nil
    | some base =>
      have drafted := rests.drafting_named stands draft
      have conditions := separates base stands
      refine scriptMoments_separate recipe drafted differ (conditions.begins differ ?_)
        conditions.script
      exact Session.drafting_separate rests separate base (.refl session.store)
  | .fixtureWith type draft recipe replacement target, _, _, session, left, right, rests, differ,
      separate, separates => by
    simp only [Instruction.moments]
    cases made : session.registry.instantiate? type session.store with
    | none => exact fun _ none => absurd none List.not_mem_nil
    | some fixture =>
      obtain ⟨grown, drafted, develops⟩ := rests.drafting_made made draft
      have conditions := separates fixture made
      refine scriptMoments_separate recipe drafted differ (conditions.begins differ ?_)
        conditions.script
      exact Session.drafting_separate rests separate fixture.1 develops

/-- At every moment of a script that keeps two values apart, they are. -/
theorem scriptMoments_separate : (script : List Instruction) → {registry : Registry} →
    {ground : Ground registry} → {session : Session} → {left right : String} →
    session.Rests ground → left ≠ right → session.Separate left right →
    ScriptSeparates script left right session →
    ∀ moment ∈ scriptMoments script session, moment.Separate left right
  | [], _, _, _, _, _, _, _, separate, _ => fun _ only => List.mem_singleton.mp only ▸ separate
  | instruction :: rest, _, _, _, _, _, rests, differ, separate, separates => by
    obtain ⟨grown, _, later⟩ := rests.run instruction
    intro moment member
    rcases List.mem_cons.mp member with rfl | behind
    · exact separate
    · rcases List.mem_append.mp behind with inside | after
      · exact instruction.moments_separate rests differ separate separates.1 moment inside
      · exact scriptMoments_separate rest later differ
          (instruction.run_separate rests differ separate separates.1) separates.2 moment after

end

end SchemaFixtures.Fixture
