import SchemaFixtures.Proofs.Fixture.Separation

/-!
# What is made is independent

A value that is made, for a fixture or for a field that is read for the first time, shares no
object and no cell with any value that was there, nor does anything that appears in its cells
later. So two named values that were made one after the other are apart, and they stay so until
something that is not apart is stored in one of them. As long as they are, reading and writing one
of them works nothing out in the other one, and no object is found in both.
-/

namespace SchemaFixtures.Fixture

/-- The names that a step follows: it works on their values or copies from them. -/
def Step.names (step : Step) : List String := step.handles ++ step.copies.map (·.1)

namespace Session

/-- The cells that a named value reaches are as they were. -/
def Untouched (name : String) (before after : Session) : Prop :=
  ∀ value, before.bindings.value? name = some value → ∀ place default,
    before.store.Reaches value.parts (.cell place default) →
      after.store.value? place = before.store.value? place

variable {registry : Registry} {ground : Ground registry} {session after : Session}
  {left right : String} {value other : Value}

/-- The discipline of what is apart from a value, with the cells that it reaches as they are. -/
abbrev sparing (registry : Registry) (store : Store) (parts : List Part) :
    Discipline registry (Ground registry) :=
  apartFrom registry parts store fun cell => ∃ default, store.Reaches parts (.cell cell default)

theorem Rests.spares (rests : session.Rests ground)
    (stands : session.bindings.value? right = some other) :
    (sparing registry session.store other.parts).fits ground session.store :=
  ⟨rests.same, rests.has stands, fun _ kept => ⟨rfl, kept⟩⟩

/-- What leads to a store that still fits leaves the cells as they were. -/
theorem untouched_of_kept {holds : Value → Ground registry → Prop}
    (kept : ∀ other, session.bindings.value? right = some other →
      (sparing registry session.store other.parts).Keeps ground after.store (holds other)) :
    Untouched right session after := by
  intro other stands place default reached
  obtain ⟨_, _, fits, _⟩ := kept other stands
  exact (fits.still place ⟨default, reached⟩).1

/-- A step that follows only values that are apart from one leaves it untouched. -/
theorem step_untouched (rests : session.Rests ground) (step : Step)
    (apart : ∀ name ∈ step.names, session.Separate name right) :
    Untouched right session (session.step step).2 := by
  obtain ⟨handled, copied⟩ := List.forall_mem_append.mp apart
  refine untouched_of_kept fun other standsRight => Discipline.step_kept rests.registered
    (rests.spares standsRight) step (fun name member value stands => ?_)
    (Discipline.Supplies.finds fun name member value stands => ?_)
  · exact (handled name member).within rests stands standsRight
  · exact (copied name member).within rests stands standsRight

theorem pick_untouched (rests : session.Rests ground) {source : String}
    (separate : session.Separate source right) (path : List String) (index : Nat)
    (rest : List String) (target : String) :
    Untouched right session (session.pick source path index rest target).2 :=
  untouched_of_kept fun _ standsRight => Discipline.pick_kept rests.registered
    (rests.spares standsRight) (fun _ stands => separate.within rests stands standsRight) path
    index rest target

theorem take_untouched (rests : session.Rests ground) {source : String}
    (separate : session.Separate source right) (path : List String) (field target : String) :
    Untouched right session (session.take source path field target).2 :=
  untouched_of_kept fun _ standsRight => Discipline.take_kept rests.registered
    (rests.spares standsRight) (fun _ stands => separate.within rests stands standsRight) path
    field target

/-- Objects that are apart are not one object. -/
theorem sameObject?_apart {store : Store} (apart : store.Apart value.parts other.parts) :
    value.sameObject? other ≠ some true := by
  cases value with
  | object identity fields =>
    cases other with
    | object another others =>
      have differ := apart (.object identity fields) (.object another others)
        (.here List.mem_cons_self) (.here List.mem_cons_self)
      have ids : identity ≠ another := fun same => differ (congrArg Key.object same)
      simpa [Value.sameObject?, Value.identity?] using ids
    | absent | null | boolean _ | int _ | float _ | string _ | enum _ | raw _ | list _ =>
      simp [Value.sameObject?, Value.identity?]
  | absent | null | boolean _ | int _ | float _ | string _ | enum _ | raw _ | list _ =>
    simp [Value.sameObject?, Value.identity?]

/-- No object is found in two values that are apart. -/
theorem sameObject_apart (rests : session.Rests ground) (separate : session.Separate left right)
    (path others : List String) :
    (session.step (.sameObject (left, path) (right, others))).1 ≠ .sameObject (some true) := by
  obtain rfl := rests.registered
  simp only [step, ne_eq, StepAnswer.sameObject.injEq]
  cases standsLeft : session.bindings.value? left with
  | none => simp [copyOf, standsLeft]
  | some value =>
  cases standsRight : session.bindings.value? right with
  | none => simp [copyOf, standsRight]
  | some other =>
  simp only [copyOf, standsLeft, standsRight]
  obtain ⟨first, grows, fits, kept⟩ := Discipline.get?_kept (rests.away standsRight)
    (separate.within rests standsLeft standsRight) path
  cases found : (value.get? session.registry path session.store).1 with
  | none => simp
  | some a =>
  rw [← fits.same]
  have has : ∀ part ∈ other.parts, first.store.Has part.key := fits.same ▸ fits.has
  have away := (Ground.within_allows has).mp (kept a found)
  -- What the first path found is what the second one keeps apart from.
  have alone := Ground.within_alone.mp
    ((rests.named right other standsRight).imp fun _ => Ground.Allows.mono grows)
  obtain ⟨last, _, fitsLast, keptLast⟩ := Discipline.get?_kept (first.fits away.1)
    ((Ground.within_allows away.1).mpr ⟨alone.1, alone.2, away.2.2.symm⟩) others
  cases foundLast : (other.get? session.registry others first.store).1 with
  | none => simp
  | some b =>
  have apart := ((Ground.within_allows (fitsLast.same ▸ fitsLast.has)).mp
    (keptLast b foundLast)).2.2
  simpa using sameObject?_apart apart.symm

/-- What is made reaches only what was made since, and stays apart from what was there. -/
theorem made_apart (rests : session.Rests ground) (default : Default) (target : String)
    (further : List Instruction) :
    let made := default.evaluate session.registry session.store
    ∀ later ∈ scriptMoments further
        { session with bindings := session.bindings.put target made.1, store := made.2 },
      (∀ part, later.store.Reaches made.1.parts part → ¬ session.store.Has part.key) ∧
      ∀ old : Value, (old.Within fun part => session.store.Has part.key) →
        later.store.Apart made.1.parts old.parts := by
  obtain rfl := rests.registered
  intro made later inside
  obtain ⟨-, has, fresh⟩ := evaluate_fresh session.registry default session.store
  obtain ⟨grown, grows, fits, within⟩ := rests.fits.evaluate default
  have drafted := rests.drafting grows within target
  rw [fits.same] at drafted
  obtain ⟨last, growsLast, restsLast⟩ := drafted.moments further later inside
  have develops : made.2.Develops later.store := drafted.develops growsLast restsLast
  refine ⟨fun part reached => ?_, fun old there => ?_⟩
  · have all := (Store.evaluate_develops session.registry default session.store).trans
      drafted.bounded develops
    exact all.reaches_new (fun part stands => (fresh part stands).2) reached
  · exact develops.apart drafted.bounded (fun part stands => (fresh part stands).1)
      (fun part stands => has _ (there part stands))
      (Store.evaluate_apart session.registry default rests.bounded there)

end Session

open Session

/-- What is made is independent of what was there. At every moment in the course of a script:

* The value of any default, and so any fixture, is made of new objects and cells; making it looks
  at no cell and fills none. Whatever a further script does, everything that the value ever reaches
  was made since, and it stays apart from every value that was there.
* Every named value reaches only what is there.
* What a further script lets appear in a cell that is empty now never reaches anything that is
  there now.
* If two names stand for values that are apart, then they do at every moment of a further script
  that stores nothing in one of them that is not apart from the other. Then no object is found in
  both, and what follows only names that are apart from one of them works nothing out in it. -/
theorem made_values_are_independent (accessor : Accessor) (script : List Instruction) :
    ∀ moment ∈ scriptMoments script { accessor },
      (∀ default : Default, let made := default.evaluate moment.registry moment.store
        (∀ part ∈ made.1.parts, ¬ moment.store.Has part.key) ∧
        made.2.value? = moment.store.value? ∧
        (∀ other, moment.store.Counts other →
          (default.evaluate moment.registry other).1 = made.1) ∧
        ∀ target further, ∀ later ∈ scriptMoments further
            { moment with bindings := moment.bindings.put target made.1, store := made.2 },
          (∀ part, later.store.Reaches made.1.parts part → ¬ moment.store.Has part.key) ∧
          ∀ old : Value, (old.Within fun part => moment.store.Has part.key) →
            later.store.Apart made.1.parts old.parts) ∧
      (∀ name value, moment.bindings.value? name = some value → ∀ part,
        moment.store.Reaches value.parts part → moment.store.Has part.key) ∧
      (∀ further, ∀ later ∈ scriptMoments further moment, ∀ place content,
        moment.store.value? place = none → later.store.value? place = some content →
          ∀ part, later.store.Reaches content.parts part → ¬ moment.store.Has part.key) ∧
      ∀ left right, left ≠ right → moment.Separate left right →
        ∀ further, ScriptSeparates further left right moment →
          ∀ later ∈ scriptMoments further moment, later.Separate left right ∧
            (∀ path others, (later.step (.sameObject (left, path) (right, others))).1 ≠
              .sameObject (some true)) ∧
            ∀ name, (∀ step : Step, (∀ source ∈ step.names, later.Separate source name) →
                later.Untouched name (later.step step).2) ∧
              ∀ source, later.Separate source name →
                (∀ path index rest target,
                  later.Untouched name (later.pick source path index rest target).2) ∧
                ∀ path field target,
                  later.Untouched name (later.take source path field target).2 := by
  intro moment member
  obtain ⟨ground, -, rests⟩ := (start_rests accessor).moments script moment member
  refine ⟨fun default => ?_, fun name value stands part reached => ?_,
    fun further later inside place content empty filled part reached => ?_,
    fun left right differ separate further separates later inside => ?_⟩
  · obtain ⟨same, -, fresh⟩ := evaluate_fresh moment.registry default moment.store
    refine ⟨fun part stands => (fresh part stands).2, same, fun other counts => ?_,
      made_apart rests default⟩
    exact ((evaluate_counts moment.registry counts default).1).symm
  · exact rests.bounded.reaches (rests.has stands) reached
  · obtain ⟨last, grows, restsLast⟩ := rests.moments further later inside
    have develops := rests.develops grows restsLast
    exact develops.reaches_new (develops.fresh place content empty filled) reached
  · obtain ⟨last, -, restsLast⟩ := rests.moments further later inside
    have apart := scriptMoments_separate further rests differ separate separates later inside
    refine ⟨apart, sameObject_apart restsLast apart, fun name => ⟨step_untouched restsLast,
      fun source other => ⟨?_, ?_⟩⟩⟩
    · exact pick_untouched restsLast other
    · exact take_untouched restsLast other

/-- Two nodes are apart, and stay so when one of them is put behind its own next node. -/
theorem two_nodes_stay_apart :
    let accessor := Accessor.recipe
      ⟨[⟨"Node", .inputObject, .record none [("next", .factory "Node")]⟩]⟩
    let first := (Session.step { accessor } (.fixture "Node" "left")).2
    let second := (first.step (.fixture "Node" "right")).2
    let further := [Instruction.step
      (.operate "left" (.write ["next"] (.set "next" (.copy "left" []))))]
    let later := (runScript further second).2
    second.Separate "left" "right" ∧ ScriptSeparates further "left" "right" second ∧
      later.Separate "left" "right" ∧
      (later.step (.sameObject ("left", ["next"]) ("right", ["next"]))).1 ≠
        .sameObject (some true) ∧
      later.Untouched "right" (later.step (.operate "left" (.read ["next"] .visit))).2 := by
  intro accessor first second further later
  have independent := made_values_are_independent accessor
    [.step (.fixture "Node" "left"), .step (.fixture "Node" "right")]
  have made : second = { first with
      bindings := first.bindings.put "right"
        ((Default.factory "Node").evaluate first.registry first.store).1
      store := ((Default.factory "Node").evaluate first.registry first.store).2 } := rfl
  obtain ⟨fresh, there, -⟩ := independent first (List.mem_cons_of_mem _ List.mem_cons_self)
  have separate : second.Separate "left" "right" := by
    intro value other standsLeft standsRight
    rw [made] at standsLeft standsRight ⊢
    rw [Entries.value?_put_other _ _ (by decide)] at standsLeft
    obtain rfl := Option.some.inj ((Entries.value?_put_self _ _ _).symm.trans standsRight)
    obtain ⟨-, -, -, onward⟩ := fresh (.factory "Node")
    exact ((onward "right" [] _ (List.mem_singleton_self _)).2 value fun part stands =>
      there "left" value standsLeft part (.here stands)).symm
  have separates : ScriptSeparates further "left" "right" second := by
    refine ⟨⟨fun _ other standsRight copy member found finds => ?_, fun writes => ?_⟩, trivial⟩
    · obtain rfl : copy = ("left", []) := List.mem_singleton.mp member
      cases standsLeft : second.bindings.value? "left" with
      | none => simp [copyOf, standsLeft] at finds
      | some value =>
        simp only [copyOf, standsLeft, Value.get?, Option.some.injEq] at finds ⊢
        exact finds ▸ separate value other standsLeft standsRight
    · exact absurd writes (by decide)
  obtain ⟨-, -, -, stay⟩ := independent second
    (List.mem_cons_of_mem _ (List.mem_cons_of_mem _ (List.mem_singleton_self _)))
  obtain ⟨apart, different, untouched⟩ := stay "left" "right" (by decide) separate further
    separates later (runScript_mem_moments further second)
  refine ⟨separate, separates, apart, different ["next"] ["next"],
    (untouched "right").1 _ fun source follows => ?_⟩
  obtain rfl : source = "left" := List.mem_singleton.mp follows
  exact apart

end SchemaFixtures.Fixture
