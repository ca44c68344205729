import SchemaFixtures.Proofs.Fixture.Course

/-!
# What was read is read again

A path of a value was read when every field on it is known: the field holds its value, or the
value has appeared in the cell of the field. Then reading the path finds what it found, with the
same identity, and works nothing out. This only gets more in the course of a script, since cells
keep their values and a value has the same fields and cells wherever it stands. A name that was
not written, a copy of it, and a draft that was made from it all stand for the same value, so
they all find the same object, whatever was done to other values in between.
-/

namespace SchemaFixtures.Fixture

/-- The value of a field, as far as it is known. -/
def Field.known? (store : Store) : Field → Option Value
  | .held value => some value
  | .later cell _ => store.value? cell

/-- What was read along a path: none if a field on it is still to be worked out, or if the path
leads nowhere. -/
def Value.known? (store : Store) : List String → Value → Option Value
  | [], value => some value
  | name :: rest, .object _ fields =>
    match (Entries.value? fields name).bind (·.known? store) with
    | some value => known? store rest value
    | none => none
  | _ :: _, _ => none

variable {registry : Registry} {plan : Plan} {before after store : Store}

/-! ## Known fields -/

theorem Field.known?_persists (persists : before.Persists after) {field : Field} {value : Value}
    (known : field.known? before = some value) : field.known? after = some value := by
  cases field with
  | held _ => exact known
  | later cell _ => exact persists cell value known

/-- A known field is not worked out again, neither for a read nor for a write. -/
theorem Field.read_known (registry : Registry) {field : Field} {value : Value}
    (known : field.known? store = some value) :
    field.read registry store = (value, store) ∧ field.peek registry store = (value, store) := by
  cases field with
  | held held =>
    obtain rfl : held = value := Option.some.inj known
    exact ⟨rfl, rfl⟩
  | later cell default =>
    have filled : store.value? cell = some value := known
    simp only [Field.read, Field.peek, filled, and_self]

/-- A field that was read is known. Its cell is one of the store, so the value does appear. -/
theorem Field.known_of_read (follows : store.Follows registry plan) (field : Field)
    (planned : field.Planned plan) :
    field.known? (field.read registry store).2 = some (field.read registry store).1 := by
  cases field with
  | held value => rfl
  | later cell default =>
    simp only [Field.read]
    cases filled : store.value? cell with
    | some value => exact filled
    | none =>
      obtain ⟨grown, grows, followsOn, _⟩ := evaluate_stands follows default
      have reserved : grown[cell.index]? = some default := planned_cell_grows grows planned
      have inside : cell.index < (default.evaluate registry store).2.cells.size := by
        rw [followsOn.size]
        exact (List.getElem?_eq_some_iff.mp reserved).1
      simp [Field.known?, Store.value?, Store.fill, inside]

/-! ## Known paths -/

theorem known?_object (identity : Nat) {fields : List (String × Field)} {name : String}
    {field : Field} {value : Value} (rest : List String)
    (found : Entries.value? fields name = some field) (known : field.known? store = some value) :
    (Value.object identity fields).known? store (name :: rest) = value.known? store rest := by
  rw [Value.known?, found, Option.bind_some, known]

/-- Only an object with a known field has a known path through the name of the field. -/
theorem known?_cons {value found : Value} {name : String} {rest : List String}
    (known : value.known? store (name :: rest) = some found) :
    ∃ identity fields field next, value = .object identity fields ∧
      Entries.value? fields name = some field ∧ field.known? store = some next ∧
      next.known? store rest = some found := by
  cases value with
  | object identity fields =>
    rw [Value.known?] at known
    cases stands : Entries.value? fields name with
    | none => simp [stands] at known
    | some field =>
      rw [stands, Option.bind_some] at known
      cases worked : field.known? store with
      | none => simp [worked] at known
      | some next =>
        rw [worked] at known
        exact ⟨identity, fields, field, next, rfl, stands, worked, known⟩
  | absent | null | boolean _ | int _ | float _ | string _ | enum _ | raw _ | list _ => cases known

theorem known?_persists (persists : before.Persists after) {path : List String}
    {value found : Value} (known : value.known? before path = some found) :
    value.known? after path = some found := by
  induction path generalizing value with
  | nil => exact known
  | cons name rest inductionHypothesis =>
    obtain ⟨identity, fields, field, next, rfl, stands, worked, onward⟩ := known?_cons known
    rw [known?_object identity rest stands (field.known?_persists persists worked)]
    exact inductionHypothesis onward

/-- Reading a known path finds what was read and leaves the store as it is. -/
theorem get?_known (registry : Registry) {path : List String} {value found : Value}
    (known : value.known? store path = some found) :
    value.get? registry path store = (some found, store) := by
  induction path generalizing value with
  | nil => exact congrArg (·, store) known
  | cons name rest inductionHypothesis =>
    obtain ⟨identity, fields, field, next, rfl, stands, worked, onward⟩ := known?_cons known
    have read : readField registry fields name store = (some next, store) := by
      simp only [readField, stands, (field.read_known registry worked).1]
    rw [get?_object, read]
    exact inductionHypothesis onward

/-- A path that was read is known. -/
theorem known_of_get? (follows : store.Follows registry plan) {value found : Value}
    (planned : value.Planned plan) {path : List String}
    (read : (value.get? registry path store).1 = some found) :
    value.known? (value.get? registry path store).2 path = some found := by
  induction path generalizing value store plan with
  | nil => exact read
  | cons name rest inductionHypothesis =>
    cases value with
    | object identity fields =>
      rw [get?_object] at read ⊢
      cases stands : Entries.value? fields name with
      | none => simp [readField, stands] at read
      | some field =>
        have fieldPlanned :=
          (value?_planned ((planned_object plan identity fields).mp planned) stands).1
        obtain ⟨grown, _, followsOn, next⟩ := read_stands follows field fieldPlanned
        have worked := field.known_of_read follows fieldPlanned
        simp only [readField, stands] at read ⊢
        have kept := field.known?_persists
          (get?_persists registry rest (field.read registry store).1 _) worked
        rw [known?_object identity rest stands kept]
        exact inductionHypothesis followsOn next.planned read
    | absent | null | boolean _ | int _ | float _ | string _ | enum _ | raw _ | list _ => cases read

/-! ## Runs -/

theorem copyOf_named (registry : Registry) {bindings : Entries Value} {name : String}
    {value : Value} (stands : bindings.value? name = some value) (path : List String)
    (store : Store) :
    copyOf registry bindings name path store = value.get? registry path store := by
  rw [copyOf, stands]

/-- A question about what a path finds leaves the path known. -/
theorem asked_known {session : Session} {name : String} {value found : Value}
    (stands : session.bindings.value? name = some value) {path : List String}
    (finds : (value.get? session.registry path session.store).1 = some found)
    (known : value.known? (value.get? session.registry path session.store).2 path = some found)
    (reading : Reading) :
    value.known? (session.step (.operate name (.read path reading))).2.store path =
      some found := by
  simp only [Session.step, stands, Operation.run]
  generalize value.get? session.registry path session.store = read at finds known ⊢
  obtain ⟨_ | target, after⟩ := read
  · cases finds
  · exact known?_persists (answer_persists session.registry reading target after) known

/-- Copying what a path finds names it and leaves the path known. -/
theorem copied_known {session : Session} {name : String} {value found : Value}
    (stands : session.bindings.value? name = some value) {path : List String}
    (finds : (value.get? session.registry path session.store).1 = some found)
    (known : value.known? (value.get? session.registry path session.store).2 path = some found)
    (target : String) :
    (session.step (.copy name path target)).2.bindings.value? target = some found ∧
      value.known? (session.step (.copy name path target)).2.store path = some found := by
  simp only [Session.step, copyOf_named _ stands, finds, Session.keep]
  exact ⟨Entries.value?_put_self _ _ _, known⟩

/-- Two names that find one object are told to find the same object. -/
theorem sameObject_told {session : Session} {name kept : String} {path : List String}
    {found : Value} (finds : copyOf session.registry session.bindings name path session.store =
      (some found, session.store))
    (holds : session.bindings.value? kept = some found) (isObject : found.identity?.isSome) :
    (session.step (.sameObject (name, path) (kept, []))).1 = .sameObject (some true) := by
  obtain ⟨identity, same⟩ := Option.isSome_iff_exists.mp isObject
  simp only [Session.step, finds, copyOf_named _ holds, Value.get?]
  simp [Value.sameObject?, same]

/-- A step has no moments of its own. -/
theorem scriptMoments_step (step : Step) (rest : List Instruction) (session : Session) :
    scriptMoments (.step step :: rest) session =
      session :: scriptMoments rest (session.step step).2 := rfl

theorem runScript_step (step : Step) (rest : List Instruction) (session : Session) :
    (runScript (.step step :: rest) session).2 = (runScript rest (session.step step).2).2 := rfl

/-- What was read is read again. At every moment in the course of a script, asking about what a
path finds in a named value leaves the path known, and so does copying it, which names the very
value that is found; a name stands for the very same value after any further script that does
not write it. What is known at one moment is known at every later one: a cell that has its value
still has it and is not worked out again, and every name that stands for the value finds at the
path what was read there, with nothing worked out. So it finds the same object as a name that
the object was given when it was read. -/
theorem read_objects_stay (accessor : Accessor) (script : List Instruction) :
    (∀ moment ∈ scriptMoments script { accessor }, ∀ name value,
      moment.bindings.value? name = some value →
        (∀ path found,
          (copyOf moment.registry moment.bindings name path moment.store).1 = some found →
            (∀ reading, value.known?
              (moment.step (.operate name (.read path reading))).2.store path = some found) ∧
            ∀ target, let next := (moment.step (.copy name path target)).2
              next.bindings.value? target = some found ∧
                value.known? next.store path = some found) ∧
        ∀ further, scriptWrites name further = false →
          (runScript further moment).2.bindings.value? name = some value) ∧
    (scriptMoments script { accessor }).Pairwise fun earlier later =>
      (∀ cell value, earlier.store.value? cell = some value →
        later.store.value? cell = some value ∧
        ∀ default,
          (Field.later cell default).read later.registry later.store = (value, later.store) ∧
          (Field.later cell default).peek later.registry later.store = (value, later.store)) ∧
      ∀ value path found, value.known? earlier.store path = some found →
        value.known? later.store path = some found ∧
        ∀ name, later.bindings.value? name = some value →
          copyOf later.registry later.bindings name path later.store =
            (some found, later.store) ∧
          ∀ kept, later.bindings.value? kept = some found → found.identity?.isSome →
            (later.step (.sameObject (name, path) (kept, []))).1 = .sameObject (some true) := by
  refine ⟨fun moment member name value stands => ⟨?_, ?_⟩, ?_⟩
  · intro path found finds
    have sound := scriptMoments_sound script _ (start_sound accessor) moment member
    obtain ⟨plan, follows, planned⟩ := sound.planned
    rw [copyOf_named _ stands] at finds
    have known := known_of_get? follows (planned name value stands) finds
    exact ⟨asked_known stands finds known, copied_known stands finds known⟩
  · intro further unwritten
    have sound := scriptMoments_sound script _ (start_sound accessor) moment member
    exact ((runScript_leaves further moment sound.once).same name unwritten).trans stands
  · have course := runScript_course script { accessor } List.nodup_nil
    refine course.ordered.imp fun {earlier later} onward => ⟨?_, ?_⟩
    · intro cell value appeared
      have still := onward.persists cell value appeared
      exact ⟨still, fun default => (Field.later cell default).read_known later.registry still⟩
    · intro value path found known
      have still := known?_persists onward.persists known
      refine ⟨still, fun name stands => ?_⟩
      have finds : copyOf later.registry later.bindings name path later.store =
          (some found, later.store) :=
        (copyOf_named _ stands path _).trans (get?_known later.registry still)
      exact ⟨finds, fun kept holds isObject => sameObject_told finds holds isObject⟩

/-- A user whose friend was read finds the same friend after the friend was changed in a copy
of the user and taken out of it. -/
theorem read_friend_stays :
    let fields := [("friend", Default.factory "User"), ("name", Default.emptyString)]
    let accessor := Accessor.recipe ⟨[⟨"User", .object, .record (some "User") fields⟩]⟩
    let made := (Session.step { accessor } (.fixture "User" "user")).2
    let read := (made.step (.copy "user" ["friend"] "friend")).2
    let copied := (read.step (.copy "user" [] "copy")).2
    let further := [Instruction.step
      (.operate "copy" (.write ["friend", "name"] (.assign (.string "Ann")))),
      .take "copy" [] "friend" "taken"]
    ((runScript further copied).2.step (.sameObject ("user", ["friend"]) ("friend", []))).1 =
      .sameObject (some true) := by
  intro fields accessor made read copied further
  have stays := read_objects_stay accessor (.step (.fixture "User" "user") ::
    .step (.copy "user" ["friend"] "friend") :: .step (.copy "user" [] "copy") :: further)
  simp only [scriptMoments_step, List.mem_cons, List.pairwise_cons] at stays
  obtain ⟨moments, -, -, ordered, -⟩ := stays
  obtain ⟨user, stands⟩ : ∃ user, made.bindings.value? "user" = some user :=
    Option.isSome_iff_exists.mp (by decide +kernel)
  have found : ((copyOf made.registry made.bindings "user" ["friend"] made.store).1.bind
      (·.identity?)).isSome = true := by decide +kernel
  obtain ⟨identity, found⟩ := Option.isSome_iff_exists.mp found
  obtain ⟨friend, finds, isObject⟩ := Option.bind_eq_some_iff.mp found
  -- The friend is read and named, and both names stand for what they did from then on.
  obtain ⟨reads, stays⟩ := moments made (.inr (.inl rfl)) "user" user stands
  obtain ⟨named, known⟩ := (reads ["friend"] friend finds).2 "friend"
  have still := stays (.step (.copy "user" ["friend"] "friend") ::
    .step (.copy "user" [] "copy") :: further) (by decide +kernel)
  have kept := (moments read (.inr (.inr (.inl rfl))) "friend" friend named).2
    (.step (.copy "user" [] "copy") :: further) (by decide +kernel)
  simp only [runScript_step] at still kept
  obtain ⟨-, finding⟩ := ordered _ (runScript_mem_moments further copied)
  simp only [copied, read, made] at still kept known finding ⊢
  exact ((finding user ["friend"] friend known).2 "user" still).2 "friend" kept
    (Option.isSome_iff_exists.mpr ⟨identity, isObject⟩)

end SchemaFixtures.Fixture
