import SchemaFixtures.Proofs.Fixture.Lenses
import SchemaFixtures.Proofs.Fixture.Separation

/-!
# What a draft shares with its base

A recipe that assigns at one path of its draft forks the objects on the way to the path, and no
others. At every turn before the end of the path the result holds an object that was made for the
draft, so it is not the object that the base has there. If the object of the base was resolved,
the new one has its other fields, with their cells. So what stands in them is one object for both,
whether it was there before or is worked out later for whoever reads first. Nothing is worked out
in the base meanwhile: its cells are as they were.

The path is followed by its turns: the names before an object on the way, the name of the field
that is followed from there, and the names behind it.
-/

namespace SchemaFixtures.Fixture

variable {registry : Registry} {plan : Plan} {store : Store} {value : Value} {α : Type}

/-! ## Steps that only make objects and cells -/

/-- A store becomes another one by new objects and new empty cells only. -/
structure Store.Adds (before after : Store) : Prop where
  same : after.value? = before.value?
  objects : before.objects ≤ after.objects

namespace Store.Adds

variable {before between after : Store}

theorem refl (store : Store) : store.Adds store := ⟨rfl, Nat.le_refl _⟩

theorem trans (first : before.Adds between) (second : between.Adds after) :
    before.Adds after :=
  ⟨second.same.trans first.same, Nat.le_trans first.objects second.objects⟩

theorem newObject (store : Store) (fields : Entries Field) :
    store.Adds (store.newObject fields).2 := ⟨rfl, Nat.le_succ _⟩

/-- What was made is still there. -/
theorem of_fresh (same : after.value? = before.value?)
    (has : ∀ key, before.Has key → after.Has key) : before.Adds after := by
  refine ⟨same, Nat.le_of_not_lt fun fewer => ?_⟩
  exact Nat.lt_irrefl _ (has (.object after.objects) fewer)

theorem evaluate (registry : Registry) (default : Default) (store : Store) :
    store.Adds (default.evaluate registry store).2 :=
  have fresh := evaluate_fresh registry default store
  .of_fresh fresh.1 fresh.2.1

theorem peek (registry : Registry) (field : Field) (store : Store) :
    store.Adds (field.peek registry store).2 := by
  cases field with
  | held value => exact .refl store
  | later cell default =>
    simp only [Field.peek]
    cases store.value? cell with
    | some value => exact .refl store
    | none => exact .evaluate registry default store

end Store.Adds

/-- A change that only makes objects and cells. -/
def Edit.Adds (change : Edit α) : Prop :=
  ∀ (value : Value) (store : Store), store.Adds (change value store).2.2

theorem edit_adds (registry : Registry) {change : Edit α} (adds : change.Adds) (path : List String)
    (value : Value) (store : Store) :
    store.Adds (value.edit registry change path store).2.2 := by
  induction path generalizing value store with
  | nil => exact adds value store
  | cons name rest inductionHypothesis =>
    cases value with
    | object identity fields =>
      cases stands : Entries.value? fields name with
      | none =>
        simp only [Value.edit, stands]
        exact .newObject store fields
      | some field =>
        rw [edit_object change identity fields name rest store stands]
        exact ((Store.Adds.peek registry field store).trans (inductionHypothesis _ _)).trans
          (.newObject _ _)
    | absent | null | boolean _ | int _ | float _ | string _ | enum _ | raw _ | list _ =>
      exact .refl store

/-! ## The objects on the way -/

/-- An edit leads somewhere only through an object with the first field of the path. -/
theorem edit_leads {change : Edit α} {name : String} {rest : List String}
    (leads : (value.edit registry change (name :: rest) store).1.isSome) :
    ∃ identity fields field, value = .object identity fields ∧
      Entries.value? fields name = some field ∧
      ((field.peek registry store).1.edit registry change rest
        (field.peek registry store).2).1.isSome := by
  cases value with
  | object identity fields =>
    cases stands : Entries.value? fields name with
    | none => simp [Value.edit, stands] at leads
    | some field =>
      rw [edit_object change identity fields name rest store stands] at leads
      exact ⟨identity, fields, field, rfl, stands, leads⟩
  | absent | null | boolean _ | int _ | float _ | string _ | enum _ | raw _ | list _ => cases leads

/-- All fields along the path hold their values after an edit, whatever the store. -/
theorem known?_edited {change : Edit α} {path : List String} (last : Store)
    (leads : (value.edit registry change path store).1.isSome) :
    ((value.edit registry change path store).2.1.known? last path).isSome := by
  induction path generalizing value store with
  | nil => rfl
  | cons name rest inductionHypothesis =>
    obtain ⟨identity, fields, field, rfl, stands, onward⟩ := edit_leads leads
    rw [edit_object change identity fields name rest store stands]
    have held := Entries.value?_put_self fields name
      (.held ((field.peek registry store).1.edit registry change rest
        (field.peek registry store).2).2.1)
    exact (known?_object _ rest held rfl).symm ▸ inductionHypothesis onward

/-- A path whose fields are known leads an edit somewhere. -/
theorem edit_known_leads (registry : Registry) (change : Edit α) {path : List String}
    (known : (value.known? store path).isSome) :
    (value.edit registry change path store).1.isSome := by
  induction path generalizing value with
  | nil => rfl
  | cons name rest inductionHypothesis =>
    obtain ⟨found, known⟩ := Option.isSome_iff_exists.mp known
    obtain ⟨identity, fields, field, next, rfl, stands, worked, onward⟩ := known?_cons known
    rw [edit_object change identity fields name rest store stands,
      (field.read_known registry worked).2]
    exact inductionHypothesis (Option.isSome_iff_exists.mpr ⟨found, onward⟩)

/-- A result has forked from its base on the way to a path. At every turn it holds an object that
was made in between. If the object of the base was resolved there, the new one has its other
fields. -/
structure Value.Forks (path : List String) (before : Store) (base : Value) (after : Store)
    (result : Value) : Prop where
  known : ∀ last, (result.known? last path).isSome
  turns : ∀ way name rest, path = way ++ name :: rest → ∃ identity fields,
    (∀ last, result.known? last way = some (.object identity fields)) ∧
    before.objects ≤ identity ∧ identity < after.objects ∧
    ∀ own others, base.known? before way = some (.object own others) →
      ∀ other, other ≠ name → Entries.value? fields other = Entries.value? others other

/-- The object that an edit makes at a turn. The induction is on the way to it. -/
theorem edit_turn {change : Edit α} (adds : change.Adds) {name : String}
    {rest : List String} (way : List String)
    (leads : (value.edit registry change (way ++ name :: rest) store).1.isSome) :
    let edited := value.edit registry change (way ++ name :: rest) store
    ∃ identity fields, (∀ last, edited.2.1.known? last way = some (.object identity fields)) ∧
      store.objects ≤ identity ∧ identity < edited.2.2.objects ∧
      ∀ own others, value.known? store way = some (.object own others) →
        ∀ other, other ≠ name → Entries.value? fields other = Entries.value? others other := by
  induction way generalizing value store with
  | nil =>
    obtain ⟨identity, fields, field, rfl, stands, -⟩ := edit_leads leads
    simp only [List.nil_append, edit_object change identity fields name rest store stands]
    have more := (Store.Adds.peek registry field store).trans
      (edit_adds registry adds rest (field.peek registry store).1 (field.peek registry store).2)
    refine ⟨_, _, fun _ => rfl, more.objects, Nat.lt_succ_self _, ?_⟩
    rintro own others known other different
    cases Option.some.inj known
    exact Entries.value?_put_other fields _ different.symm
  | cons first way inductionHypothesis =>
    obtain ⟨identity, fields, field, rfl, stands, onward⟩ := edit_leads leads
    simp only [List.cons_append,
      edit_object change identity fields first (way ++ name :: rest) store stands]
    obtain ⟨made, inner, known, new, old, shares⟩ := inductionHypothesis onward
    have held := Entries.value?_put_self fields first
      (.held ((field.peek registry store).1.edit registry change (way ++ name :: rest)
        (field.peek registry store).2).2.1)
    refine ⟨made, inner, fun last => ?_, ?_, Nat.lt_succ_of_lt old, ?_⟩
    · exact (known?_object _ way held rfl).trans (known last)
    · exact Nat.le_trans (Store.Adds.peek registry field store).objects new
    · intro own others knownBase
      obtain ⟨_, _, _, next, same, standsBase, worked, onwardBase⟩ := known?_cons knownBase
      cases same
      obtain rfl := Option.some.inj (stands.symm.trans standsBase)
      rw [(field.read_known registry worked).2] at shares
      exact shares own others onwardBase

/-- An edit forks from what it edits. -/
theorem edit_forks {change : Edit α} (adds : change.Adds) {path : List String}
    (leads : (value.edit registry change path store).1.isSome) :
    value.Forks path store (value.edit registry change path store).2.2
      (value.edit registry change path store).2.1 := by
  refine ⟨fun last => known?_edited last leads, ?_⟩
  rintro way name rest rfl
  exact edit_turn adds way leads

/-- What forks from a fork has forked from the base. -/
theorem Value.Forks.trans {path : List String} {before between after : Store}
    {base result last : Value} (first : base.Forks path before between result)
    (second : result.Forks path between after last)
    (adds : before.objects ≤ between.objects) : base.Forks path before after last := by
  refine ⟨second.known, fun way name rest split => ?_⟩
  obtain ⟨_, fields, knownFirst, -, -, sharesFirst⟩ := first.turns way name rest split
  obtain ⟨identity, inner, known, new, bound, shares⟩ := second.turns way name rest split
  refine ⟨identity, inner, known, Nat.le_trans adds new, bound, ?_⟩
  intro own others knownBase other different
  rw [shares _ fields (knownFirst between) other different]
  exact sharesFirst own others knownBase other different

/-- A fork is one already from what the base became before it. -/
theorem Value.Forks.earlier {path : List String} {before between after : Store}
    {base result : Value} (forks : base.Forks path between after result)
    (adds : before.Adds between) : base.Forks path before after result := by
  refine ⟨forks.known, fun way name rest split => ?_⟩
  obtain ⟨identity, fields, known, new, bound, shares⟩ := forks.turns way name rest split
  refine ⟨identity, fields, known, Nat.le_trans adds.objects new, bound, ?_⟩
  intro own others knownBase
  exact shares own others (known?_persists (.of_values adds.same) knownBase)

/-- A fork stays one while objects are made. -/
theorem Value.Forks.later {path : List String} {before after last : Store} {base result : Value}
    (forks : base.Forks path before after result) (more : after.objects ≤ last.objects) :
    base.Forks path before last result := by
  refine ⟨forks.known, fun way name rest split => ?_⟩
  obtain ⟨identity, fields, known, new, bound, shares⟩ := forks.turns way name rest split
  exact ⟨identity, fields, known, new, Nat.lt_of_lt_of_le bound more, shares⟩

/-! ## Recipes that assign -/

/-- The recipe that assigns contents at a path of a draft, one after another. -/
def assigning (draft : String) (path : List String) (contents : List Content) :
    List Instruction :=
  contents.map fun content => .step (.operate draft (.write path (.assign content)))

/-- A content that copies nothing but whole named values, so that nothing is read for it. -/
def Content.Whole (content : Content) : Prop := ∀ copy ∈ content.copies, copy.2 = []

mutual

theorem content_adds {bindings : Entries Value} : (content : Content) → content.Whole →
    (store : Store) → store.Adds (content.value registry bindings store).2
  | .list items, whole, store => contentItems_add items whole store
  | .object fields, whole, store =>
    (contentFields_add fields whole store).trans (.newObject _ _)
  | .copy source path, whole, store => by
    obtain rfl : path = [] := whole (source, path) (List.mem_singleton_self _)
    rw [Content.value, copyOf]
    cases bindings.value? source <;> exact .refl store
  | .absent, _, store | .null, _, store | .boolean _, _, store | .int _, _, store
  | .float _, _, store | .string _, _, store | .enum _, _, store | .raw _, _, store => .refl store

theorem contentItems_add {bindings : Entries Value} : (items : List Content) →
    (∀ copy ∈ itemCopies items, copy.2 = []) → (store : Store) →
    store.Adds (contentItems registry bindings items store).2
  | [], _, store => .refl store
  | item :: rest, whole, store => by
    obtain ⟨first, others⟩ := List.forall_mem_append.mp whole
    exact (content_adds item first store).trans (contentItems_add rest others _)

theorem contentFields_add {bindings : Entries Value} : (fields : List (String × Content)) →
    (∀ copy ∈ fieldCopies fields, copy.2 = []) → (store : Store) →
    store.Adds (contentFields registry bindings fields store).2
  | [], _, store => .refl store
  | (_, content) :: rest, whole, store => by
    obtain ⟨first, others⟩ := List.forall_mem_append.mp whole
    exact (content_adds content first store).trans (contentFields_add rest others _)

end

/-- What an assignment puts at the end of the path, and answers. -/
def settle (replacement : Value) : Edit Answer := fun _ store => (.done, replacement, store)

theorem settle_adds (replacement : Value) : (settle replacement).Adds := fun _ store => .refl store

/-- A step that assigns works the content out and then edits the draft, which so forks. -/
theorem assigned_step {session : Session} {draft : String} {path : List String}
    {content : Content} (stands : session.bindings.value? draft = some value)
    (whole : content.Whole)
    (leads : ∀ replacement, (value.edit session.registry (settle replacement) path
      (content.value session.registry session.bindings session.store).2).1.isSome) :
    let next := (session.step (.operate draft (.write path (.assign content)))).2
    ∃ result between, next.bindings.value? draft = some result ∧ session.store.Adds between ∧
      value.Forks path between next.store result ∧ between.Adds next.store := by
  have worked : session.store.Adds
      (content.value session.registry session.bindings session.store).2 :=
    content_adds content whole session.store
  simp only [Session.step, stands, Operation.run, Writing.edit, Value.assign, Session.keep]
  generalize content.value session.registry session.bindings session.store = done at leads worked ⊢
  have adds := settle_adds done.1
  exact ⟨_, done.2, Entries.value?_put_self _ _ _, worked, edit_forks adds (leads done.1),
    edit_adds session.registry adds path value done.2⟩

/-- Further assignments keep what has forked a fork. -/
theorem assigning_forks_on {path : List String} {before : Store} {base : Value} {draft : String}
    {contents : List Content} (whole : ∀ content ∈ contents, content.Whole) {session : Session}
    (stands : session.bindings.value? draft = some value)
    (forks : base.Forks path before session.store value) (adds : before.Adds session.store) :
    let after := (runScript (assigning draft path contents) session).2
    ∃ result, after.bindings.value? draft = some result ∧
      base.Forks path before after.store result ∧ before.Adds after.store := by
  induction contents generalizing session value with
  | nil => exact ⟨value, stands, forks, adds⟩
  | cons content rest inductionHypothesis =>
    obtain ⟨first, others⟩ := List.forall_mem_cons.mp whole
    obtain ⟨result, between, standsNext, worked, forksNext, addsNext⟩ :=
      assigned_step stands first fun replacement =>
        edit_known_leads session.registry (settle replacement) (forks.known _)
    have since := adds.trans worked
    apply inductionHypothesis others standsNext
    · exact (forks.later worked.objects).trans forksNext since.objects
    · exact since.trans addsNext

/-- The first assignment forks the draft from its base. -/
theorem assigning_forks {accessor : Accessor} {session : Session} {alone : PrivateSession}
    (mirrors : session.Mirrors accessor plan alone) {path : List String} {draft : String}
    (stands : session.bindings.value? draft = some value)
    (found : (value.get? session.registry path session.store).1.isSome) {contents : List Content}
    (nonempty : contents ≠ []) (whole : ∀ content ∈ contents, content.Whole) :
    let after := (runScript (assigning draft path contents) session).2
    ∃ result, after.bindings.value? draft = some result ∧
      value.Forks path session.store after.store result ∧ session.store.Adds after.store := by
  obtain ⟨content, rest, rfl⟩ := List.exists_cons_of_ne_nil nonempty
  obtain ⟨first, others⟩ := List.forall_mem_cons.mp whole
  have leads (replacement : Value) : (value.edit session.registry (settle replacement) path
      (content.value session.registry session.bindings session.store).2).1.isSome := by
    obtain ⟨grown, grows, followsOn, -⟩ := content_stands mirrors.follows mirrors.bindings content
    have planned := mirrors.bindings.planned _ (Entries.mem_of_value? stands)
    rw [mirrors.toNamed.registry] at found ⊢
    rw [isSome_edit followsOn (value.planned_grows grows planned),
      isSome_get?_stands followsOn ⟨value.planned_grows grows planned, rfl⟩,
      ← isSome_get?_stands mirrors.follows ⟨planned, rfl⟩]
    exact found
  obtain ⟨result, between, standsNext, worked, forks, adds⟩ := assigned_step stands first leads
  exact assigning_forks_on others standsNext (forks.earlier worked) (worked.trans adds)

/-! ## Reading both later -/

/-- On the way to what a path finds stand objects. -/
theorem found_on_way {way : List String} {name : String} {rest : List String}
    (found : (value.get? registry (way ++ name :: rest) store).1.isSome) :
    ∃ identity fields, (value.get? registry way store).1 = some (.object identity fields) := by
  induction way generalizing value store with
  | nil =>
    cases value with
    | object identity fields => exact ⟨identity, fields, rfl⟩
    | absent | null | boolean _ | int _ | float _ | string _ | enum _ | raw _ | list _ => cases found
  | cons first way inductionHypothesis =>
    rw [List.cons_append, get?_cons] at found
    rw [get?_cons]
    generalize value.get? registry [first] store = read at found ⊢
    obtain ⟨_ | next, after⟩ := read
    · cases found
    · exact inductionHypothesis found

/-- A path is read behind what is known. -/
theorem get?_behind {way : List String} {found : Value}
    (known : value.known? store way = some found) (rest : List String) :
    value.get? registry (way ++ rest) store = found.get? registry rest store := by
  induction way generalizing value with
  | nil =>
    obtain rfl := Option.some.inj known
    rfl
  | cons name way inductionHypothesis =>
    obtain ⟨identity, fields, field, next, rfl, stands, worked, onward⟩ := known?_cons known
    rw [List.cons_append, get?_object]
    simp only [readField, stands, (field.read_known registry worked).1]
    exact inductionHypothesis onward

/-- A path of one name reads the field of the name. -/
theorem get?_field (identity : Nat) (fields : List (String × Field)) (name : String)
    (store : Store) :
    (Value.object identity fields).get? registry [name] store =
      readField registry fields name store := by
  rw [get?_object]
  generalize readField registry fields name store = read
  obtain ⟨_ | value, after⟩ := read <;> rfl

/-- Reading a field again finds what was read. -/
theorem readField_again (follows : store.Follows registry plan) {fields : Entries Field}
    (planned : ∀ entry ∈ fields, entry.2.Planned plan) (name : String) :
    readField registry fields name (readField registry fields name store).2 =
      readField registry fields name store := by
  cases stands : fields.value? name with
  | none => simp only [readField, stands]
  | some field =>
    have known := field.known_of_read follows (value?_planned planned stands).1
    simp only [readField, stands, (field.read_known registry known).1]

/-- Whether an object is seen. -/
def Face.isObject : Face → Bool
  | .object _ => true
  | _ => false

theorem isSome_identity? (value : Value) : value.identity?.isSome = value.face.isObject := by
  cases value <;> rfl

/-- A path finds an object if one is seen behind it. -/
theorem isObject_found (path : List String) (value : Value) (store : Store) :
    ((value.get? registry path store).1.bind (·.identity?)).isSome =
      (value.seen registry (Place.ofPath path) store).any Face.isObject := by
  rw [← List.append_nil (Place.ofPath path), seen_ofPath]
  generalize value.get? registry path store = read
  obtain ⟨_ | found, after⟩ := read
  · rfl
  · exact isSome_identity? found

/-- What a path finds is an object at any time or at none. -/
theorem isObject_later {last : Store} {grown : Plan} (follows : store.Follows registry plan)
    (planned : value.Planned plan) (followsLast : last.Follows registry grown)
    (plannedLast : value.Planned grown) (path : List String) :
    ((value.get? registry path last).1.bind (·.identity?)).isSome =
      ((value.get? registry path store).1.bind (·.identity?)).isSome := by
  rw [isObject_found, isObject_found, seen_stands followsLast ⟨plannedLast, rfl⟩,
    seen_stands follows ⟨planned, rfl⟩]

namespace Session

variable {ground grown last : Ground registry} {moment after later : Session}
  {base result : Value} {path way : List String} {name : String} {rest : List String}
  {left right : String}

/-- What is told about two values that are found one after the other. -/
theorem sameObject_found {session : Session} {way : List String} {value other : Value}
    {between store : Store}
    (first : copyOf session.registry session.bindings left way session.store =
      (some value, between))
    (second : copyOf session.registry session.bindings right way between = (some other, store)) :
    (session.step (.sameObject (left, way) (right, way))).1 =
      .sameObject (value.sameObject? other) := by
  simp only [step, first, second]
  rfl

/-- On the way to the path no object is found in both. The object of the base was there before the
draft or is made after it, and the one of the result was made in between. -/
theorem forked_told_apart (rests : moment.Rests ground) (restsAfter : after.Rests grown)
    (restsLater : later.Rests last) (grows : grown ≤ last) (adds : moment.store.Adds after.store)
    {source : String} (stands : moment.bindings.value? source = some base)
    (standsLeft : later.bindings.value? left = some base)
    (standsRight : later.bindings.value? right = some result)
    (found : (base.get? registry (way ++ name :: rest) later.store).1.isSome)
    (forks : base.Forks (way ++ name :: rest) moment.store after.store result) :
    (later.step (.sameObject (left, way) (right, way))).1 = .sameObject (some false) ∧
      (later.step (.sameObject (right, way) (left, way))).1 = .sameObject (some false) := by
  obtain ⟨identity, fields, known, new, old, -⟩ := forks.turns way name rest rfl
  obtain ⟨own, others, finds⟩ := found_on_way found
  have different : own ≠ identity := by
    rintro rfl
    have reached := Ground.found_reached (restsLater.named left base standsLeft)
      (restsLater.same.symm ▸ finds) (.object own others) List.mem_cons_self
    obtain ⟨read, growsRead, fits, -⟩ := Discipline.get?_kept last.fits_alone
      (restsLater.named left base standsLeft) way
    have develops : after.store.Develops read.store := by
      rw [← restsAfter.same]
      exact (grows.trans growsRead).1
    rw [← fits.same] at reached
    have before := Store.reaches_of_values adds.same (develops.reached_before reached old)
    exact Nat.not_lt.mpr new (rests.bounded.reaches (rests.has stands) before)
  have findsBase : copyOf later.registry later.bindings left way later.store =
      (some (.object own others), (base.get? registry way later.store).2) := by
    rw [copyOf_named _ standsLeft, restsLater.registered, ← finds]
  have findsResult (store : Store) : copyOf later.registry later.bindings right way store =
      (some (.object identity fields), store) := by
    rw [copyOf_named _ standsRight, get?_known _ (known store)]
  constructor
  · rw [sameObject_found findsBase (findsResult _)]
    simp [Value.sameObject?, Value.identity?, different]
  · rw [sameObject_found (findsResult _) findsBase]
    simp [Value.sameObject?, Value.identity?, different.symm]

/-- The fields of an object that is known in a named value are planned. -/
theorem Rests.known_fields_planned {session : Session} (rests : session.Rests ground)
    (stands : session.bindings.value? name = some value) {identity : Nat}
    {fields : Entries Field}
    (known : value.known? session.store way = some (.object identity fields)) :
    ∃ plan, session.store.Follows registry plan ∧ ∀ entry ∈ fields, entry.2.Planned plan := by
  have planned := (Ground.within_alone.mp (rests.named name value stands)).2
  obtain ⟨grown, -, follows, found⟩ :=
    get?_stands (rests.same ▸ ground.follows) ⟨planned, rfl⟩ way
  rw [get?_known registry known] at follows found
  generalize value.tree.get? registry way = tree? at found
  cases found with
  | some stands => exact ⟨grown, follows, (planned_object _ _ _).mp stands.planned⟩

/-- Next to the path one object is found in both, if the object of the base was resolved there. The
two objects have one field, whichever of them it is read in first. -/
theorem shared_told_same (restsLater : later.Rests last)
    (persists : moment.store.Persists later.store)
    (standsLeft : later.bindings.value? left = some base)
    (standsRight : later.bindings.value? right = some result)
    (forks : base.Forks (way ++ name :: rest) moment.store after.store result)
    {object : Value} (resolved : base.known? moment.store way = some object) {other : String}
    (beside : other ≠ name)
    (isObject : ((base.get? registry (way ++ [other]) later.store).1.bind
      (·.identity?)).isSome) :
    (later.step (.sameObject (left, way ++ [other]) (right, way ++ [other]))).1 =
        .sameObject (some true) ∧
      (later.step (.sameObject (right, way ++ [other]) (left, way ++ [other]))).1 =
        .sameObject (some true) := by
  obtain ⟨identity, fields, known, -, -, shares⟩ := forks.turns way name rest rfl
  have knownBase := known?_persists persists resolved
  have readBase : base.get? registry (way ++ [other]) later.store =
      object.get? registry [other] later.store := get?_behind knownBase _
  rw [readBase] at isObject
  cases object with
  | absent | null | boolean _ | int _ | float _ | string _ | enum _ | raw _ | list _ =>
    cases isObject
  | object own others =>
  rw [get?_field] at readBase isObject
  obtain ⟨plan, follows, planned⟩ := restsLater.known_fields_planned standsLeft knownBase
  have again := readField_again follows planned other
  have readResult (store : Store) : result.get? registry (way ++ [other]) store =
      readField registry others other store := by
    rw [get?_behind (known store), get?_field]
    simp only [readField, shares own others resolved other beside]
  have readBaseAgain : base.get? registry (way ++ [other])
      (readField registry others other later.store).2 =
        readField registry others other later.store := by
    have kept := readField_persists registry others other later.store
    rw [get?_behind (known?_persists kept knownBase), get?_field, again]
  obtain ⟨key, isObject⟩ := Option.isSome_iff_exists.mp isObject
  obtain ⟨found, finds, same⟩ := Option.bind_eq_some_iff.mp isObject
  have told : found.sameObject? found = some true := by simp [Value.sameObject?, same]
  have read : readField registry others other later.store =
      (some found, (readField registry others other later.store).2) := by rw [← finds]
  rw [← told]
  constructor
  · apply sameObject_found
    · rw [copyOf_named _ standsLeft, restsLater.registered, readBase, read]
    · rw [copyOf_named _ standsRight, restsLater.registered, readResult, again, read]
  · apply sameObject_found
    · rw [copyOf_named _ standsRight, restsLater.registered, readResult, read]
    · rw [copyOf_named _ standsLeft, restsLater.registered, readBaseAgain, read]

end Session

open Session

/-- A recipe that assigns writes its draft only. -/
theorem assigning_writes {draft name : String} (other : draft ≠ name) (path : List String)
    (contents : List Content) : scriptWrites name (assigning draft path contents) = false := by
  induction contents with
  | nil => rfl
  | cons content rest inductionHypothesis =>
    rw [assigning, List.map_cons, scriptWrites, Bool.or_eq_false_iff]
    exact ⟨beq_eq_false_iff_ne.mpr other, inductionHypothesis⟩

/-- The name of the base is left alone unless the result takes it: that of the draft is put back
after the recipe. -/
theorem drafting_writes {source draft target : String} (other : target ≠ source)
    (path : List String) (contents : List Content) :
    (Instruction.produce source draft (assigning draft path contents) none target).writes source =
      false := by
  by_cases own : draft = source
  · simp [Instruction.writes, other, own]
  · simp [Instruction.writes, other, assigning_writes own]

/-- A draft shares with its base exactly what lies beside the path that its recipe assigns at. At
every moment of a script, let a recipe assign any contents at a path that leads to something in a
named value, one or more of them one after another, and read nothing for them. Then no cell has its
value that had none. At any later moment the base and the result have different objects at every
turn on the way to the path. If the object of the base was resolved there before, every object in
another one of its fields is found in the result too: it is one object, whether it was read before
or is first read later, in the base or in the result. -/
theorem drafts_share_beside_the_path (accessor : Accessor) (script : List Instruction) :
    ∀ moment ∈ scriptMoments script { accessor }, ∀ source base,
      moment.bindings.value? source = some base → ∀ path,
      (base.get? moment.registry path moment.store).1.isSome → ∀ draft target contents,
      contents ≠ [] → (∀ content ∈ contents, content.Whole) →
        let drafting := Instruction.produce source draft (assigning draft path contents) none target
        let after := (drafting.run moment).2
        ∃ result, after.bindings.value? target = some result ∧
          (target ≠ source → after.bindings.value? source = some base) ∧
          (∀ cell, after.store.value? cell = moment.store.value? cell) ∧
          ∀ further, ∀ later ∈ scriptMoments further after, ∀ left right,
            later.bindings.value? left = some base → later.bindings.value? right = some result →
            ∀ way name rest, path = way ++ name :: rest →
              ((later.step (.sameObject (left, way) (right, way))).1 = .sameObject (some false) ∧
                (later.step (.sameObject (right, way) (left, way))).1 =
                  .sameObject (some false)) ∧
              ∀ object, base.known? moment.store way = some object → ∀ other, other ≠ name →
                ((base.get? moment.registry (way ++ [other]) moment.store).1.bind
                  (·.identity?)).isSome →
                (later.step (.sameObject (left, way ++ [other]) (right, way ++ [other]))).1 =
                    .sameObject (some true) ∧
                  (later.step (.sameObject (right, way ++ [other]) (left, way ++ [other]))).1 =
                    .sameObject (some true) := by
  intro moment member source base stands path found draft target contents nonempty whole drafting
    after
  have sound := scriptMoments_sound script _ (start_sound accessor) moment member
  obtain ⟨plan, alone, mirrors⟩ := sound.mirrored
  have planned := mirrors.bindings.planned _ (Entries.mem_of_value? stands)
  have opened := (mirrors.toNamed.put draft ⟨planned, rfl⟩).mirrors mirrors.follows
  obtain ⟨result, bound, forks, adds⟩ :=
    assigning_forks opened (Entries.value?_put_self _ _ _) found nonempty whole
  generalize ended : (runScript (assigning draft path contents) _).2 = closing at bound forks adds
  have closed : after = moment.closed closing draft none target := by
    rw [← ended]
    simp only [after, drafting, Instruction.run, stands]
    rfl
  have standsTarget : after.bindings.value? target = some result := by
    rw [closed, Session.closed, Entries.value?_put_self, produced, bound]
    rfl
  have store : after.store = closing.store := by
    rw [closed]
    rfl
  rw [← store] at forks adds
  refine ⟨result, standsTarget, fun other => ?_, fun cell => congrFun adds.same cell, ?_⟩
  · rw [(drafting.run_leaves moment sound.once).same source (drafting_writes other path contents),
      stands]
  intro further later inside left right standsLeft standsRight way name rest split
  subst split
  obtain ⟨ground, -, rests⟩ := (start_rests accessor).moments script moment member
  obtain ⟨grown, grows, restsAfter⟩ := rests.run drafting
  obtain ⟨last, growsLast, restsLater⟩ := restsAfter.moments further later inside
  have follows : moment.store.Follows accessor.registry ground.plan := rests.same ▸ ground.follows
  have followsLater : later.store.Follows accessor.registry last.plan :=
    restsLater.same ▸ last.follows
  have own := (Ground.within_alone.mp (rests.named source base stands)).2
  have ownLater := (Ground.within_alone.mp (restsLater.named left base standsLeft)).2
  have registered := rests.registered
  constructor
  · apply forked_told_apart rests restsAfter restsLater growsLast adds stands standsLeft standsRight
      _ forks
    rw [isSome_get?_stands followsLater ⟨ownLater, rfl⟩,
      ← isSome_get?_stands follows ⟨own, rfl⟩, ← registered]
    exact found
  · intro object resolved other beside isObject
    apply shared_told_same restsLater (rests.develops (grows.trans growsLast) restsLater).persists
      standsLeft standsRight forks resolved beside
    rw [isObject_later follows own followsLater ownLater, ← registered]
    exact isObject

/-- A user whose friend is named in a draft has another friend there, and one best friend in both,
who is first read in the draft. -/
theorem best_friend_is_shared :
    let fields := [("friend", Default.factory "User"), ("best", .factory "User"),
      ("name", .emptyString)]
    let accessor := Accessor.recipe ⟨[⟨"User", .object, .record (some "User") fields⟩]⟩
    let moment := (runScript [.step (.fixture "User" "user")] { accessor }).2
    let recipe := assigning "draft" ["friend", "name"] [.string "Ann"]
    let after := ((Instruction.produce "user" "draft" recipe none "next").run moment).2
    (after.step (.sameObject ("user", ["friend"]) ("next", ["friend"]))).1 =
        .sameObject (some false) ∧
      (after.step (.sameObject ("next", ["best"]) ("user", ["best"]))).1 =
        .sameObject (some true) := by
  intro fields accessor moment recipe after
  obtain ⟨user, stands⟩ : ∃ user, moment.bindings.value? "user" = some user :=
    Option.isSome_iff_exists.mp (by decide +kernel)
  have found : ((moment.bindings.value? "user").bind fun user =>
      (user.get? moment.registry ["friend", "name"] moment.store).1).isSome = true := by
    decide +kernel
  have isObject : (((moment.bindings.value? "user").bind fun user =>
      (user.get? moment.registry ([] ++ ["best"]) moment.store).1).bind
        (·.identity?)).isSome = true := by decide +kernel
  rw [stands, Option.bind_some] at found isObject
  have whole : ∀ content ∈ [Content.string "Ann"], content.Whole := by
    simp [Content.Whole, Content.copies]
  obtain ⟨next, standsNext, kept, -, later⟩ := drafts_share_beside_the_path accessor _ moment
    (runScript_mem_moments _ _) "user" user stands ["friend", "name"] found "draft" "next"
    [.string "Ann"] (by simp) whole
  have both := later [] after (List.mem_singleton_self _) "user" "next" (kept (by decide)) standsNext
  exact ⟨(both ["friend"] "name" [] rfl).1.1,
    ((both [] "friend" ["name"] rfl).2 user rfl "best" (by decide) isObject).2⟩

end SchemaFixtures.Fixture
