import SchemaFixtures.Proofs.Fixture.Development
import SchemaFixtures.Proofs.Fixture.Stability

/-!
# What a copy finds

A copy finds what a path leads to in a named value. If that is apart from some parts now, then it
is whenever the copy is made later, though the objects that it finds may be others by then: a cell
on the path that is still empty is either apart from the parts, with all that ever appears in it,
or it is one that they reach. In that case a copy that is apart from them can only have found what
has no parts at all, and will find the same again.
-/

namespace SchemaFixtures.Fixture

/-! ## Values without parts -/

mutual

/-- No object stands in a tree. -/
def Tree.Bare : Tree → Prop
  | .list items => TreesBare items
  | .object _ => False
  | _ => True

/-- No object stands in trees. -/
def TreesBare : List Tree → Prop
  | [] => True
  | item :: rest => item.Bare ∧ TreesBare rest

end

mutual

/-- A value has no parts exactly if no object stands in its tree. -/
theorem bare_iff : (value : Value) → (value.tree.Bare ↔ value.parts = [])
  | .list items => by rw [Value.tree, Tree.Bare, Value.parts, items_bare_iff items]
  | .object identity fields => by simp [Value.tree, Tree.Bare, Value.parts]
  | .absent | .null | .boolean _ | .int _ | .float _ | .string _ | .enum _ | .raw _ => by
    simp [Value.tree, Tree.Bare, Value.parts]

theorem items_bare_iff : (items : List Value) →
    (TreesBare (valueTrees items) ↔ itemsParts items = [])
  | [] => by simp [valueTrees, TreesBare, itemsParts]
  | item :: rest => by
    rw [valueTrees, TreesBare, itemsParts, List.append_eq_nil_iff, bare_iff item,
      items_bare_iff rest]

end

/-! ## Grounds without other parts -/

/-- The discipline of what is apart from some parts, whatever appears in their cells. -/
abbrev awayFrom (registry : Registry) (parts : List Part) : Discipline registry (Ground registry) :=
  apartFrom registry parts {} fun _ => False

/-- The discipline of stores alone. -/
abbrev grounds (registry : Registry) : Discipline registry (Ground registry) :=
  awayFrom registry []

namespace Ground

variable {registry : Registry} {ground grown : Ground registry} {parts : List Part}

/-- A ground fits its store. -/
theorem fits (ground : Ground registry) (has : ∀ part ∈ parts, ground.store.Has part.key) :
    (awayFrom registry parts).fits ground ground.store :=
  ⟨rfl, has, fun _ never => never.elim⟩

theorem fits_alone (ground : Ground registry) : (grounds registry).fits ground ground.store :=
  ground.fits fun _ none => absurd none List.not_mem_nil

/-- What a ground allows alone is what is there and planned. -/
theorem within_alone {value : Value} : value.Within (ground.Allows []) ↔
    (value.Within fun part => ground.store.Has part.key) ∧ value.Planned ground.plan := by
  rw [within_allows fun _ none => absurd none List.not_mem_nil]
  refine ⟨fun all => ⟨all.1, all.2.1⟩, fun both => ⟨both.1, both.2, fun _ _ _ reached => ?_⟩⟩
  obtain ⟨_, none, _⟩ := reached.single
  exact absurd none List.not_mem_nil

theorem has_grows (grows : ground ≤ grown) (has : ∀ part ∈ parts, ground.store.Has part.key) :
    ∀ part ∈ parts, grown.store.Has part.key :=
  fun part member => grows.1.has _ (has part member)

/-- What has been read of a field is reached from it. -/
theorem read_reached {field : Field} (within : field.Within (ground.Allows [])) :
    ∀ part ∈ (field.read registry ground.store).1.parts,
      (field.read registry ground.store).2.Reaches field.parts part := by
  intro part stands
  have planned : field.Planned ground.plan :=
    (field_planned_iff_within ground.plan field).mpr (within.imp fun _ allowed => allowed.planned)
  have known := field.known_of_read ground.follows planned
  cases field with
  | held value => exact .here stands
  | later place default => exact .through (.here (List.mem_singleton_self _)) known stands

/-- What a path finds is reached from where it starts. -/
theorem found_reached {value : Value} (within : value.Within (ground.Allows []))
    {path : List String} {found : Value}
    (finds : (value.get? registry path ground.store).1 = some found) :
    ∀ part ∈ found.parts, (value.get? registry path ground.store).2.Reaches value.parts part := by
  induction path generalizing value ground with
  | nil =>
    obtain rfl : value = found := Option.some.inj finds
    exact fun part stands => .here stands
  | cons name rest inductionHypothesis =>
    cases value with
    | object identity fields =>
      rw [get?_object] at finds ⊢
      cases stands : Entries.value? fields name with
      | none => simp [readField, stands] at finds
      | some field =>
        have inside := within_value? ((within_object _ _).mp within).2 stands
        have reached := ground.read_reached inside
        obtain ⟨read, _, fitsRead, kept⟩ := Discipline.read_kept ground.fits_alone inside
        simp only [readField, stands] at finds ⊢
        rw [← fitsRead.same] at finds reached ⊢
        obtain ⟨last, grows, fitsLast, _⟩ := Discipline.get?_kept read.fits_alone kept rest
        intro part inner
        refine (inductionHypothesis kept finds part inner).imp fun first member => ?_
        have before := grows.1.reaches (reached first member)
        rw [fitsLast.same] at before
        refine before.imp fun own standing => .here (List.mem_cons_of_mem _ ?_)
        exact mem_fieldsParts.mpr ⟨_, Entries.mem_of_value? stands, standing⟩
    | absent | null | boolean _ | int _ | float _ | string _ | enum _ | raw _ | list _ =>
      simp [Value.get?] at finds

/-- An empty cell reaches nothing but itself. -/
theorem reaches_empty {store : Store} {place : Cell} {default : Default} {part : Part}
    (empty : store.value? place = none) (reached : store.Reaches [.cell place default] part) :
    part = .cell place default := by
  induction reached with
  | here stands => exact List.mem_singleton.mp stands
  | through _ filled _ inductionHypothesis =>
    cases inductionHypothesis
    exact absurd (empty.symm.trans filled) nofun

/-- An empty cell is apart from parts, if something that is apart from them has a part, and is
reached from what appears in the cell. -/
theorem empty_apart {after : Store} {place : Cell} {default : Default} {content : Value}
    {found : Part} (empty : ground.store.value? place = none)
    (develops : ground.store.Develops after) (filled : after.value? place = some content)
    (reached : after.Reaches content.parts found)
    (apart : after.Apart [found] parts) : ground.store.Apart [.cell place default] parts := by
  intro part other own foundOther same
  cases reaches_empty empty own
  cases other with
  | object identity fields => cases same
  | cell shared another =>
    obtain rfl : place = shared := Key.cell.inj same
    refine apart found found (.here (List.mem_singleton_self _)) ?_ rfl
    exact reached.imp fun inner stands => .through (develops.reaches foundOther) filled stands

/-- An empty cell is allowed beside some parts, if a path finds something behind it that has a
part and is apart from them. -/
theorem filled_allowed (others : ∀ part ∈ parts, ground.store.Has part.key) {place : Cell}
    {default : Default} (within : (Field.later place default).Within (ground.Allows []))
    (empty : ground.store.value? place = none) {path : List String} {found : Value} {first : Part}
    (finds : (((Field.later place default).read registry ground.store).1.get? registry path
      ((Field.later place default).read registry ground.store).2).1 = some found)
    (stands : first ∈ found.parts)
    (apart : (((Field.later place default).read registry ground.store).1.get? registry path
      ((Field.later place default).read registry ground.store).2).2.Apart found.parts parts) :
    ground.Allows parts (.cell place default) := by
  have own := (within_later _ _).mp within
  have filled := (Field.later place default).known_of_read ground.follows own.planned
  obtain ⟨read, growsRead, fitsRead, kept⟩ := Discipline.read_kept ground.fits_alone within
  rw [← fitsRead.same] at finds apart filled
  obtain ⟨last, growsLast, fitsLast, _⟩ := Discipline.get?_kept read.fits_alone kept path
  have reached := found_reached kept finds first stands
  rw [← fitsLast.same] at apart reached
  refine ⟨own.has, own.planned, others, ?_⟩
  exact empty_apart empty (growsRead.trans growsLast).1 (growsLast.1.persists _ _ filled) reached
    (apart_iff.mp apart first stands)

/-- What a path finds behind a field that is allowed beside some parts is apart from them. -/
theorem behind_apart (others : ∀ part ∈ parts, ground.store.Has part.key) {field : Field}
    (within : field.Within (ground.Allows parts)) {path : List String} {found : Value}
    (finds : ((field.read registry ground.store).1.get? registry path
      (field.read registry ground.store).2).1 = some found) :
    ((field.read registry ground.store).1.get? registry path
      (field.read registry ground.store).2).2.Apart found.parts parts := by
  obtain ⟨read, _, fitsRead, kept⟩ := Discipline.read_kept (ground.fits others) within
  obtain ⟨last, _, fitsLast, keptLast⟩ := Discipline.get?_kept fitsRead kept path
  rw [← fitsLast.same]
  exact ((within_allows (fitsLast.same ▸ fitsLast.has)).mp (keptLast found finds)).2.2

/-- What a path finds is apart from some parts later, if it is apart from them now and has parts
itself. -/
theorem found_apart (others : ∀ part ∈ parts, ground.store.Has part.key) (grows : ground ≤ grown)
    {path : List String} {value found later : Value} (within : value.Within (ground.Allows []))
    (finds : (value.get? registry path ground.store).1 = some found) (first : Part)
    (stands : first ∈ found.parts)
    (apart : (value.get? registry path ground.store).2.Apart found.parts parts)
    (findsLater : (value.get? registry path grown.store).1 = some later) :
    (value.get? registry path grown.store).2.Apart later.parts parts := by
  induction path generalizing value with
  | nil =>
    obtain rfl : value = found := Option.some.inj finds
    obtain rfl : value = later := Option.some.inj findsLater
    exact grows.1.apart ground.bounded (within_alone.mp within).1 others apart
  | cons name rest inductionHypothesis =>
    cases value with
    | object identity fields =>
      rw [get?_object] at finds apart findsLater ⊢
      cases named : Entries.value? fields name with
      | none => simp [readField, named] at finds
      | some field =>
        have inside := within_value? ((within_object _ _).mp within).2 named
        simp only [readField, named] at finds apart findsLater ⊢
        cases known : field.known? ground.store with
        | some content =>
          have still := field.known?_persists grows.1.persists known
          simp only [(field.read_known registry known).1,
            (field.read_known registry still).1] at finds apart findsLater ⊢
          have kept : content.Within (ground.Allows []) := by
            cases field with
            | held value => cases known; exact (within_held _).mp inside
            | later place default =>
              exact (grounds registry).known ground.fits_alone ((within_later _ _).mp inside) known
          exact inductionHypothesis kept finds apart findsLater
        | none =>
          cases field with
          | held value => cases known
          | later place default =>
            have allowed := filled_allowed others inside known finds stands apart
            exact behind_apart (has_grows grows others)
              ((within_later _ _).mpr (allowed.mono grows)) findsLater
    | absent | null | boolean _ | int _ | float _ | string _ | enum _ | raw _ | list _ =>
      simp [Value.get?] at finds

/-- What a path finds is apart from some parts whenever it is read, if it is now. -/
theorem found_kept (others : ∀ part ∈ parts, ground.store.Has part.key) (grows : ground ≤ grown)
    {value : Value} (within : value.Within (ground.Allows [])) (path : List String)
    (apart : ∀ found, (value.get? registry path ground.store).1 = some found →
      (value.get? registry path ground.store).2.Apart found.parts parts) :
    (awayFrom registry parts).Keeps grown (value.get? registry path grown.store).2 fun last =>
      ∀ found ∈ (value.get? registry path grown.store).1, found.Within (last.Allows parts) := by
  have withinLater : value.Within (grown.Allows []) := within.imp fun _ => Allows.mono grows
  obtain ⟨last, growsLast, fitsLast, kept⟩ :=
    Discipline.get?_kept grown.fits_alone withinLater path
  have has := has_grows (grows.trans growsLast) others
  refine ⟨last, growsLast, ⟨fitsLast.same, fitsLast.same ▸ has, fun _ never => never.elim⟩,
    fun later finds => (within_allows has).mpr ?_⟩
  obtain ⟨inside, planned⟩ := within_alone.mp (kept later finds)
  refine ⟨inside, planned, ?_⟩
  -- The same tree is found at both times.
  obtain ⟨_, _, _, tells⟩ :=
    get?_stands ground.follows ⟨(within_alone.mp within).2, rfl⟩ path
  obtain ⟨_, _, _, tellsLater⟩ :=
    get?_stands grown.follows ⟨(within_alone.mp withinLater).2, rfl⟩ path
  rw [Option.mem_def.mp finds] at tellsLater
  generalize value.tree.get? registry path = tree? at tells tellsLater
  cases tellsLater with
  | @some _ tree standsLater =>
    generalize read : value.get? registry path ground.store = done at tells
    obtain ⟨found?, after⟩ := done
    cases tells with
    | @some found _ stands =>
      have finds' : (value.get? registry path ground.store).1 = some found := by rw [read]
      cases parts' : found.parts with
      | nil =>
        have bare : later.parts = [] := by
          rw [← bare_iff, standsLater.same, ← stands.same, bare_iff, parts']
        intro part other reached
        obtain ⟨_, none, _⟩ := reached.single
        rw [bare] at none
        exact absurd none List.not_mem_nil
      | cons first rest =>
        rw [fitsLast.same]
        exact found_apart others grows within finds' first
          (by rw [parts']; exact List.mem_cons_self) (apart found finds') finds

end Ground

end SchemaFixtures.Fixture
