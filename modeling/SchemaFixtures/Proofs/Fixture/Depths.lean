import SchemaFixtures.Proofs.Fixture.Demand
import SchemaFixtures.Proofs.Fixture.LastingTrees
import SchemaFixtures.Proofs.Fixture.Lenses

/-!
# All depths show one value

A value may unfold without an end. Its JSON shows it to a depth, and a field on the way may be
worked out by the conversion that comes first. No conversion shows anything that another one does
not: the JSON to a depth is the JSON to any greater depth, cut at the objects that lie as many
levels down. What is left of such an object is the name of its type, which a lesser depth can keep
only if it is a text.

Above the cut the JSON shows what a reader sees: the names of an object in their order, without
those that have no value, and every item of a list, where one without a value is null.
-/

namespace SchemaFixtures

open Fixture (Place typenameField)

namespace Json

mutual

/-- The JSON whose objects so many levels down keep nothing but the name of their type. An array is
no level. -/
def cut : (depth : Nat) → Json → Json
  | depth, .array items => .array (cutItems depth items)
  | 0, .object members =>
    .object ((Entries.value? members typenameField).toList.map fun name => (typenameField, name))
  | depth + 1, .object members => .object (cutMembers depth members)
  | _, json => json

/-- Cuts the items of an array. -/
def cutItems (depth : Nat) : List Json → List Json
  | [] => []
  | item :: rest => item.cut depth :: cutItems depth rest

/-- Cuts the members of an object. -/
def cutMembers (depth : Nat) : List (String × Json) → List (String × Json)
  | [] => []
  | (name, member) :: rest => (name, member.cut depth) :: cutMembers depth rest

end

/-- The JSON at a place. -/
def at? : Place → Json → Option Json
  | [], json => some json
  | .field name :: rest, .object members => (Entries.value? members name).bind (at? rest)
  | .item index :: rest, .array items => items[index]?.bind (at? rest)
  | _ :: _, _ => none

theorem cutItems_eq (depth : Nat) (items : List Json) :
    cutItems depth items = items.map (·.cut depth) := by
  induction items with
  | nil => rfl
  | cons item rest inductionHypothesis => rw [cutItems, inductionHypothesis, List.map_cons]

theorem cutMembers_eq (depth : Nat) (members : List (String × Json)) :
    cutMembers depth members = Entries.mapValues (·.cut depth) members := by
  induction members with
  | nil => rfl
  | cons member rest inductionHypothesis =>
    rw [cutMembers, inductionHypothesis, Entries.mapValues, Entries.mapValues, List.map_cons]

end Json

namespace Fixture

/-! ## Objects that state their types -/

/-- What a reader sees at every place. -/
abbrev View := Place → Option Face

/-- What a reader sees of a value in a store. -/
def Value.view (registry : Registry) (value : Value) (store : Store) : View :=
  fun place => value.seen registry place store

/-- What a reader sees of a tree. -/
def Tree.view (registry : Registry) (tree : Tree) : View := fun place => tree.seen registry place

/-- What states the type of an object is a text or no value. -/
def View.StatesTypes (view : View) : Prop :=
  ∀ place face, view (place ++ [.field typenameField]) = some face →
    face = .absent ∨ ∃ text, face = .string text

/-- A tree whose objects have every name once and state their types. -/
structure Tree.Regular (registry : Registry) (tree : Tree) : Prop where
  once : tree.All DistinctNames
  stated : (tree.view registry).StatesTypes

variable {registry : Registry} {tree : Tree} {branches : Entries Branch} {name : String}
  {branch : Branch} {place : Place} {face : Face} {depth shallow deep : Nat}

theorem Tree.view_item {items : List Tree} {index : Nat} {item : Tree}
    (stands : items[index]? = some item) (place : Place) :
    (Tree.list items).view registry (.item index :: place) = item.view registry place := by
  rw [Tree.view, Tree.seen, Tree.items?, Option.bind_some, stands, Option.bind_some, Tree.view]

theorem Tree.view_field (stands : branches.value? name = some branch) (place : Place) :
    (Tree.object branches).view registry (.field name :: place) =
      (branch.tree registry).view registry place := by
  rw [Tree.view, Tree.seen, Tree.get?_branch stands, Tree.get?, Option.bind_some, Tree.view]

namespace Tree.Regular

theorem item {items : List Tree} (regular : (Tree.list items).Regular registry) {item : Tree}
    (member : item ∈ items) : item.Regular registry := by
  obtain ⟨index, stands⟩ := List.mem_iff_getElem?.mp member
  refine ⟨all_list.mp regular.once item member, fun place face seen => ?_⟩
  apply regular.stated (.item index :: place) face
  rw [List.cons_append, Tree.view_item stands, seen]

theorem names_once (regular : (Tree.object branches).Regular registry) : branches.names.Nodup :=
  (all_object.mp regular.once).1

theorem field (regular : (Tree.object branches).Regular registry)
    (stands : branches.value? name = some branch) : (branch.tree registry).Regular registry := by
  refine ⟨(distinctNames_lasting registry).field regular.once stands, fun place face seen => ?_⟩
  apply regular.stated (.field name :: place) face
  rw [List.cons_append, Tree.view_field stands, seen]

theorem typename (regular : (Tree.object branches).Regular registry)
    (stands : branches.value? typenameField = some branch) :
    branch.tree registry = .absent ∨ ∃ text, branch.tree registry = .string text := by
  have stated := regular.stated [] (branch.tree registry).face (Tree.view_field stands [])
  cases shown : branch.tree registry with
  | absent => exact .inl rfl
  | string text => exact .inr ⟨text, rfl⟩
  | null | boolean _ | int _ | float _ | enum _ | raw _ | list _ | object _ =>
    simp [shown, Tree.face] at stated

end Tree.Regular

/-! ## Cutting -/

/-- The JSON of a branch to a depth; none if it has no value. -/
def Branch.json? (registry : Registry) (depth : Nat) (branch : Branch) : Option Json :=
  if (branch.tree registry).isAbsent then none
  else some ((branch.tree registry).materialize registry depth)

theorem treeJsonItems_eq (convert : Entries Branch → Json) (items : List Tree) :
    treeJsonItems convert items = items.map (treeJsonWith convert) := by
  induction items with
  | nil => rfl
  | cons item rest inductionHypothesis => rw [treeJsonItems, inductionHypothesis, List.map_cons]

theorem Tree.materialize_list (items : List Tree) :
    (Tree.list items).materialize registry depth =
      .array (items.map (·.materialize registry depth)) := by
  rw [Tree.materialize, treeJsonWith, treeJsonItems_eq]
  rfl

theorem Tree.materialize_object :
    (Tree.object branches).materialize registry depth = treeJsonObject registry depth branches := by
  rw [Tree.materialize, treeJsonWith]

/-- Above the depth an object shows its fields that have a value. -/
theorem treeJsonObject_succ (registry : Registry) (depth : Nat) (branches : Entries Branch) :
    treeJsonObject registry (depth + 1) branches =
      .object (branches.filterMap fun entry =>
        (entry.2.json? registry depth).map (entry.1, ·)) := by
  rw [treeJsonObject]
  refine congrArg Json.object (congrArg (List.filterMap · branches) (funext fun entry => ?_))
  simp only [Branch.json?, Tree.materialize]
  split <;> rfl

/-- At the depth an object shows the name of its type, as it does at every other depth. -/
theorem treeJsonObject_zero (regular : (Tree.object branches).Regular registry) (depth : Nat) :
    treeJsonObject registry 0 branches =
      .object (((branches.value? typenameField).bind (·.json? registry depth)).toList.map
        fun json => (typenameField, json)) := by
  rw [treeJsonObject, Tree.typename?]
  cases stands : branches.value? typenameField with
  | none => rfl
  | some branch =>
    rcases regular.typename stands with absent | ⟨text, string⟩
    · simp [Branch.json?, absent, Tree.isAbsent, Tree.string?]
    · simp [Branch.json?, string, Tree.isAbsent, Tree.string?, Tree.materialize, treeJsonWith]

mutual

/-- Trees are cut like the objects in them. Lists pass the depth on as it is. -/
theorem materialize_cut_with
    (objects : ∀ branches, (Tree.object branches).Regular registry →
      treeJsonObject registry shallow branches =
        (treeJsonObject registry deep branches).cut shallow) :
    (tree : Tree) → tree.Regular registry →
    tree.materialize registry shallow = (tree.materialize registry deep).cut shallow
  | .list items, regular => by
    rw [Tree.materialize_list, Tree.materialize_list, Json.cut, Json.cutItems_eq, List.map_map]
    exact congrArg Json.array
      (materialize_items_cut objects items fun item member => regular.item member)
  | .object branches, regular => by
    rw [Tree.materialize_object, Tree.materialize_object]
    exact objects branches regular
  | .absent, _ | .null, _ | .boolean _, _ | .int _, _ | .float _, _ | .string _, _ | .enum _, _
  | .raw _, _ => by simp only [Tree.materialize, treeJsonWith, Json.cut]

theorem materialize_items_cut
    (objects : ∀ branches, (Tree.object branches).Regular registry →
      treeJsonObject registry shallow branches =
        (treeJsonObject registry deep branches).cut shallow) :
    (items : List Tree) → (∀ item ∈ items, item.Regular registry) →
    items.map (·.materialize registry shallow) =
      items.map ((·.cut shallow) ∘ (·.materialize registry deep))
  | [], _ => rfl
  | item :: rest, regular => by
    obtain ⟨first, others⟩ := List.forall_mem_cons.mp regular
    rw [List.map_cons, List.map_cons, materialize_items_cut objects rest others,
      materialize_cut_with objects item first]
    rfl

end

/-- The JSON of an object to a depth is the JSON to a greater depth, cut. The induction is on the
lesser depth; the fields of the object lie one level further down. -/
theorem treeJsonObject_cut (le : shallow ≤ deep) (branches : Entries Branch)
    (regular : (Tree.object branches).Regular registry) :
    treeJsonObject registry shallow branches =
      (treeJsonObject registry deep branches).cut shallow := by
  induction shallow generalizing deep branches with
  | zero =>
    cases deep with
    | zero =>
      rw [treeJsonObject_zero regular 0, Json.cut]
      cases (branches.value? typenameField).bind (·.json? registry 0) <;> simp [Entries.value?]
    | succ deep =>
      rw [treeJsonObject_zero regular deep, treeJsonObject_succ, Json.cut,
        Entries.value?_filterMap regular.names_once]
  | succ shallow inductionHypothesis =>
    cases deep with
    | zero => omega
    | succ deep =>
      rw [treeJsonObject_succ, treeJsonObject_succ, Json.cut, Json.cutMembers_eq,
        Entries.mapValues, List.map_filterMap]
      refine congrArg Json.object (List.filterMap_congr fun entry member => ?_)
      have inner := regular.field (Entries.value?_of_mem regular.names_once member)
      have less : shallow ≤ deep := by omega
      simp only [Branch.json?, materialize_cut_with (inductionHypothesis less) _ inner]
      split <;> rfl

/-- The JSON of a tree to a depth is the JSON to a greater depth, cut. -/
theorem Tree.Regular.materialize_cut (regular : tree.Regular registry) (le : shallow ≤ deep) :
    tree.materialize registry shallow = (tree.materialize registry deep).cut shallow :=
  materialize_cut_with (treeJsonObject_cut le) tree regular

/-! ## What is shown -/

/-- A face is shown as JSON; of the names of an object some are kept. -/
inductive Face.ShownAs (kept : String → Bool) : Face → Json → Prop where
  | absent : ShownAs kept .absent .null
  | null : ShownAs kept .null .null
  | boolean (value : Bool) : ShownAs kept (.boolean value) (.bool value)
  | int (value : Int64) : ShownAs kept (.int value) (.int value)
  | float (value : Float) : ShownAs kept (.float value) (.float value)
  | string (text : String) : ShownAs kept (.string text) (.string text)
  | enum (name : String) : ShownAs kept (.enum name) (.string name)
  | raw (source : String) : ShownAs kept (.raw source) (.string source)
  | list (items : List Json) : ShownAs kept (.list items.length) (.array items)
  | object {names : List String} {members : List (String × Json)}
      (inOrder : Entries.names members = names.filter kept) :
      ShownAs kept (.object names) (.object members)

/-- Whether there is no value. -/
def Face.isAbsent : Face → Bool
  | .absent => true
  | _ => false

/-- The names of the object at a place that the JSON to a depth keeps: of an object above the depth
the names that have a value, of one at the depth the name of the type, if that has one. -/
def View.keeps (view : View) (depth : Nat) (place : Place) (name : String) : Bool :=
  (decide (place.levels < depth) || name == typenameField) &&
    !(view (place ++ [.field name])).any Face.isAbsent

/-- The JSON to a depth shows the face at every place down to the depth, except that a field without
a value is left out. -/
def View.ShownTo (view : View) (depth : Nat) (json : Json) : Prop :=
  ∀ place face, view place = some face → place.levels ≤ depth →
    (face.isAbsent = true → ∀ start name, place ≠ start ++ [.field name]) →
    ∃ shown, json.at? place = some shown ∧ face.ShownAs (view.keeps depth place) shown

theorem Tree.face_absent : tree.face.isAbsent = tree.isAbsent := by
  cases tree <;> rfl

theorem isSome_json? (depth : Nat) (branch : Branch) :
    (branch.json? registry depth).isSome = !(branch.tree registry).isAbsent := by
  cases absent : (branch.tree registry).isAbsent <;> simp [Branch.json?, absent]

theorem keeps_here (stands : branches.value? name = some branch) :
    ((Tree.object branches).view registry).keeps depth [] name =
      ((decide (0 < depth) || name == typenameField) && !(branch.tree registry).isAbsent) := by
  rw [View.keeps, List.nil_append, Tree.view_field stands, Tree.view, Tree.seen, Option.any_some,
    Tree.face_absent]
  rfl

/-- Of names that stand once at most the one is left that is kept. -/
theorem filter_only {names : List String} (once : names.Nodup) {kept : String → Bool}
    (only : ∀ other, kept other = true → other = name) :
    names.filter kept = if name ∈ names ∧ kept name = true then [name] else [] := by
  induction names with
  | nil => simp
  | cons head rest inductionHypothesis =>
    obtain ⟨apart, others⟩ := List.nodup_cons.mp once
    by_cases here : head = name
    · subst here
      simp [List.filter_cons, inductionHypothesis others, apart]
    · have away : kept head = false := Bool.eq_false_iff.mpr fun keeps => here (only head keeps)
      simp [away, inductionHypothesis others, Ne.symm here]

/-- An object shows the names that are kept. -/
theorem object_shown (regular : (Tree.object branches).Regular registry) (depth : Nat) :
    (Tree.object branches).face.ShownAs (((Tree.object branches).view registry).keeps depth [])
      (treeJsonObject registry depth branches) := by
  have once := regular.names_once
  cases depth with
  | zero =>
    rw [treeJsonObject_zero regular 0]
    refine .object ?_
    have only (other : String)
        (kept : ((Tree.object branches).view registry).keeps 0 [] other = true) :
        other = typenameField := by
      simp only [View.keeps, Place.levels] at kept
      simpa using (Bool.and_eq_true_iff.mp kept).1
    rw [filter_only once only]
    cases stands : branches.value? typenameField with
    | none =>
      have missing := (Entries.value?_eq_none_iff branches typenameField).mp stands
      rw [if_neg fun both => missing both.1]
      rfl
    | some branch =>
      have known : typenameField ∈ branches.names :=
        List.mem_map.mpr ⟨_, Entries.mem_of_value? stands, rfl⟩
      rw [keeps_here stands, Option.bind_some, Branch.json?]
      cases absent : (branch.tree registry).isAbsent with
      | true => simp [Entries.names]
      | false =>
        rw [if_neg Bool.false_ne_true, if_pos ⟨known, by simp⟩]
        rfl
  | succ depth =>
    rw [treeJsonObject_succ]
    refine .object (Entries.names_filterMap _ fun entry member => ?_)
    rw [keeps_here (Entries.value?_of_mem once member), isSome_json?]
    simp

/-! Going to an item or into a field, what is shown is shown of what stands there. -/

theorem at?_item {items : List Tree} {index : Nat} {item : Tree}
    (stands : items[index]? = some item) (depth : Nat) (place : Place) :
    ((Tree.list items).materialize registry depth).at? (.item index :: place) =
      (item.materialize registry depth).at? place := by
  rw [Tree.materialize_list, Json.at?, List.getElem?_map, stands]
  rfl

theorem keeps_item {items : List Tree} {index : Nat} {item : Tree}
    (stands : items[index]? = some item) (depth : Nat) (place : Place) :
    ((Tree.list items).view registry).keeps depth (.item index :: place) =
      (item.view registry).keeps depth place := by
  funext name
  rw [View.keeps, List.cons_append, Tree.view_item stands, Place.levels, View.keeps]

theorem at?_field (regular : (Tree.object branches).Regular registry)
    (stands : branches.value? name = some branch)
    (present : (branch.tree registry).isAbsent = false) (depth : Nat) (place : Place) :
    ((Tree.object branches).materialize registry (depth + 1)).at? (.field name :: place) =
      ((branch.tree registry).materialize registry depth).at? place := by
  rw [Tree.materialize_object, treeJsonObject_succ, Json.at?,
    Entries.value?_filterMap regular.names_once, stands, Option.bind_some, Branch.json?, present]
  rfl

theorem keeps_field (stands : branches.value? name = some branch) (depth : Nat) (place : Place) :
    ((Tree.object branches).view registry).keeps (depth + 1) (.field name :: place) =
      ((branch.tree registry).view registry).keeps depth place := by
  funext other
  have less : (place.levels + 1 < depth + 1) = (place.levels < depth) :=
    propext Nat.add_lt_add_iff_right
  simp only [View.keeps, List.cons_append, Tree.view_field stands, Place.levels, less]

theorem seen_absent (absent : tree.isAbsent = true)
    (stands : tree.view registry place = some face) : place = [] ∧ face.isAbsent = true := by
  cases tree with
  | absent =>
    cases place with
    | nil =>
      obtain rfl := Option.some.inj stands
      exact ⟨rfl, rfl⟩
    | cons turn rest => cases turn <;> simp [Tree.view, Tree.seen, Tree.get?, Tree.items?] at stands
  | null | boolean _ | int _ | float _ | string _ | enum _ | raw _ | list _ | object _ =>
    cases absent

/-- What a tree shows at a place, its JSON shows there. The induction is on the place; a field that
is gone into has a value. -/
theorem Tree.Regular.shown (regular : tree.Regular registry) (depth : Nat) :
    (tree.view registry).ShownTo depth (tree.materialize registry depth) := by
  intro place face stands within present
  induction place generalizing tree depth with
  | nil =>
    obtain rfl := Option.some.inj stands
    refine ⟨_, rfl, ?_⟩
    cases tree with
    | list items =>
      have same : items.length = (items.map (·.materialize registry depth)).length := by simp
      rw [Tree.materialize_list, Tree.face, same]
      exact .list _
    | object branches =>
      rw [Tree.materialize_object]
      exact object_shown regular depth
    | absent | null | boolean _ | int _ | float _ | string _ | enum _ | raw _ =>
      simp only [Tree.materialize, treeJsonWith, Tree.face]
      constructor
  | cons turn rest inductionHypothesis =>
    have presentOn : face.isAbsent = true → ∀ start name, rest ≠ start ++ [.field name] :=
      fun absent start name same => present absent (turn :: start) name (by rw [same]; rfl)
    cases turn with
    | item index =>
      cases tree with
      | list items =>
        cases chosen : items[index]? with
        | none => simp [Tree.view, Tree.seen, Tree.items?, chosen] at stands
        | some item =>
          rw [Tree.view_item chosen] at stands
          rw [at?_item chosen, keeps_item chosen]
          exact inductionHypothesis (regular.item (List.mem_of_getElem? chosen)) _ stands within
            presentOn
      | absent | null | boolean _ | int _ | float _ | string _ | enum _ | raw _ | object _ =>
        simp [Tree.view, Tree.seen, Tree.items?] at stands
    | field name =>
      cases tree with
      | object branches =>
        cases known : Entries.value? branches name with
        | none => simp [Tree.view, Tree.seen, Tree.get?, known] at stands
        | some branch =>
          rw [Tree.view_field known] at stands
          have here : (branch.tree registry).isAbsent = false := by
            refine Bool.eq_false_iff.mpr fun absent => ?_
            obtain ⟨rfl, nothing⟩ := seen_absent absent stands
            exact present nothing [] name rfl
          obtain ⟨depth, rfl⟩ := Nat.exists_eq_add_one.mpr (Nat.zero_lt_of_lt within)
          rw [at?_field regular known here, keeps_field known]
          exact inductionHypothesis (regular.field known) _ stands
            (Nat.le_of_succ_le_succ within) presentOn
      | absent | null | boolean _ | int _ | float _ | string _ | enum _ | raw _ | list _ =>
        simp [Tree.view, Tree.seen, Tree.get?] at stands

/-! ## Values -/

/-- The JSON of a value to several depths, one conversion after another. -/
def Value.materializeEach (registry : Registry) (value : Value) :
    (depths : List Nat) → Store → List Json × Store
  | [], store => ([], store)
  | depth :: rest, store =>
    let (json, store) := value.materialize registry depth store
    let (others, store) := value.materializeEach registry rest store
    (json :: others, store)

variable {plan : Plan} {store : Store} {value : Value}

/-- Conversions to several depths show the tree of the value, whatever was worked out before. -/
theorem materializeEach_stands (follows : store.Follows registry plan)
    (stands : value.Stands plan tree) (depths : List Nat) :
    (value.materializeEach registry depths store).1 =
      depths.map (tree.materialize registry ·) := by
  induction depths generalizing store plan with
  | nil => rfl
  | cons depth rest inductionHypothesis =>
    obtain ⟨grown, grows, followsOn, first⟩ := materialize_stands follows stands depth
    have others := inductionHypothesis followsOn (stands.grows grows)
    simp only [Value.materializeEach, List.map_cons, first, others]

/-- Of a value a reader sees what there is to see of the tree that it stands for. -/
theorem view_stands (follows : store.Follows registry plan) (stands : value.Stands plan tree) :
    value.view registry store = tree.view registry :=
  funext (seen_stands follows stands)

/-- At every moment of a script the JSON of a named value to all depths shows one value. In
whichever order and however often it is converted, a depth has one answer. It is the answer to any
greater depth, cut, and it shows what a reader sees at every place down to the depth, the names of
an object in their order. -/
theorem depths_agree (accessor : Accessor) (script : List Instruction) :
    ∀ moment ∈ scriptMoments script { accessor }, ∀ name value,
      moment.bindings.value? name = some value →
      let registry := moment.registry
      (value.view registry moment.store).StatesTypes →
      let json (depth : Nat) := (value.materialize registry depth moment.store).1
      (∀ depths, (value.materializeEach registry depths moment.store).1 = depths.map json) ∧
        (∀ shallow deep, shallow ≤ deep → json shallow = (json deep).cut shallow) ∧
        ∀ depth, (value.view registry moment.store).ShownTo depth (json depth) := by
  intro moment member name value named registry stated json
  have sound := scriptMoments_sound script _ (start_sound accessor) moment member
  obtain ⟨plan, follows, planned⟩ := sound.planned
  have stands : value.Stands plan value.tree := ⟨planned name value named, rfl⟩
  have once := (distinctNames_lasting accessor.registry).moments script moment member name value
    named
  have same : value.view registry moment.store = value.tree.view registry :=
    view_stands follows stands
  have regular : value.tree.Regular registry := ⟨once, same ▸ stated⟩
  have answer (depth : Nat) : json depth = value.tree.materialize registry depth := by
    obtain ⟨_, _, _, converted⟩ := materialize_stands follows stands depth
    exact converted
  refine ⟨fun depths => ?_, fun shallow deep le => ?_, fun depth => ?_⟩
  · rw [funext answer, materializeEach_stands follows stands]
  · rw [answer, answer, regular.materialize_cut le]
  · rw [answer, same]
    exact regular.shown depth

/-- A user has a friend, who is a user again, and so on without an end. One level of this is what
three levels show, cut, also if the three are worked out first. -/
theorem friends_cut :
    let fields := [("friend", Default.factory "User"), ("name", Default.emptyString)]
    let accessor := Accessor.recipe ⟨[⟨"User", .object, .record (some "User") fields⟩]⟩
    let moment := (runScript [.step (.fixture "User" "user")] { accessor }).2
    ∃ user, moment.bindings.value? "user" = some user ∧
      (user.view moment.registry moment.store).StatesTypes ∧
      (user.materializeEach moment.registry [3, 1] moment.store).1 =
        [3, 1].map (fun depth => (user.materialize moment.registry depth moment.store).1) ∧
      (user.materialize moment.registry 1 moment.store).1 =
        (user.materialize moment.registry 3 moment.store).1.cut 1 := by
  intro fields accessor moment
  let user : Value := .object 0 [(typenameField, .held (.string "User")),
    ("friend", .later ⟨0⟩ (.factory "User")), ("name", .later ⟨1⟩ .emptyString)]
  have named : moment.bindings.value? "user" = some user := by rfl
  have among := runScript_mem_moments [.step (.fixture "User" "user")] { accessor }
  obtain ⟨plan, follows, planned⟩ :=
    (scriptMoments_sound _ _ (start_sound accessor) moment among).planned
  have stated : (user.view moment.registry moment.store).StatesTypes := by
    intro place face seen
    rw [view_stands follows ⟨planned "user" user named, rfl⟩] at seen
    -- The friend of a user is a user, so the induction goes on from friend to friend.
    induction place with
    | nil => exact .inr ⟨"User", (Option.some.inj seen).symm⟩
    | cons turn rest inductionHypothesis =>
      have text (text : String) :
          (Tree.string text).seen moment.registry (rest ++ [.field typenameField]) = none := by
        rcases rest with _ | ⟨_ | _, _⟩ <;> rfl
      cases turn with
      | item index => cases seen
      | field name =>
        by_cases ofType : name = typenameField
        · subst ofType
          exact absurd (seen.symm.trans (text "User")) nofun
        by_cases friend : name = "friend"
        · subst friend
          exact inductionHypothesis seen
        by_cases ownName : name = "name"
        · subst ownName
          exact absurd (seen.symm.trans (text "")) nofun
        have unknown : user.tree.get? moment.registry [name] = none := by
          simp [user, Tree.get?, Entries.mapValues, Entries.value?, Ne.symm ofType,
            Ne.symm friend, Ne.symm ownName]
        rw [List.cons_append, Tree.view, Tree.seen, unknown] at seen
        cases seen
  obtain ⟨each, cuts, -⟩ := depths_agree accessor _ moment among "user" user named stated
  exact ⟨user, named, stated, each [3, 1], cuts 1 3 (by decide)⟩

end Fixture

end SchemaFixtures
