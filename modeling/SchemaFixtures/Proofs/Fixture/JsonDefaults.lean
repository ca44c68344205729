import SchemaFixtures.Fixture.Script
import SchemaFixtures.Json.Writer
import SchemaFixtures.Proofs.Fixture.Stability
import SchemaFixtures.Proofs.Json.Members

/-!
# JSON defaults come back

A default that is configured as JSON is converted to a value, and the value is converted to JSON
again. Two losses have to be ruled out on the way. Members are put into an object one after another,
so a name that stood twice would lose one of its values; a text that is read has no such name. And a
conversion leaves out what has no value and what lies too deep; an explicit null is a value, and a
depth that is as great as objects are nested reaches all of them.

Nothing in such a value has to be worked out. It is the same JSON in every store, and wherever the
value is handed on to.
-/

namespace SchemaFixtures

namespace Json

mutual

/-- How many objects are nested in one another at most. An array is no level. -/
def levels : Json → Nat
  | .array items => levelsItems items
  | .object members => levelsMembers members + 1
  | _ => 0

/-- How many objects are nested in the items of an array. -/
def levelsItems : List Json → Nat
  | [] => 0
  | item :: rest => max item.levels (levelsItems rest)

/-- How many objects are nested in the members of an object. -/
def levelsMembers : List (String × Json) → Nat
  | [] => 0
  | (_, member) :: rest => max member.levels (levelsMembers rest)

end

end Json

namespace Fixture

/-- A value that is converted to certain JSON in every store, to every depth that is great enough,
and nothing is worked out for it. -/
def Value.Renders (json : Json) (value : Value) : Prop :=
  ∀ registry depth store, json.levels ≤ depth →
    value.materialize registry depth store = (json, store)

variable {registry : Registry} {depth : Nat} {store : Store}

/-! ## There and back -/

/-- What is made of JSON has a value; an explicit null is one. -/
theorem isAbsent_ofJson (json : Json) (made : Store) : (ofJson json made).1.isAbsent = false := by
  cases json <;> rfl

theorem names_ofJsonMembers (members : List (String × Json)) (made : Store) :
    Entries.names (ofJsonMembers members made).1 = Entries.names members := by
  induction members generalizing made with
  | nil => rfl
  | cons member rest inductionHypothesis =>
    exact congrArg (member.1 :: ·) (inductionHypothesis _)

/-- The items of an array come back in their order. -/
theorem materializeItems_ofJson {items : List Json}
    (render : ∀ item ∈ items, ∀ made, (ofJson item made).1.Renders item) (registry : Registry)
    (made store : Store) (enough : Json.levelsItems items ≤ depth) :
    materializeItems (materializeObject registry depth) (ofJsonItems items made).1 store =
      (items, store) := by
  induction items generalizing made with
  | nil => rfl
  | cons item rest inductionHypothesis =>
    obtain ⟨first, others⟩ := List.forall_mem_cons.mp render
    rw [Json.levelsItems] at enough
    have here := first made registry depth store (Nat.le_trans (Nat.le_max_left _ _) enough)
    have later := inductionHypothesis others (ofJson item made).2
      (Nat.le_trans (Nat.le_max_right _ _) enough)
    rw [Value.materialize] at here
    simp only [ofJsonItems, materializeItems, here, later]

/-- The members of an object come back in their order, and none of them is left out. -/
theorem materializeFields_ofJson {members : List (String × Json)}
    (render : ∀ member ∈ members, ∀ made, (ofJson member.2 made).1.Renders member.2)
    (registry : Registry) (made store : Store) (enough : Json.levelsMembers members ≤ depth) :
    materializeFields registry (materializeWith (materializeObject registry depth))
      (ofJsonMembers members made).1 store = (members, store) := by
  induction members generalizing made with
  | nil => rfl
  | cons member rest inductionHypothesis =>
    obtain ⟨name, member⟩ := member
    obtain ⟨first, others⟩ := List.forall_mem_cons.mp render
    rw [Json.levelsMembers] at enough
    have here := first made registry depth store (Nat.le_trans (Nat.le_max_left _ _) enough)
    have later := inductionHypothesis others (ofJson member made).2
      (Nat.le_trans (Nat.le_max_right _ _) enough)
    rw [Value.materialize] at here
    simp only [ofJsonMembers, materializeFields, Field.read, isAbsent_ofJson, here, later]
    rfl

/-- JSON that is made a value comes back, if no object has a name twice. -/
theorem ofJson_renders {json : Json} (once : json.NamesOnce) (made : Store) :
    (ofJson json made).1.Renders json := by
  induction once generalizing made with
  | null | bool _ | int _ | float _ | string _ => exact fun _ _ _ _ => rfl
  | array _ inductionHypothesis =>
    intro registry depth store enough
    have back := materializeItems_ofJson inductionHypothesis registry made store enough
    simp only [ofJson, Value.materialize, materializeWith, back]
  | @object members once _ inductionHypothesis =>
    intro registry depth store enough
    have apart : (Entries.names (ofJsonMembers members made).1).Nodup := by
      rwa [names_ofJsonMembers]
    obtain ⟨depth, rfl⟩ := Nat.exists_eq_add_one.mpr (Nat.zero_lt_of_lt enough)
    have back := materializeFields_ofJson inductionHypothesis registry made store
      (Nat.le_of_succ_le_succ enough)
    simp only [ofJson, Store.newObject, Entries.ofPairs_of_nodup apart, Value.materialize,
      materializeWith, materializeObject, back]

/-- What a literal means has no name twice. -/
theorem namesOnce_meaning {literal : Literal} {json : Json}
    (parsed : literal.meaning = .json json) : json.NamesOnce := by
  rw [Literal.meaning] at parsed
  split at parsed
  · cases parsed
  · split at parsed
    · cases parsed
    · split at parsed
      · next value read =>
        cases parsed
        exact Json.namesOnce_parse read
      · cases parsed

theorem value_renders {literal : Literal} {json : Json} (parsed : literal.meaning = .json json)
    (made : Store) : (literal.value made).1.Renders json := by
  rw [Literal.value, parsed]
  exact ofJson_renders (namesOnce_meaning parsed) made

/-! ## Handing on -/

/-- A named value is handed on: what a name of a session stands for goes to a name of a later one.
It is cloned, a recipe that does nothing is applied to it, or it is put into a field of an object
and read there again; and in between anything can happen that leaves it its name. -/
inductive HandedOn (first : Session) (origin : String) : Session → String → Prop where
  | here : HandedOn first origin first origin
  | meanwhile {session : Session} {source : String} (before : HandedOn first origin session source)
      (script : List Instruction)
      (kept : (runScript script session).2.bindings.value? source =
        session.bindings.value? source) :
      HandedOn first origin (runScript script session).2 source
  | cloned {session : Session} {source : String} (before : HandedOn first origin session source)
      (target : String) : HandedOn first origin (session.step (.copy source [] target)).2 target
  | produced {session : Session} {source : String} (before : HandedOn first origin session source)
      (draft target : String) :
      HandedOn first origin ((Instruction.produce source draft [] none target).run session).2 target
  | stored {session : Session} {source : String} (before : HandedOn first origin session source)
      {object : String} {identity : Nat} {fields : Entries Field}
      (isObject : session.bindings.value? object = some (.object identity fields))
      (field target : String) :
      HandedOn first origin
        ((session.step (.operate object (.write [] (.set field (.copy source []))))).2.step
          (.copy object [field] target)).2 target

section Handing

variable {session first last : Session} {source origin name target : String} {value : Value}

theorem cloned_same (stands : session.bindings.value? source = some value) (target : String) :
    (session.step (.copy source [] target)).2.bindings.value? target = some value := by
  simp only [Session.step, copyOf_named _ stands, Value.get?, Session.keep]
  exact Entries.value?_put_self _ _ _

theorem produced_same (stands : session.bindings.value? source = some value)
    (draft target : String) :
    ((Instruction.produce source draft [] none target).run session).2.bindings.value? target =
      some value := by
  simp only [Instruction.run, stands, Fixture.produce, Session.recipe, runScript, contentValue?,
    Session.keep, Entries.value?_put_self, Option.getD_none, Option.getD_some]

/-- A value that is put into a field of an object is read there. -/
theorem stored_same (stands : session.bindings.value? source = some value) {object : String}
    {identity : Nat} {fields : Entries Field}
    (isObject : session.bindings.value? object = some (.object identity fields))
    (field target : String) :
    ((session.step (.operate object (.write [] (.set field (.copy source []))))).2.step
      (.copy object [field] target)).2.bindings.value? target = some value := by
  simp only [Session.step, isObject, Operation.run, Writing.edit, Content.value,
    copyOf, stands, Value.get?, Option.getD_some, Value.edit, Value.setField, Store.newObject,
    Session.keep, Entries.value?_put_self, readField, Field.read]

/-- What is handed on stays the same value. -/
theorem handed_same (handed : HandedOn first origin last name)
    (stands : first.bindings.value? origin = some value) :
    last.bindings.value? name = some value := by
  induction handed with
  | here => exact stands
  | meanwhile _ script kept inductionHypothesis => exact kept.trans inductionHypothesis
  | cloned _ target inductionHypothesis => exact cloned_same inductionHypothesis target
  | produced _ draft target inductionHypothesis =>
    exact produced_same inductionHypothesis draft target
  | stored _ isObject field target inductionHypothesis =>
    exact stored_same inductionHypothesis isObject field target

end Handing

/-- An object shows the JSON of a value that was put into one of its fields, whatever else it
shows. -/
theorem value?_materializeFields {json : Json} {value : Value} (renders : value.Renders json)
    (present : value.isAbsent = false) (enough : json.levels ≤ depth) (fields : Entries Field)
    (name : String) :
    Entries.value? (materializeFields registry (materializeWith (materializeObject registry depth))
      (fields.put name (.held value)) store).1 name = some json := by
  have converted (store : Store) :
      materializeWith (materializeObject registry depth) value store = (json, store) :=
    renders registry depth store enough
  induction fields generalizing store with
  | nil => simp [Entries.put, materializeFields, Field.read, present, converted, Entries.value?]
  | cons entry rest inductionHypothesis =>
    obtain ⟨key, field⟩ := entry
    by_cases found : key = name
    · simp [Entries.put, found, materializeFields, Field.read, present, converted, Entries.value?]
    · simp only [Entries.put, found, if_false, materializeFields]
      split
      · exact inductionHypothesis
      · simp only [Entries.value?, found, if_false]
        exact inductionHypothesis

/-- The value of a default that is configured as JSON is converted to that JSON again, in every
store and to every depth that reaches all its objects, and nothing is worked out for it. It is so
wherever the value is handed on to, and an object that holds it shows it in its field. -/
theorem json_defaults_come_back {literal : Literal} {json : Json}
    (parsed : literal.meaning = .json json) (made : Store) :
    (literal.value made).1.Renders json ∧
      (∀ first origin last name, first.bindings.value? origin = some (literal.value made).1 →
        HandedOn first origin last name →
        ∃ value, last.bindings.value? name = some value ∧ ∀ depth, json.levels ≤ depth →
          value.materialize last.registry depth last.store = (json, last.store)) ∧
      ∀ identity fields field registry depth store later, json.levels ≤ depth →
        let content := (literal.value made).1
        let object := (Value.setField field content (.object identity fields) store).2.1
        ∃ members, (object.materialize registry (depth + 1) later).1 = .object members ∧
          Entries.value? members field = some json := by
  have renders := value_renders parsed made
  refine ⟨renders, ?_, ?_⟩
  · intro first origin last name stands handed
    exact ⟨_, handed_same handed stands, fun depth enough => renders _ depth _ enough⟩
  · intro identity fields field registry depth store later enough content object
    have present : (literal.value made).1.isAbsent = false := by
      rw [Literal.value, parsed]
      exact isAbsent_ofJson json made
    exact ⟨_, rfl, value?_materializeFields renders present enough fields field⟩

/-- A default with explicit nulls is cloned, goes through a recipe that does nothing and into a
field of an object, and is still the JSON that was configured. -/
theorem nested_default_comes_back :
    let literal : Literal := ⟨"\x7b\"b\": [null, \x7b\"a\": 1\x7d], \"a\": null\x7d"⟩
    let shown := "\x7b\"b\":[null,\x7b\"a\":1\x7d],\"a\":null\x7d"
    let first : Session := {
      accessor := .plain ⟨[]⟩
      bindings := [("default", (literal.value {}).1), ("holder", .object 0 [])] }
    let cloned := (first.step (.copy "default" [] "clone")).2
    let produced := ((Instruction.produce "clone" "draft" [] none "result").run cloned).2
    let stored := (produced.step (.operate "holder" (.write [] (.set "own" (.copy "result" []))))).2
    let last := (stored.step (.copy "holder" ["own"] "again")).2
    ∃ json, literal.meaning = .json json ∧ json.compact = shown ∧
      ∃ value, last.bindings.value? "again" = some value ∧
        value.materialize last.registry 2 last.store = (json, last.store) := by
  intro literal shown first cloned produced stored last
  obtain ⟨json, parsed, text, enough⟩ : ∃ json, literal.meaning = .json json ∧
      json.compact = shown ∧ json.levels ≤ 2 := by
    have read : (match literal.meaning with
        | .json json => decide (json.compact = shown ∧ json.levels ≤ 2)
        | _ => false) = true := by decide +kernel
    cases meant : literal.meaning with
    | json json =>
      rw [meant] at read
      exact ⟨json, rfl, of_decide_eq_true read⟩
    | undefined | quoted _ | raw =>
      rw [meant] at read
      cases read
  have isObject : produced.bindings.value? "holder" = some (.object 0 []) := by rfl
  have handed : HandedOn first "default" last "again" :=
    .stored (.produced (.cloned .here "clone") "draft" "result") isObject "own" "again"
  obtain ⟨-, comesBack, -⟩ := json_defaults_come_back parsed {}
  obtain ⟨value, stands, back⟩ := comesBack first "default" last "again" rfl handed
  exact ⟨json, parsed, text, value, stands, back 2 enough⟩

end Fixture

end SchemaFixtures
