import SchemaFixtures.Json.Reader

/-!
# The members of what is read

A text can repeat a name in an object. The value that is read has the name once, in every object at
every depth, so the members of an object that was read can be put one after another without one of
them replacing another.
-/

namespace SchemaFixtures.Json

/-- The names of every object stand once. -/
inductive NamesOnce : Json → Prop where
  | null : NamesOnce .null
  | bool (value : Bool) : NamesOnce (.bool value)
  | int (value : Int64) : NamesOnce (.int value)
  | float (value : Float) : NamesOnce (.float value)
  | string (text : String) : NamesOnce (.string text)
  | array {items : List Json} (all : ∀ item ∈ items, NamesOnce item) : NamesOnce (.array items)
  | object {members : List (String × Json)} (once : (Entries.names members).Nodup)
      (all : ∀ member ∈ members, NamesOnce member.2) : NamesOnce (.object members)

/-- Members that are put one after another have each name once. -/
theorem NamesOnce.ofPairs {pairs : List (String × Json)} (all : ∀ pair ∈ pairs, pair.2.NamesOnce) :
    (Json.object (Entries.ofPairs pairs)).NamesOnce :=
  .object (Entries.nodup_ofPairs pairs) fun member stands =>
    all member (Entries.mem_of_mem_ofPairs stands)

/-- A number is no object and holds none. -/
theorem namesOnce_number {text rest : List Char} {json : Json}
    (read : Number.read text = some (json, rest)) : json.NamesOnce := by
  simp only [Number.read, Option.bind_eq_bind, Option.bind_eq_some_iff] at read
  obtain ⟨⟨written, after⟩, -, value, isValue, same⟩ := read
  obtain ⟨rfl, -⟩ := Prod.mk.inj (Option.some.inj same)
  rw [Number.Written.value?, Option.orElse_eq_orElse, Option.orElse_eq_or,
    Option.or_eq_some_iff] at isValue
  rcases isValue with whole | ⟨-, fraction⟩
  · obtain ⟨-, whole⟩ := Option.ite_none_right_eq_some.mp whole
    obtain ⟨-, same⟩ := Option.ite_none_right_eq_some.mp whole
    exact Option.some.inj same ▸ .int _
  · obtain ⟨value, -, rfl⟩ := Option.map_eq_some_iff.mp fraction
    exact .float _

/-- What is read in so many steps has no name twice. -/
structure ReadsOnce (steps : Nat) : Prop where
  value : ∀ {nesting text json rest}, readValue nesting steps text = some (json, rest) →
    json.NamesOnce
  items : ∀ {nesting text items rest}, readItems nesting steps text = some (items, rest) →
    ∀ item ∈ items, item.NamesOnce
  members : ∀ {nesting text members rest}, readMembers nesting steps text = some (members, rest) →
    ∀ member ∈ members, member.2.NamesOnce

section Steps

variable {nesting steps : Nat} {text rest : List Char}
  (once : ∀ fewer, steps = fewer + 1 → ReadsOnce fewer)

include once

theorem namesOnce_readValue {json : Json} :
    readValue nesting steps text = some (json, rest) → json.NamesOnce := by
  fun_cases readValue nesting steps text with
  | case1 | case3 | case6 => nofun
  | case2 =>
    intro read
    obtain ⟨contents, -, same⟩ := Option.map_eq_some_iff.mp read
    obtain ⟨rfl, -⟩ := Prod.mk.inj same
    exact .string contents.1
  | case4 =>
    intro read
    obtain ⟨rfl, -⟩ := Prod.mk.inj (Option.some.inj read)
    exact .array fun _ none => absurd none List.not_mem_nil
  | case5 =>
    intro read
    obtain ⟨items, found, same⟩ := Option.map_eq_some_iff.mp read
    obtain ⟨rfl, -⟩ := Prod.mk.inj same
    exact .array ((once _ rfl).items found)
  | case7 =>
    intro read
    obtain ⟨rfl, -⟩ := Prod.mk.inj (Option.some.inj read)
    exact .object List.nodup_nil fun _ none => absurd none List.not_mem_nil
  | case8 =>
    intro read
    obtain ⟨members, found, same⟩ := Option.map_eq_some_iff.mp read
    obtain ⟨rfl, -⟩ := Prod.mk.inj same
    exact .ofPairs ((once _ rfl).members found)
  | case9 | case10 | case11 =>
    intro read
    obtain ⟨after, -, same⟩ := Option.map_eq_some_iff.mp read
    obtain ⟨rfl, -⟩ := Prod.mk.inj same
    constructor
  | case12 => exact namesOnce_number

theorem namesOnce_readItems {items : List Json} :
    readItems nesting steps text = some (items, rest) → ∀ item ∈ items, item.NamesOnce := by
  fun_cases readItems nesting steps text with
  | case1 | case2 | case5 => nofun
  | case3 _ _ _ _ value =>
    intro read
    obtain ⟨rfl, -⟩ := Prod.mk.inj (Option.some.inj read)
    exact List.forall_mem_singleton.mpr ((once _ rfl).value value)
  | case4 _ _ _ _ value =>
    intro read
    obtain ⟨others, found, same⟩ := Option.map_eq_some_iff.mp read
    obtain ⟨rfl, -⟩ := Prod.mk.inj same
    exact List.forall_mem_cons.mpr ⟨(once _ rfl).value value, (once _ rfl).items found⟩

theorem namesOnce_readMembers {members : List (String × Json)} :
    readMembers nesting steps text = some (members, rest) →
    ∀ member ∈ members, member.2.NamesOnce := by
  fun_cases readMembers nesting steps text with
  | case1 | case2 | case3 | case6 | case7 | case8 => nofun
  | case4 _ _ _ _ _ _ _ _ _ value =>
    intro read
    obtain ⟨rfl, -⟩ := Prod.mk.inj (Option.some.inj read)
    exact List.forall_mem_singleton.mpr ((once _ rfl).value value)
  | case5 _ _ _ _ _ _ _ _ _ value =>
    intro read
    obtain ⟨others, found, same⟩ := Option.map_eq_some_iff.mp read
    obtain ⟨rfl, -⟩ := Prod.mk.inj same
    exact List.forall_mem_cons.mpr ⟨(once _ rfl).value value, (once _ rfl).members found⟩

end Steps

/-- The reader takes a step for every value, every item and every member that it goes to, so it
goes to the inner ones with fewer steps. -/
theorem readsOnce (steps : Nat) : ReadsOnce steps := by
  induction steps with
  | zero => exact ⟨nofun, nofun, nofun⟩
  | succ steps inductionHypothesis =>
    have once (fewer : Nat) (less : steps + 1 = fewer + 1) : ReadsOnce fewer :=
      Nat.add_right_cancel less ▸ inductionHypothesis
    exact ⟨namesOnce_readValue once, namesOnce_readItems once, namesOnce_readMembers once⟩

/-- A text has a value in which no name stands twice. -/
theorem namesOnce_parse {text : List Char} {json : Json} (read : parse text = some json) :
    json.NamesOnce := by
  rw [parse, parseNested] at read
  split at read
  · next value rest found =>
    split at read
    · exact Option.some.inj read ▸ (readsOnce _).value found
    · cases read
  · cases read

end SchemaFixtures.Json
