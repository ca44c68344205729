/-!
# Named entries in order

A list of named values in which a name stands where it was first put and holds
what was put there last. Objects, option tables and the fields of fixtures are
entries: their order shows in every answer.
-/

namespace SchemaFixtures

/-- Named values, in the order in which their names were first put. -/
abbrev Entries (α : Type) := List (String × α)

namespace Entries

variable {α β : Type}

/-- The value under a name. -/
def value? : Entries α → String → Option α
  | [], _ => none
  | (key, value) :: rest, name => if key = name then some value else value? rest name

/-- The names, in order. -/
def names (entries : Entries α) : List String := entries.map (·.1)

/-- Puts a value under a name: in the place of the name's entry, or at the end. -/
def put : Entries α → String → α → Entries α
  | [], name, value => [(name, value)]
  | (key, old) :: rest, name, value =>
    if key = name then (key, value) :: rest else (key, old) :: put rest name value

/-- Takes out the entry of a name; the others keep their order. -/
def remove : Entries α → String → Entries α
  | [], _ => []
  | (key, value) :: rest, name => if key = name then rest else (key, value) :: remove rest name

/-- Puts pairs one after another. -/
def ofPairs (pairs : List (String × α)) : Entries α :=
  pairs.foldl (fun entries pair => entries.put pair.1 pair.2) []

/-- Changes every value and keeps the names. -/
def mapValues (f : α → β) (entries : Entries α) : Entries β :=
  entries.map fun entry => (entry.1, f entry.2)

@[simp] theorem value?_nil (name : String) : value? ([] : Entries α) name = none := rfl

/-- Reading back what was put. -/
@[simp] theorem value?_put_self (entries : Entries α) (name : String) (value : α) :
    (entries.put name value).value? name = some value := by
  induction entries with
  | nil => simp [put, value?]
  | cons entry rest inductionHypothesis =>
    obtain ⟨key, old⟩ := entry
    by_cases found : key = name
    · simp [put, value?, found]
    · simpa [put, value?, found] using inductionHypothesis

/-- Putting under one name does not change what another name reads. -/
theorem value?_put_other (entries : Entries α) {name other : String} (value : α)
    (different : name ≠ other) : (entries.put name value).value? other = entries.value? other := by
  induction entries with
  | nil => simp [put, value?, different]
  | cons entry rest inductionHypothesis =>
    obtain ⟨key, old⟩ := entry
    by_cases found : key = name
    · simp [put, value?, found, different]
    · rw [put, if_neg found, value?, value?, inductionHypothesis]

/-- A new name is put at the end; a known one keeps its place. -/
theorem names_put (entries : Entries α) (name : String) (value : α) :
    (entries.put name value).names =
      if name ∈ entries.names then entries.names else entries.names ++ [name] := by
  induction entries with
  | nil => simp [put, names]
  | cons entry rest inductionHypothesis =>
    obtain ⟨key, old⟩ := entry
    by_cases found : key = name
    · simp [put, names, found]
    · have away : name ≠ key := fun same => found same.symm
      simp only [names, List.map_cons, List.mem_cons, away, false_or] at inductionHypothesis ⊢
      simp only [put, found, if_false, List.map_cons]
      rw [inductionHypothesis]
      by_cases known : name ∈ rest.map (·.1) <;> simp [known]

/-- A name reads nothing exactly when no entry has it. -/
theorem value?_eq_none_iff (entries : Entries α) (name : String) :
    entries.value? name = none ↔ name ∉ entries.names := by
  induction entries with
  | nil => simp [names]
  | cons entry rest inductionHypothesis =>
    obtain ⟨key, value⟩ := entry
    by_cases found : key = name
    · simp [value?, names, found]
    · have away : name ≠ key := fun same => found same.symm
      simpa [value?, names, found, away] using inductionHypothesis

/-- Names that stand once still do after a put. -/
theorem nodup_put {entries : Entries α} (once : entries.names.Nodup) (name : String)
    (value : α) : (entries.put name value).names.Nodup := by
  rw [names_put]
  by_cases known : name ∈ entries.names
  · rwa [if_pos known]
  · rw [if_neg known, List.nodup_append]
    refine ⟨once, by simp, ?_⟩
    intro other member last equal
    rw [List.mem_singleton.mp equal]
    exact fun same => known (same ▸ member)

/-- The names after a removal. -/
theorem names_remove (entries : Entries α) (name : String) :
    (entries.remove name).names = entries.names.erase name := by
  induction entries with
  | nil => rfl
  | cons entry rest inductionHypothesis =>
    obtain ⟨key, value⟩ := entry
    by_cases found : key = name
    · simp [remove, names, found]
    · have tail := inductionHypothesis
      simp only [names] at tail ⊢
      rw [remove, if_neg found, List.map_cons, List.map_cons, tail,
        List.erase_cons_tail (by simpa using found)]

/-- What was taken out is not read, if its name stood once. -/
theorem value?_remove_self {entries : Entries α} (once : entries.names.Nodup) (name : String) :
    (entries.remove name).value? name = none := by
  rw [value?_eq_none_iff, names_remove]
  exact once.not_mem_erase

/-- Taking out one name does not change what another name reads. -/
theorem value?_remove_other (entries : Entries α) {name other : String}
    (different : name ≠ other) : (entries.remove name).value? other = entries.value? other := by
  induction entries with
  | nil => rfl
  | cons entry rest inductionHypothesis =>
    obtain ⟨key, old⟩ := entry
    by_cases found : key = name
    · simp [remove, value?, found, different]
    · rw [remove, if_neg found, value?, value?, inductionHypothesis]

/-- Changing the values changes what a name reads. -/
theorem value?_mapValues (f : α → β) (entries : Entries α) (name : String) :
    (entries.mapValues f).value? name = (entries.value? name).map f := by
  induction entries with
  | nil => rfl
  | cons entry rest inductionHypothesis =>
    obtain ⟨key, value⟩ := entry
    by_cases found : key = name
    · simp [mapValues, value?, found]
    · simpa [mapValues, value?, found] using inductionHypothesis

/-- Changing the values keeps the names. -/
theorem names_mapValues (f : α → β) (entries : Entries α) :
    (entries.mapValues f).names = entries.names := by
  simp [mapValues, names]

/-- Putting commutes with changing the values. -/
theorem mapValues_put (f : α → β) (entries : Entries α) (name : String) (value : α) :
    (entries.put name value).mapValues f = (entries.mapValues f).put name (f value) := by
  induction entries with
  | nil => rfl
  | cons entry rest inductionHypothesis =>
    obtain ⟨key, old⟩ := entry
    by_cases found : key = name
    · simp [mapValues, put, found]
    · simpa [mapValues, put, found] using inductionHypothesis

/-- Taking out commutes with changing the values. -/
theorem mapValues_remove (f : α → β) (entries : Entries α) (name : String) :
    (entries.remove name).mapValues f = (entries.mapValues f).remove name := by
  induction entries with
  | nil => rfl
  | cons entry rest inductionHypothesis =>
    obtain ⟨key, old⟩ := entry
    by_cases found : key = name
    · simp [mapValues, remove, found]
    · simpa [mapValues, remove, found] using inductionHypothesis

/-- Taking out a name that is not there changes nothing. -/
theorem remove_missing {entries : Entries α} {name : String}
    (missing : entries.value? name = none) : entries.remove name = entries := by
  induction entries with
  | nil => rfl
  | cons entry rest inductionHypothesis =>
    obtain ⟨key, value⟩ := entry
    by_cases found : key = name
    · simp [value?, found] at missing
    · rw [remove, if_neg found, inductionHypothesis (by simpa [value?, found] using missing)]

/-- Putting pairs one after another commutes with changing the values. -/
theorem mapValues_ofPairs (f : α → β) (pairs : List (String × α)) :
    (ofPairs pairs).mapValues f = ofPairs (mapValues f pairs) := by
  have onto (entries : Entries α) :
      (pairs.foldl (fun entries pair => entries.put pair.1 pair.2) entries).mapValues f =
        (mapValues f pairs).foldl (fun entries pair => entries.put pair.1 pair.2)
          (entries.mapValues f) := by
    induction pairs generalizing entries with
    | nil => rfl
    | cons pair rest inductionHypothesis =>
      rw [List.foldl_cons, inductionHypothesis, mapValues_put]
      rfl
  exact onto []

/-- A value that is read was put under its name. -/
theorem mem_of_value? {entries : Entries α} {name : String} {value : α}
    (found : entries.value? name = some value) : (name, value) ∈ entries := by
  induction entries with
  | nil => simp at found
  | cons entry rest inductionHypothesis =>
    obtain ⟨key, old⟩ := entry
    by_cases same : key = name
    · have equal : old = value := by simpa [value?, same] using found
      simp [same, equal]
    · have later : value? rest name = some value := by simpa [value?, same] using found
      exact List.mem_cons_of_mem _ (inductionHypothesis later)

/-- What stands in entries after a put stood there before or was put. -/
theorem mem_put {entries : Entries α} {name : String} {value : α} {entry : String × α}
    (member : entry ∈ entries.put name value) : entry ∈ entries ∨ entry = (name, value) := by
  induction entries with
  | nil => exact Or.inr (by simpa [put] using member)
  | cons head rest inductionHypothesis =>
    obtain ⟨key, old⟩ := head
    by_cases same : key = name
    · rcases List.mem_cons.mp (by simpa [put, same] using member) with equal | later
      · exact Or.inr (by simpa [same] using equal)
      · exact Or.inl (List.mem_cons_of_mem _ later)
    · rcases List.mem_cons.mp (by simpa only [put, same, if_false] using member) with
        equal | later
      · exact Or.inl (equal ▸ List.mem_cons_self)
      · exact (inductionHypothesis later).imp (List.mem_cons_of_mem _) id

/-- What stands in entries after a removal stood there before. -/
theorem mem_of_mem_remove {entries : Entries α} {name : String} {entry : String × α}
    (member : entry ∈ entries.remove name) : entry ∈ entries := by
  induction entries with
  | nil => exact member
  | cons head rest inductionHypothesis =>
    obtain ⟨key, old⟩ := head
    by_cases same : key = name
    · exact List.mem_cons_of_mem _ (by simpa [remove, same] using member)
    · rcases List.mem_cons.mp (by simpa only [remove, same, if_false] using member) with
        equal | later
      · exact equal ▸ List.mem_cons_self
      · exact List.mem_cons_of_mem _ (inductionHypothesis later)

/-- What stands in the entries of pairs is one of the pairs. -/
theorem mem_of_mem_ofPairs {pairs : List (String × α)} {entry : String × α}
    (member : entry ∈ ofPairs pairs) : entry ∈ pairs := by
  have gathered : ∀ (pairs : List (String × α)) (entries : Entries α),
      entry ∈ pairs.foldl (fun entries pair => entries.put pair.1 pair.2) entries →
        entry ∈ entries ∨ entry ∈ pairs := by
    intro pairs
    induction pairs with
    | nil => exact fun _ present => Or.inl present
    | cons pair rest inductionHypothesis =>
      intro entries present
      rcases inductionHypothesis _ present with old | later
      · rcases mem_put old with kept | equal
        · exact Or.inl kept
        · exact Or.inr (equal ▸ List.mem_cons_self)
      · exact Or.inr (List.mem_cons_of_mem _ later)
  simpa using gathered pairs [] member

/-- A new name is put at the end. -/
theorem put_new {entries : Entries α} {name : String} (missing : name ∉ entries.names)
    (value : α) : entries.put name value = entries ++ [(name, value)] := by
  induction entries with
  | nil => rfl
  | cons entry rest inductionHypothesis =>
    obtain ⟨key, old⟩ := entry
    obtain ⟨different, later⟩ := List.ne_and_not_mem_of_not_mem_cons missing
    rw [put, if_neg different.symm, inductionHypothesis later, List.cons_append]

/-- Pairs without a repeated name are the entries of the pairs. -/
theorem ofPairs_of_nodup {pairs : List (String × α)} (once : (names pairs).Nodup) :
    ofPairs pairs = pairs := by
  have onto (entries : Entries α) (apart : (names (entries ++ pairs)).Nodup) :
      pairs.foldl (fun entries pair => entries.put pair.1 pair.2) entries = entries ++ pairs := by
    induction pairs generalizing entries with
    | nil => rw [List.foldl_nil, List.append_nil]
    | cons pair rest inductionHypothesis =>
      have missing : pair.1 ∉ names entries := by
        rw [names, List.map_append, List.nodup_append] at apart
        exact fun member => apart.2.2 _ member _ List.mem_cons_self rfl
      have split : entries ++ pair :: rest = (entries ++ [pair]) ++ rest := by simp
      rw [List.foldl_cons, put_new missing, split]
      rw [split] at apart
      refine inductionHypothesis ?_ (entries ++ [pair]) apart
      exact (List.nodup_cons.mp once).2
  exact onto [] once

/-- What is read under a name that stands once is its entry. -/
theorem value?_of_mem {entries : Entries α} (once : entries.names.Nodup) {name : String}
    {value : α} (member : (name, value) ∈ entries) : entries.value? name = some value := by
  induction entries with
  | nil => exact absurd member List.not_mem_nil
  | cons entry rest inductionHypothesis =>
    obtain ⟨key, old⟩ := entry
    obtain ⟨apart, others⟩ := List.nodup_cons.mp once
    rcases List.mem_cons.mp member with same | later
    · simp [value?, Prod.mk.inj same]
    · have different : key ≠ name := by
        rintro rfl
        exact apart (List.mem_map.mpr ⟨_, later, rfl⟩)
      rw [value?, if_neg different]
      exact inductionHypothesis others later

theorem value?_append (entries others : Entries α) (name : String) :
    value? (entries ++ others) name = (entries.value? name).or (others.value? name) := by
  induction entries with
  | nil => rfl
  | cons entry rest inductionHypothesis =>
    obtain ⟨key, value⟩ := entry
    by_cases found : key = name
    · simp [value?, found]
    · simpa [value?, found] using inductionHypothesis

/-- Of the pairs with one name the last is read. -/
theorem value?_ofPairs (pairs : List (String × α)) (name : String) :
    (ofPairs pairs).value? name = value? pairs.reverse name := by
  have onto (entries : Entries α) :
      (pairs.foldl (fun entries pair => entries.put pair.1 pair.2) entries).value? name =
        (value? pairs.reverse name).or (entries.value? name) := by
    induction pairs generalizing entries with
    | nil => rfl
    | cons pair rest inductionHypothesis =>
      rw [List.foldl_cons, inductionHypothesis, List.reverse_cons, value?_append, Option.or_assoc]
      by_cases found : pair.1 = name
      · simp [← found, value?]
      · simp [value?, found, value?_put_other _ _ found]
  exact (onto []).trans (Option.or_none)

/-- The names of the entries of pairs stand once. -/
theorem nodup_ofPairs (pairs : List (String × α)) : (ofPairs pairs).names.Nodup := by
  have onto (entries : Entries α) (once : entries.names.Nodup) :
      (pairs.foldl (fun entries pair => entries.put pair.1 pair.2) entries).names.Nodup := by
    induction pairs generalizing entries with
    | nil => exact once
    | cons pair rest inductionHypothesis => exact inductionHypothesis _ (nodup_put once _ _)
  exact onto [] List.nodup_nil

/-- The names of pairs stand in the order in which they come first. -/
theorem names_ofPairs (pairs : List (String × α)) :
    (ofPairs pairs).names = (names pairs).eraseDups := by
  have onto (entries : Entries α) :
      (pairs.foldl (fun entries pair => entries.put pair.1 pair.2) entries).names =
        entries.names ++ ((names pairs).removeAll entries.names).eraseDups := by
    induction pairs generalizing entries with
    | nil => simp [names, List.removeAll]
    | cons pair rest inductionHypothesis =>
      have split : names (pair :: rest) = pair.1 :: names rest := rfl
      rw [List.foldl_cons, inductionHypothesis, names_put, split]
      by_cases known : pair.1 ∈ entries.names
      · simp [List.removeAll, known]
      · simp [List.removeAll, known, List.eraseDups_cons, Bool.and_comm]
        rfl
  have all : (names pairs).removeAll [] = names pairs := by simp [List.removeAll]
  exact (onto []).trans (congrArg List.eraseDups all)

/-- Entries of which some are left out read the others as before, if every name stands once. -/
theorem value?_filterMap {entries : Entries α} (once : entries.names.Nodup)
    (change : α → Option β) (name : String) :
    value? (entries.filterMap fun entry => (change entry.2).map (entry.1, ·)) name =
      (entries.value? name).bind change := by
  induction entries with
  | nil => rfl
  | cons entry rest inductionHypothesis =>
    obtain ⟨key, value⟩ := entry
    obtain ⟨apart, others⟩ := List.nodup_cons.mp once
    have later := inductionHypothesis others
    by_cases found : key = name
    · subst found
      rw [(value?_eq_none_iff rest key).mpr apart, Option.bind_none] at later
      cases changed : change value <;> simp [value?, changed, later]
    · cases changed : change value <;> simp [value?, changed, found, later]

/-- The names of entries of which some are left out. -/
theorem names_filterMap {entries : Entries α} (change : α → Option β) {kept : String → Bool}
    (agrees : ∀ entry ∈ entries, kept entry.1 = (change entry.2).isSome) :
    names (entries.filterMap fun entry => (change entry.2).map (entry.1, ·)) =
      entries.names.filter kept := by
  induction entries with
  | nil => rfl
  | cons entry rest inductionHypothesis =>
    obtain ⟨key, value⟩ := entry
    obtain ⟨here, others⟩ := List.forall_mem_cons.mp agrees
    have later := inductionHypothesis others
    simp only [names] at later ⊢
    cases changed : change value <;> simp_all

end Entries

end SchemaFixtures
