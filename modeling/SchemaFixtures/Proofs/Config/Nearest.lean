import SchemaFixtures.Config.Discovery
import SchemaFixtures.Proofs.Files.Ancestry

/-!
# The nearest config file

A search looks for the first directory above a start in which some name of a config file leads to
a file, and in it for the first such name. Of all candidates that are files it finds the one with
the fewest steps up, and of these the one whose name is preferred. It finds nothing exactly if no
candidate is a file. Only the candidates count: whether the start is there does not matter.
-/

namespace SchemaFixtures.Config

open Files

/-! ## First matches -/

variable {α β : Type}

/-- What is found first is found at a position before which nothing is. -/
theorem findSome?_eq_some_iff_getElem? {look : α → Option β} {list : List α} {found : β} :
    list.findSome? look = some found ↔
      ∃ (position : Nat) (entry : α), list[position]? = some entry ∧ look entry = some found ∧
        ∀ earlier < position, ∀ other, list[earlier]? = some other → look other = none := by
  induction list with
  | nil => simp
  | cons first rest inductionHypothesis =>
    rw [List.findSome?_cons]
    cases here : look first with
    | some value =>
      constructor
      · intro same
        exact ⟨0, first, rfl, here.trans same, fun _ before => absurd before (Nat.not_lt_zero _)⟩
      · rintro ⟨position, entry, listed, looked, nothing⟩
        cases position with
        | zero =>
          obtain rfl := Option.some.inj listed
          exact here.symm.trans looked
        | succ position =>
          cases here.symm.trans (nothing 0 (Nat.succ_pos _) first rfl)
    | none =>
      rw [inductionHypothesis]
      constructor
      · rintro ⟨position, entry, listed, looked, nothing⟩
        refine ⟨position + 1, entry, listed, looked, fun earlier before other stands => ?_⟩
        cases earlier with
        | zero =>
          obtain rfl := Option.some.inj stands
          exact here
        | succ earlier => exact nothing earlier (Nat.lt_of_succ_lt_succ before) other stands
      · rintro ⟨position, entry, listed, looked, nothing⟩
        cases position with
        | zero =>
          obtain rfl := Option.some.inj listed
          cases here.symm.trans looked
        | succ position =>
          exact ⟨position, entry, listed, looked, fun earlier before =>
            nothing (earlier + 1) (Nat.succ_lt_succ before)⟩

/-- What is found first satisfies the test, and nothing before it does. -/
theorem find?_eq_some_iff_getElem? {test : α → Bool} {list : List α} {found : α} :
    list.find? test = some found ↔
      ∃ position : Nat, list[position]? = some found ∧ test found = true ∧
        ∀ earlier < position, ∀ other, list[earlier]? = some other → ¬test other = true := by
  rw [List.find?_eq_findSome?_guard, findSome?_eq_some_iff_getElem?]
  simp only [Option.guard_eq_some_iff, Option.guard_eq_none_iff]
  constructor
  · rintro ⟨position, _, listed, ⟨rfl, holds⟩, nothing⟩
    exact ⟨position, listed, holds, by simpa using nothing⟩
  · rintro ⟨position, listed, holds, nothing⟩
    exact ⟨position, found, listed, ⟨rfl, holds⟩, by simpa using nothing⟩

/-! ## The search -/

/-- A name in a directory above a start leads to a file, and neither does a name before it in the
directory nor any name in a directory that is nearer to the start. -/
structure Nearest (isFile : String → Prop) (start : String) (steps rank : Nat)
    (directory name : String) : Prop where
  above : Path.above? steps start = some directory
  ranked : fileNames[rank]? = some name
  found : isFile (Path.join directory name)
  preferred : ∀ earlier < rank, ∀ other, fileNames[earlier]? = some other →
    ¬isFile (Path.join directory other)
  nearest : ∀ fewer < steps, ∀ nearer, Path.above? fewer start = some nearer →
    ∀ other ∈ fileNames, ¬isFile (Path.join nearer other)

variable {isFile : String → Bool} {start found : String}

/-- The names of one directory are tried in their order. -/
theorem find?_names_iff {directory : String} :
    (fileNames.map (Path.join directory)).find? isFile = some found ↔
      ∃ (rank : Nat) (name : String), fileNames[rank]? = some name ∧
        isFile (Path.join directory name) = true ∧
        (∀ earlier < rank, ∀ other, fileNames[earlier]? = some other →
          ¬isFile (Path.join directory other) = true) ∧
        found = Path.join directory name := by
  rw [List.find?_map, Option.map_eq_some_iff]
  simp only [find?_eq_some_iff_getElem?, Function.comp_apply]
  constructor
  · rintro ⟨name, ⟨rank, ranked, holds, preferred⟩, rfl⟩
    exact ⟨rank, name, ranked, holds, preferred, rfl⟩
  · rintro ⟨rank, name, ranked, holds, preferred, rfl⟩
    exact ⟨name, ⟨rank, ranked, holds, preferred⟩, rfl⟩

/-- The search finds the nearest file. -/
theorem find?_candidates_iff :
    (candidates start).find? isFile = some found ↔
      ∃ steps rank directory name, Nearest (isFile · = true) start steps rank directory name ∧
        found = Path.join directory name := by
  rw [candidates, List.find?_flatMap, findSome?_eq_some_iff_getElem?]
  simp only [Path.getElem?_ancestors, find?_names_iff, List.find?_eq_none, List.forall_mem_map]
  constructor
  · rintro ⟨steps, directory, above, ⟨rank, name, ranked, holds, preferred, rfl⟩, nearest⟩
    exact ⟨steps, rank, directory, name, ⟨above, ranked, holds, preferred, nearest⟩, rfl⟩
  · rintro ⟨steps, rank, directory, name, ⟨above, ranked, holds, preferred, nearest⟩, rfl⟩
    exact ⟨steps, directory, above, ⟨rank, name, ranked, holds, preferred, rfl⟩, nearest⟩

/-- The search finds nothing exactly if no name leads to a file in any directory above. -/
theorem find?_candidates_eq_none_iff :
    (candidates start).find? isFile = none ↔
      ∀ steps directory, Path.above? steps start = some directory →
        ∀ name ∈ fileNames, ¬isFile (Path.join directory name) = true := by
  rw [List.find?_eq_none, candidates, List.forall_mem_flatMap]
  constructor
  · intro nothing steps directory above
    have listed := List.mem_of_getElem? ((Path.getElem?_ancestors start steps).trans above)
    exact fun name known => nothing directory listed _ (List.mem_map_of_mem known)
  · intro nothing directory listed
    obtain ⟨steps, above⟩ := List.mem_iff_getElem?.mp listed
    rw [Path.getElem?_ancestors] at above
    exact List.forall_mem_map.mpr (nothing steps directory above)

/-- The nearest file has the fewest steps up of all, and of those with as many the preferred
name. -/
theorem Nearest.least {isFile : String → Prop} {steps rank : Nat} {directory name : String}
    (nearest : Nearest isFile start steps rank directory name) {otherSteps otherRank : Nat}
    {otherDirectory otherName : String}
    (above : Path.above? otherSteps start = some otherDirectory)
    (ranked : fileNames[otherRank]? = some otherName)
    (holds : isFile (Path.join otherDirectory otherName)) :
    steps < otherSteps ∨ steps = otherSteps ∧ rank ≤ otherRank := by
  rcases Nat.lt_trichotomy steps otherSteps with fewer | rfl | more
  · exact .inl fewer
  · refine .inr ⟨rfl, Nat.le_of_not_lt fun before => ?_⟩
    obtain rfl := Option.some.inj (nearest.above.symm.trans above)
    exact nearest.preferred otherRank before otherName ranked holds
  · exact absurd holds
      (nearest.nearest otherSteps more otherDirectory above otherName (List.mem_of_getElem? ranked))

end SchemaFixtures.Config
