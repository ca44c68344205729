import Mathlib.Data.List.DropRight
import SchemaFixtures.Files.Path

/-!
# Directories above a path

A path starts at the root or not, and says names: the text between slashes, without the pieces
that say nothing. A step up leaves the path without its last name, whatever that name is, and
there is a step up exactly as long as there is a name. So there are as many directories above a
path as it has names, and all of them are listed.
-/

namespace SchemaFixtures.Files.Path

/-- The names among pieces: the first piece unless it is empty, and all later ones that say
something. -/
def namesOf : (pieces : List (List Char)) → List (List Char)
  | [] => []
  | first :: rest => (if first.isEmpty then [] else [first]) ++ rest.filter matters

/-- The names that a path says. -/
def names (path : String) : List (List Char) := namesOf (pieces path)

/-- No slash stands in a piece. -/
def SlashFree (pieces : List (List Char)) : Prop := ∀ piece ∈ pieces, '/' ∉ piece

/-! ## Pieces -/

/-- What stands in a piece stands in the path, and is no slash. -/
theorem mem_of_mem_pieces {path : String} {piece : List Char} {c : Char}
    (member : piece ∈ pieces path) (inside : c ∈ piece) : c ∈ path.toList ∧ c ≠ '/' := by
  have parts (text : List Char) : ∀ piece ∈ text.splitOn '/', ∀ c ∈ piece, c ∈ text ∧ c ≠ '/' := by
    induction text with
    | nil => exact List.forall_mem_singleton.mpr (List.forall_mem_nil _)
    | cons start rest inductionHypothesis =>
      have later : ∀ piece ∈ rest.splitOn '/', ∀ c ∈ piece, c ∈ start :: rest ∧ c ≠ '/' :=
        fun piece member c inside =>
          (inductionHypothesis piece member c inside).imp_left (List.mem_cons_of_mem _)
      rw [List.splitOn_cons_eq_if_modifyHead]
      split
      · exact List.forall_mem_cons.mpr ⟨List.forall_mem_nil _, later⟩
      · next noSlash =>
        cases cut : rest.splitOn '/' with
        | nil => exact absurd cut (List.splitOn_ne_nil _ _)
        | cons first others =>
          rw [cut] at later
          obtain ⟨firstLater, othersLater⟩ := List.forall_mem_cons.mp later
          refine List.forall_mem_cons.mpr ⟨List.forall_mem_cons.mpr ⟨?_, firstLater⟩, othersLater⟩
          exact ⟨List.mem_cons_self, fun slash => noSlash (beq_iff_eq.mpr slash)⟩
  exact parts path.toList piece member c inside

theorem pieces_slashFree (path : String) : SlashFree (pieces path) :=
  fun _ member inside => (mem_of_mem_pieces member inside).2 rfl

/-- Pieces without slashes are told by their text, unless there are none. -/
theorem pieces_ofPieces {given : List (List Char)} (free : SlashFree given)
    (nonempty : given ≠ []) : pieces (ofPieces given) = given := by
  rw [pieces, ofPieces, String.toList_ofList, List.splitOn_intercalate '/' free nonempty]

theorem names_ofPieces {given : List (List Char)} (free : SlashFree given) :
    names (ofPieces given) = namesOf given := by
  cases given with
  | nil => rfl
  | cons first rest => rw [names, pieces_ofPieces free (List.cons_ne_nil _ _)]

theorem length_namesOf_le (pieces : List (List Char)) :
    (namesOf pieces).length ≤ pieces.length := by
  cases pieces with
  | nil => exact Nat.le_refl 0
  | cons first rest =>
    have fewer := List.length_filter_le matters rest
    rw [namesOf, List.length_append, List.length_cons]
    split <;> simp only [List.length_nil, List.length_singleton] <;> omega

/-! ## Significant pieces -/

/-- Leaving pieces at the end that say nothing leaves all that say something. -/
theorem filter_rdropWhile (pieces : List (List Char)) :
    (pieces.rdropWhile (!matters ·)).filter matters = pieces.filter matters := by
  have nothing : (pieces.rtakeWhile (!matters ·)).filter matters = [] := by
    refine List.filter_eq_nil_iff.mpr fun piece member => ?_
    simpa using List.mem_rtakeWhile_imp member
  calc (pieces.rdropWhile (!matters ·)).filter matters
      = (pieces.rdropWhile (!matters ·) ++ pieces.rtakeWhile (!matters ·)).filter matters := by
        rw [List.filter_append, nothing, List.append_nil]
    _ = pieces.filter matters := by rw [List.rdropWhile_append_rtakeWhile]

/-- The significant pieces: either there is none, and then no piece says a name, or they are the
first piece and the later ones up to the last that says something. -/
theorem significant_cases (path : String) :
    (significant path = [] ∧ names path = []) ∨
      ∃ first rest, pieces path = first :: rest ∧
        significant path = first :: rest.rdropWhile (!matters ·) ∧
        (first = [] → rest.rdropWhile (!matters ·) ≠ []) := by
  cases cut : pieces path with
  | nil => exact absurd cut (List.splitOn_ne_nil _ _)
  | cons first rest =>
    have significance : significant path =
        if (rest.rdropWhile (!matters ·)).isEmpty && first.isEmpty then []
        else first :: rest.rdropWhile (!matters ·) := by
      rw [significant, cut]
      rfl
    by_cases empty : first = [] ∧ rest.rdropWhile (!matters ·) = []
    · left
      obtain ⟨rfl, nothing⟩ := empty
      rw [significance, names, cut, namesOf, ← filter_rdropWhile, nothing]
      exact ⟨rfl, rfl⟩
    · right
      rw [significance, if_neg (by simpa only [Bool.and_eq_true, List.isEmpty_iff, and_comm])]
      exact ⟨first, rest, rfl, rfl, fun silent nothing => empty ⟨silent, nothing⟩⟩

/-- Significant pieces start as all pieces do, and an empty one is not alone. -/
theorem significant_cons {path : String} {first : List Char} {others : List (List Char)}
    (same : significant path = first :: others) :
    ∃ rest, pieces path = first :: rest ∧ others = rest.rdropWhile (!matters ·) ∧
      (first = [] → others ≠ []) := by
  rcases significant_cases path with ⟨nothing, -⟩ | ⟨_, rest, cut, kept, solid⟩
  · cases nothing.symm.trans same
  · obtain ⟨rfl, rfl⟩ := List.cons.inj (kept.symm.trans same)
    exact ⟨rest, cut, rfl, solid⟩

theorem significant_subset (path : String) : significant path ⊆ pieces path := by
  rcases significant_cases path with ⟨nothing, -⟩ | ⟨first, rest, cut, kept, -⟩
  · rw [nothing]
    exact List.nil_subset _
  · rw [kept, cut]
    exact List.cons_subset_cons first (List.rdropWhile_prefix _ _).subset

theorem significant_slashFree (path : String) : SlashFree (significant path) :=
  fun piece member => pieces_slashFree path piece (significant_subset path member)

/-- The significant pieces say what the path says. -/
theorem namesOf_significant (path : String) : namesOf (significant path) = names path := by
  rcases significant_cases path with ⟨nothing, silent⟩ | ⟨first, rest, cut, kept, -⟩
  · rw [nothing, silent]
    rfl
  · rw [kept, names, cut, namesOf, namesOf, filter_rdropWhile]

/-- The last significant piece is a name. -/
theorem namesOf_of_significant {path : String} {before : List (List Char)} {last : List Char}
    (same : significant path = before ++ [last]) : names path = namesOf before ++ [last] := by
  rw [← namesOf_significant, same]
  cases before with
  | nil =>
    obtain ⟨rest, -, -, solid⟩ := significant_cons same
    have nonempty : last ≠ [] := fun empty => solid empty rfl
    simp [namesOf, nonempty]
  | cons first middle =>
    obtain ⟨rest, -, later, -⟩ := significant_cons same
    have nonempty : rest.rdropWhile (!matters ·) ≠ [] := by
      rw [← later]
      exact List.append_ne_nil_of_right_ne_nil _ (List.cons_ne_nil _ _)
    have ends := List.rdropWhile_last_not (!matters ·) rest nonempty
    have isLast : (rest.rdropWhile (!matters ·)).getLast nonempty = last := by
      simp only [← later, List.append_eq, List.getLast_append_singleton]
    rw [isLast] at ends
    have matter : matters last = true := by simpa using ends
    simp [namesOf, matter]

/-! ## The root -/

theorem ofPieces_pieces (path : String) : ofPieces (pieces path) = path := by
  rw [ofPieces, pieces, List.intercalate_splitOn, String.ofList_toList]

/-- A text of pieces starts at the root exactly if the first of several pieces is empty. -/
theorem isAbsolute_ofPieces_iff {given : List (List Char)} (free : SlashFree given) :
    isAbsolute (ofPieces given) = true ↔ ∃ rest, rest ≠ [] ∧ given = [] :: rest := by
  rw [isAbsolute, ofPieces, String.toList_ofList, beq_iff_eq]
  cases given with
  | nil => simp
  | cons first rest =>
    have firstFree : '/' ∉ first := free first List.mem_cons_self
    cases rest with
    | nil =>
      rw [List.intercalate_singleton]
      refine iff_of_false (fun starts => firstFree (List.mem_of_head? starts)) ?_
      rintro ⟨rest, nonempty, same⟩
      exact nonempty (List.cons.inj same).2.symm
    | cons second others =>
      rw [List.intercalate_cons_of_ne_nil (List.cons_ne_nil _ _), List.append_assoc]
      cases first with
      | nil => simp
      | cons c piece =>
        have noSlash : c ≠ '/' := fun slash => firstFree (slash ▸ List.mem_cons_self)
        simp [noSlash]

/-- Where a path has significant pieces, it starts at the root exactly if the first is empty. -/
theorem isAbsolute_iff_of_significant {path : String} {first : List Char}
    {others : List (List Char)} (same : significant path = first :: others) :
    isAbsolute path = true ↔ first = [] := by
  obtain ⟨rest, cut, rfl, solid⟩ := significant_cons same
  rw [← ofPieces_pieces path, isAbsolute_ofPieces_iff (pieces_slashFree path), cut]
  constructor
  · rintro ⟨_, -, rooted⟩
    exact (List.cons.inj rooted).1
  · rintro rfl
    refine ⟨rest, ?_, rfl⟩
    rintro rfl
    exact solid rfl rfl

/-- The text of the significant pieces starts where the path starts. -/
theorem isAbsolute_ofPieces_significant {path : String} {first : List Char}
    {others : List (List Char)} (same : significant path = first :: others) :
    isAbsolute (ofPieces (first :: others)) = isAbsolute path := by
  have free : SlashFree (first :: others) := same ▸ significant_slashFree path
  obtain ⟨rest, -, -, solid⟩ := significant_cons same
  rw [Bool.eq_iff_iff, isAbsolute_ofPieces_iff free, isAbsolute_iff_of_significant same]
  constructor
  · rintro ⟨_, -, rooted⟩
    exact (List.cons.inj rooted).1
  · rintro rfl
    exact ⟨others, solid rfl, rfl⟩

/-! ## Steps up -/

/-- Where a path has significant pieces, a step up leaves what all of them but the last say, and
starts where the path starts. -/
theorem parent?_of_significant {path : String} {before : List (List Char)} {last : List Char}
    (same : significant path = before ++ [last]) :
    ∃ parent, parent? path = some parent ∧ names parent = namesOf before ∧
      isAbsolute parent = isAbsolute path := by
  have free : SlashFree before := fun piece member =>
    significant_slashFree path piece (same ▸ List.mem_append_left _ member)
  have stays : namesOf (significant (ofPieces before)) = namesOf before := by
    rw [namesOf_significant, names_ofPieces free]
  have reversed : (significant path).reverse = last :: before.reverse := by
    rw [same, List.reverse_append]
    rfl
  rw [parent?, reversed]
  dsimp only
  rw [List.reverse_reverse]
  refine ⟨_, rfl, ?_⟩
  cases kept : significant (ofPieces before) with
  | nil =>
    rw [kept] at stays
    rw [← stays]
    cases isAbsolute path <;> exact ⟨rfl, rfl⟩
  | cons first others =>
    cases before with
    | nil => cases kept
    | cons start middle =>
      obtain ⟨rest, cut, -, solid⟩ := significant_cons kept
      rw [pieces_ofPieces free (List.cons_ne_nil _ _)] at cut
      obtain ⟨rfl, -⟩ := List.cons.inj cut
      have root : isAbsolute (ofPieces (start :: middle)) = isAbsolute path := by
        rw [Bool.eq_iff_iff, isAbsolute_iff_of_significant kept,
          isAbsolute_iff_of_significant same]
      have stay : ¬(isAbsolute path && decide ((start :: others).length ≤ 1)) = true := by
        intro top
        obtain ⟨absolute, short⟩ := Bool.and_eq_true_iff.mp top
        refine solid ((isAbsolute_iff_of_significant same).mp absolute) ?_
        exact List.eq_nil_of_length_eq_zero (by simpa using short)
      rw [if_neg stay, ← stays, ← root, kept, ← isAbsolute_ofPieces_significant kept]
      exact ⟨names_ofPieces (kept ▸ significant_slashFree _), rfl⟩

/-- A step up leaves the path without its last name, and starts where the path starts. -/
theorem names_of_parent? {path parent : String} (isParent : parent? path = some parent) :
    (∃ last, names path = names parent ++ [last]) ∧ isAbsolute parent = isAbsolute path := by
  rcases List.eq_nil_or_concat (significant path) with nothing | ⟨before, last, same⟩
  · rw [parent?, nothing] at isParent
    cases isParent
  · rw [List.concat_eq_append] at same
    obtain ⟨other, found, left, root⟩ := parent?_of_significant same
    obtain rfl := Option.some.inj (found.symm.trans isParent)
    exact ⟨⟨last, left ▸ namesOf_of_significant same⟩, root⟩

/-- There is a step up exactly if there is a name. -/
theorem parent?_eq_none_iff (path : String) : parent? path = none ↔ names path = [] := by
  rcases List.eq_nil_or_concat (significant path) with nothing | ⟨before, last, same⟩
  · refine iff_of_true ?_ ?_
    · rw [parent?, nothing]
      rfl
    · rw [← namesOf_significant, nothing]
      rfl
  · rw [List.concat_eq_append] at same
    obtain ⟨parent, isParent, -⟩ := parent?_of_significant same
    refine iff_of_false ?_ ?_
    · rw [isParent]
      exact Option.some_ne_none parent
    · rw [namesOf_of_significant same]
      exact List.append_ne_nil_of_right_ne_nil _ (List.cons_ne_nil _ _)

/-- The path that so many steps up lead to, if there are as many. -/
def above? : (steps : Nat) → (path : String) → Option String
  | 0, path => some path
  | steps + 1, path => (parent? path).bind (above? steps)

/-- There are as many steps up as there are names. -/
theorem exists_above?_iff {steps : Nat} {path : String} :
    (∃ directory, above? steps path = some directory) ↔ steps ≤ (names path).length := by
  induction steps generalizing path with
  | zero => exact iff_of_true ⟨path, rfl⟩ (Nat.zero_le _)
  | succ steps inductionHypothesis =>
    rw [above?]
    cases isParent : parent? path with
    | none =>
      rw [(parent?_eq_none_iff path).mp isParent]
      simp
    | some parent =>
      obtain ⟨⟨last, split⟩, -⟩ := names_of_parent? isParent
      rw [split, List.length_append, List.length_singleton, Nat.add_le_add_iff_right]
      exact inductionHypothesis

/-- So many steps up leave a path without its last so many names, and start where it starts. -/
theorem names_of_above? {steps : Nat} {path directory : String}
    (reached : above? steps path = some directory) :
    (∃ dropped, dropped.length = steps ∧ names path = names directory ++ dropped) ∧
      isAbsolute directory = isAbsolute path := by
  induction steps generalizing path with
  | zero =>
    obtain rfl := Option.some.inj reached
    exact ⟨⟨[], rfl, (List.append_nil _).symm⟩, rfl⟩
  | succ steps inductionHypothesis =>
    obtain ⟨parent, isParent, further⟩ := Option.bind_eq_some_iff.mp reached
    obtain ⟨⟨dropped, count, left⟩, rooted⟩ := inductionHypothesis further
    obtain ⟨⟨last, split⟩, root⟩ := names_of_parent? isParent
    refine ⟨⟨dropped ++ [last], ?_, ?_⟩, rooted.trans root⟩
    · rw [List.length_append, count, List.length_singleton]
    · rw [split, left, List.append_assoc]

/-- The directories above a path are all that steps up lead to, the nearest first. -/
theorem getElem?_ancestors (path : String) (steps : Nat) :
    (ancestors path)[steps]? = above? steps path := by
  -- Within as many steps as there are names the top is reached.
  have within (fuel : Nat) (enough : (names path).length ≤ fuel) :
      (ancestorsWithin fuel path)[steps]? = above? steps path := by
    induction fuel generalizing path steps with
    | zero =>
      have top := (parent?_eq_none_iff path).mpr (List.eq_nil_of_length_eq_zero (by omega))
      cases steps with
      | zero => rfl
      | succ steps => rw [above?, top, ancestorsWithin]; rfl
    | succ fuel inductionHypothesis =>
      rw [ancestorsWithin]
      cases steps with
      | zero => split <;> rfl
      | succ steps =>
        rw [above?]
        cases isParent : parent? path with
        | none => rfl
        | some parent =>
          obtain ⟨⟨last, split⟩, -⟩ := names_of_parent? isParent
          rw [split, List.length_append, List.length_singleton] at enough
          exact inductionHypothesis parent steps (by omega)
  exact within _ (length_namesOf_le (pieces path))

end SchemaFixtures.Files.Path
