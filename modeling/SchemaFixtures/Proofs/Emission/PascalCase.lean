import SchemaFixtures.Proofs.Emission.References

/-!
# Names in Pascal case, position by position

Pascal case cuts a name into segments and a segment into words, changes the case of every word,
and puts the pieces together again. On a name of the schema language all this comes down to one
rule for each position, which looks at the characters next to it: nothing is lost, put in or
moved. A later word starts with a capital, so the underscore that would keep a leading digit
apart is never written.
-/

namespace SchemaFixtures.Emission

/-! ## The rule -/

/-- Whether a character becomes a capital, given its neighbours: at the start of a segment, as a
capital after a small letter or a digit, and as the last of a row of capitals that a small letter
follows. -/
def rises (previous : Option Char) (c : Char) (following : Option Char) : Bool :=
  match previous with
  | none => true
  | some before =>
    before == '_' || c.isUpper &&
      (before.isLower || before.isDigit || before.isUpper && following.any Char.isLower)

/-- A character in the case that its neighbours ask for. -/
def recase (previous : Option Char) (c : Char) (following : Option Char) : Char :=
  if rises previous c following then c.toUpper else c.toLower

/-- A text with every character in the case that its neighbours ask for, given the character
before the text. -/
def recased (previous : Option Char) : List Char → List Char
  | [] => []
  | c :: rest => recase previous c rest.head? :: recased (some c) rest

/-- The character before a position, given the character before the text. -/
def before? (previous : Option Char) (text : List Char) : (position : Nat) → Option Char
  | 0 => previous
  | position + 1 => text[position]?

theorem getElem?_recased (previous : Option Char) (text : List Char) (position : Nat) :
    (recased previous text)[position]? = text[position]?.map fun c =>
      recase (before? previous text position) c text[position + 1]? := by
  induction text generalizing previous position with
  | nil => rfl
  | cons c rest inductionHypothesis =>
    cases position with
    | zero => simp [recased, before?, List.head?_eq_getElem?]
    | succ position =>
      have later := inductionHypothesis (some c) position
      cases position with
      | zero => simpa [recased, before?] using later
      | succ position => simpa [recased, before?] using later

theorem length_recased (previous : Option Char) (text : List Char) :
    (recased previous text).length = text.length := by
  induction text generalizing previous with
  | nil => rfl
  | cons c rest inductionHypothesis => simp [recased, inductionHypothesis]

/-! ## Characters of names -/

/-- The classes and cases of a character of names are those of the plain alphabet. -/
theorem plain_of_name {c : Char} (named : isNameCharacter c = true) :
    Text.isCapital c = c.isUpper ∧ Text.isSmall c = c.isLower ∧ Text.isNumeral c = c.isDigit ∧
      Text.isWordCharacter c = c.isAlphanum ∧ Text.toCapital c = [c.toUpper] ∧
      Text.toSmall c = [c.toLower] := by
  have small : c.toNat < 128 := (of_nameCharacter (P := fun _ => True) (by simp) named).1
  simp [Text.isCapital, Text.isSmall, Text.isNumeral, Text.isWordCharacter, Text.toCapital,
    Text.toSmall, small]

/-- A change of case keeps everything but the case, and underscores altogether. -/
theorem cases_of_name {c : Char} (named : isNameCharacter c = true) :
    (c.toUpper.toLower = c.toLower ∧ c.toLower.toLower = c.toLower) ∧
      (c.toUpper = '_' ↔ c = '_') ∧ (c.toLower = '_' ↔ c = '_') :=
  (of_nameCharacter (P := fun c => (c.toUpper.toLower = c.toLower ∧
    c.toLower.toLower = c.toLower) ∧ (c.toUpper = '_' ↔ c = '_') ∧ (c.toLower = '_' ↔ c = '_'))
    (by decide) named).2

theorem toLower_recase {c : Char} (named : isNameCharacter c = true)
    (previous following : Option Char) : (recase previous c following).toLower = c.toLower := by
  rw [recase]
  split
  · exact (cases_of_name named).1.1
  · exact (cases_of_name named).1.2

theorem recase_eq_underscore {c : Char} (named : isNameCharacter c = true)
    (previous following : Option Char) : recase previous c following = '_' ↔ c = '_' := by
  rw [recase]
  split
  · exact (cases_of_name named).2.1
  · exact (cases_of_name named).2.2

/-! ## Words of a segment -/

/-- A segment of a name: characters of names without an underscore. -/
def IsSegment (text : List Char) : Prop := ∀ c ∈ text, isNameCharacter c = true ∧ c ≠ '_'

theorem isSegment_cons {c : Char} {text : List Char} :
    IsSegment (c :: text) ↔ (isNameCharacter c = true ∧ c ≠ '_') ∧ IsSegment text :=
  List.forall_mem_cons

/-- No character of a segment parts words by being dropped. -/
theorem isWordCharacter_of_segment {c : Char} (named : isNameCharacter c = true)
    (solid : c ≠ '_') : Text.isWordCharacter c = true := by
  rw [(plain_of_name named).2.2.2.1]
  rw [isNameCharacter, Bool.or_eq_true, beq_iff_eq] at named
  exact named.resolve_left solid

/-- Inside a segment a word starts where a character becomes a capital. -/
theorem startsWord_eq_rises {before c : Char} {rest : List Char}
    (beforeNamed : isNameCharacter before = true) (solid : before ≠ '_')
    (named : isNameCharacter c = true) (segment : IsSegment rest) :
    startsWord (some before) c rest.head? = rises (some before) c rest.head? := by
  have small : rest.head?.any Text.isSmall = rest.head?.any Char.isLower := by
    cases rest with
    | nil => rfl
    | cons next others => exact (plain_of_name (isSegment_cons.mp segment).1.1).2.1
  obtain ⟨capital, smallBefore, numeral, -⟩ := plain_of_name beforeNamed
  rw [startsWord, rises, (plain_of_name named).1, capital, smallBefore, numeral, small,
    beq_eq_false_iff_ne.mpr solid, Bool.false_or]

/-- Behind the start of a segment only capitals become capitals. -/
theorem isUpper_of_rises {before c : Char} {following : Option Char} (solid : before ≠ '_')
    (raised : rises (some before) c following = true) : c.isUpper = true := by
  rw [rises, beq_eq_false_iff_ne.mpr solid, Bool.false_or, Bool.and_eq_true] at raised
  exact raised.1

/-- A word that starts with a capital. -/
def StartsCapital (word : List Char) : Prop := ∃ first rest, word = first :: rest ∧ first.isUpper

theorem finishWord_begun {gathered : List Char} (begun : gathered ≠ [])
    (words : List (List Char)) : finishWord gathered words = gathered.reverse :: words := by
  rw [finishWord, List.isEmpty_eq_false_iff.mpr begun]
  rfl

/-- A step to a character of a segment: it starts a word where it becomes a capital. -/
theorem wordsFrom_cons {before c : Char} {rest gathered : List Char}
    (beforeNamed : isNameCharacter before = true) (solid : before ≠ '_')
    (segment : IsSegment (c :: rest)) (begun : gathered ≠ []) :
    wordsFrom (some before) gathered (c :: rest) =
      if rises (some before) c rest.head? then
        gathered.reverse :: wordsFrom (some c) [c] rest
      else wordsFrom (some c) (c :: gathered) rest := by
  obtain ⟨⟨named, plain⟩, later⟩ := isSegment_cons.mp segment
  rw [wordsFrom, isWordCharacter_of_segment named plain, Bool.not_true, if_neg Bool.false_ne_true,
    startsWord_eq_rises beforeNamed solid named later, finishWord_begun begun]

/-- The word that is begun comes first, and all words behind it start with a capital. The
induction is on the text, for every word that is begun. -/
theorem wordsFrom_begun {text : List Char} (segment : IsSegment text) {before : Char}
    (beforeNamed : isNameCharacter before = true) (solid : before ≠ '_') {gathered : List Char}
    (begun : gathered ≠ []) :
    ∃ more others, wordsFrom (some before) gathered text = (gathered.reverse ++ more) :: others ∧
      ∀ word ∈ others, StartsCapital word := by
  induction text generalizing before gathered with
  | nil => exact ⟨[], [], by rw [wordsFrom, finishWord_begun begun, List.append_nil], by simp⟩
  | cons c rest inductionHypothesis =>
    obtain ⟨⟨named, plain⟩, later⟩ := isSegment_cons.mp segment
    rw [wordsFrom_cons beforeNamed solid segment begun]
    split
    · next raised =>
      obtain ⟨more, others, spelled, capitals⟩ :=
        inductionHypothesis later named plain (List.cons_ne_nil c [])
      refine ⟨[], _, by rw [List.append_nil], ?_⟩
      rw [spelled, List.forall_mem_cons]
      exact ⟨⟨c, more, rfl, isUpper_of_rises solid raised⟩, capitals⟩
    · obtain ⟨more, others, spelled, capitals⟩ :=
        inductionHypothesis later named plain (List.cons_ne_nil c gathered)
      refine ⟨c :: more, others, ?_, capitals⟩
      rw [spelled, List.reverse_cons, List.append_assoc, List.singleton_append]

theorem words_cons {c : Char} {rest : List Char} (segment : IsSegment (c :: rest)) :
    words (c :: rest) = wordsFrom (some c) [c] rest := by
  obtain ⟨⟨named, plain⟩, -⟩ := isSegment_cons.mp segment
  rw [words, wordsFrom, isWordCharacter_of_segment named plain]
  rfl

/-- All words of a segment but the first start with a capital. -/
theorem words_later {segment : List Char} (isSegment : IsSegment segment) :
    ∀ word ∈ (words segment).tail, StartsCapital word := by
  cases segment with
  | nil => simp [words, wordsFrom, finishWord]
  | cons c rest =>
    obtain ⟨⟨named, plain⟩, later⟩ := isSegment_cons.mp isSegment
    obtain ⟨more, others, spelled, capitals⟩ :=
      wordsFrom_begun later named plain (List.cons_ne_nil c [])
    rw [words_cons isSegment, spelled]
    exact capitals

/-- A later word is written like a first one: no digit leads it. -/
theorem capitalizeLater_of_capital {word : List Char} (starts : StartsCapital word) :
    word.head?.any Char.isDigit = false ∧ capitalizeLater word = capitalize word := by
  obtain ⟨first, rest, rfl, capital⟩ := starts
  have noDigit : first.isDigit = false := by
    delta Char.isUpper at capital
    delta Char.isDigit
    simp only [decide_eq_true_eq, UInt32.le_iff_toNat_le] at capital
    simp only [Bool.and_eq_false_iff, decide_eq_false_iff_not, UInt32.le_iff_toNat_le]
    simp at capital ⊢
    omega
  refine ⟨noDigit, ?_⟩
  rw [capitalizeLater, noDigit]
  rfl

theorem pascalSegment_eq {segment : List Char} (isSegment : IsSegment segment) :
    pascalSegment segment = (words segment).flatMap capitalize := by
  have later := words_later isSegment
  rw [pascalSegment]
  cases spelled : words segment with
  | nil => rfl
  | cons first others =>
    rw [spelled] at later
    dsimp only
    rw [List.flatMap_cons]
    have same : others.map capitalizeLater = others.map capitalize :=
      List.map_congr_left fun word listed => (capitalizeLater_of_capital (later word listed)).2
    rw [List.flatMap_def, List.flatMap_def, same]

/-- A word that goes on with one more character. -/
theorem capitalize_concat {word : List Char} (begun : word ≠ []) {c : Char}
    (named : isNameCharacter c = true) :
    capitalize (word ++ [c]) = capitalize word ++ [c.toLower] := by
  obtain ⟨first, rest, rfl⟩ := List.exists_cons_of_ne_nil begun
  simp [capitalize, (plain_of_name named).2.2.2.2.2]

/-- What is written for the words from some character on: the word that is begun, and then every
character in the case that its neighbours ask for. -/
theorem capitalize_wordsFrom {text : List Char} (segment : IsSegment text) {before : Char}
    (beforeNamed : isNameCharacter before = true) (solid : before ≠ '_') {gathered : List Char}
    (begun : gathered ≠ []) :
    (wordsFrom (some before) gathered text).flatMap capitalize =
      capitalize gathered.reverse ++ recased (some before) text := by
  induction text generalizing before gathered with
  | nil => simp [wordsFrom, finishWord_begun begun, recased]
  | cons c rest inductionHypothesis =>
    obtain ⟨⟨named, plain⟩, later⟩ := isSegment_cons.mp segment
    rw [wordsFrom_cons beforeNamed solid segment begun, recased, recase]
    split
    · have one : capitalize [c] = [c.toUpper] := by
        simp [capitalize, (plain_of_name named).2.2.2.2.1]
      rw [List.flatMap_cons, inductionHypothesis later named plain (List.cons_ne_nil c []),
        List.reverse_singleton, one, List.singleton_append]
    · rw [inductionHypothesis later named plain (List.cons_ne_nil c gathered), List.reverse_cons,
        capitalize_concat (by simpa using begun) named, List.append_assoc, List.singleton_append]

/-- A segment in Pascal case, position by position. -/
theorem pascalSegment_recased {segment : List Char} (isSegment : IsSegment segment) :
    pascalSegment segment = recased none segment := by
  rw [pascalSegment_eq isSegment]
  cases segment with
  | nil => rfl
  | cons c rest =>
    obtain ⟨⟨named, plain⟩, later⟩ := isSegment_cons.mp isSegment
    rw [words_cons isSegment, capitalize_wordsFrom later named plain (List.cons_ne_nil c [])]
    simp [capitalize, (plain_of_name named).2.2.2.2.1, recased, recase, rises]

/-! ## Names -/

theorem underscore_not_mem_segments (text : List Char) :
    ∀ segment ∈ segments text, '_' ∉ segment := by
  induction text with
  | nil => simp [segments]
  | cons c rest inductionHypothesis =>
    rw [segments]
    split
    · simpa using inductionHypothesis
    · next solid =>
      split
      · next segment others cut =>
        rw [cut, List.forall_mem_cons] at inductionHypothesis
        rw [List.forall_mem_cons, List.mem_cons, not_or]
        exact ⟨⟨Ne.symm solid, inductionHypothesis.1⟩, inductionHypothesis.2⟩
      · simpa using Ne.symm solid

/-- The segments of a name. -/
theorem isSegment_of_segments {name : List Char} (named : AllName name) :
    ∀ segment ∈ segments name, IsSegment segment := by
  intro segment listed c within
  refine ⟨segments_name named segment listed c within, ?_⟩
  rintro rfl
  exact underscore_not_mem_segments name segment listed within

theorem segments_ne_nil (text : List Char) : segments text ≠ [] := by
  fun_cases segments text <;> simp

/-- An underscore behind a character asks for the same case as the end of the name. -/
theorem recase_before_underscore (previous : Option Char) (c : Char) :
    recase previous c (some '_') = recase previous c none := by
  cases previous <;> rfl

/-- The end of a segment asks for the same case as what follows it in the name. -/
theorem recase_segment (previous : Option Char) (c : Char) {text segment : List Char}
    {others : List (List Char)} (cut : segments text = segment :: others) :
    recase previous c segment.head? = recase previous c text.head? := by
  cases text with
  | nil =>
    obtain ⟨rfl, -⟩ := List.cons.inj cut
    rfl
  | cons next rest =>
    rw [segments] at cut
    split at cut
    · next underscore =>
      obtain ⟨rfl, -⟩ := List.cons.inj cut
      rw [underscore]
      exact (recase_before_underscore previous c).symm
    · split at cut <;> obtain ⟨rfl, -⟩ := List.cons.inj cut <;> rfl

/-- Behind an underscore a text is written like a text of its own. -/
theorem recased_underscore (text : List Char) : recased (some '_') text = recased none text := by
  cases text <;> rfl

/-- Segments that are written one by one are the text that is written as a whole: the first one
goes on from the character before the text, the others from an underscore. -/
theorem joined_recased (previous : Option Char) {text segment : List Char}
    {others : List (List Char)} (cut : segments text = segment :: others) :
    ['_'].intercalate (recased previous segment :: others.map (recased none)) =
      recased previous text := by
  induction text generalizing previous segment others with
  | nil =>
    obtain ⟨rfl, rfl⟩ := List.cons.inj cut
    rfl
  | cons c rest inductionHypothesis =>
    obtain ⟨next, later, cutRest⟩ := List.exists_cons_of_ne_nil (segments_ne_nil rest)
    rw [segments, cutRest] at cut
    split at cut
    · next underscore =>
      obtain ⟨rfl, rfl⟩ := List.cons.inj cut
      have kept : recase previous '_' rest.head? = '_' :=
        (recase_eq_underscore (by decide) previous rest.head?).mpr rfl
      rw [underscore, List.map_cons, recased, recased, kept, recased_underscore,
        List.intercalate_cons_of_ne_nil (List.cons_ne_nil _ _), inductionHypothesis none cutRest]
      rfl
    · obtain ⟨rfl, rfl⟩ := List.cons.inj cut
      rw [recased, recased, recase_segment previous c cutRest,
        ← inductionHypothesis (some c) cutRest]
      cases later with
      | nil => simp
      | cons => simp [List.intercalate_cons_of_ne_nil]

/-- A name in Pascal case, position by position. -/
theorem pascalCase_recased {name : List Char} (named : AllName name) :
    pascalCase name = recased none name := by
  obtain ⟨segment, others, cut⟩ := List.exists_cons_of_ne_nil (segments_ne_nil name)
  have written : (segments name).map pascalSegment = (segments name).map (recased none) :=
    List.map_congr_left fun segment listed =>
      pascalSegment_recased (isSegment_of_segments named segment listed)
  rw [pascalCase, written, cut, List.map_cons]
  exact joined_recased none cut

/-- The first character of a name can also start the name that is written for it. -/
theorem opens_toUpper {c : Char} (opens : (c == '_' || c.isAlpha) = true) :
    (c.toUpper == '_' || c.toUpper.isAlpha) = true := by
  have named : isNameCharacter c = true := by
    rw [isNameCharacter, Char.isAlphanum, ← Bool.or_assoc, opens, Bool.true_or]
  exact (of_nameCharacter (P := fun c => (c == '_' || c.isAlpha) = true →
    (c.toUpper == '_' || c.toUpper.isAlpha) = true) (by decide) named).2 opens

/-- What is written for a name is a name. -/
theorem isName_pascalCase {name : String} (isName : Config.isName name = true) :
    Config.isName (convertName .pascalCase name) = true := by
  have named := allName_of_isName isName
  have converted := pascalCase_name named
  rw [convertName, Config.isName, String.toList_ofList]
  rw [pascalCase_recased named] at converted ⊢
  rw [Config.isName] at isName
  cases spelled : name.toList with
  | nil =>
    rw [spelled] at isName
    cases isName
  | cons c rest =>
    rw [spelled] at isName converted
    have later := (allName_cons.mp converted).2
    rw [recased, Bool.and_eq_true]
    exact ⟨opens_toUpper (Bool.and_eq_true_iff.mp isName).1, List.all_eq_true.mpr later⟩

/-- A name in Pascal case has the length of the name, and at each position the same character in
the case that its neighbours ask for. So it differs from the name in case only, underscores stay
where they are, and it is a name again. No word behind the first of a segment starts with a
digit, so no underscore is put in. -/
theorem pascal_case_by_position {name : String} (isName : Config.isName name = true) :
    let converted := convertName .pascalCase name
    converted.length = name.length ∧
    (∀ position : Nat, converted.toList[position]? = name.toList[position]?.map fun c =>
      recase (before? none name.toList position) c name.toList[position + 1]?) ∧
    (∀ position : Nat, converted.toList[position]?.map Char.toLower =
      name.toList[position]?.map Char.toLower) ∧
    (∀ position : Nat, converted.toList[position]? = some '_' ↔ name.toList[position]? = some '_') ∧
    Config.isName converted = true ∧
    ∀ segment ∈ segments name.toList, ∀ word ∈ (words segment).tail,
      word.head?.any Char.isDigit = false := by
  intro converted
  have named := allName_of_isName isName
  have written : converted.toList = recased none name.toList := by
    rw [← pascalCase_recased named]
    exact String.toList_ofList
  have position (index : Nat) : converted.toList[index]? = name.toList[index]?.map fun c =>
      recase (before? none name.toList index) c name.toList[index + 1]? := by
    rw [written, getElem?_recased]
  have within {index : Nat} {c : Char} (found : name.toList[index]? = some c) :
      isNameCharacter c = true := named c (List.mem_of_getElem? found)
  refine ⟨?_, position, fun index => ?_, fun index => ?_, isName_pascalCase isName,
    fun segment listed word later => ?_⟩
  · rw [← String.length_toList, ← String.length_toList, written, length_recased]
  · rw [position]
    cases found : name.toList[index]? with
    | none => rfl
    | some c => exact congrArg some (toLower_recase (within found) _ _)
  · rw [position]
    cases found : name.toList[index]? with
    | none => rfl
    | some c => simpa using recase_eq_underscore (within found) _ _
  · have starts := words_later (isSegment_of_segments named segment listed) word later
    exact (capitalizeLater_of_capital starts).1

/-- Acronyms, digits and underscores in a row. -/
theorem acronyms_and_digits_by_position :
    let name := "__user2ID_9HTMLParser_"
    Config.isName name = true ∧
      convertName .pascalCase name = "__User2Id_9HtmlParser_" ∧
      (∀ position : Nat, (convertName .pascalCase name).toList[position]? =
        name.toList[position]?.map fun c =>
          recase (before? none name.toList position) c name.toList[position + 1]?) := by
  intro name
  have isName : Config.isName name = true := by decide
  exact ⟨isName, by decide, (pascal_case_by_position isName).2.1⟩

end SchemaFixtures.Emission
