import SchemaFixtures.Config.Problem
import SchemaFixtures.Proofs.Emission.Lines

/-!
# Type references in an emitted module

A name of the schema language consists of letters, numerals and underscores of the plain
alphabet. Pascal case only cuts such a name into pieces and changes the case of its letters, so
what is written for it consists of the same characters, with a dot where the name is taken out
of the type module. None of them can be mistaken for the end of a line or of a scalar's type.
-/

namespace SchemaFixtures.Emission

/-- A character of names. -/
def isNameCharacter (c : Char) : Bool := c == '_' || c.isAlphanum

/-- All characters are characters of names. -/
def AllName (text : List Char) : Prop := ∀ c ∈ text, isNameCharacter c = true

theorem allName_of_isName {name : String} (isName : Config.isName name = true) :
    AllName name.toList := by
  intro c member
  rw [Config.isName] at isName
  cases characters : name.toList with
  | nil => simp [characters] at member
  | cons first rest =>
    rw [characters] at isName member
    obtain ⟨opens, follow⟩ := Bool.and_eq_true_iff.mp isName
    rcases List.mem_cons.mp member with rfl | later
    · rw [isNameCharacter, Char.isAlphanum]
      rcases Bool.or_eq_true_iff.mp opens with underscore | letter
      · rw [underscore, Bool.true_or]
      · rw [letter, Bool.true_or, Bool.or_true]
    · exact List.all_eq_true.mp follow c later

theorem ne_nil_of_isName {name : String} (isName : Config.isName name = true) :
    name.toList ≠ [] := by
  intro empty
  rw [Config.isName, empty] at isName
  cases isName

/-! ## Pascal case -/

/-- What holds of the characters of names up to 127 holds of all. -/
theorem of_nameCharacter {P : Char → Prop}
    (plain : ∀ code < 128, isNameCharacter (Char.ofNat code) = true → P (Char.ofNat code))
    {c : Char} (named : isNameCharacter c = true) : c.toNat < 128 ∧ P c := by
  have small : c.toNat < 128 := by
    rw [isNameCharacter, Bool.or_eq_true_iff, beq_iff_eq] at named
    rcases named with rfl | alphanumeric
    · decide
    · delta Char.isAlphanum Char.isAlpha Char.isUpper Char.isLower Char.isDigit at alphanumeric
      simp only [Bool.or_eq_true, Bool.and_eq_true, decide_eq_true_eq,
        UInt32.le_iff_toNat_le] at alphanumeric
      have code : c.val.toNat = c.toNat := rfl
      simp at alphanumeric
      omega
  refine ⟨small, ?_⟩
  have same : Char.ofNat c.toNat = c := Char.ofNat_toNat c
  have holds := plain c.toNat small
  rw [same] at holds
  exact holds named

theorem toCapital_name {c : Char} (named : isNameCharacter c = true) :
    AllName (Text.toCapital c) := by
  obtain ⟨small, capital⟩ := of_nameCharacter (P := fun c => isNameCharacter c.toUpper = true)
    (by decide) named
  rw [Text.toCapital, if_pos small]
  exact List.forall_mem_singleton.mpr capital

theorem toSmall_name {c : Char} (named : isNameCharacter c = true) : AllName (Text.toSmall c) := by
  obtain ⟨small, lower⟩ := of_nameCharacter (P := fun c => isNameCharacter c.toLower = true)
    (by decide) named
  rw [Text.toSmall, if_pos small]
  exact List.forall_mem_singleton.mpr lower

theorem allName_cons {c : Char} {text : List Char} :
    AllName (c :: text) ↔ isNameCharacter c = true ∧ AllName text := List.forall_mem_cons

theorem allName_nil : AllName [] := fun _ member => absurd member List.not_mem_nil

theorem allName_append {text others : List Char} (first : AllName text) (second : AllName others) :
    AllName (text ++ others) := by
  intro c member
  exact (List.mem_append.mp member).elim (first c) (second c)

theorem allName_flatMap {text : List Char} {change : Char → List Char}
    (changed : ∀ c, isNameCharacter c = true → AllName (change c)) (named : AllName text) :
    AllName (text.flatMap change) := by
  intro c member
  obtain ⟨original, within, spelled⟩ := List.mem_flatMap.mp member
  exact changed original (named original within) c spelled

theorem segments_name {text : List Char} (named : AllName text) :
    ∀ segment ∈ segments text, AllName segment := by
  induction text with
  | nil => simp [segments, allName_nil]
  | cons c rest inductionHypothesis =>
    obtain ⟨first, later⟩ := allName_cons.mp named
    have others := inductionHypothesis later
    rw [segments]
    split
    · exact List.forall_mem_cons.mpr ⟨allName_nil, others⟩
    · split
      · next segment rest same =>
        rw [same] at others
        obtain ⟨head, tail⟩ := List.forall_mem_cons.mp others
        exact List.forall_mem_cons.mpr ⟨allName_cons.mpr ⟨first, head⟩, tail⟩
      · exact List.forall_mem_singleton.mpr (allName_cons.mpr ⟨first, allName_nil⟩)

theorem finishWord_name {gathered : List Char} {words : List (List Char)}
    (begun : AllName gathered) (named : ∀ word ∈ words, AllName word) :
    ∀ word ∈ finishWord gathered words, AllName word := by
  rw [finishWord]
  split
  · exact named
  · refine List.forall_mem_cons.mpr ⟨fun c member => ?_, named⟩
    exact begun c (List.mem_reverse.mp member)

/-- Words are made of the characters of the segment and of those gathered before. -/
theorem wordsFrom_name {text : List Char} (named : AllName text) (previous : Option Char)
    {gathered : List Char} (begun : AllName gathered) :
    ∀ word ∈ wordsFrom previous gathered text, AllName word := by
  induction text generalizing previous gathered with
  | nil => exact finishWord_name begun (fun _ member => absurd member List.not_mem_nil)
  | cons c rest inductionHypothesis =>
    obtain ⟨first, later⟩ := allName_cons.mp named
    rw [wordsFrom]
    split
    · exact finishWord_name begun (inductionHypothesis later _ allName_nil)
    · split
      · exact finishWord_name begun
          (inductionHypothesis later _ (allName_cons.mpr ⟨first, allName_nil⟩))
      · exact inductionHypothesis later _ (allName_cons.mpr ⟨first, begun⟩)

theorem capitalize_name {word : List Char} (named : AllName word) : AllName (capitalize word) := by
  cases word with
  | nil => exact allName_nil
  | cons first rest =>
    obtain ⟨head, tail⟩ := allName_cons.mp named
    exact allName_append (toCapital_name head) (allName_flatMap (fun _ => toSmall_name) tail)

theorem capitalizeLater_name {word : List Char} (named : AllName word) :
    AllName (capitalizeLater word) := by
  cases word with
  | nil => exact allName_nil
  | cons first rest =>
    rw [capitalizeLater]
    split
    · obtain ⟨head, tail⟩ := allName_cons.mp named
      exact allName_cons.mpr ⟨by decide, allName_cons.mpr
        ⟨head, allName_flatMap (fun _ => toSmall_name) tail⟩⟩
    · exact capitalize_name named

theorem pascalSegment_name {segment : List Char} (named : AllName segment) :
    AllName (pascalSegment segment) := by
  have wordsNamed := wordsFrom_name named none allName_nil
  rw [pascalSegment, words]
  split
  · exact allName_nil
  · next first others same =>
    rw [same] at wordsNamed
    obtain ⟨head, tail⟩ := List.forall_mem_cons.mp wordsNamed
    refine allName_append (capitalize_name head) fun c member => ?_
    obtain ⟨word, listed, spelled⟩ := List.mem_flatMap.mp member
    exact capitalizeLater_name (tail word listed) c spelled

/-- A name in Pascal case has characters of names only. -/
theorem pascalCase_name {name : List Char} (named : AllName name) : AllName (pascalCase name) := by
  have segmentsNamed := segments_name named
  have joined (parts : List (List Char)) (partsNamed : ∀ part ∈ parts, AllName part) :
      AllName (['_'].intercalate parts) := by
    induction parts with
    | nil => exact allName_nil
    | cons part rest inductionHypothesis =>
      obtain ⟨head, tail⟩ := List.forall_mem_cons.mp partsNamed
      cases rest with
      | nil => rwa [List.intercalate_singleton]
      | cons next others =>
        rw [List.intercalate_cons_of_ne_nil (List.cons_ne_nil _ _)]
        refine allName_append (allName_append head ?_) (inductionHypothesis tail)
        exact List.forall_mem_singleton.mpr (by decide)
  refine joined _ fun part listed => ?_
  obtain ⟨segment, member, rfl⟩ := List.mem_map.mp listed
  exact pascalSegment_name (segmentsNamed segment member)

theorem convertName_name (convention : Config.NamingConvention) {name : String}
    (named : AllName name.toList) : AllName (convertName convention name).toList := by
  cases convention with
  | keep => exact named
  | pascalCase =>
    rw [convertName, String.toList_ofList]
    exact pascalCase_name named

/-! ## References -/

/-- A type reference is not empty, and has characters of names and dots only. -/
structure IsReference (reference : List Char) : Prop where
  notEmpty : reference ≠ []
  characters : ∀ c ∈ reference, isNameCharacter c = true ∨ c = '.'

/-- The reference to a named type. -/
theorem typeReference_isReference (settings : Config.Settings) {name : String}
    (isName : Config.isName name = true) : IsReference (typeReference settings name).toList := by
  have named := allName_of_isName isName
  rw [typeReference]
  split
  · rw [String.toList_append]
    refine ⟨by simp, fun c member => ?_⟩
    rcases List.mem_append.mp member with opening | converted
    · have opens : "types.".toList.all (fun c => isNameCharacter c || c == '.') = true := by decide
      simpa using List.all_eq_true.mp opens c opening
    · exact .inl (convertName_name _ named c converted)
  · exact ⟨ne_nil_of_isName isName, fun c member => .inl (named c member)⟩

/-- A text of characters that end no line can be a line. -/
theorem isLine_of_characters {text : List Char} (notEmpty : text ≠ [])
    (characters : ∀ c ∈ text, c ≠ '\n' ∧ c ≠ '\r') : isLine text = true := by
  have last := characters _ (List.getLast_mem notEmpty)
  rw [isLine_iff, isClosed, List.getLast?_eq_some_getLast notEmpty, Option.any_some,
    Bool.and_eq_true, bne_iff_ne, bne_iff_ne]
  exact ⟨last, fun feed => (characters _ feed).1 rfl⟩

theorem IsReference.isLine {reference : List Char} (isReference : IsReference reference) :
    isLine reference = true := by
  refine isLine_of_characters isReference.notEmpty fun c member => ?_
  rcases isReference.characters c member with named | rfl
  · constructor <;> rintro rfl <;> cases named
  · decide

end SchemaFixtures.Emission
