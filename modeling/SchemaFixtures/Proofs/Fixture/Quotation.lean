import Mathlib.Data.List.TakeDrop
import SchemaFixtures.Fixture.Store
import SchemaFixtures.Proofs.Text.Hexadecimal
import SchemaFixtures.Proofs.Text.Trimming

/-!
# The grammar of quoted text

The body of a quoted string is a row of items. An item is a character that stands for itself, or
an escape: a backslash with one character, with two or four hexadecimal digits, or with digits in
braces. What an item means depends on nothing but the item and, for a zero, the character behind
it. The reader accepts exactly the rows of items and gives what they mean one after another, and
no text is two rows.
-/

namespace SchemaFixtures.Fixture.Quoted

/-! ## Plain characters -/

/-- A character that is no quote and escapes nothing stands for itself. -/
theorem decode_plain {quote character : Char} (noEscape : character ≠ '\\')
    (noQuote : character ≠ quote) (rest : List Char) :
    decode quote (character :: rest) = (decode quote rest).map (character :: ·) := by
  rw [decode] <;> simp_all

/-! ## Items -/

/-- An item of a quoted text, as it is written. -/
inductive Item where
  | plain (character : Char)
  | escaped (letter : Char)
  | twoDigits (first second : Char)
  | fourDigits (first second third fourth : Char)
  | braced (digits : List Char)
deriving DecidableEq

/-- How an item is written. -/
def Item.text : Item → List Char
  | plain character => [character]
  | escaped letter => ['\\', letter]
  | twoDigits first second => ['\\', 'x', first, second]
  | fourDigits first second third fourth => ['\\', 'u', first, second, third, fourth]
  | braced digits => '\\' :: 'u' :: '{' :: (digits ++ ['}'])

/-- The letters that stand for control characters behind a backslash, with these. -/
def controls : List (Char × Char) :=
  [('n', '\n'), ('t', '\t'), ('r', '\r'), ('b', '\x08'), ('f', '\x0c'), ('v', '\x0b')]

/-- The characters that do not stand for themselves behind a backslash. A zero does if a digit
follows. -/
def meaningful : List Char := ['n', 't', 'r', 'b', 'f', 'v', 'x', 'u', '\n']

/-- What an item means between quotes of one kind, with the character that follows it. -/
inductive Item.Means (quote : Char) (following : Option Char) : Item → List Char → Prop where
  | plain {character : Char} (noEscape : character ≠ '\\') (noQuote : character ≠ quote) :
      Item.Means quote following (.plain character) [character]
  | control {letter character : Char} (stands : (letter, character) ∈ controls) :
      Item.Means quote following (.escaped letter) [character]
  | null (noDigit : following.any (·.isDigit) = false) :
      Item.Means quote following (.escaped '0') ['\x00']
  | twoDigits {first second character : Char} (names : Text.Names [first, second] character) :
      Item.Means quote following (.twoDigits first second) [character]
  | fourDigits {first second third fourth character : Char}
      (names : Text.Names [first, second, third, fourth] character) :
      Item.Means quote following (.fourDigits first second third fourth) [character]
  | braced {digits : List Char} {character : Char} (names : Text.Names digits character) :
      Item.Means quote following (.braced digits) [character]
  | lineFeed : Item.Means quote following (.escaped '\n') []
  | other {letter : Char} (free : letter ∉ meaningful)
      (zero : letter = '0' → following.any (·.isDigit) = true) :
      Item.Means quote following (.escaped letter) [letter]

/-- How a row of items is written. -/
def written (items : List Item) : List Char := items.flatMap Item.text

@[simp] theorem written_nil : written [] = [] := rfl

@[simp] theorem written_cons (item : Item) (rest : List Item) :
    written (item :: rest) = item.text ++ written rest := List.flatMap_cons

/-- A row of items spells a text. -/
inductive Spells (quote : Char) : List Item → List Char → Prop where
  | nil : Spells quote [] []
  | cons {item : Item} {rest : List Item} {meaning text : List Char}
      (means : item.Means quote (written rest).head? meaning) (spells : Spells quote rest text) :
      Spells quote (item :: rest) (meaning ++ text)

/-! ## Reading an item -/

variable {quote : Char}

/-- Braces are no digits. -/
theorem no_brace_of_digits {digits : List Char} {values : List Nat}
    (isDigits : List.Forall₂ Text.IsHexDigit digits values) : '{' ∉ digits ∧ '}' ∉ digits := by
  induction isDigits with
  | nil => simp
  | @cons digit value digits values isDigit _ inductionHypothesis =>
    have known := Text.hexValue?_eq_some_iff.mpr isDigit
    have noOpening : '{' ≠ digit := by
      rintro rfl
      cases (show Text.hexValue? '{' = none by decide).symm.trans known
    have noClosing : '}' ≠ digit := by
      rintro rfl
      cases (show Text.hexValue? '}' = none by decide).symm.trans known
    simp only [List.mem_cons, not_or]
    exact ⟨⟨noOpening, inductionHypothesis.1⟩, noClosing, inductionHypothesis.2⟩

theorem no_brace_of_names {digits : List Char} {character : Char}
    (names : Text.Names digits character) : '{' ∉ digits ∧ '}' ∉ digits := by
  obtain ⟨-, values, isDigits, -⟩ := names
  exact no_brace_of_digits isDigits

theorem not_brace_of_names {first : Char} {rest : List Char} {character : Char}
    (names : Text.Names (first :: rest) character) : first ≠ '{' := by
  rintro rfl
  exact (no_brace_of_names names).1 List.mem_cons_self

theorem decode_escaped {letter : Char} (noShort : letter ≠ 'x') (noLong : letter ≠ 'u')
    (rest : List Char) : decode quote ('\\' :: letter :: rest) =
      (letterEscape? letter rest.head?).bind fun meaning =>
        (decode quote rest).map (meaning ++ ·) := by
  rw [decode]
  · cases letterEscape? letter rest.head? <;> rfl
  · simp_all
  · simp_all
  · simp_all

theorem decode_twoDigits {first second character : Char}
    (names : Text.Names [first, second] character) (rest : List Char) :
    decode quote ('\\' :: 'x' :: first :: second :: rest) =
      (decode quote rest).map (character :: ·) := by
  rw [decode, Text.hexCharacter?_eq_some_iff.mpr names]

theorem decode_fourDigits {first second third fourth character : Char}
    (names : Text.Names [first, second, third, fourth] character) (rest : List Char) :
    decode quote ('\\' :: 'u' :: first :: second :: third :: fourth :: rest) =
      (decode quote rest).map (character :: ·) := by
  rw [decode, Text.hexCharacter?_eq_some_iff.mpr names]
  exact not_brace_of_names names

/-- Digits in braces are gathered up to the closing brace. -/
theorem decodeBraced_closed {digits more : List Char} {character : Char} (opened : '}' ∉ more)
    (names : Text.Names (digits.reverse ++ more) character) (rest : List Char) :
    decodeBraced quote digits (more ++ '}' :: rest) =
      (decode quote rest).map (character :: ·) := by
  induction more generalizing digits with
  | nil =>
    rw [List.append_nil] at names
    rw [List.nil_append, decodeBraced, Text.hexCharacter?_eq_some_iff.mpr names]
  | cons next more inductionHypothesis =>
    obtain ⟨notClosing, openedOn⟩ := List.ne_and_not_mem_of_not_mem_cons opened
    rw [List.cons_append, decodeBraced]
    · exact inductionHypothesis openedOn (by simpa using names)
    · exact notClosing.symm

/-- Where digits are read, they name a character, and the rest is read behind it. -/
theorem names_of_read {digits rest text : List Char}
    (read : (match Text.hexCharacter? digits with
      | some character => (decode quote rest).map (character :: ·)
      | none => none) = some text) :
    ∃ character others, Text.Names digits character ∧ decode quote rest = some others ∧
      text = character :: others := by
  cases named : Text.hexCharacter? digits with
  | none => simp [named] at read
  | some character =>
    rw [named] at read
    obtain ⟨others, readOn, rfl⟩ := Option.map_eq_some_iff.mp read
    exact ⟨character, others, Text.hexCharacter?_eq_some_iff.mp named, readOn, rfl⟩

theorem decodeBraced_ends {digits body text : List Char}
    (read : decodeBraced quote digits body = some text) :
    ∃ more rest character others, body = more ++ '}' :: rest ∧
      Text.Names (digits.reverse ++ more) character ∧ decode quote rest = some others ∧
      text = character :: others := by
  induction body generalizing digits with
  | nil => cases read
  | cons next rest inductionHypothesis =>
    by_cases closing : next = '}'
    · subst closing
      rw [decodeBraced] at read
      obtain ⟨character, others, names, readOn, rfl⟩ := names_of_read read
      exact ⟨[], rest, character, others, rfl, by rwa [List.append_nil], readOn, rfl⟩
    · rw [decodeBraced] at read
      · obtain ⟨more, after, character, others, rfl, names, readOn, rfl⟩ :=
          inductionHypothesis read
        exact ⟨next :: more, after, character, others, rfl, by simpa using names, readOn, rfl⟩
      · exact closing

/-- What one character means behind a backslash. -/
theorem letterEscape?_eq_some_iff {letter : Char} {following : Option Char}
    {meaning : List Char} : letterEscape? letter following = some meaning ↔
      Item.Means quote following (.escaped letter) meaning := by
  constructor
  · intro known
    rw [letterEscape?.eq_def] at known
    split at known <;> cases known
    · exact .control (by decide)
    · exact .control (by decide)
    · exact .control (by decide)
    · exact .control (by decide)
    · exact .control (by decide)
    · exact .control (by decide)
    · by_cases digit : following.any (·.isDigit) = true
      · rw [if_pos digit]
        exact .other (by decide) fun _ => digit
      · rw [if_neg digit]
        exact .null (Bool.not_eq_true _ ▸ digit)
    · exact .lineFeed
    · refine .other ?_ fun zero => absurd zero (by assumption)
      simp_all [meaningful]
  · intro means
    cases means with
    | control stands =>
      simp only [controls, List.mem_cons, Prod.mk.injEq, List.not_mem_nil, or_false] at stands
      rcases stands with ⟨rfl, rfl⟩ | ⟨rfl, rfl⟩ | ⟨rfl, rfl⟩ | ⟨rfl, rfl⟩ | ⟨rfl, rfl⟩ |
        ⟨rfl, rfl⟩ <;> rfl
    | null noDigit => simp [letterEscape?, noDigit]
    | lineFeed => rfl
    | other free zero =>
      simp only [meaningful, List.mem_cons, List.not_mem_nil, or_false, not_or] at free
      by_cases isZero : letter = '0'
      · subst isZero
        simp [letterEscape?, zero rfl]
      · rw [letterEscape?] <;> simp_all

/-- The letters of digits mean nothing without them. -/
theorem not_digits_of_means {letter : Char} {following : Option Char} {meaning : List Char}
    (means : Item.Means quote following (.escaped letter) meaning) :
    letter ≠ 'x' ∧ letter ≠ 'u' := by
  have known := letterEscape?_eq_some_iff.mpr means
  constructor <;> rintro rfl <;> cases known

/-- Reading an item gives what it means, before what the rest means. -/
theorem decode_item {item : Item} {meaning rest : List Char}
    (means : item.Means quote rest.head? meaning) :
    decode quote (item.text ++ rest) = (decode quote rest).map (meaning ++ ·) := by
  cases item with
  | plain character =>
    cases means with
    | plain noEscape noQuote => exact decode_plain noEscape noQuote rest
  | escaped letter =>
    obtain ⟨noShort, noLong⟩ := not_digits_of_means means
    have known := letterEscape?_eq_some_iff.mpr means
    exact (decode_escaped noShort noLong rest).trans (by rw [known, Option.bind_some])
  | twoDigits first second =>
    cases means with
    | twoDigits names => exact decode_twoDigits names rest
  | fourDigits first second third fourth =>
    cases means with
    | fourDigits names => exact decode_fourDigits names rest
  | braced digits =>
    cases means with
    | braced names =>
      have text : (Item.braced digits).text ++ rest =
          '\\' :: 'u' :: '{' :: (digits ++ '}' :: rest) := by simp [Item.text]
      rw [text, decode]
      exact decodeBraced_closed (no_brace_of_names names).2 (by simpa using names) rest

/-- What is read starts with an item, and the rest is read after it. -/
theorem item_of_decode {body text : List Char} (read : decode quote body = some text) :
    (body = [] ∧ text = []) ∨ ∃ item meaning rest others, body = Item.text item ++ rest ∧
      item.Means quote rest.head? meaning ∧ decode quote rest = some others ∧
      text = meaning ++ others := by
  rw [decode.eq_def] at read
  split at read
  · exact .inl ⟨rfl, (Option.some.inj read).symm⟩
  · next first second rest =>
    obtain ⟨character, others, names, readOn, rfl⟩ := names_of_read read
    exact .inr ⟨.twoDigits first second, [character], rest, others, rfl, .twoDigits names, readOn,
      rfl⟩
  · next rest =>
    obtain ⟨digits, after, character, others, rfl, names, readOn, rfl⟩ := decodeBraced_ends read
    exact .inr ⟨.braced digits, [character], after, others, by simp [Item.text], .braced names,
      readOn, rfl⟩
  · next first second third fourth rest _ =>
    obtain ⟨character, others, names, readOn, rfl⟩ := names_of_read read
    exact .inr ⟨.fourDigits first second third fourth, [character], rest, others, rfl,
      .fourDigits names, readOn, rfl⟩
  · next letter rest _ _ _ =>
    cases known : letterEscape? letter rest.head? with
    | none => simp [known] at read
    | some meaning =>
      rw [known] at read
      obtain ⟨others, readOn, rfl⟩ := Option.map_eq_some_iff.mp read
      exact .inr ⟨.escaped letter, meaning, rest, others, rfl,
        letterEscape?_eq_some_iff.mp known, readOn, rfl⟩
  · next character rest _ _ _ _ =>
    by_cases ends : character = '\\' ∨ character = quote
    · rw [if_pos ends] at read
      cases read
    · rw [if_neg ends] at read
      obtain ⟨others, readOn, rfl⟩ := Option.map_eq_some_iff.mp read
      obtain ⟨noEscape, noQuote⟩ := not_or.mp ends
      exact .inr ⟨.plain character, [character], rest, others, rfl, .plain noEscape noQuote,
        readOn, rfl⟩

/-! ## Rows of items -/

theorem decode_written {items : List Item} {text : List Char} (spells : Spells quote items text) :
    decode quote (written items) = some text := by
  induction spells with
  | nil => rfl
  | @cons item rest meaning text means _ inductionHypothesis =>
    rw [written_cons, decode_item means, inductionHypothesis, Option.map_some]

/-- An item takes at least one character. -/
theorem length_text_pos (item : Item) : 0 < item.text.length := by
  cases item <;> simp [Item.text]

/-- What is read is a row of items. The induction is on the length of the body, since an item
takes one character or many. -/
theorem spells_of_decode {body text : List Char} (read : decode quote body = some text) :
    ∃ items, written items = body ∧ Spells quote items text := by
  obtain ⟨rfl, rfl⟩ | ⟨item, meaning, rest, others, rfl, means, readOn, rfl⟩ :=
    item_of_decode read
  · exact ⟨[], rfl, .nil⟩
  · have shorter : rest.length < (item.text ++ rest).length := by
      have taken := length_text_pos item
      rw [List.length_append]
      omega
    obtain ⟨items, rfl, spells⟩ := spells_of_decode readOn
    exact ⟨item :: items, written_cons item items, .cons means spells⟩
termination_by body.length

/-- The reader accepts exactly the rows of items, and gives what they spell. -/
theorem decode_eq_some_iff {body text : List Char} :
    decode quote body = some text ↔ ∃ items, written items = body ∧ Spells quote items text := by
  constructor
  · exact spells_of_decode
  · rintro ⟨items, rfl, spells⟩
    exact decode_written spells

/-- The item that a text starts with, if it starts with one. -/
def firstItem? : List Char → Option Item
  | [] => none
  | '\\' :: 'x' :: first :: second :: _ => some (.twoDigits first second)
  | '\\' :: 'u' :: '{' :: rest => some (.braced (rest.takeWhile (· != '}')))
  | '\\' :: 'u' :: first :: second :: third :: fourth :: _ =>
    some (.fourDigits first second third fourth)
  | '\\' :: letter :: _ => some (.escaped letter)
  | character :: _ => some (.plain character)

theorem firstItem?_written {item : Item} {following : Option Char} {meaning : List Char}
    (means : item.Means quote following meaning) (rest : List Char) :
    firstItem? (item.text ++ rest) = some item := by
  cases item with
  | plain character =>
    cases means with
    | plain noEscape _ => simp_all [Item.text, firstItem?]
  | escaped letter =>
    obtain ⟨noShort, noLong⟩ := not_digits_of_means means
    simp_all [Item.text, firstItem?]
  | twoDigits first second => rfl
  | fourDigits first second third fourth =>
    cases means with
    | fourDigits names =>
      have noBrace := not_brace_of_names names
      simp_all [Item.text, firstItem?]
  | braced digits =>
    cases means with
    | braced names =>
      have opened : ∀ digit ∈ digits, (digit != '}') = true := by
        intro digit member
        rw [bne_iff_ne]
        rintro rfl
        exact (no_brace_of_names names).2 member
      simp [Item.text, firstItem?, List.takeWhile_append_of_pos opened]

/-- Two items that a text starts with are the same. -/
theorem item_unique {item other : Item} {meaning another rest after : List Char}
    {following next : Option Char} (means : item.Means quote following meaning)
    (meansOther : other.Means quote next another) (same : item.text ++ rest = other.text ++ after) :
    item = other ∧ rest = after := by
  have first := firstItem?_written means rest
  rw [same, firstItem?_written meansOther after] at first
  obtain rfl := Option.some.inj first
  exact ⟨rfl, List.append_cancel_left same⟩

/-- A row of items that writes nothing is empty. -/
theorem eq_nil_of_written {items : List Item} (nothing : written items = []) : items = [] := by
  cases items with
  | nil => rfl
  | cons item rest =>
    have taken := length_text_pos item
    have length := congrArg List.length nothing
    rw [written_cons, List.length_append, List.length_nil] at length
    omega

/-- No text is two rows of items. -/
theorem row_unique {items others : List Item} {text meant : List Char}
    (spells : Spells quote items text) (spellsOther : Spells quote others meant)
    (same : written items = written others) : items = others := by
  induction spells generalizing others meant with
  | nil => exact (eq_nil_of_written same.symm).symm
  | cons means _ inductionHypothesis =>
    cases spellsOther with
    | nil => exact eq_nil_of_written same
    | cons meansOther spellsOn =>
      rw [written_cons, written_cons] at same
      obtain ⟨rfl, sameOn⟩ := item_unique means meansOther same
      rw [inductionHypothesis spellsOn sameOn]

/-! ## Quoted sources -/

theorem between?_eq_some_iff {opening closing : Char} {text inner : List Char} :
    between? opening closing text = some inner ↔ text = opening :: (inner ++ [closing]) := by
  cases text with
  | nil => simp [between?]
  | cons first rest =>
    rw [between?]
    constructor
    · intro found
      by_cases ends : first = opening ∧ rest.getLast? = some closing
      · rw [if_pos ends] at found
        obtain rfl := Option.some.inj found
        rw [ends.1, List.dropLast_append_getLast? closing ends.2]
      · rw [if_neg ends] at found
        cases found
    · intro same
      obtain ⟨rfl, rfl⟩ := List.cons.inj same
      simp

theorem hasSubstitution_iff {text : List Char} :
    hasSubstitution text = true ↔ ['$', '{'] <:+: text := by
  induction text with
  | nil => simp [hasSubstitution]
  | cons first rest inductionHypothesis =>
    rw [List.infix_cons_iff, ← inductionHypothesis]
    by_cases opens : ['$', '{'] <+: first :: rest
    · obtain ⟨after, same⟩ := opens
      simp [← same, hasSubstitution]
    · have goesOn : hasSubstitution (first :: rest) = hasSubstitution rest := by
        rw [hasSubstitution]
        rintro after rfl rfl
        exact opens ⟨after, rfl⟩
      simp [goesOn, opens]

/-- What is left of a source after trimming it and peeling parentheses off any number of times. -/
inductive Peels : List Char → List Char → Prop where
  | bare (source : List Char) : Peels source (Text.trim source)
  | inside {source inner left : List Char} (enclosed : Text.trim source = '(' :: (inner ++ [')']))
      (peels : Peels inner left) : Peels source left

/-- A single quote opens a string in any text, and a back quote in a text without a
substitution. -/
def Opens (left : List Char) (quote : Char) : Prop :=
  quote = '\'' ∨ quote = templateQuote ∧ ¬ ['$', '{'] <:+: left

/-- A text is a row of items between two quotes of one kind, and the row spells another text. -/
def IsString (left text : List Char) : Prop :=
  ∃ quote items, Opens left quote ∧ left = quote :: (written items ++ [quote]) ∧
    Spells quote items text

theorem read?_eq_some_iff {source text : List Char} :
    read? quote source = some text ↔
      ∃ items, source = quote :: (written items ++ [quote]) ∧ Spells quote items text := by
  rw [read?, Option.bind_eq_some_iff]
  constructor
  · rintro ⟨body, enclosed, read⟩
    obtain ⟨items, rfl, spells⟩ := decode_eq_some_iff.mp read
    exact ⟨items, between?_eq_some_iff.mp enclosed, spells⟩
  · rintro ⟨items, rfl, spells⟩
    exact ⟨written items, between?_eq_some_iff.mpr rfl, decode_written spells⟩

theorem readTemplate?_eq_some_iff {source text : List Char} :
    readTemplate? source = some text ↔
      ¬ ['$', '{'] <:+: source ∧ read? templateQuote source = some text := by
  rw [readTemplate?, ← hasSubstitution_iff]
  cases hasSubstitution source <;> simp

/-- The string in a peeled source. At most one of the two readers finds one, since a source
starts with at most one quote. -/
theorem string?_eq_some_iff {left : List Char} {text : String} :
    Literal.string? left = some text ↔ IsString left text.toList := by
  have apart {single other : List Char} (found : read? '\'' left = some single) :
      read? templateQuote left ≠ some other := by
    intro again
    obtain ⟨_, rfl, -⟩ := read?_eq_some_iff.mp found
    obtain ⟨_, same, -⟩ := read?_eq_some_iff.mp again
    exact absurd (List.cons.inj same).1 (by decide)
  have found (chosen : List Char) : (read? '\'' left).or (readTemplate? left) = some chosen ↔
      IsString left chosen := by
    rw [Option.or_eq_some_iff, readTemplate?_eq_some_iff]
    constructor
    · rintro (single | ⟨-, free, template⟩)
      · obtain ⟨items, written, spells⟩ := read?_eq_some_iff.mp single
        exact ⟨'\'', items, .inl rfl, written, spells⟩
      · obtain ⟨items, written, spells⟩ := read?_eq_some_iff.mp template
        exact ⟨templateQuote, items, .inr ⟨rfl, free⟩, written, spells⟩
    · rintro ⟨_, items, rfl | ⟨rfl, free⟩, written, spells⟩
      · exact .inl (read?_eq_some_iff.mpr ⟨items, written, spells⟩)
      · have template := read?_eq_some_iff.mpr ⟨items, written, spells⟩
        refine .inr ⟨?_, free, template⟩
        cases single : read? '\'' left with
        | none => rfl
        | some _ => exact absurd template (apart single)
  rw [Literal.string?, Option.map_eq_some_iff]
  constructor
  · rintro ⟨chosen, read, rfl⟩
    rw [String.toList_ofList]
    exact (found chosen).mp read
  · intro isString
    exact ⟨text.toList, (found _).mpr isString, String.ofList_toList⟩

/-- A text in which a string is read starts with its quote. -/
theorem head?_of_isString {left text : List Char} (isString : IsString left text) :
    left.head? = some '\'' ∨ left.head? = some templateQuote := by
  obtain ⟨_, items, rfl | ⟨rfl, -⟩, rfl, -⟩ := isString
  · exact .inl rfl
  · exact .inr rfl

theorem peels_peel (source : List Char) : Peels source (Literal.peel source) := by
  cases enclosed : between? '(' ')' (Text.trim source) with
  | none =>
    rw [Literal.peel_bare enclosed]
    exact .bare source
  | some inner =>
    have shorter : inner.length < source.length :=
      (Literal.length_between?_lt enclosed).trans_le (Literal.length_trim_le source)
    rw [Literal.peel_enclosed enclosed]
    exact .inside (between?_eq_some_iff.mp enclosed) (peels_peel inner)
termination_by source.length

/-- Where a quote is left, everything was peeled off. -/
theorem eq_peel_of_peels {source left : List Char} (peels : Peels source left)
    (starts : left.head? = some '\'' ∨ left.head? = some templateQuote) :
    left = Literal.peel source := by
  have bare : left.head? ≠ some '(' := by
    rcases starts with single | template
    · rw [single]
      decide
    · rw [template]
      decide
  induction peels with
  | bare source =>
    refine (Literal.peel_bare ?_).symm
    cases enclosed : between? '(' ')' (Text.trim source) with
    | none => rfl
    | some inner =>
      rw [between?_eq_some_iff.mp enclosed] at bare
      exact absurd rfl bare
  | inside enclosed _ inductionHypothesis =>
    rw [Literal.peel_enclosed (between?_eq_some_iff.mpr enclosed)]
    exact inductionHypothesis starts bare

/-- A source is read as a string exactly if what is left of it is one. -/
theorem meaning_eq_quoted_iff (literal : Literal) (text : String) :
    literal.meaning = .quoted text ↔
      IsString (Literal.peel literal.source.toList) text.toList := by
  rw [← string?_eq_some_iff, Literal.meaning]
  by_cases undefined : Literal.peel literal.source.toList = "undefined".toList
  · simp only [undefined, if_true]
    constructor
    · intro impossible
      cases impossible
    · intro read
      have quoted := head?_of_isString (string?_eq_some_iff.mp read)
      exact absurd quoted (by decide)
  · simp only [undefined, if_false]
    cases Literal.string? (Literal.peel literal.source.toList) with
    | some other => simp
    | none => cases Json.parse (Literal.peel literal.source.toList) <;> simp

/-- No JSON value starts with one of the quotes. -/
theorem parse_quoted {quote : Char} (isQuote : quote = '\'' ∨ quote = templateQuote)
    (rest : List Char) : Json.parse (quote :: rest) = none := by
  rcases isQuote with rfl | rfl <;>
    simp [Json.parse, Json.parseNested, Json.skipBlanks, Json.isBlank, Json.readValue,
      Json.Number.read, Json.Number.cut, Json.Number.cutWhole,
      List.span_eq_takeWhile_dropWhile, templateQuote]

/-- A source that starts with a quote and is no string is kept as it was configured. -/
theorem meaning_eq_raw {literal : Literal}
    (starts : (Literal.peel literal.source.toList).head? = some '\'' ∨
      (Literal.peel literal.source.toList).head? = some templateQuote)
    (noString : ∀ text, ¬ IsString (Literal.peel literal.source.toList) text) :
    literal.meaning = .raw := by
  have defined : Literal.peel literal.source.toList ≠ "undefined".toList := by
    intro undefined
    rw [undefined] at starts
    exact absurd starts (by decide)
  have unread : Literal.string? (Literal.peel literal.source.toList) = none := by
    rw [Option.eq_none_iff_forall_ne_some]
    exact fun text read => noString _ (string?_eq_some_iff.mp read)
  have noJson : Json.parse (Literal.peel literal.source.toList) = none := by
    rcases starts with single | template
    · obtain ⟨rest, same⟩ := List.head?_eq_some_iff.mp single
      rw [same]
      exact parse_quoted (.inl rfl) rest
    · obtain ⟨rest, same⟩ := List.head?_eq_some_iff.mp template
      rw [same]
      exact parse_quoted (.inr rfl) rest
  simp only [Literal.meaning, defined, if_false, unread, noJson]

/-! ## Texts in quotes -/

/-- Nothing is trimmed or peeled off a text between two characters that are neither blanks nor
parentheses. -/
theorem peel_between {mark : Char} (solid : Text.isBlank mark = false) (noParenthesis : mark ≠ '(')
    (body : List Char) :
    Literal.peel (mark :: (body ++ [mark])) = mark :: (body ++ [mark]) := by
  have trimmed : Text.trim (mark :: (body ++ [mark])) = mark :: (body ++ [mark]) := by
    rw [Text.trim, List.dropWhile_cons_of_neg (by simp [solid])]
    apply Text.trimEnd_of_solid
    intro last ends
    rw [← List.cons_append, List.getLast?_concat] at ends
    exact Option.some.inj ends ▸ solid
  rw [Literal.peel_bare, trimmed]
  rw [trimmed, between?, if_neg]
  exact fun ends => noParenthesis ends.1

theorem peel_quoted (isQuote : quote = '\'' ∨ quote = templateQuote) (body : List Char) :
    Literal.peel (quote :: (body ++ [quote])) = quote :: (body ++ [quote]) := by
  apply peel_between <;> rcases isQuote with rfl | rfl <;> decide

/-- The characters that are written behind a backslash so that no text between quotes of either
kind ends early or holds a substitution. -/
def guarded : List Char := ['\\', '\'', templateQuote, '{']

/-- How any text can be written between quotes of either kind. -/
def spelling (text : List Char) : List Item :=
  text.map fun character => if character ∈ guarded then .escaped character else .plain character

theorem spelling_cons_of_guarded {character : Char} (escapes : character ∈ guarded)
    (rest : List Char) : spelling (character :: rest) = .escaped character :: spelling rest := by
  rw [spelling, List.map_cons, if_pos escapes]
  rfl

theorem spelling_cons_of_free {character : Char} (free : character ∉ guarded)
    (rest : List Char) : spelling (character :: rest) = .plain character :: spelling rest := by
  rw [spelling, List.map_cons, if_neg free]
  rfl

theorem spells_spelling (isQuote : quote = '\'' ∨ quote = templateQuote) (text : List Char) :
    Spells quote (spelling text) text := by
  induction text with
  | nil => exact .nil
  | cons character rest inductionHypothesis =>
    by_cases escapes : character ∈ guarded
    · rw [spelling_cons_of_guarded escapes]
      change Spells quote (.escaped character :: spelling rest) ([character] ++ rest)
      apply Spells.cons _ inductionHypothesis
      have noLetter : character ∉ meaningful ∧ character ≠ '0' := by
        simp only [guarded, List.mem_cons, List.not_mem_nil, or_false] at escapes
        rcases escapes with rfl | rfl | rfl | rfl <;> decide
      exact .other noLetter.1 fun zero => absurd zero noLetter.2
    · rw [spelling_cons_of_free escapes]
      change Spells quote (.plain character :: spelling rest) ([character] ++ rest)
      apply Spells.cons _ inductionHypothesis
      simp only [guarded, List.mem_cons, List.not_mem_nil, or_false, not_or] at escapes
      apply Item.Means.plain escapes.1
      rcases isQuote with rfl | rfl
      · exact escapes.2.1
      · exact escapes.2.2.1

/-- No spelling starts with an opening brace. -/
theorem head?_spelling (text : List Char) {after : List Char} (noBrace : after.head? ≠ some '{') :
    (written (spelling text) ++ after).head? ≠ some '{' := by
  cases text with
  | nil => exact noBrace
  | cons character rest =>
    by_cases escapes : character ∈ guarded
    · simp [spelling_cons_of_guarded escapes, Item.text]
    · rw [spelling_cons_of_free escapes]
      simp only [guarded, List.mem_cons, List.not_mem_nil, or_false, not_or] at escapes
      simpa [Item.text] using escapes.2.2.2

theorem not_substitution_of_head? {rest : List Char} (noBrace : rest.head? ≠ some '{')
    (first : Char) : ¬ ['$', '{'] <+: first :: rest := by
  rintro ⟨more, same⟩
  obtain ⟨rfl, rfl⟩ := List.cons.inj same
  exact noBrace rfl

/-- No spelling holds a substitution, since the brace of one is escaped. -/
theorem no_substitution_of_spelling (text : List Char) {after : List Char}
    (noBrace : after.head? ≠ some '{') (free : ¬ ['$', '{'] <:+: after) :
    ¬ ['$', '{'] <:+: written (spelling text) ++ after := by
  induction text with
  | nil => exact free
  | cons character rest inductionHypothesis =>
    have noBraceOn := head?_spelling rest noBrace
    by_cases escapes : character ∈ guarded
    · rw [spelling_cons_of_guarded escapes, written_cons, List.append_assoc]
      have noDollar : ¬ ['$', '{'] <+: '\\' :: character :: (written (spelling rest) ++ after) := by
        rintro ⟨more, same⟩
        cases same
      simp only [Item.text, List.cons_append, List.nil_append, List.infix_cons_iff, not_or]
      exact ⟨noDollar, not_substitution_of_head? noBraceOn character, inductionHypothesis⟩
    · rw [spelling_cons_of_free escapes, written_cons, List.append_assoc]
      simp only [Item.text, List.cons_append, List.nil_append, List.infix_cons_iff, not_or]
      exact ⟨not_substitution_of_head? noBraceOn character, inductionHypothesis⟩

theorem spelling_opens (isQuote : quote = '\'' ∨ quote = templateQuote) (text : List Char) :
    Opens (quote :: (written (spelling text) ++ [quote])) quote := by
  rcases isQuote with single | rfl
  · exact .inl single
  · have noBrace : [templateQuote].head? ≠ some '{' := by decide
    have free := no_substitution_of_spelling text noBrace (by decide)
    have noBraceFirst := head?_spelling text noBrace
    apply Or.inr
    simp only [List.infix_cons_iff, not_or, true_and]
    exact ⟨not_substitution_of_head? noBraceFirst templateQuote, free⟩

/-! ## The grammar -/

/-- A text is spelled by at most one row, and a row spells at most one text. -/
theorem spells_unique {items others : List Item} {text meant : List Char}
    (spells : Spells quote items text) (spellsOther : Spells quote others meant)
    (same : written items = written others) : items = others ∧ text = meant := by
  have read := decode_written spells
  rw [same, decode_written spellsOther] at read
  exact ⟨row_unique spells spellsOther same, (Option.some.inj read).symm⟩

/-- A source is read as a string exactly if trimming and peeling it leaves one. -/
theorem meaning_eq_quoted_iff_peels (literal : Literal) (text : String) :
    literal.meaning = .quoted text ↔
      ∃ left, Peels literal.source.toList left ∧ IsString left text.toList := by
  rw [meaning_eq_quoted_iff]
  constructor
  · intro isString
    exact ⟨_, peels_peel _, isString⟩
  · rintro ⟨left, peels, isString⟩
    exact eq_peel_of_peels peels (head?_of_isString isString) ▸ isString

/-- A row of items between quotes that open a string is read as what it spells. -/
theorem meaning_of_spells {items : List Item} {text : List Char} (spells : Spells quote items text)
    (opens : Opens (quote :: (written items ++ [quote])) quote) :
    (Literal.mk (String.ofList (quote :: (written items ++ [quote])))).meaning =
      .quoted (String.ofList text) := by
  have isQuote : quote = '\'' ∨ quote = templateQuote := opens.imp_right And.left
  rw [meaning_eq_quoted_iff, String.toList_ofList, String.toList_ofList, peel_quoted isQuote]
  exact ⟨quote, items, opens, rfl, spells⟩

/-- Quoted text is read exactly by its grammar. A source is a string if what is left of it is a
row of items between two quotes of one kind, and its value is what the row spells. A source that
starts with a quote and is no string is kept as it was configured. No text has two rows, every
row that spells a text is read back as that text, and every text has a row between quotes of
either kind. -/
theorem quoted_text_reads_by_its_grammar :
    (∀ literal : Literal,
      (∀ text, literal.meaning = .quoted text ↔
        ∃ left, Peels literal.source.toList left ∧ IsString left text.toList) ∧
      (∀ left text, Peels literal.source.toList left → IsString left text → ∀ store,
        literal.value store = (.string (String.ofList text), store)) ∧
      ∀ left, Peels literal.source.toList left →
        left.head? = some '\'' ∨ left.head? = some templateQuote →
        (∀ text, ¬ IsString left text) → ∀ store,
          literal.meaning = .raw ∧ literal.value store = (.raw literal.source, store)) ∧
    (∀ quote items others text meant, Spells quote items text → Spells quote others meant →
      written items = written others → items = others ∧ text = meant) ∧
    (∀ quote items text, Spells quote items text →
      Opens (quote :: (written items ++ [quote])) quote →
        (Literal.mk (String.ofList (quote :: (written items ++ [quote])))).meaning =
          .quoted (String.ofList text)) ∧
    ∀ quote, quote = '\'' ∨ quote = templateQuote → ∀ text, ∃ items,
      Spells quote items text ∧ Opens (quote :: (written items ++ [quote])) quote := by
  refine ⟨fun literal => ⟨meaning_eq_quoted_iff_peels literal, ?_, ?_⟩, ?_, ?_, ?_⟩
  · intro left text peels isString store
    have quoted := (meaning_eq_quoted_iff_peels literal (String.ofList text)).mpr
      ⟨left, peels, by rwa [String.toList_ofList]⟩
    rw [Literal.value, quoted]
  · intro left peels starts noString store
    obtain rfl := eq_peel_of_peels peels starts
    have raw := meaning_eq_raw starts noString
    exact ⟨raw, by rw [Literal.value, raw]⟩
  · intro quote items others text meant spells spellsOther same
    exact spells_unique spells spellsOther same
  · intro quote items text spells opens
    exact meaning_of_spells spells opens
  · intro quote isQuote text
    exact ⟨spelling text, spells_spelling isQuote text, spelling_opens isQuote text⟩

/-- Digits and a zero in parentheses and blanks. -/
theorem parenthesised_digits_are_read :
    (Literal.mk "( '\\x41\\0' ) ").value {} = (.string "A\x00", {}) := by
  have peels : Peels "( '\\x41\\0' ) ".toList "'\\x41\\0'".toList :=
    .inside (show Text.trim _ = '(' :: (" '\\x41\\0' ".toList ++ [')']) by decide) (.bare _)
  have spells : Spells '\'' [.twoDigits '4' '1', .escaped '0'] "A\x00".toList :=
    .cons (.twoDigits ⟨by decide, [4, 1], by decide, by decide⟩) (.cons (.null rfl) .nil)
  exact (quoted_text_reads_by_its_grammar.1 _).2.1 _ _ peels
    ⟨'\'', _, .inl rfl, by decide, spells⟩ {}

end SchemaFixtures.Fixture.Quoted
