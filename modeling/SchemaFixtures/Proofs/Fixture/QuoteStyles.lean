import SchemaFixtures.Proofs.Fixture.Quotation

/-!
# One text in three kinds of quotes

A body between double quotes is a JSON string, and between single or back quotes it is quoted
text. The two readers agree on every body that both accept. What only the reader of JSON accepts
are characters that two escapes name together, each with half of a surrogate pair. The other
reader knows no halves and keeps such a source as it was configured.
-/

namespace SchemaFixtures.Fixture.Quoted

variable {quote : Char} {body : List Char}

/-! ## Halves of surrogate pairs -/

/-- Whether an escape of four digits names no character by itself. -/
def hasHalf : List Char → Bool
  | '\\' :: 'u' :: first :: second :: third :: fourth :: rest =>
    (Text.hexNumber? [first, second, third, fourth]).any
      (fun code => (Text.character? code).isNone) || hasHalf rest
  | '\\' :: _ :: rest => hasHalf rest
  | _ :: rest => hasHalf rest
  | [] => false

theorem hasHalf_digits (first second third fourth : Char) (rest : List Char) :
    hasHalf ('\\' :: 'u' :: first :: second :: third :: fourth :: rest) =
      ((Text.hexNumber? [first, second, third, fourth]).any
        (fun code => (Text.character? code).isNone) || hasHalf rest) := rfl

/-- Digits that name no character by themselves are half of a pair. -/
theorem hasHalf_of_half {first second third fourth : Char} {code : Nat}
    (number : Text.hexNumber? [first, second, third, fourth] = some code)
    (half : Text.character? code = none) (rest : List Char) :
    hasHalf ('\\' :: 'u' :: first :: second :: third :: fourth :: rest) = true := by
  simp [hasHalf_digits, number, half]

theorem hasHalf_named {first second third fourth character : Char} {code : Nat}
    (number : Text.hexNumber? [first, second, third, fourth] = some code)
    (named : Text.character? code = some character) (rest : List Char) :
    hasHalf ('\\' :: 'u' :: first :: second :: third :: fourth :: rest) = hasHalf rest := by
  simp [hasHalf_digits, number, named]

theorem hasHalf_escaped {letter : Char} (noLong : letter ≠ 'u') (rest : List Char) :
    hasHalf ('\\' :: letter :: rest) = hasHalf rest := by
  rw [hasHalf]
  simp_all

theorem hasHalf_plain {character : Char} (noEscape : character ≠ '\\') (rest : List Char) :
    hasHalf (character :: rest) = hasHalf rest := by
  rw [hasHalf] <;> simp_all

/-- A pair of surrogates names a character that four digits cannot name. -/
theorem pairCharacter?_beyond {leading trailing : Nat} {character : Char}
    (paired : Text.pairCharacter? leading trailing = some character) :
    0xFFFF < character.toNat := by
  rw [Text.pairCharacter?] at paired
  split at paired
  · rw [Text.character?_eq_some_iff.mp paired]
    omega
  · cases paired

/-! ## The two readers -/

/-- A half makes quoted text unreadable. -/
theorem decode_half {first second third fourth : Char} {code : Nat}
    (number : Text.hexNumber? [first, second, third, fourth] = some code)
    (half : Text.character? code = none) (rest : List Char) :
    decode quote ('\\' :: 'u' :: first :: second :: third :: fourth :: rest) = none := by
  have unnamed : Text.hexCharacter? [first, second, third, fourth] = none := by
    rw [Text.hexCharacter?, if_neg (by simp), number]
    exact half
  rw [decode, unnamed]
  rintro rfl
  obtain ⟨values, isDigits, -⟩ := Text.hexNumber?_eq_some_iff.mp number
  exact (no_brace_of_digits isDigits).1 List.mem_cons_self

/-- The escapes of one letter mean the same to both readers, and no digits follow them. -/
theorem letterEscape?_of_simpleEscape? {letter character : Char}
    (stands : Text.simpleEscape? letter = some character) (following : Option Char) :
    letter ≠ 'x' ∧ letter ≠ 'u' ∧ letterEscape? letter following = some [character] := by
  rw [Text.simpleEscape?.eq_def] at stands
  split at stands <;> cases stands <;> exact ⟨by decide, by decide, rfl⟩

/-- A body that the reader of JSON accepts means the same as quoted text, unless it has a half of
a surrogate pair. The induction follows the reader of JSON, which takes a pair as one character. -/
theorem decode_of_unescape {text : List Char} (noQuote : quote ∉ body)
    (read : Json.unescape body = some text) :
    decode quote body = if hasHalf body then none else some text := by
  fun_induction Json.unescape body generalizing text with
  | case1 =>
    cases read
    rfl
  | case3 first second third fourth rest code number character named inductionHypothesis =>
    obtain ⟨others, readOn, rfl⟩ := Option.map_eq_some_iff.mp read
    have names : Text.Names [first, second, third, fourth] character := by
      apply Text.hexCharacter?_eq_some_iff.mp
      simp [Text.hexCharacter?, number, named]
    rw [decode_fourDigits names, inductionHypothesis (by simp_all) readOn,
      hasHalf_named number named]
    cases hasHalf rest <;> rfl
  | case4 first second third fourth code number half =>
    rw [decode_half number half, hasHalf_of_half number half, if_pos rfl]
  | case7 letter rest _ character stands inductionHypothesis =>
    obtain ⟨others, readOn, rfl⟩ := Option.map_eq_some_iff.mp read
    obtain ⟨noShort, noLong, same⟩ := letterEscape?_of_simpleEscape? stands rest.head?
    rw [decode_escaped noShort noLong, same, Option.bind_some,
      inductionHypothesis (by simp_all) readOn, hasHalf_escaped noLong]
    cases hasHalf rest <;> rfl
  | case10 character rest _ _ allowed inductionHypothesis =>
    obtain ⟨others, readOn, rfl⟩ := Option.map_eq_some_iff.mp read
    obtain ⟨notQuote, noQuoteOn⟩ := List.ne_and_not_mem_of_not_mem_cons noQuote
    have noEscape : character ≠ '\\' := fun escape => allowed (.inl escape)
    rw [decode_plain noEscape notQuote.symm, inductionHypothesis noQuoteOn readOn,
      hasHalf_plain noEscape]
    cases hasHalf rest <;> rfl
  | _ => cases read

/-- Only a text with a character that takes a pair has halves in its body. -/
theorem beyond_of_hasHalf {text : List Char} (read : Json.unescape body = some text)
    (halved : hasHalf body = true) : ∃ character ∈ text, 0xFFFF < character.toNat := by
  have further {first : Char} {rest : List Char}
      (found : ∃ character ∈ rest, 0xFFFF < character.toNat) :
      ∃ character ∈ first :: rest, 0xFFFF < character.toNat := by
    obtain ⟨character, member, beyond⟩ := found
    exact ⟨character, List.mem_cons_of_mem first member, beyond⟩
  fun_induction Json.unescape body generalizing text with
  | case1 => cases halved
  | case3 first second third fourth rest code number character named inductionHypothesis =>
    obtain ⟨others, readOn, rfl⟩ := Option.map_eq_some_iff.mp read
    rw [hasHalf_named number named] at halved
    exact further (inductionHypothesis readOn halved)
  | case4 _ _ _ _ code number half _ _ _ _ after character paired =>
    obtain ⟨others, -, rfl⟩ := Option.map_eq_some_iff.mp read
    obtain ⟨trailing, -, pair⟩ := Option.bind_eq_some_iff.mp paired
    exact ⟨character, List.mem_cons_self, pairCharacter?_beyond pair⟩
  | case7 letter rest _ character stands inductionHypothesis =>
    obtain ⟨others, readOn, rfl⟩ := Option.map_eq_some_iff.mp read
    obtain ⟨-, noLong, -⟩ := letterEscape?_of_simpleEscape? stands none
    rw [hasHalf_escaped noLong] at halved
    exact further (inductionHypothesis readOn halved)
  | case10 character rest _ _ allowed inductionHypothesis =>
    obtain ⟨others, readOn, rfl⟩ := Option.map_eq_some_iff.mp read
    rw [hasHalf_plain fun escape => allowed (.inl escape)] at halved
    exact further (inductionHypothesis readOn halved)
  | _ => cases read

/-! ## Between quotes -/

/-- A body between quotes of one kind. -/
def inQuotes (quote : Char) (body : List Char) : Literal :=
  ⟨String.ofList (quote :: (body ++ [quote]))⟩

theorem source_inQuotes (quote : Char) (body : List Char) :
    (inQuotes quote body).source.toList = quote :: (body ++ [quote]) := String.toList_ofList

/-- A string is cut at a closing quote. -/
theorem eq_of_cutString {source cut rest : List Char}
    (found : Json.cutString source = some (cut, rest)) : source = cut ++ '"' :: rest := by
  fun_induction Json.cutString source generalizing cut rest with
  | case1 => cases found
  | case2 =>
    cases found
    rfl
  | case3 letter after inductionHypothesis =>
    obtain ⟨⟨others, rest⟩, cutOn, same⟩ := Option.map_eq_some_iff.mp found
    cases same
    rw [inductionHypothesis cutOn, List.cons_append, List.cons_append]
  | case4 first after _ _ inductionHypothesis =>
    obtain ⟨⟨others, rest⟩, cutOn, same⟩ := Option.map_eq_some_iff.mp found
    cases same
    rw [inductionHypothesis cutOn, List.cons_append]

/-- A body between double quotes that is one JSON string is read as a whole. Nothing is left
behind the string, since what is left would end with the last quote. -/
theorem unescape_of_parse {text : String}
    (valid : Json.parse ('"' :: (body ++ ['"'])) = some (.string text)) :
    Json.unescape body = some text.toList := by
  have start : Json.skipBlanks ('"' :: (body ++ ['"'])) = '"' :: (body ++ ['"']) := rfl
  rw [Json.parse, Json.parseNested, start, Json.readValue, Json.readString] at valid
  cases found : Json.cutString (body ++ ['"']) with
  | none => simp [found] at valid
  | some cut =>
    obtain ⟨cut, rest⟩ := cut
    cases read : Json.unescape cut with
    | none => simp [found, read] at valid
    | some contents =>
      simp only [found, read, Option.bind_eq_bind, Option.bind_some, Option.pure_def,
        Option.map_some, Option.ite_none_right_eq_some, Option.some.injEq, Json.string.injEq,
        List.isEmpty_iff] at valid
      obtain ⟨ended, rfl⟩ := valid
      have same := eq_of_cutString found
      rcases List.eq_nil_or_concat rest with rfl | ⟨others, last, rfl⟩
      · rw [(List.append_left_inj _).mp same, read, String.toList_ofList]
      · have ends : (body ++ ['"']).getLast? = (cut ++ '"' :: others ++ [last]).getLast? := by
          rw [same, List.concat_eq_append, List.append_assoc, List.cons_append]
        rw [List.getLast?_concat, List.getLast?_concat] at ends
        obtain rfl := Option.some.inj ends
        have blank := List.dropWhile_eq_nil_iff.mp ended '"' (by simp)
        cases blank

/-- Between double quotes a string has its value from the reader of JSON. -/
theorem value_inQuotes_double {text : String}
    (valid : Json.parse ('"' :: (body ++ ['"'])) = some (.string text)) (store : Store) :
    (inQuotes '"' body).value store = (.string text, store) := by
  have peeled : Literal.peel (inQuotes '"' body).source.toList = '"' :: (body ++ ['"']) := by
    rw [source_inQuotes]
    exact peel_between rfl (by decide) body
  have noString : Literal.string? ('"' :: (body ++ ['"'])) = none := by
    rw [Option.eq_none_iff_forall_ne_some]
    intro other read
    rcases head?_of_isString (string?_eq_some_iff.mp read) with single | template
    · exact absurd (Option.some.inj single) (by decide)
    · exact absurd (Option.some.inj template) (by decide)
  have defined : '"' :: (body ++ ['"']) ≠ "undefined".toList := by
    intro undefined
    have first := (List.cons.inj undefined).1
    exact absurd first (by decide)
  simp only [Literal.value, Literal.meaning, peeled, defined, if_false, noString, valid, ofJson]

/-- No substitution appears by quoting a body. -/
theorem opens_quoted (opens : Opens body quote) : Opens (quote :: (body ++ [quote])) quote := by
  rcases opens with single | ⟨rfl, free⟩
  · exact .inl single
  · apply Or.inr
    refine ⟨rfl, ?_⟩
    rintro inside
    rcases List.infix_cons_iff.mp inside with ⟨more, same⟩ | inside
    · cases same
    · rcases List.infix_concat_iff.mp inside with ⟨before, same⟩ | inside
      · have ends := congrArg List.getLast? same
        simp [templateQuote] at ends
      · exact free inside

/-- Between other quotes a text has the value that its body spells, if it spells one. -/
theorem value_inQuotes (opens : Opens body quote) (store : Store) :
    (inQuotes quote body).value store =
      (match decode quote body with
        | some text => .string (String.ofList text)
        | none => .raw (inQuotes quote body).source, store) := by
  have opensQuoted := opens_quoted opens
  have isQuote : quote = '\'' ∨ quote = templateQuote := opens.imp_right And.left
  cases read : decode quote body with
  | some text =>
    obtain ⟨items, rfl, spells⟩ := spells_of_decode read
    have quoted := meaning_of_spells spells opensQuoted
    rw [inQuotes, Literal.value, quoted]
  | none =>
    have peeled : Literal.peel (inQuotes quote body).source.toList = quote :: (body ++ [quote]) := by
      rw [source_inQuotes, peel_quoted isQuote]
    have raw : (inQuotes quote body).meaning = .raw := by
      apply meaning_eq_raw <;> rw [peeled]
      · exact isQuote.imp (congrArg some) (congrArg some)
      · rintro text ⟨other, items, -, same, spells⟩
        obtain ⟨rfl, sameRest⟩ := List.cons.inj same
        obtain rfl := (List.append_left_inj _).mp sameRest
        cases read.symm.trans (decode_written spells)
    rw [Literal.value, raw]

/-! ## The three styles -/

/-- A body of a JSON string is read alike in all three kinds of quotes, exactly unless an escape
in it names half of a surrogate pair. Then the text has a character beyond `FFFF`, which between
double quotes is read and between the others is not, and the source is kept as it was
configured. -/
theorem quote_styles_agree_unless_halved {text : String} (noQuote : quote ∉ body)
    (opens : Opens body quote)
    (valid : Json.parse ('"' :: (body ++ ['"'])) = some (.string text)) (store : Store) :
    (inQuotes '"' body).value store = (.string text, store) ∧
      (inQuotes quote body).value store =
        (if hasHalf body then .raw (inQuotes quote body).source else .string text, store) ∧
      (hasHalf body = true → ∃ character ∈ text.toList, 0xFFFF < character.toNat) := by
  have read := unescape_of_parse valid
  refine ⟨value_inQuotes_double valid store, ?_, beyond_of_hasHalf read⟩
  rw [value_inQuotes opens, decode_of_unescape noQuote read]
  by_cases halved : hasHalf body = true
  · simp only [halved, if_true]
  · simp only [halved, Bool.false_eq_true, if_false, String.ofList_toList]

/-- A smile that two escapes name is read between double quotes only. -/
theorem halved_smile_is_kept :
    (inQuotes '"' "\\ud83d\\ude00".toList).value {} = (.string "😀", {}) ∧
      (inQuotes '\'' "\\ud83d\\ude00".toList).value {} = (.raw "'\\ud83d\\ude00'", {}) := by
  have styles := @quote_styles_agree_unless_halved '\'' "\\ud83d\\ude00".toList "😀"
    (by decide) (.inl rfl) (by rfl) {}
  exact ⟨styles.1, styles.2.1⟩

end SchemaFixtures.Fixture.Quoted
