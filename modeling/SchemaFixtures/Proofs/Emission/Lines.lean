import SchemaFixtures.Emission.Module

/-!
# Lines and their indentation

Indenting works line by line and knows nothing of what stands in a line. A text that is put
together from parts is indented part by part, as long as no part ends within a line end: the
first part is indented, and each later part goes on in a line that is indented already. There
its first line stays as it is, and only the lines that follow are moved to the right.
-/

namespace SchemaFixtures.Emission

/-- Lines with a line feed between each two. -/
def joinLines (parts : List (List Char)) : List Char := ['\n'].intercalate parts

/-- A text with every line indented. -/
def indented (text : List Char) : List Char := joinLines ((lines text).map indentLine)

/-- Lines of which all but the first are indented. -/
def indentLater : List (List Char) → List (List Char)
  | [] => []
  | first :: others => first :: others.map indentLine

/-- A text as it goes on in an indented line. -/
def continued (text : List Char) : List Char := joinLines (indentLater (lines text))

/-- A text is closed if something can follow it without making its last character part of a
line end, or making a line of what was none. -/
def isClosed (text : List Char) : Bool :=
  text.getLast?.any fun last => last != '\n' && last != '\r'

/-- Lines that go on from a line that is begun. -/
def goOn (line : List Char) : List (List Char) → List (List Char)
  | [] => [line]
  | first :: others => (line ++ first) :: others

theorem indent_eq (text : String) : indent text = String.ofList (indented text.toList) := rfl

/-! ## Closed texts -/

theorem ne_nil_of_isClosed {text : List Char} (closed : isClosed text = true) : text ≠ [] := by
  rintro rfl
  cases closed

/-- Only the end of a text decides whether it is closed. -/
theorem isClosed_append (start : List Char) {text : List Char} (some : text ≠ []) :
    isClosed (start ++ text) = isClosed text := by
  rw [isClosed, List.getLast?_append, List.getLast?_eq_some_getLast some, Option.some_or,
    isClosed, List.getLast?_eq_some_getLast some]

theorem isClosed_cons (c : Char) {text : List Char} (some : text ≠ []) :
    isClosed (c :: text) = isClosed text :=
  isClosed_append [c] some

/-- A text is closed if it is closed behind a character that ends a line. -/
theorem isClosed_lineEnd {c : Char} (ends : isClosed [c] = false) (rest : List Char) :
    isClosed (c :: rest) = isClosed rest := by
  cases rest with
  | nil => exact ends
  | cons next more => exact isClosed_cons c (List.cons_ne_nil next more)

@[simp] theorem isClosed_feed (rest : List Char) : isClosed ('\n' :: rest) = isClosed rest :=
  isClosed_lineEnd (by decide) rest

@[simp] theorem isClosed_return (rest : List Char) : isClosed ('\r' :: rest) = isClosed rest :=
  isClosed_lineEnd (by decide) rest

/-! ## Lines of texts that stand side by side -/

/-- A character that ends no line stands at the start of the first line of the rest. -/
theorem lines_cons {c : Char} {rest : List Char} (feed : c ≠ '\n')
    (pair : c = '\r' → rest.head? ≠ some '\n') : lines (c :: rest) = goOn [c] (lines rest) := by
  rw [lines]
  · cases lines rest <;> rfl
  · exact feed
  · rintro after rfl rfl
    exact pair rfl rfl

theorem lines_feed (rest : List Char) : lines ('\n' :: rest) = [] :: lines rest := rfl

theorem lines_ne_nil {text : List Char} (some : text ≠ []) : lines text ≠ [] := by
  fun_cases lines text <;> simp_all

theorem goOn_goOn (line first : List Char) (others : List (List Char)) :
    goOn line (goOn first others) = goOn (line ++ first) others := by
  cases others with
  | nil => rfl
  | cons next rest => simp only [goOn, List.append_assoc]

/-- The last line of a closed text is begun, and goes on with whatever text comes behind. The
induction is on the lines; a character before the last line end leaves the last line alone. -/
theorem lines_of_isClosed {start : List Char} (closed : isClosed start = true) :
    ∃ before line, line ≠ [] ∧ lines start = before ++ [line] ∧
      ∀ text, lines (start ++ text) = before ++ goOn line (lines text) := by
  fun_induction lines start with
  | case1 => cases closed
  | case2 rest inductionHypothesis | case3 rest inductionHypothesis =>
    have closedRest : isClosed rest = true := by
      simpa only [isClosed_feed, isClosed_return] using closed
    obtain ⟨before, line, begun, alone, going⟩ := inductionHypothesis closedRest
    refine ⟨[] :: before, line, begun, by rw [alone]; rfl, fun text => ?_⟩
    simp only [List.cons_append, lines, going]
  | case4 c rest feed pair first others found inductionHypothesis =>
    have more : rest ≠ [] := by
      rintro rfl
      cases found
    have cons (text : List Char) :
        lines (c :: (rest ++ text)) = goOn [c] (lines (rest ++ text)) := by
      refine lines_cons feed fun isReturn starts => ?_
      obtain ⟨next, after, rfl⟩ := List.exists_cons_of_ne_nil more
      obtain rfl := Option.some.inj starts
      exact pair after isReturn rfl
    rw [isClosed_cons _ more] at closed
    obtain ⟨before, line, begun, alone, going⟩ := inductionHypothesis closed
    cases before with
    | nil =>
      refine ⟨[], c :: line, List.cons_ne_nil _ _, ?_, fun text => ?_⟩
      · obtain ⟨rfl, rfl⟩ := List.cons.inj (found.symm.trans alone)
        rfl
      · rw [List.cons_append, cons, going]
        exact goOn_goOn [c] line (lines text)
    | cons next rest =>
      refine ⟨(c :: next) :: rest, line, begun, ?_, fun text => ?_⟩
      · obtain ⟨rfl, rfl⟩ := List.cons.inj (found.symm.trans alone)
        rfl
      · rw [List.cons_append, cons, going]
        rfl
  | case5 c rest feed pair found _ =>
    have last : rest = [] := Decidable.not_not.mp fun more => lines_ne_nil more found
    subst last
    have solid : c ≠ '\r' := by
      rintro rfl
      cases closed
    exact ⟨[], [c], List.cons_ne_nil _ _, rfl,
      fun text => lines_cons feed fun isReturn => absurd isReturn solid⟩

/-! ## Indentation of texts that stand side by side -/

theorem joinLines_cons (line : List Char) {rest : List (List Char)} (some : rest ≠ []) :
    joinLines (line :: rest) = line ++ '\n' :: joinLines rest := by
  rw [joinLines, List.intercalate_cons_of_ne_nil some, List.append_assoc]
  rfl

theorem joinLines_goOn (before : List (List Char)) (line : List Char)
    (others : List (List Char)) :
    joinLines (before ++ goOn line others) = joinLines (before ++ [line]) ++ joinLines others := by
  induction before with
  | nil =>
    match others with
    | [] => simp [goOn, joinLines]
    | [first] => simp [goOn, joinLines]
    | first :: next :: rest =>
      simp [goOn, joinLines_cons, show joinLines [line] = line from List.intercalate_singleton]
  | cons first rest inductionHypothesis =>
    have some (last : List (List Char)) (begun : last ≠ []) : rest ++ last ≠ [] := by
      simp [begun]
    have begun : goOn line others ≠ [] := by cases others <;> exact List.cons_ne_nil _ _
    rw [List.cons_append, List.cons_append, joinLines_cons _ (some _ begun),
      joinLines_cons _ (some _ (List.cons_ne_nil _ _)), inductionHypothesis, List.append_assoc,
      List.cons_append]

/-- A line that is begun has been moved already when it goes on. -/
theorem map_goOn {line : List Char} (begun : line ≠ []) (others : List (List Char)) :
    (goOn line others).map indentLine = goOn (indentLine line) (indentLater others) := by
  cases line with
  | nil => exact absurd rfl begun
  | cons c rest => cases others <;> rfl

theorem indentLater_goOn (line : List Char) (others : List (List Char)) :
    indentLater (goOn line others) = goOn line (indentLater others) := by
  cases others <;> rfl

/-- A text behind a closed one goes on in the last line of it. -/
theorem indented_append {start : List Char} (closed : isClosed start = true) (text : List Char) :
    indented (start ++ text) = indented start ++ continued text := by
  obtain ⟨before, line, begun, alone, going⟩ := lines_of_isClosed closed
  rw [indented, indented, continued, going, alone, List.map_append, List.map_append,
    map_goOn begun, joinLines_goOn]
  rfl

theorem continued_append {start : List Char} (closed : isClosed start = true)
    (text : List Char) : continued (start ++ text) = continued start ++ continued text := by
  obtain ⟨before, line, begun, alone, going⟩ := lines_of_isClosed closed
  rw [continued, continued, continued, going, alone]
  cases before with
  | nil =>
    rw [List.nil_append, indentLater_goOn]
    exact joinLines_goOn [] line (indentLater (lines text))
  | cons first rest =>
    simp only [List.cons_append, indentLater, List.map_append, map_goOn begun]
    exact joinLines_goOn (first :: rest.map indentLine) _ _

/-- Behind a line end a text is indented. -/
theorem continued_feed {text : List Char} (some : text ≠ []) :
    continued ('\n' :: text) = '\n' :: indented text := by
  have lines_some : (lines text).map indentLine ≠ [] := by simpa using lines_ne_nil some
  rw [continued, lines_feed, indentLater, joinLines_cons _ lines_some]
  rfl

/-- Closed texts that are joined are indented one by one. -/
theorem indented_joinLines {texts : List (List Char)}
    (closed : ∀ text ∈ texts, isClosed text = true) :
    indented (joinLines texts) = joinLines (texts.map indented) := by
  induction texts with
  | nil => rfl
  | cons text rest inductionHypothesis =>
    obtain ⟨closedText, closedRest⟩ := List.forall_mem_cons.mp closed
    cases rest with
    | nil => simp [joinLines]
    | cons next others =>
      have some : joinLines (next :: others) ≠ [] := by
        have begun := ne_nil_of_isClosed (closedRest next List.mem_cons_self)
        cases others with
        | nil => simpa [joinLines] using begun
        | cons _ _ => simp [joinLines_cons, begun]
      have later : (next :: others).map indented ≠ [] := by simp
      rw [joinLines_cons _ (List.cons_ne_nil _ _), indented_append closedText,
        continued_feed some, inductionHypothesis closedRest]
      exact (joinLines_cons (indented text) later).symm

/-! ## Texts without a line end -/

/-- A text that can be a line: it is closed and has no line feed. -/
def isLine (text : List Char) : Bool := isClosed text && !text.contains '\n'

theorem isLine_iff {text : List Char} :
    isLine text = true ↔ isClosed text = true ∧ '\n' ∉ text := by
  simp [isLine]

theorem ne_nil_of_isLine {text : List Char} (line : isLine text = true) : text ≠ [] :=
  ne_nil_of_isClosed (isLine_iff.mp line).1

theorem isLine_append_iff {start text : List Char} (some : text ≠ []) :
    isLine (start ++ text) = true ↔ '\n' ∉ start ∧ isLine text = true := by
  rw [isLine_iff, isLine_iff, isClosed_append start some, List.mem_append, not_or]
  exact and_left_comm

theorem isLine_cons_iff {c : Char} {text : List Char} (some : text ≠ []) :
    isLine (c :: text) = true ↔ '\n' ≠ c ∧ isLine text = true := by
  have append := @isLine_append_iff [c] text some
  rwa [List.mem_singleton] at append

theorem isLine_singleton_iff (c : Char) : isLine [c] = true ↔ c ≠ '\n' ∧ c ≠ '\r' := by
  rw [isLine_iff, isClosed, List.getLast?_singleton, Option.any_some, Bool.and_eq_true,
    bne_iff_ne, bne_iff_ne, List.mem_singleton]
  exact ⟨fun line => line.1, fun solid => ⟨solid, solid.1.symm⟩⟩

/-- A line may start with anything but a line feed. -/
theorem isLine_append {start text : List Char} (free : '\n' ∉ start) (line : isLine text = true) :
    isLine (start ++ text) = true :=
  (isLine_append_iff (ne_nil_of_isLine line)).mpr ⟨free, line⟩

theorem lines_single {text : List Char} (some : text ≠ []) (single : '\n' ∉ text) :
    lines text = [text] := by
  induction text with
  | nil => exact absurd rfl some
  | cons c rest inductionHypothesis =>
    obtain ⟨feed, later⟩ := List.ne_and_not_mem_of_not_mem_cons single
    have apart : rest.head? ≠ Option.some '\n' := fun starts => later (List.mem_of_head? starts)
    rw [lines_cons feed.symm fun _ => apart]
    cases rest with
    | nil => rfl
    | cons next others => rw [inductionHypothesis (List.cons_ne_nil _ _) later]; rfl

theorem continued_single {text : List Char} (single : '\n' ∉ text) : continued text = text := by
  cases text with
  | nil => rfl
  | cons c rest =>
    rw [continued, lines_single (List.cons_ne_nil _ _) single]
    exact List.intercalate_singleton

/-- The lines of lines that are joined. -/
theorem lines_joinLines {texts : List (List Char)} (areLines : ∀ text ∈ texts, isLine text = true) :
    lines (joinLines texts) = texts := by
  induction texts with
  | nil => rfl
  | cons text rest inductionHypothesis =>
    obtain ⟨isLineText, areLater⟩ := List.forall_mem_cons.mp areLines
    obtain ⟨closed, single⟩ := isLine_iff.mp isLineText
    have alone := lines_single (ne_nil_of_isClosed closed) single
    cases rest with
    | nil => simpa [joinLines] using alone
    | cons next others =>
      obtain ⟨before, line, _, same, going⟩ := lines_of_isClosed closed
      rw [alone] at same
      have first : before = [] := by
        cases before with
        | nil => rfl
        | cons _ _ => simp at same
      subst first
      obtain rfl : text = line := List.head_eq_of_cons_eq same
      rw [joinLines_cons _ (List.cons_ne_nil _ _), going, lines_feed, goOn, List.append_nil,
        inductionHypothesis areLater, List.nil_append]

/-- Lines that are indented together are found again one by one. -/
theorem lines_indented {texts : List (List Char)} (areLines : ∀ text ∈ texts, isLine text = true) :
    lines (indented (joinLines texts)) = texts.map (' ' :: ' ' :: ·) := by
  have moved : texts.map indentLine = texts.map (' ' :: ' ' :: ·) := by
    refine List.map_congr_left fun text listed => ?_
    exact if_neg (by simpa using ne_nil_of_isLine (areLines text listed))
  rw [indented, lines_joinLines areLines, moved]
  refine lines_joinLines fun text listed => ?_
  obtain ⟨original, within, rfl⟩ := List.mem_map.mp listed
  exact @isLine_append [' ', ' '] _ (by decide) (areLines original within)

theorem joinLines_append {parts others : List (List Char)} (some : parts ≠ [])
    (more : others ≠ []) :
    joinLines (parts ++ others) = joinLines parts ++ '\n' :: joinLines others := by
  induction parts with
  | nil => exact absurd rfl some
  | cons part rest inductionHypothesis =>
    cases rest with
    | nil =>
      rw [List.singleton_append, joinLines_cons part more]
      exact congrArg (· ++ '\n' :: joinLines others) List.intercalate_singleton.symm
    | cons next later =>
      rw [List.cons_append, joinLines_cons _ (by simp), inductionHypothesis (by simp),
        joinLines_cons part (List.cons_ne_nil _ _), List.append_assoc, List.cons_append]

/-- Joining what is joined already joins all its lines. -/
theorem joinLines_flatten {blocks : List (List (List Char))} (some : ∀ block ∈ blocks, block ≠ []) :
    joinLines (blocks.map joinLines) = joinLines blocks.flatten := by
  induction blocks with
  | nil => rfl
  | cons block rest inductionHypothesis =>
    obtain ⟨first, later⟩ := List.forall_mem_cons.mp some
    cases rest with
    | nil => simp [joinLines]
    | cons next others =>
      have more : (next :: others).flatten ≠ [] := by
        rw [List.flatten_cons]
        exact List.append_ne_nil_of_left_ne_nil (later next List.mem_cons_self) _
      rw [List.map_cons, joinLines_cons _ (by simp), inductionHypothesis later,
        List.flatten_cons (l := block), joinLines_append first more]

end SchemaFixtures.Emission
