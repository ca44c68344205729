import SchemaFixtures.Config.Load
import SchemaFixtures.Proofs.Emission.Reader
import SchemaFixtures.Proofs.Fixture.Quotation

/-!
# The path that a module imports its types from

The path of the type module is written between single quotes as it stands. What is read between
quotes is the text itself only where the text has no mark of its own: a quote ends the string or
leaves it unreadable, and a backslash takes the characters behind it along. Line ends are no marks
here. So the import is one of the configured path exactly if the path has neither a single quote
nor a backslash.
-/

namespace SchemaFixtures

/-! ## Texts that mean themselves -/

namespace Fixture.Quoted

variable {quote : Char}

/-- An item means at most as many characters as it is written with, and as many only if it is a
character that stands for itself. -/
theorem length_of_means {item : Item} {following : Option Char} {meaning : List Char}
    (means : item.Means quote following meaning) :
    meaning.length < item.text.length ∨
      ∃ character, item = .plain character ∧ character ≠ '\\' ∧ character ≠ quote := by
  cases means with
  | plain noEscape noQuote => exact .inr ⟨_, rfl, noEscape, noQuote⟩
  | control _ | null _ | twoDigits _ | fourDigits _ | braced _ | lineFeed | other _ _ =>
    simp [Item.text]

/-- A row of items that spells as many characters as it is written with has no marks. -/
theorem length_of_spells {items : List Item} {text : List Char}
    (spells : Spells quote items text) :
    text.length < (written items).length ∨
      text.length = (written items).length ∧ quote ∉ written items ∧ '\\' ∉ written items := by
  induction spells with
  | nil => exact .inr ⟨rfl, List.not_mem_nil, List.not_mem_nil⟩
  | cons means _ inductionHypothesis =>
    rw [written_cons, List.length_append, List.length_append]
    rcases length_of_means means with shorter | ⟨character, rfl, noEscape, noQuote⟩
    · omega
    · cases means
      simp only [Item.text, List.length_singleton, List.singleton_append, List.mem_cons, not_or]
      rcases inductionHypothesis with shorter | ⟨same, quoteFree, escapeFree⟩
      · exact .inl (by omega)
      · exact .inr ⟨by omega, ⟨noQuote.symm, quoteFree⟩, noEscape.symm, escapeFree⟩

/-- A body means itself exactly if it has neither a quote nor a backslash. -/
theorem decode_self_iff {body : List Char} :
    decode quote body = some body ↔ quote ∉ body ∧ '\\' ∉ body := by
  constructor
  · intro read
    obtain ⟨items, rfl, spells⟩ := spells_of_decode read
    rcases length_of_spells spells with shorter | ⟨-, free⟩
    · exact absurd shorter (Nat.lt_irrefl _)
    · exact free
  · rintro ⟨quoteFree, escapeFree⟩
    induction body with
    | nil => rfl
    | cons character rest inductionHypothesis =>
      obtain ⟨noQuote, quoteFree⟩ := List.ne_and_not_mem_of_not_mem_cons quoteFree
      obtain ⟨noEscape, escapeFree⟩ := List.ne_and_not_mem_of_not_mem_cons escapeFree
      rw [decode_plain noEscape.symm noQuote.symm, inductionHypothesis quoteFree escapeFree]
      rfl

/-- A quote in a body without backslashes makes it unreadable. -/
theorem decode_of_quote {body : List Char} (quoted : quote ∈ body) (escapeFree : '\\' ∉ body) :
    decode quote body = none := by
  induction body with
  | nil => cases quoted
  | cons character rest inductionHypothesis =>
    obtain ⟨noEscape, later⟩ := List.ne_and_not_mem_of_not_mem_cons escapeFree
    by_cases same : character = quote
    · have plain : character ≠ '\\' := noEscape.symm
      rw [decode, if_pos (.inr same)] <;> simp_all
    · have further := (List.mem_cons.mp quoted).resolve_left (Ne.symm same)
      rw [decode_plain noEscape.symm same, inductionHypothesis further later]
      rfl

/-- What is read between two quotes is what the body means. -/
theorem read?_enclosed (quote : Char) (body : List Char) :
    read? quote (quote :: (body ++ [quote])) = decode quote body := by
  rw [read?, between?_eq_some_iff.mpr rfl, Option.bind_some]

end Fixture.Quoted

/-! ## The import -/

namespace Emission

open Fixture

/-- The specifier in a line that imports the types. -/
def typeSpecifier? (line : String) : Option (List Char) :=
  inside? "import * as types from " "\n" line.toList

/-- The specifiers that the types are imported from. -/
def typeSpecifiers (module : Module) : List (List Char) := module.opening.filterMap typeSpecifier?

/-- The only import of types is the one of the type module, with its path between quotes. -/
theorem typeSpecifiers_generate (document : Schema.Document) {settings : Config.Settings}
    {path : String} (given : settings.typeDefinitionModule = some path) :
    typeSpecifiers (Module.generate document settings) = ['\'' :: (path.toList ++ ['\''])] := by
  have specifier : typeSpecifier? ("import * as types from '" ++ path ++ "'\n") =
      some ('\'' :: (path.toList ++ ['\''])) := by
    have line : "import * as types from '" ++ path ++ "'\n" =
        "import * as types from " ++ ("'" ++ path ++ "'") ++ "\n" := by
      simp [← String.toList_inj]
    rw [typeSpecifier?, line, inside?_between]
    simp
  have others : (if settings.immer then
      ["import produce from 'immer'", "import \x7b Produced \x7d from 'immer/dist/internal'\n"]
      else []).filterMap typeSpecifier? = [] := by
    split <;> decide
  have last : typeSpecifier? "const fixtureMap = \x7b" = none := by decide
  simp [typeSpecifiers, Module.generate, opening, given, specifier, others, last]

/-- The paths that the types are imported from, as they are read. -/
def typeImports (module : Module) : List (Option (List Char)) :=
  (typeSpecifiers module).map (Quoted.read? '\'')

/-- The types are imported once, from the configured path between single quotes. What is read
there is the path exactly if it has neither a single quote nor a backslash: the path is written
without escapes and read with them. A quote without a backslash leaves nothing that can be read. -/
theorem imported_path_is_read_unless_marked (document : Schema.Document)
    {settings : Config.Settings} {path : String}
    (given : settings.typeDefinitionModule = some path) :
    let module := Module.generate document settings
    typeSpecifiers module = ['\'' :: (path.toList ++ ['\''])] ∧
      typeImports module = [Quoted.decode '\'' path.toList] ∧
      (typeImports module = [some path.toList] ↔ '\'' ∉ path.toList ∧ '\\' ∉ path.toList) ∧
      ('\'' ∈ path.toList → '\\' ∉ path.toList → typeImports module = [none]) := by
  intro module
  have written := typeSpecifiers_generate document given
  have imports : typeImports module = [Quoted.decode '\'' path.toList] := by
    rw [typeImports, written, List.map_singleton, Quoted.read?_enclosed]
  refine ⟨written, imports, ?_, fun quoted escapeFree => ?_⟩
  · rw [imports, List.singleton_inj]
    exact Quoted.decode_self_iff
  · rw [imports, Quoted.decode_of_quote quoted escapeFree]

/-- A path with a backslash is accepted, and the import is one of a path with a tab. -/
theorem backslash_path_is_changed :
    let contents := "\x7b\"fixtures\":\x7b\"typeDefinitionModule\":\"..\\\\types\"\x7d\x7d"
    let settings : Config.Settings := { typeDefinitionModule := some "..\\types" }
    (Config.loadText contents "c.json").toOption = some settings ∧
      typeImports (Module.generate ⟨[]⟩ settings) = [some "..\types".toList] ∧
      typeImports (Module.generate ⟨[]⟩ settings) ≠ [some "..\\types".toList] := by
  intro contents settings
  have accepted : (Config.loadText contents "c.json").toOption = some settings := by
    decide +kernel
  obtain ⟨-, imports, reads, -⟩ := @imported_path_is_read_unless_marked ⟨[]⟩ settings _ rfl
  refine ⟨accepted, imports.trans (by decide), fun same => ?_⟩
  exact absurd (reads.mp same).2 (by decide)

end Emission

end SchemaFixtures
