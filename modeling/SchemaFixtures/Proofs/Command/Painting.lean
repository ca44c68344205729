import SchemaFixtures.Command.Run
import SchemaFixtures.Proofs.Command.Decoration
import SchemaFixtures.Proofs.Config.Printing

/-!
# Painted reports and lists

Every part of a report or of a list for a reader is either painted as a whole or said as it is.
With colours it is therefore the text without colours with escape sequences in it, as long as the
paths, names and messages in it hold no escape character.
-/

namespace SchemaFixtures.Command

open Text

/-! ## What a run says -/

/-- Nothing that a failure is reported with holds an escape character. -/
def Failure.Unmarked : Failure → Prop
  | config error => error.Unmarked
  | schemaFile path error => Text.Unmarked path ∧ Text.Unmarked error.message
  | schemaSyntax error =>
    Text.Unmarked error.path ∧ ∀ found ∈ error.errors, Text.Unmarked found.text
  | unknownType name suggestion => Text.Unmarked name ∧ ∀ known ∈ suggestion, Text.Unmarked known
  | output path error => Text.Unmarked path ∧ Text.Unmarked error.message

/-- A painted heading, and a text behind it. -/
theorem heading_paints (colored : Bool) {heading text : String}
    (headingUnmarked : Unmarked heading) (unmarked : Unmarked text) :
    Paints (paint colored .red heading ++ " " ++ text ++ "\n")
      (paint false .red heading ++ " " ++ text ++ "\n") :=
  (((Paints.paint colored .red headingUnmarked).append (.refl (by decide))).append
    (.refl unmarked)).append (.refl (by decide))

/-- A painted heading, and a path and a message behind it. -/
theorem headings_paint (colored : Bool) {heading path message : String}
    (headingUnmarked : Unmarked heading) (pathUnmarked : Unmarked path)
    (unmarked : Unmarked message) :
    Paints (paint colored .red heading ++ " " ++ path ++ ": " ++ message ++ "\n")
      (paint false .red heading ++ " " ++ path ++ ": " ++ message ++ "\n") := by
  have start := ((Paints.paint colored .red headingUnmarked).append
    (.refl (by decide : Unmarked " "))).append (.refl pathUnmarked)
  exact ((start.append (.refl (by decide))).append (.refl unmarked)).append (.refl (by decide))

theorem configReport_paints (colored : Bool) {error : Config.LoadError}
    (unmarked : error.Unmarked) :
    Paints (Failure.configReport colored error) (Failure.configReport false error) := by
  cases error with
  | problems path found =>
    obtain ⟨pathUnmarked, foundUnmarked⟩ := unmarked
    refine (heading_paints colored (unmarked_literal (by decide)) pathUnmarked).append ?_
    refine Paints.join fun problem listed => ?_
    have code : Unmarked problem.code := by
      cases problem <;> exact unmarked_literal (by decide)
    have bracketed : Unmarked ("[" ++ problem.code ++ "]") :=
      (Unmarked.append (by decide) code).append (by decide)
    exact ((((Paints.refl (by decide)).append (.paint colored .dimmed bracketed)).append
      (.refl (by decide))).append (.refl (foundUnmarked problem listed))).append
        (.refl (by decide))
  | unreadable error => exact heading_paints colored (unmarked_literal (by decide)) unmarked
  | unsupportedFormat path => exact heading_paints colored (unmarked_literal (by decide)) unmarked
  | invalid path message => exact heading_paints colored (unmarked_literal (by decide)) unmarked

theorem syntaxReport_paints (colored : Bool) {error : Sdl.SchemaError}
    (path : Unmarked error.path) (found : ∀ found ∈ error.errors, Unmarked found.text) :
    Paints (Failure.syntaxReport colored error) (Failure.syntaxReport false error) := by
  refine (heading_paints colored (unmarked_literal (by decide)) path).append ?_
  refine Paints.join fun one listed => ?_
  exact ((((Paints.refl (by decide)).append (.paint colored .dimmed (by decide))).append
    (.refl (by decide))).append (.refl (found one listed))).append (.refl (by decide))

theorem unknownTypeReport_paints (colored : Bool) {name : String} {suggestion : Option String}
    (unmarked : Unmarked name) (known : ∀ known ∈ suggestion, Unmarked known) :
    Paints (Failure.unknownTypeReport colored name suggestion)
      (Failure.unknownTypeReport false name suggestion) := by
  have heading : Unmarked "✗ No fixture for type" := unmarked_literal (by decide)
  refine ((((Paints.paint colored .red heading).append (.refl (by decide))).append
    (.paint colored .bold unmarked)).append (.refl (by decide))).append ?_
  cases suggestion with
  | none => exact .refl (by decide : Unmarked "")
  | some suggested =>
    have question : Unmarked "  Did you mean '" := unmarked_literal (by decide)
    exact ((Paints.refl question).append (.paint colored .cyan (known suggested rfl))).append
      (.refl (by decide))

theorem report_paints (colored : Bool) {failure : Failure} (unmarked : failure.Unmarked) :
    Paints (failure.report colored) (failure.report false) := by
  cases failure with
  | config error => exact configReport_paints colored unmarked
  | schemaFile path error =>
    exact headings_paint colored (unmarked_literal (by decide)) unmarked.1 unmarked.2
  | schemaSyntax error => exact syntaxReport_paints colored unmarked.1 unmarked.2
  | unknownType name suggestion => exact unknownTypeReport_paints colored unmarked.1 unmarked.2
  | output path error =>
    exact headings_paint colored (unmarked_literal (by decide)) unmarked.1 unmarked.2

theorem unmarked_secondsText (hundredths : Nat) : Unmarked (secondsText hundredths) := by
  have zero : Unmarked (if hundredths % 100 < 10 then "0" else "") := by
    split <;> decide
  exact (((unmarked_natText _).append (by decide)).append zero).append (unmarked_natText _)

theorem writtenText_paints (colored : Bool) {path : String} (unmarked : Unmarked path)
    (hundredths : Nat) :
    Paints (writtenText colored path hundredths) (writtenText false path hundredths) := by
  have heading : Unmarked "✓ Fixtures written to" := unmarked_literal (by decide)
  have first := (((Paints.paint colored .green heading).append
    (.refl (by decide : Unmarked " "))).append (.paint colored .bold unmarked)).append
      (.refl (by decide : Unmarked "\n"))
  have second := ((first.append (.refl (by decide : Unmarked "  "))).append
    (.paint colored .dimmed (by decide : Unmarked "⏱"))).append
      (.refl (by decide : Unmarked " total: "))
  exact (second.append (.refl (unmarked_secondsText hundredths))).append (.refl (by decide))

theorem unmarked_padded (width : Nat) {text : String} (unmarked : Unmarked text) :
    Unmarked (padded width text) :=
  unmarked.append (unmarked_literal (mark_not_mem_replicate (by decide) _))

theorem listText_paints (colored : Bool) {registry : Fixture.Registry}
    (names : ∀ name ∈ registry.names, Unmarked name) :
    Paints (listText colored registry) (listText false registry) := by
  have rows : Paints
      (String.join (registry.factories.map fun factory =>
        paint colored .bold (padded (nameWidth registry) factory.name) ++ "  "
          ++ paint colored .dimmed factory.kind.text ++ "\n"))
      (String.join (registry.factories.map fun factory =>
        paint false .bold (padded (nameWidth registry) factory.name) ++ "  "
          ++ paint false .dimmed factory.kind.text ++ "\n")) := by
    refine Paints.join fun factory listed => ?_
    have name := names factory.name (List.mem_map.mpr ⟨factory, listed, rfl⟩)
    have kind : Unmarked factory.kind.text := by
      cases factory.kind <;> exact unmarked_literal (by decide)
    exact (((Paints.paint colored .bold (unmarked_padded _ name)).append
      (.refl (by decide))).append (.paint colored .dimmed kind)).append (.refl (by decide))
  refine ((rows.append (.refl (by decide))).append
    (.paint colored .bold (unmarked_natText _))).append (.refl ?_)
  split <;> exact unmarked_literal (by decide)

end SchemaFixtures.Command
