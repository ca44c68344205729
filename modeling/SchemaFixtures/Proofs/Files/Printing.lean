import SchemaFixtures.Config.Discovery
import SchemaFixtures.Files.Tree
import SchemaFixtures.Proofs.Files.Ancestry
import SchemaFixtures.Proofs.Text.Unmarked

/-!
# What paths and files bring into texts

The directories above a path are spelled with the characters of the path and with slashes, so the
places where a config file is looked for are spelled like the directory that the search starts
from. What a tree says about a path that leads nowhere is one of a few messages.
-/

namespace SchemaFixtures.Files

open Text

namespace Path

/-! ## Directories above a path -/

/-- No piece of a path holds an escape character. -/
def PlainPieces (pieces : List (List Char)) : Prop := ∀ piece ∈ pieces, Command.escapeMark ∉ piece

theorem pieces_plain {path : String} (unmarked : Unmarked path) :
    PlainPieces (pieces path) :=
  fun _ member found => unmarked (mem_of_mem_pieces member found).1

theorem significant_plain {path : String} (unmarked : Unmarked path) :
    PlainPieces (significant path) :=
  fun piece member => pieces_plain unmarked piece (significant_subset path member)

theorem ofPieces_unmarked {pieces : List (List Char)} (plain : PlainPieces pieces) :
    Unmarked (ofPieces pieces) := by
  refine unmarked_literal fun found => ?_
  rcases mem_of_mem_intercalate found with slash | ⟨piece, member, inside⟩
  · cases List.mem_singleton.mp slash
  · exact plain piece member inside

theorem parent?_unmarked {path parent : String} (unmarked : Unmarked path)
    (isParent : parent? path = some parent) : Unmarked parent := by
  have plain := significant_plain unmarked
  rw [parent?] at isParent
  split at isParent
  · cases isParent
  · next last before same =>
    have beforePlain : PlainPieces before.reverse := by
      intro piece member
      refine plain piece (List.mem_reverse.mp ?_)
      rw [same]
      exact List.mem_cons_of_mem _ (List.mem_reverse.mp member)
    have kept := significant_plain (ofPieces_unmarked beforePlain)
    dsimp only at isParent
    obtain rfl := Option.some.inj isParent
    split
    · decide
    · exact ofPieces_unmarked kept

theorem ancestorsWithin_unmarked (steps : Nat) {path : String} (unmarked : Unmarked path) :
    ∀ ancestor ∈ ancestorsWithin steps path, Unmarked ancestor := by
  induction steps generalizing path with
  | zero => exact List.forall_mem_singleton.mpr unmarked
  | succ steps inductionHypothesis =>
    rw [ancestorsWithin]
    split
    · next parent isParent =>
      exact List.forall_mem_cons.mpr
        ⟨unmarked, inductionHypothesis (parent?_unmarked unmarked isParent)⟩
    · exact List.forall_mem_singleton.mpr unmarked

theorem join_unmarked {directory name : String} (start : Unmarked directory)
    (last : Unmarked name) : Unmarked (join directory name) := by
  rw [join]
  split
  · exact last
  · split
    · exact start.append last
    · exact (start.append (by decide)).append last

end Path

/-- The places where a config file is looked for are spelled like the directory. -/
theorem candidates_unmarked {directory : String} (unmarked : Unmarked directory) :
    ∀ candidate ∈ Config.candidates directory, Unmarked candidate := by
  rw [Config.candidates, List.forall_mem_flatMap]
  intro ancestor above
  rw [List.forall_mem_map]
  intro name known
  have names : ∀ name ∈ Config.fileNames, Unmarked name := by
    decide +kernel
  exact Path.join_unmarked (Path.ancestorsWithin_unmarked _ unmarked ancestor above)
    (names name known)

/-! ## Errors -/

/-- An error of the system, with a message that is always the same. -/
def FileError.Known : FileError → Prop
  | other _ => False
  | _ => True

theorem FileError.Known.message {error : FileError} (known : error.Known) :
    Unmarked error.message := by
  cases error with
  | other message => cases known
  | notFound | notDirectory | isDirectory | nameTooLong | nullInPath | notText =>
    exact unmarked_literal (by decide)

/-- An error that stops is known. -/
def Fails {α : Type} (result : Except FileError α) : Prop :=
  ∀ error, result = .error error → error.Known

namespace Fails

variable {α β : Type}

theorem ok (value : α) : Fails (.ok value) := by
  rintro _ ⟨⟩

theorem error {error : FileError} (known : error.Known) : Fails (.error error : Except _ α) := by
  rintro _ ⟨⟩
  exact known

theorem bind {first : Except FileError α} {next : α → Except FileError β} (begins : Fails first)
    (goesOn : ∀ value, Fails (next value)) : Fails (first >>= next) := by
  cases first with
  | error failure => exact .error (begins failure rfl)
  | ok value => exact goesOn value

end Fails

namespace Tree

theorem checkPath_fails (path : String) : Fails (checkPath path) := by
  rw [checkPath]
  repeat' split
  · exact .error trivial
  · exact .error trivial
  · exact .error trivial
  · exact .ok ()

theorem requireDirectory_fails (tree : Tree) (location : Location) :
    Fails (tree.requireDirectory location) := by
  rw [requireDirectory]
  split
  · exact .error trivial
  · exact .error trivial
  · exact .ok ()

theorem enter_fails (tree : Tree) (location : Location) (piece : List Char) :
    Fails (tree.enter location piece) := by
  refine (requireDirectory_fails tree location).bind fun _ => ?_
  repeat' split
  · exact .ok _
  · exact .ok _
  · exact .error trivial
  · exact .ok _

theorem follow_fails (tree : Tree) (pieces : List (List Char)) (location : Location) :
    Fails (tree.follow pieces location) := by
  induction pieces generalizing location with
  | nil => exact .ok location
  | cons piece rest inductionHypothesis =>
    exact (enter_fails tree location piece).bind fun next => inductionHypothesis next

theorem locate_fails (tree : Tree) (directory : Location) (path : String) :
    Fails (tree.locate directory path) :=
  (checkPath_fails path).bind fun _ => follow_fails tree _ _

theorem read_fails (tree : Tree) (directory : Location) (path : String) :
    Fails (tree.read directory path) := by
  have bytes : Fails (tree.readBytes directory path) := by
    refine (locate_fails tree directory path).bind fun _ => ?_
    split
    · exact .ok _
    · exact .error trivial
    · exact .error trivial
  refine bytes.bind fun _ => ?_
  split
  · exact .ok _
  · exact .error trivial

theorem write_fails (tree : Tree) (directory : Location) (path text : String) :
    Fails (tree.write directory path text) := by
  rw [write]
  split
  · refine (checkPath_fails path).bind fun _ => (follow_fails tree _ _).bind fun above => ?_
    exact (requireDirectory_fails tree above).bind fun _ => .error trivial
  · refine (locate_fails tree directory path).bind fun _ => ?_
    split
    · exact .error trivial
    · exact .ok _

end Tree

end SchemaFixtures.Files
