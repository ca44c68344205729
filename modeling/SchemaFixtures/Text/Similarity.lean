/-!
# Similarity of names

How much two names look alike, from 0 to 1. Characters match when they are equal and not
far apart; each character matches at most one of the other name. The similarity is the
mean of the share of matched characters in either name and the share of the matched
characters that stand in the same order. Names that are alike to begin with gain for the
characters, up to four, with which both begin.

The operations on floats are done in a fixed order, since a threshold is compared with
the result.
-/

namespace SchemaFixtures.Text

/-- A character of a name, and whether it is matched already. -/
structure Mark where
  character : Char
  matched : Bool
deriving DecidableEq, Repr

/-- Matches a character with the first equal one that is still free, among `width` marks
after the first `skipped`; none if there is no such mark. -/
def takeMatch? (c : Char) : (skipped width : Nat) → List Mark → Option (List Mark)
  | _, _, [] => none
  | skipped + 1, width, mark :: rest => (takeMatch? c skipped width rest).map (mark :: ·)
  | 0, 0, _ :: _ => none
  | 0, width + 1, mark :: rest =>
    if mark.character = c ∧ mark.matched = false then some (⟨c, true⟩ :: rest)
    else (takeMatch? c 0 width rest).map (mark :: ·)

/-- Matches characters from a position on, each within a distance of its own position.
Gives the characters that were matched and the marks afterwards. -/
def takeMatches (distance : Nat) : (position : Nat) → List Char → List Mark → List Char × List Mark
  | _, [], marks => ([], marks)
  | position, c :: rest, marks =>
    let start := position - distance
    match takeMatch? c start (position + distance + 1 - start) marks with
    | some marks =>
      let (others, marks) := takeMatches distance (position + 1) rest marks
      (c :: others, marks)
    | none => takeMatches distance (position + 1) rest marks

/-- The share of matched characters and of matched characters in the same order. -/
def matchSimilarity (a b : List Char) : Float :=
  if a.isEmpty && b.isEmpty then 1.0
  else if a.isEmpty || b.isEmpty then 0.0
  else
    let distance := max a.length b.length / 2 - 1
    let (matched, marks) := takeMatches distance 0 a (b.map fun c => ⟨c, false⟩)
    let counterparts := (marks.filter (·.matched)).map (·.character)
    let displaced := ((matched.zip counterparts).filter fun pair => pair.1 ≠ pair.2).length
    let transpositions := displaced / 2
    if matched.isEmpty then 0.0
    else
      let count := matched.length
      (count.toFloat / a.length.toFloat + count.toFloat / b.length.toFloat
        + (count - transpositions).toFloat / count.toFloat) / 3.0

/-- The number of characters, up to four, with which both begin. -/
def commonStart (a b : List Char) : Nat :=
  (((a.take 4).zip b).takeWhile fun pair => pair.1 = pair.2).length

/-- How much two names look alike. -/
def similarity (a b : String) : Float :=
  let base := matchSimilarity a.toList b.toList
  if base > 0.7 then base + 0.1 * (commonStart a.toList b.toList).toFloat * (1.0 - base) else base

/-- Names as alike as this are worth a suggestion. -/
def suggestionThreshold : Float := 0.8

/-- The candidate that is most like a name, if one is like enough; the last of several
that are equally alike. -/
def suggestion? (name : String) (candidates : List String) : Option String :=
  let scored := candidates.map fun candidate => (candidate, similarity name candidate)
  let close := scored.filter fun entry => entry.2 ≥ suggestionThreshold
  (close.foldl (fun best? entry =>
    match best? with
    | some (best : String × Float) => if entry.2 ≥ best.2 then some entry else some best
    | none => some entry) none).map (·.1)

end SchemaFixtures.Text
