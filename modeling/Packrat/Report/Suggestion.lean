import Packrat.Text.Lowercase

/-!
# Suggestions for misspelled names

The distance of two names is the least number of characters to insert, delete or replace that turns
one into the other. It is computed row by row: the row of a character follows from the row of the
character before it. A name is suggested when the distance is at most two fifths of the longer
length; the best one wins, and among equals the first.
-/

set_option autoImplicit false
set_option relaxedAutoImplicit false

namespace Packrat

/-- The rest of a row of distances. `diagonal` is the entry of the earlier row above the entry
`left`, and `above` holds the entries of the earlier row that follow `diagonal`. -/
def nextRow (c : Char) (left diagonal : Nat) : List Char → List Nat → List Nat
  | d :: rest, up :: above =>
    let entry := min (min (up + 1) (left + 1)) (diagonal + if c = d then 0 else 1)
    entry :: nextRow c entry up rest above
  | _, _ => []

/-- The rows of distances for the characters of the first name one after another: entry `j` of a row
is the distance to the first `j` characters of the second name. -/
def distanceRow (second : List Char) : Nat → List Nat → List Char → List Nat
  | _, row, [] => row
  | count, row, c :: rest =>
    let next := (count + 1) :: nextRow c (count + 1) (row.headD 0) second row.tail
    distanceRow second (count + 1) next rest

/-- The least number of single-character edits between two names. -/
def editDistance (first second : List Char) : Nat :=
  ((distanceRow second 0 (List.range (second.length + 1)) first).getLast?).getD 0

/-- How alike two names are: of `outOf` places, `matching` agree. -/
structure Similarity where
  /-- The number of places that agree. -/
  matching : Nat
  /-- The number of places. -/
  outOf : Nat
deriving DecidableEq, Repr

namespace Similarity

/-- How alike two names are. Equal names agree everywhere, and an empty name agrees with no
other. -/
def ofNames (first second : List Char) : Similarity :=
  if first = second then ⟨1, 1⟩
  else if first.isEmpty || second.isEmpty then ⟨0, 1⟩
  else
    let longest := max first.length second.length
    ⟨longest - editDistance first second, longest⟩

/-- Whether at least three fifths of the places agree. -/
def isClose (similarity : Similarity) : Bool := 3 * similarity.outOf ≤ 5 * similarity.matching

/-- Whether the share of places that agree is greater. -/
def exceeds (similarity other : Similarity) : Bool :=
  other.matching * similarity.outOf < similarity.matching * other.outOf

end Similarity

/-- The candidate closest to a name, if one is close enough; case does not count. -/
def suggest? (name : String) (candidates : List String) : Option String :=
  let target := lowercase name.toList
  (candidates.foldl (fun best candidate ↦
    let similarity := Similarity.ofNames target (lowercase candidate.toList)
    if !similarity.isClose then best
    else
      match best with
      | some (_, held) => if similarity.exceeds held then some (candidate, similarity) else best
      | none => some (candidate, similarity)) (none : Option (String × Similarity))).map Prod.fst

end Packrat
