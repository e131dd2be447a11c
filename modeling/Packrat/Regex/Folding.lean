import Packrat.Regex.CharClass
import Packrat.Regex.FoldingTable

/-!
# Classes without regard to case

Two characters differ only in case when they have the same folding. `CharClass.folded` adds to a
class every character that differs only in case from a member.
-/

set_option autoImplicit false
set_option relaxedAutoImplicit false

namespace Packrat

/-- The members of the runs of a shift table, each with its image. -/
def shiftPairs (runs : Array (Nat × Nat × Nat × Int)) : List (Nat × Nat) :=
  runs.toList.flatMap fun (first, last, step, distance) ↦
    (List.range ((last - first) / step + 1)).map fun place ↦
      (first + place * step, (((first + place * step : Nat) : Int) + distance).toNat)

/-- The codes that have another folding, each with its folding. -/
def foldingPairs : List (Nat × Nat) := shiftPairs foldingRuns

namespace CharClass

/-- The members of a class and everything that differs from them only in case. -/
def folded (accepted : CharClass) : CharClass :=
  let images := ofCodes ((foldingPairs.filter fun pair ↦
    accepted.containsCode pair.1 || accepted.containsCode pair.2).map (·.2))
  let sources := ofCodes ((foldingPairs.filter fun pair ↦ images.containsCode pair.2).map (·.1))
  accepted.union (images.union sources)

/-- The members of a class and the letters of ASCII that differ from them only in case. -/
def asciiFolded (accepted : CharClass) : CharClass :=
  let pairs := (List.range 26).map fun place ↦ (65 + place, 97 + place)
  let lower := ofCodes ((pairs.filter fun pair ↦ accepted.containsCode pair.1).map (·.2))
  let upper := ofCodes ((pairs.filter fun pair ↦ accepted.containsCode pair.2).map (·.1))
  accepted.union (lower.union upper)

end CharClass

end Packrat
