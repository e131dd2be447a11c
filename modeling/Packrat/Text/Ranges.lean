/-!
# Tables of character ranges

Classes of characters and maps between them are given by tables of code ranges. `inRanges` decides
membership, and `shiftBy` finds the image of a character under a table of shifted runs.
-/

set_option autoImplicit false
set_option relaxedAutoImplicit false

namespace Packrat

/-- Whether the code of a character lies in one of the inclusive ranges. -/
def inRanges (ranges : Array (Nat × Nat)) (c : Char) : Bool :=
  ranges.any fun range ↦ range.1 ≤ c.toNat && c.toNat ≤ range.2

/-- Whether a code belongs to the run from `first` to `last` in steps of `step`. -/
def inRun (first last step code : Nat) : Bool :=
  first ≤ code && code ≤ last && (code - first) % step == 0

/-- The image of a character: the code moved by the distance of the run that holds it, and nothing
when no run does. -/
def shiftBy (runs : Array (Nat × Nat × Nat × Int)) (c : Char) : Option Char :=
  (runs.find? fun run ↦ inRun run.1 run.2.1 run.2.2.1 c.toNat).map
    fun run ↦ Char.ofNat ((c.toNat : Int) + run.2.2.2).toNat

end Packrat
