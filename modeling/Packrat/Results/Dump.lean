import Packrat.Results.Basic

/-!
# Results over several lines

A dump shows the token list on its first line and then one line for each name, sorted by name. Under
a plain name that stands for one group, the names of that group follow, indented one step further.
-/

set_option autoImplicit false
set_option relaxedAutoImplicit false

namespace Packrat

namespace Results

/-- The lines of the names of some results. The names inside each token are given as functions of
the indentation. -/
def nameLines (results : Results) (inner : List (Nat → List Char)) (depth : Nat) : List Char :=
  (results.names.mergeSort fun first second ↦ first.name ≤ second.name).flatMap fun slot ↦
    match results.get? slot.name with
    | none => []
    | some value =>
      let line := '\n' :: List.replicate (2 * depth) ' ' ++ '-' :: ' ' :: slot.name.toList ++
        ':' :: ' ' :: value.chars
      let below :=
        if slot.accumulate then []
        else
          match slot.spans.getLast?.bind (·.slice? inner) with
          | some [only] => only (depth + 1)
          | _ => []
      line ++ below

mutual

def innerLines : Token → Nat → List Char
  | .group tokens names, depth => nameLines ⟨tokens, names⟩ (innerLinesOf tokens) depth
  | _, _ => []

/-- The lines of the names inside each token, as functions of the indentation. -/
def innerLinesOf : List Token → List (Nat → List Char)
  | [] => []
  | token :: rest => (fun depth ↦ innerLines token depth) :: innerLinesOf rest

end

/-- The token list and the names below it, one on each line. -/
def dump (results : Results) : String :=
  String.ofList ((Value.list results.toValues).chars ++
    nameLines results (innerLinesOf results.tokens) 0)

end Results

end Packrat
