import Packrat.Grammar.Nullable

/-!
# Left recursion

A rule stands at the left edge of a node when the node can call it before anything is consumed.
Rules that call one another at their left edges in a circle would never end. The circles are found
by a search that goes from rule to rule along left edges and keeps the path on which it is.
-/

set_option autoImplicit false
set_option relaxedAutoImplicit false

namespace Packrat

namespace Grammar

/-- Adds rules to a list, each of them once. -/
def addRules (edge more : List Nat) : List Nat :=
  more.foldl (fun held rule ↦ if rule ∈ held then held else held ++ [rule]) edge

/-- The rules at the left edge of a sequence: those of its parts up to the first that consumes. -/
def sequenceEdge (marks : Array Bool) (edges : NodeId → List Nat) (edge : List Nat) :
    List NodeId → List Nat
  | [] => edge
  | part :: rest =>
    let extended := addRules edge (edges part)
    if isMarked marks part then sequenceEdge marks edges extended rest else extended

/-- The rules at the left edge of a node, given those of its children. -/
def leftEdge (marks : Array Bool) (edges : NodeId → List Nat) : Node → List Nat
  | .call rule => [rule]
  | .sequence parts _ => sequenceEdge marks edges [] parts
  | .delimited item separator _ _ => sequenceEdge marks edges [] [item, separator]
  | node => (node.children.map edges).foldl addRules []

/-- The rules at the left edge of each node, in the order of the arena. -/
def leftEdges (grammar : Grammar) (marks : Array Bool) : Array (List Nat) :=
  grammar.nodes.foldl
    (fun edges node ↦ edges.push (leftEdge marks (fun child ↦ edges[child]?.getD []) node)) #[]

/-- The rules at the left edge of each rule's body. -/
def ruleEdges (grammar : Grammar) (marks : Array Bool) : List (List Nat) :=
  let edges := grammar.leftEdges marks
  grammar.ruleBodies.map fun body ↦ edges[body]?.getD []

end Grammar

/-- What a search for circles has found. -/
structure CycleSearch where
  /-- The rules from which everything has been searched. -/
  finished : List Nat
  /-- The circles, each ending with the rule with which it starts. -/
  cycles : List (List Nat)

namespace CycleSearch

/-- The part of a path from a rule on, closed by that rule. -/
def cycleAt (path : List Nat) (rule : Nat) : List Nat := path.dropWhile (· ≠ rule) ++ [rule]

mutual

/-- Searches from a rule that is reached along a path of other rules. -/
def visit (edges : List (List Nat)) (rule : Nat) (path : List Nat) (search : CycleSearch) :
    CycleSearch :=
  if rule ∈ path then { search with cycles := search.cycles ++ [cycleAt path rule] }
  else if rule ∈ search.finished then search
  else if path.length < edges.length then
    let after := visitAll edges (edges[rule]?.getD []) (path ++ [rule]) search
    { after with finished := rule :: after.finished }
  else search
termination_by (edges.length - path.length, 0)
decreasing_by
  simp only [List.length_append, List.length_singleton]
  exact Prod.Lex.left _ _ (by omega)

def visitAll (edges : List (List Nat)) (rules path : List Nat) (search : CycleSearch) :
    CycleSearch :=
  match rules with
  | [] => search
  | rule :: rest => visitAll edges rest path (visit edges rule path search)
termination_by (edges.length - path.length, rules.length + 1)

end

/-- The circles among rules with the given left edges. -/
def cyclesOf (edges : List (List Nat)) : List (List Nat) :=
  (visitAll edges (List.range edges.length) [] ⟨[], []⟩).cycles

end CycleSearch

/-- The circles of left-recursive rules, by name. -/
def Grammar.leftRecursion (grammar : Grammar) (marks : Array Bool) : List (List String) :=
  (CycleSearch.cyclesOf (grammar.ruleEdges marks)).map fun cycle ↦
    cycle.map fun rule ↦ grammar.ruleNames[rule]?.getD ""

end Packrat
