import Packrat.Grammar.Node

/-!
# Which nodes can match nothing

A node is nullable when it can succeed without consuming anything. Nullability is the least set of
nodes closed under the rules of `Node.nullable`: it is found by marking nodes in sweeps over the
arena until a sweep marks none.
-/

set_option autoImplicit false
set_option relaxedAutoImplicit false

namespace Packrat

/-- Whether a node can match nothing, given which nodes and rules are known to. -/
def Node.nullable (known : NodeId → Bool) (knownRule : Nat → Bool) : Node → Bool
  | .empty => true
  | .textEnd _ => true
  | .optional _ _ => true
  | .lookahead _ _ _ => true
  | .terminal _ _ _ => false
  | .regex compiled _ _ => compiled.matchesEmpty
  | .sequence parts _ => parts.all known
  | .choice alternatives => alternatives.any known
  | .repetition child least _ _ => least == 0 || known child
  | .delimited item _ form _ => form.least == 0 || known item
  | .call rule => knownRule rule
  | .suppress child => known child
  | .group child => known child
  | .combine child _ _ => known child
  | .named child _ _ => known child
  | .action child _ _ => known child
  | .labeled child _ _ => known child

namespace Grammar

def isMarked (marks : Array Bool) (id : NodeId) : Bool := marks[id]?.getD false

/-- Whether a node can match nothing, given the marks so far. -/
def nullableBy (grammar : Grammar) (marks : Array Bool) (id : NodeId) : Bool :=
  (grammar.node id).nullable (isMarked marks) fun rule ↦ isMarked marks (grammar.ruleBody rule)

def markNode (grammar : Grammar) (marks : Array Bool) (id : NodeId) : Array Bool :=
  if grammar.nullableBy marks id then marks.setIfInBounds id true else marks

/-- Marks the nodes of the arena one after another. -/
def sweep (grammar : Grammar) (marks : Array Bool) : Array Bool :=
  (List.range grammar.nodes.size).foldl grammar.markNode marks

@[simp] theorem size_markNode (grammar : Grammar) (marks : Array Bool) (id : NodeId) :
    (grammar.markNode marks id).size = marks.size := by
  unfold markNode
  split <;> simp

@[simp] theorem size_sweep (grammar : Grammar) (marks : Array Bool) :
    (grammar.sweep marks).size = marks.size := by
  unfold sweep
  generalize List.range grammar.nodes.size = ids
  induction ids generalizing marks with
  | nil => rfl
  | cons id rest ih => simp [ih]

def saturate (grammar : Grammar) (marks : Array Bool) : Array Bool :=
  if marks.count true < (grammar.sweep marks).count true then
    grammar.saturate (grammar.sweep marks)
  else marks
termination_by marks.size - marks.count true
decreasing_by
  have bound : (grammar.sweep marks).count true ≤ (grammar.sweep marks).size := Array.count_le_size
  have same := grammar.size_sweep marks
  omega

def nullable (grammar : Grammar) : Array Bool :=
  grammar.saturate (Array.replicate grammar.nodes.size false)

/-- The first unbounded repetition that can go round without consuming anything, as text. -/
def nullableRepetition? (grammar : Grammar) (marks : Array Bool) : Option String :=
  grammar.nodes.toList.findSome? fun node ↦
    match node with
    | .repetition child _ none what => if isMarked marks child then some what else none
    | .delimited item separator form what =>
      if form.most.isNone && isMarked marks item && isMarked marks separator then some what
      else none
    | _ => none

end Grammar

end Packrat
