import Packrat.Expr.Basic
import Packrat.Grammar.Config

/-!
# Nodes and grammars

A grammar is an arena of nodes. A node refers to its children by their positions in the arena and to
rules by their numbers. Which characters are skipped before a terminal is settled in the node, and
so is the message of its failures.
-/

set_option autoImplicit false
set_option relaxedAutoImplicit false

namespace Packrat

/-- The position of a node in its arena. -/
abbrev NodeId := Nat

/-- A compiled expression. -/
inductive Node where
  /-- Matches nothing and succeeds. -/
  | empty
  /-- Succeeds at the end of the text. -/
  | textEnd (skip : Option CharSet)
  /-- A terminal after skipped characters. -/
  | terminal (terminal : Terminal) (skip : Option CharSet) (expected : String)
  /-- A regular expression after skipped characters. -/
  | regex (regex : CompiledRegex) (skip : Option CharSet) (expected : String)
  /-- All parts in order; failures from the commit point on are fatal. -/
  | sequence (parts : List NodeId) (commit : Option Nat)
  /-- The first alternative that matches. -/
  | choice (alternatives : List NodeId)
  /-- The child or nothing. -/
  | optional (child : NodeId) (default : Option Token)
  /-- The child several times. -/
  | repetition (child : NodeId) (least : Nat) (most : Option Nat) (what : String)
  /-- Items with separators between them. -/
  | delimited (item separator : NodeId) (form : ListForm) (what : String)
  /-- Whether the child would match, or would not. -/
  | lookahead (child : NodeId) (negative : Bool) (unwanted : String)
  /-- The child without its results. -/
  | suppress (child : NodeId)
  /-- The child's results as one token. -/
  | group (child : NodeId)
  /-- The child's results joined into one string, after skipped characters. -/
  | combine (child : NodeId) (joiner : String) (skip : Option CharSet)
  /-- A rule. -/
  | call (rule : Nat)
  /-- The child's results under a name. -/
  | named (child : NodeId) (name : String) (accumulate : Bool)
  /-- The child with actions; the match starts after skipped characters. -/
  | action (child : NodeId) (actions : List Action) (skip : Option CharSet)
  /-- The child with a message for failures at its start. -/
  | labeled (child : NodeId) (skip : Option CharSet) (expected : String)

namespace Node

instance : Inhabited Node := ⟨.empty⟩

/-- The children of a node in the order of evaluation. -/
def children : Node → List NodeId
  | .sequence parts _ => parts
  | .choice alternatives => alternatives
  | .delimited item separator _ _ => [item, separator]
  | .optional child _ => [child]
  | .repetition child _ _ _ => [child]
  | .lookahead child _ _ => [child]
  | .suppress child => [child]
  | .group child => [child]
  | .combine child _ _ => [child]
  | .named child _ _ => [child]
  | .action child _ _ => [child]
  | .labeled child _ _ => [child]
  | .empty => []
  | .textEnd _ => []
  | .terminal _ _ _ => []
  | .regex _ _ _ => []
  | .call _ => []

def isCall : Node → Bool
  | .call _ => true
  | _ => false

def isAction : Node → Bool
  | .action .. => true
  | _ => false

end Node

/-- A compiled grammar. -/
structure Grammar where
  /-- The nodes. -/
  nodes : Array Node
  /-- The names of the rules in the order in which they were bound. -/
  ruleNames : List String
  /-- The node of each rule's body. -/
  ruleBodies : List NodeId
  /-- The node from which a parse starts. -/
  entry : Option NodeId
  /-- How the grammar is evaluated. -/
  config : Config

namespace Grammar

/-- The node at a position; positions outside the arena hold the empty node. -/
def node (grammar : Grammar) (id : NodeId) : Node := grammar.nodes[id]?.getD .empty

def ruleBody (grammar : Grammar) (rule : Nat) : NodeId := grammar.ruleBodies[rule]?.getD 0

def findRule? (grammar : Grammar) (name : String) : Option NodeId :=
  (grammar.ruleNames.idxOf? name).bind fun rule ↦ grammar.ruleBodies[rule]?

def hasRule (grammar : Grammar) (name : String) : Bool := grammar.ruleNames.contains name

def nodeCount (grammar : Grammar) : Nat := grammar.nodes.size

def skip (grammar : Grammar) : Option CharSet := grammar.config.skip

end Grammar

end Packrat
