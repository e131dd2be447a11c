import Packrat.Grammar.Node
import Packrat.Matching.Matcher

/-!
# Evaluation of nodes

What a node matches is given by the matchers of its children (`Node.matcher`). An evaluation goes
from node to node; `room` bounds how deep it goes, and a layer around every node may count or
remember.
-/

set_option autoImplicit false
set_option relaxedAutoImplicit false

namespace Packrat

variable {m : Type → Type} [MatchMonad m]

/-- The matcher of a node at a position of the arena, given the matcher of every node. -/
@[specialize] def Node.matcher (grammar : Grammar) (text : Text) (call : NodeId → Matcher m)
    (id : NodeId) : Node → Matcher m
  | .empty => Matcher.nothing
  | .textEnd skip => Matcher.textEnd text skip
  | .terminal form skip expected => Matcher.scanned text skip expected form.scan
  | .regex compiled skip expected => Matcher.scanned text skip expected (Matcher.scanRegex compiled)
  | .sequence parts commit => Matcher.sequence (parts.map call) commit
  | .choice alternatives => Matcher.choice (alternatives.map call)
  | .optional child default => Matcher.optional (call child) default
  | .repetition child least most what => Matcher.repetition text (call child) least most what
  | .delimited item separator form what =>
    Matcher.delimited text (call item) (call separator) form what
  | .lookahead child false _ => Matcher.followedBy (call child)
  | .lookahead child true unwanted => Matcher.notFollowedBy (call child) unwanted
  | .suppress child => Matcher.suppress (call child)
  | .group child => Matcher.group (call child)
  | .combine child joiner skip => Matcher.combine text skip joiner (call child)
  | .call rule => call (grammar.ruleBody rule)
  | .named child name accumulate => Matcher.named name accumulate (call child)
  | .action child actions skip => Matcher.acting text skip id actions (call child)
  | .labeled child skip expected => Matcher.labeled text skip expected (call child)

namespace Grammar

/-- Evaluates a node at an offset with the given room. Every evaluation goes through the layer. -/
@[specialize] def evaluateWith (grammar : Grammar) (text : Text)
    (layer : NodeId → Nat → m Match → m Match) : Nat → NodeId → Matcher m
  | 0, _, offset => MatchMonad.halt (.error (.recursionLimit offset grammar.config.maxDepth))
  | room + 1, id, offset =>
    layer id offset
      ((grammar.node id).matcher grammar text (grammar.evaluateWith text layer room) id offset)

end Grammar

end Packrat
