import Packrat.Expr.Basic

/-!
# Operator tables

An operator table lists levels of operators over an operand, the tightest level first, and expands
to rules: one for atoms, one for each level, and one for the whole. Each level takes the level
before it as its operand, and brackets lead back to the whole.

Every use of a level is one group. A chain of left-grouping operators stays flat inside its group; a
chain of right-grouping ones nests to the right.
-/

set_option autoImplicit false
set_option relaxedAutoImplicit false

namespace Packrat

/-- How operators of one level group. -/
inductive Grouping where
  /-- From the left. -/
  | left
  /-- From the right. -/
  | right
  /-- Not at all: at most one operator. -/
  | none
deriving DecidableEq, Repr

/-- Where an operator stands. -/
inductive Fixity where
  /-- Before its operand. -/
  | before
  /-- Between its operands. -/
  | between (grouping : Grouping)
  /-- After its operand. -/
  | after
deriving DecidableEq, Repr

namespace Fixity

def arity : Fixity → Nat
  | .between _ => 2
  | _ => 1

def describe : Fixity → String
  | .before => "Prefix"
  | .after => "Postfix"
  | .between .left => "Infix(Left)"
  | .between .right => "Infix(Right)"
  | .between .none => "Infix(None)"

end Fixity

/-- One level of a table. -/
structure OperatorLevel where
  /-- The operator. -/
  operator : Expr
  /-- Where it stands. -/
  fixity : Fixity
  /-- An action on every group of the level. -/
  action : Option Action := none

/-- A table of operators over an operand. -/
structure OperatorTable where
  /-- The operand. -/
  operand : Expr
  /-- The levels, the tightest first. -/
  levels : List OperatorLevel
  /-- The brackets around a nested whole, if there are any. -/
  brackets : Option (Expr × Expr)

namespace OperatorTable

/-- The usual brackets: parentheses without results. -/
def parentheses : Build (Expr × Expr) := do
  let opening ← (← Expr.literal "(").suppress
  let closing ← (← Expr.literal ")").suppress
  pure (opening, closing)

/-- The expression of one use of a level. `tighter` is the level before it and `this` the level
itself. -/
def application (level : OperatorLevel) (tighter this : Expr) : Build Expr :=
  match level.fixity with
  | .between .left => do
    tighter.andThen (← (← level.operator.andThen tighter).oneOrMore)
  | .between .right => do
    tighter.andThen (← (← level.operator.andThen this).oneOrMore)
  | .between .none => do
    (← tighter.andThen level.operator).andThen tighter
  | .before => level.operator.andThen this
  | .after => do
    tighter.andThen (← level.operator.oneOrMore)

/-- The rule body of a level: one use of the level, or the level before it. -/
def levelBody (level : OperatorLevel) (tighter this : Expr) : Build Expr := do
  let grouped ← (← application level tighter this).group
  let grouped ←
    match level.action with
    | some action => grouped.act action
    | none => pure grouped
  grouped.orElse tighter

/-- The rules of the levels from the given number on, and the name of the last rule. -/
def levelRules (name : String) : Nat → String → List OperatorLevel →
    Build (List (String × Expr) × String)
  | _, last, [] => pure ([], last)
  | number, last, level :: rest => do
    let own := name ++ ".level" ++ toString number
    let tighter ← Expr.rule last
    let this ← Expr.rule own
    let body ← levelBody level tighter this
    let (rules, final) ← levelRules name (number + 1) own rest
    pure ((own, body) :: rules, final)

/-- The expression of an atom: the operand, or a bracketed whole. -/
def atom (table : OperatorTable) (name : String) : Build Expr :=
  match table.brackets with
  | none => pure table.operand
  | some (opening, closing) => do
    let whole ← Expr.rule name
    table.operand.orElse (← (← opening.andThen whole).andThen closing)

/-- The rules of a table: atoms, the levels in order, and the whole under the given name. -/
def rules (table : OperatorTable) (name : String) : Build (List (String × Expr)) := do
  let atomName := name ++ ".atom"
  let atom ← table.atom name
  let (levels, last) ← levelRules name 1 atomName table.levels
  let whole ← Expr.rule last
  pure ((atomName, atom) :: levels ++ [(name, whole)])

end OperatorTable

end Packrat
