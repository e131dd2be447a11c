import Packrat.Expr.Display
import Packrat.Grammar.Error
import Packrat.Grammar.Node
import Packrat.Report.Suggestion
import Std.Data.HashMap

/-!
# From expressions to nodes

Expressions are compiled into an arena, children before the nodes that use them. What an expression
becomes depends on its identity and on the characters skipped around it, so an expression that is
used several times is compiled once for each surrounding set of skipped characters. Such sets are
told apart by where they come from: the expression that set them, the grammar's default, or nowhere.
All uses of a rule share one call node.
-/

set_option autoImplicit false
set_option relaxedAutoImplicit false

namespace Packrat

/-- Where a set of skipped characters comes from. -/
inductive SkipSource where
  /-- Nothing is skipped. -/
  | nowhere
  /-- The default of the grammar. -/
  | standard
  /-- The override with the given identity. -/
  | override (identity : Nat)
deriving DecidableEq, Hashable, Repr

/-- The characters skipped around an expression, and where they come from. -/
structure Surrounding where
  /-- Where the set comes from. -/
  source : SkipSource
  /-- The set. -/
  skip : Option CharSet
deriving DecidableEq, Repr

namespace Surrounding

/-- Nothing is skipped. -/
def bare : Surrounding := ⟨.nowhere, none⟩

/-- The default of a configuration. -/
def standard (config : Config) : Surrounding :=
  match config.skip with
  | none => bare
  | some set => ⟨.standard, some set⟩

/-- What an override puts in place; an empty set skips nothing. -/
def override (identity : Nat) (set : Option CharSet) : Surrounding :=
  match set with
  | none => bare
  | some set => if set.isEmpty then bare else ⟨.override identity, some set⟩

end Surrounding

/-- What has been compiled so far. -/
structure Arena where
  /-- The nodes. -/
  nodes : Array Node := #[]
  /-- The nodes of the expressions compiled so far, by identity and source of skipped characters. -/
  compiled : Std.HashMap (Nat × SkipSource) NodeId := {}
  /-- The call nodes of the rules used so far. -/
  calls : Std.HashMap Nat NodeId := {}

/-- Computations that compile into an arena. -/
abbrev Compile := StateT Arena (Except GrammarError)

namespace Compile

def push (node : Node) : Compile NodeId :=
  modifyGet fun arena ↦ (arena.nodes.size, { arena with nodes := arena.nodes.push node })

def invalid {α : Type} (what reason : String) : Compile α := throw (.invalidTerminal what reason)

/-- The error of a rule that is used but not bound. -/
def undefinedRule (ruleNames : List String) (name : String) : GrammarError :=
  .undefinedRule name (suggest? name ruleNames)

def call (ruleNames : List String) (name : String) : Compile NodeId := do
  match ruleNames.idxOf? name with
  | none => throw (undefinedRule ruleNames name)
  | some rule =>
    match (← get).calls[rule]? with
    | some id => pure id
    | none =>
      let id ← push (.call rule)
      modify fun arena ↦ { arena with calls := arena.calls.insert rule id }
      pure id

def fault? : Terminal → Option (String × String)
  | .keyword content _ _ =>
    if content = "" then some ("keyword", "keyword text is empty") else none
  | .word form =>
    if form.initial.isEmpty then some ("word", "no initial characters")
    else if form.least = 0 then some ("word", "minimum length must be at least 1")
    else if form.most.any (· < form.least) then
      some ("word", "maximum length is below the minimum")
    else none
  | .oneOf options _ => if options.list.isEmpty then some ("one_of", "no options given") else none
  | .quoted form =>
    if form.opening.isEmpty || form.closing.isEmpty then
      some ("quoted string", "quote string is empty")
    else none
  | .literal .. => none
  | .numeral _ => none

/-- The node of a terminal; an empty string becomes the empty node. -/
def terminalNode (terminal : Terminal) (skip : Option CharSet) (expected : String) :
    Except GrammarError Node :=
  if terminal = .literal "" true ∨ terminal = .literal "" false then .ok .empty
  else
    match fault? terminal with
    | some (what, reason) => .error (.invalidTerminal what reason)
    | none => .ok (.terminal terminal skip expected)

/-- The pattern that is searched for a regular expression: the given one as a group after the start
of the text. -/
def anchored (pattern : String) : List Char :=
  ['\\', 'A', '(', '?', ':'] ++ pattern.toList ++ [')']

def regexNode (engine : RegexEngine) (pattern : String) (skip : Option CharSet)
    (expected : String) : Except GrammarError Node :=
  match engine.compile? (anchored pattern) with
  | some regex => .ok (.regex regex skip expected)
  | none => .error (.invalidRegex pattern)

/-- Refuses bounds of which the upper one is below the lower one. -/
def checkBounds (what : String) (least : Nat) (most : Option Nat) : Compile Unit :=
  if most.any (· < least) then invalid what "maximum count is below the minimum" else pure ()

mutual

/-- The node of an expression with the given surroundings. -/
def expr (ruleNames : List String) (around : Surrounding) : Expr → Compile NodeId
  | ⟨identity, shape⟩ => do
    match (← get).compiled[(identity, around.source)]? with
    | some id => pure id
    | none =>
      let id ← lower ruleNames around identity shape
      modify fun arena ↦
        { arena with compiled := arena.compiled.insert (identity, around.source) id }
      pure id

/-- Compiles a shape whose expression has the given identity. -/
def lower (ruleNames : List String) (around : Surrounding) (identity : Nat) :
    Shape → Compile NodeId
  | .empty => push .empty
  | .textEnd => push (.textEnd around.skip)
  | .terminal terminal => do
    push (← terminalNode terminal around.skip ("Expected " ++ terminal.describe))
  | .regex engine pattern => do
    push (← regexNode engine pattern around.skip
      ("Expected " ++ (Shape.regex engine pattern).display))
  | .sequence parts commit => do
    push (.sequence (← exprs ruleNames around parts) commit)
  | .choice alternatives => do push (.choice (← exprs ruleNames around alternatives))
  | .optional child default => do push (.optional (← expr ruleNames around child) default)
  | .repetition child least most => do
    checkBounds "repetition" least most
    push (.repetition (← expr ruleNames around child) least most
      (Shape.repetition child least most).display)
  | .delimited item separator form => do
    checkBounds "delimited list" form.least form.most
    push (.delimited (← expr ruleNames around item) (← expr ruleNames around separator) form
      (Shape.delimited item separator form).display)
  | .lookahead child negative => do
    push (.lookahead (← expr ruleNames around child) negative
      ("Found unwanted token, " ++ child.display))
  | .suppress child => do push (.suppress (← expr ruleNames around child))
  | .group child => do push (.group (← expr ruleNames around child))
  | .combine child joiner => do
    push (.combine (← expr ruleNames .bare child) joiner around.skip)
  | .rule name => call ruleNames name
  | .named child name accumulate => do
    push (.named (← expr ruleNames around child) name accumulate)
  | .action child actions => do
    push (.action (← expr ruleNames around child) actions around.skip)
  | .labeled child label => do
    push (.labeled (← expr ruleNames around child) around.skip ("Expected " ++ label))
  | .blanks child set => expr ruleNames (.override identity set) child

def exprs (ruleNames : List String) (around : Surrounding) : List Expr → Compile (List NodeId)
  | [] => pure []
  | first :: rest => do
    let id ← expr ruleNames around first
    let ids ← exprs ruleNames around rest
    pure (id :: ids)

end

end Compile

end Packrat
