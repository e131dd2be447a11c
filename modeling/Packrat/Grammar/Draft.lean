import Packrat.Grammar.Compile
import Packrat.Grammar.LeftRecursion
import Packrat.OperatorTable

/-!
# Drafts of grammars

A draft collects rules, an entry and a configuration. Building it binds every rule once, resolves
all uses of rules, compiles everything into one arena, and refuses what could not be evaluated:
unbounded repetitions of something that can match nothing, and left recursion.
-/

set_option autoImplicit false
set_option relaxedAutoImplicit false

namespace Packrat

/-- Where a parse starts. -/
inductive EntryPoint where
  /-- At a rule. -/
  | rule (name : String)
  /-- At an expression. -/
  | expr (expr : Expr)

/-- A grammar before it is built. -/
structure Draft where
  /-- The rules in the order in which they were bound. -/
  rules : List (String × Expr) := []
  /-- Where a parse starts, if not only from rules. -/
  entry : Option EntryPoint := none
  /-- How the grammar is evaluated. -/
  config : Config := {}

namespace Draft

def rule (draft : Draft) (name : String) (body : Expr) : Draft :=
  { draft with rules := draft.rules ++ [(name, body)] }

def operators (draft : Draft) (name : String) (table : OperatorTable) : Build Draft := do
  let rules ← table.rules name
  pure { draft with rules := draft.rules ++ rules }

def entryPoint (draft : Draft) (name : String) : Draft := { draft with entry := some (.rule name) }

def entryExpr (draft : Draft) (expr : Expr) : Draft := { draft with entry := some (.expr expr) }

def withConfig (draft : Draft) (config : Config) : Draft := { draft with config := config }

def ruleNames (draft : Draft) : List String := draft.rules.map Prod.fst

/-- The first name that occurs again after others of the given names. -/
def duplicate? (earlier : List String) : List String → Option String
  | [] => none
  | name :: rest => if name ∈ earlier then some name else duplicate? (name :: earlier) rest

def compileEntry (draft : Draft) : Compile (Option NodeId) :=
  match draft.entry with
  | none => pure none
  | some (.rule name) => do return some (← Compile.call draft.ruleNames name)
  | some (.expr expr) => do
    return some (← Compile.expr draft.ruleNames (.standard draft.config) expr)

/-- The nodes of the rule bodies and of the entry. -/
def compileAll (draft : Draft) : Compile (List NodeId × Option NodeId) := do
  let bodies ←
    Compile.exprs draft.ruleNames (.standard draft.config) (draft.rules.map Prod.snd)
  let entry ← draft.compileEntry
  pure (bodies, entry)

/-- The compiled grammar before the checks on repetitions and left recursion. -/
def compile (draft : Draft) : Except GrammarError Grammar := do
  if draft.entry.isNone && draft.rules.isEmpty then throw .missingEntryPoint
  match duplicate? [] draft.ruleNames with
  | some name => throw (.duplicateRule name)
  | none =>
    let ((bodies, entry), arena) ← draft.compileAll.run {}
    pure { nodes := arena.nodes, ruleNames := draft.ruleNames, ruleBodies := bodies, entry := entry,
           config := draft.config }

def build (draft : Draft) : Except GrammarError Grammar := do
  let grammar ← draft.compile
  let marks := grammar.nullable
  match grammar.nullableRepetition? marks with
  | some what => throw (.nullableRepetition what)
  | none =>
    let cycles := grammar.leftRecursion marks
    if cycles.isEmpty then pure grammar else throw (.leftRecursion cycles)

def describe (draft : Draft) : String :=
  "GrammarBuilder \x7b rules: [" ++ ", ".intercalate (draft.ruleNames.map quoteString) ++
    "], config: " ++ draft.config.describe ++ ", .. \x7d"

end Draft

end Packrat
