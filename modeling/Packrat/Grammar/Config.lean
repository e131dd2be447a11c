import Packrat.Text.CharSet

/-!
# Configuration

How a grammar is evaluated: whether and what is remembered, how much, how deep the evaluation may
go, and which characters are skipped before terminals.
-/

set_option autoImplicit false
set_option relaxedAutoImplicit false

namespace Packrat

/-- Which nodes have their outcomes remembered. -/
inductive MemoScope where
  /-- Every node. -/
  | all
  /-- Rule calls and nodes with actions. -/
  | rules
deriving DecidableEq, Repr

def MemoScope.describe : MemoScope → String
  | .all => "All"
  | .rules => "Rules"

/-- How a grammar is evaluated. -/
structure Config where
  /-- Whether outcomes are remembered. -/
  packrat : Bool := true
  /-- Which outcomes are remembered. -/
  memoScope : MemoScope := .all
  /-- How many outcomes are remembered before they are forgotten together. -/
  maxMemoSize : Nat := 100000
  /-- How deep the evaluation may go. -/
  maxDepth : Nat := 1000
  /-- The characters skipped before terminals. -/
  blanks : CharSet := .blanks
deriving DecidableEq, Repr

namespace Config

/-- The default configuration without remembering anything. -/
def withoutPackrat : Config := { packrat := false }

/-- The set skipped by default; an empty set skips nothing. -/
def skip (config : Config) : Option CharSet :=
  if config.blanks.isEmpty then none else some config.blanks

/-- The configuration as text for programmers. -/
def describe (config : Config) : String :=
  "ParserConfig \x7b enable_packrat: " ++ (if config.packrat then "true" else "false") ++
    ", memo_scope: " ++ config.memoScope.describe ++
    ", max_memo_size: " ++ toString config.maxMemoSize ++
    ", max_depth: " ++ toString config.maxDepth ++
    ", whitespace: CharSet[" ++ config.blanks.describe ++ "] \x7d"

end Config

end Packrat
