import Packrat.Text.Excerpt

/-!
# Errors of grammars

What can be wrong with a grammar, as opposed to a text: it lacks an entry, a rule is unknown or
bound twice, a rule calls itself before consuming anything, a repetition can go on without consuming
anything, or a terminal is malformed. Each error has a message, a code and sometimes a hint.
-/

set_option autoImplicit false
set_option relaxedAutoImplicit false

namespace Packrat

/-- A problem with a grammar. -/
inductive GrammarError where
  /-- There is nothing to parse from. -/
  | missingEntryPoint
  /-- A rule is used but not bound; a similar name may be suggested. -/
  | undefinedRule (name : String) (suggestion : Option String)
  /-- A rule is bound more than once. -/
  | duplicateRule (name : String)
  /-- Rules call one another in a circle before consuming anything; each circle ends with the rule
  with which it starts. -/
  | leftRecursion (cycles : List (List String))
  /-- An unbounded repetition of something that can match nothing. -/
  | nullableRepetition (expression : String)
  /-- A repetition went round without consuming anything. -/
  | zeroWidthIteration (expression : String) (offset : Nat)
  /-- A pattern is malformed. -/
  | invalidRegex (pattern : String)
  /-- A terminal, a repetition or a list is malformed. -/
  | invalidTerminal (what reason : String)
deriving DecidableEq, Repr

namespace GrammarError

def cyclesText (cycles : List (List String)) : String :=
  "; ".intercalate (cycles.map fun cycle ↦ " -> ".intercalate cycle)

def message : GrammarError → String
  | .missingEntryPoint => "Missing entry point"
  | .undefinedRule name none => "Undefined rule: " ++ name
  | .undefinedRule name (some suggestion) =>
    "Undefined rule: " ++ name ++ " (did you mean `" ++ suggestion ++ "`?)"
  | .duplicateRule name => "Rule bound more than once: " ++ name
  | .leftRecursion cycles => "Left recursion detected: " ++ cyclesText cycles
  | .nullableRepetition expression =>
    "Repetition of an expression that can match empty input: " ++ expression
  | .zeroWidthIteration expression offset =>
    "Repetition made no progress at char " ++ toString offset ++ ": " ++ expression
  | .invalidRegex pattern => "Invalid regex " ++ quoteString pattern
  | .invalidTerminal what reason => "Invalid " ++ what ++ ": " ++ reason

def code : GrammarError → String
  | .missingEntryPoint => "grammar::missing_entry_point"
  | .undefinedRule .. => "grammar::undefined_rule"
  | .duplicateRule _ => "grammar::duplicate_rule"
  | .leftRecursion _ => "grammar::left_recursion"
  | .nullableRepetition _ => "grammar::nullable_repetition"
  | .zeroWidthIteration .. => "grammar::zero_width_iteration"
  | .invalidRegex _ => "grammar::invalid_regex"
  | .invalidTerminal .. => "grammar::invalid_terminal"

def hint? : GrammarError → Option String
  | .leftRecursion _ =>
    some "rewrite the rule as a repetition, or use an InfixNotation table"
  | _ => none

end GrammarError

end Packrat
