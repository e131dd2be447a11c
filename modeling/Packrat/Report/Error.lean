import Packrat.Grammar.Error
import Packrat.Report.Failure

/-!
# Errors of parses

Everything that can keep a parse from having results: the text does not match, the grammar is
broken, the evaluation went too deep, or it goes round for ever. The last one is no error that
anybody is ever told. It stands for a parse that does not return, and like an error nothing catches
it, so that a call that would wait for ever has an outcome of its own.
-/

set_option autoImplicit false
set_option relaxedAutoImplicit false

namespace Packrat

/-- Why a parse has no results. -/
inductive ParseError where
  /-- The text does not match. -/
  | mismatch (report : FailureReport)
  /-- The grammar is broken. -/
  | grammar (error : GrammarError)
  /-- The evaluation at an offset went deeper than the limit. -/
  | recursionLimit (offset limit : Nat)
  /-- The evaluation never comes to an end, so that no answer is given. -/
  | endless
deriving DecidableEq, Repr

namespace ParseError

def message : ParseError → String
  | .mismatch report => report.render
  | .grammar error => "grammar error: " ++ error.message
  | .recursionLimit offset limit =>
    "recursion limit of " ++ toString limit ++ " exceeded at char " ++ toString offset
  | .endless => ""

def code : ParseError → String
  | .mismatch _ => "parse::syntax"
  | .grammar error => error.code
  | .recursionLimit .. => "parse::recursion_limit"
  | .endless => ""

def hint? : ParseError → Option String
  | .mismatch _ => none
  | .grammar error => error.hint?
  | .recursionLimit .. => some "raise `ParserConfig::max_depth` or restructure the grammar"
  | .endless => none

def isMismatch : ParseError → Bool
  | .mismatch _ => true
  | _ => false

end ParseError

end Packrat
