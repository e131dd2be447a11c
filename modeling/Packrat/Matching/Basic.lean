import Packrat.Action
import Packrat.Report.Error

/-!
# What an evaluation can do

An evaluation either matches, or halts: with a failure, over which callers may go back unless it is
fatal, or with an error that ends the whole parse. On the way it records failures, so that the one
furthest into the text can be reported, and runs actions. `MatchMonad` is the interface of such
evaluations; what a grammar means is written against it once, and read in several ways.
-/

set_option autoImplicit false
set_option relaxedAutoImplicit false

namespace Packrat

/-- A match: where it ends and what it yields. -/
structure Match where
  /-- Where the match ends. -/
  stop : Nat
  /-- The results. -/
  results : Results

def Match.nothing (offset : Nat) : Match := ⟨offset, .empty⟩

def Match.append (first second : Match) : Match :=
  ⟨second.stop, first.results.extend second.results⟩

/-- A failure to match. -/
structure Failure where
  /-- Where the failure is. -/
  offset : Nat
  /-- What was expected there. -/
  message : String
  /-- Whether callers may not go back over it. -/
  fatal : Bool
deriving DecidableEq, Repr

namespace Failure

/-- A failure over which callers may go back. -/
def ordinary (offset : Nat) (message : String) : Failure := ⟨offset, message, false⟩

/-- The same failure, over which callers may not go back. -/
def asFatal (failure : Failure) : Failure := { failure with fatal := true }

/-- Of two failures the one further into the text; of two at one offset the earlier one. -/
def further (held : Option Failure) (failure : Failure) : Option Failure :=
  match held with
  | none => some failure
  | some earlier => if earlier.offset < failure.offset then some failure else some earlier

end Failure

/-- Why an evaluation has no match. -/
inductive Halt where
  /-- The text does not match here. -/
  | failure (failure : Failure)
  /-- The parse as a whole cannot go on. -/
  | error (error : ParseError)
deriving DecidableEq, Repr

/-- Evaluations: computations that may halt, record failures and run actions. -/
class MatchMonad (m : Type → Type) extends Monad m where
  /-- Halts. -/
  halt {α : Type} : Halt → m α
  /-- Turns a failure into a value; errors stay what they are. -/
  attempt {α : Type} : m α → m (Except Failure α)
  /-- Records a failure. -/
  record : Failure → m Unit
  /-- Runs an evaluation without keeping the failures that it records. -/
  shield {α : Type} : m α → m α
  /-- Notes that an action runs. -/
  invoke : Invocation → m Unit

namespace MatchMonad

variable {m : Type → Type} [MatchMonad m]

def fail {α : Type} (failure : Failure) : m α := do
  record failure
  halt (.failure failure)

/-- Turns an ordinary failure into a value; fatal failures and errors stay what they are. -/
@[specialize] def backtrack {α : Type} (evaluation : m α) : m (Except Failure α) := do
  match ← attempt evaluation with
  | .ok value => pure (.ok value)
  | .error failure => if failure.fatal then halt (.failure failure) else pure (.error failure)

/-- Makes every failure of an evaluation fatal. -/
@[specialize] def commit {α : Type} (evaluation : m α) : m α := do
  match ← attempt evaluation with
  | .ok value => pure value
  | .error failure => halt (.failure failure.asFatal)

end MatchMonad

end Packrat
