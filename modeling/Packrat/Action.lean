import Packrat.Decimal.Reading
import Packrat.Results.Basic
import Packrat.Text.Basic
import Packrat.Text.Excerpt

/-!
# Actions

An action runs after its expression has matched. It sees the place of the match and its results, and
keeps them, replaces them, or rejects the match. Actions are functions of what they see; which of
them ran, and on what, is recorded beside the match (`Invocation`).
-/

set_option autoImplicit false
set_option relaxedAutoImplicit false

namespace Packrat

/-- Where a match stands. -/
structure Context where
  /-- The whole text. -/
  text : Text
  /-- Where the match starts, after leading blanks. -/
  start : Nat
  /-- Where the match ends. -/
  stop : Nat

/-- The text of the match. -/
def Context.matched (context : Context) : List Char := context.text.slice context.start context.stop

/-- What an action decided. -/
inductive Verdict where
  /-- The results stay as they are. -/
  | keep
  /-- The results are replaced. -/
  | replace (results : Results)
  /-- The match is rejected. -/
  | reject (message : String)

/-- What an action does. -/
inductive Effect where
  /-- Decides from the place of the match and its results. -/
  | transform (decide : Context → Results → Verdict)
  /-- Accepts the match when a test holds; a fatal rejection stops the whole parse. -/
  | condition (test : Results → Bool) (message : String) (fatal : Bool)

/-- A function attached to an expression, with a label by which its invocations can be told from
those of others. -/
structure Action where
  /-- The label. -/
  label : Option String
  /-- What the action does. -/
  effect : Effect

/-- One run of an action. -/
structure Invocation where
  /-- The node to which the action belongs. -/
  node : Nat
  /-- The place of the action among those of its node. -/
  index : Nat
  /-- The offset at which the node was evaluated. -/
  offset : Nat
  /-- The action. -/
  action : Action
  /-- What the action saw of the text. -/
  context : Context
  /-- The results that the action saw. -/
  results : Results

namespace Action

/-- An action that decides from the place of the match and its results. -/
def transform (decide : Context → Results → Verdict) : Action :=
  ⟨none, .transform decide⟩

def withLabel (action : Action) (label : Option String) : Action := { action with label }

def map (f : Results → Results) : Action :=
  transform fun _ results ↦ .replace (f results)

/-- An action that replaces the results or rejects the match with a message. -/
def tryMap (f : Results → Except String Results) : Action :=
  transform fun _ results ↦
    match f results with
    | .ok replaced => .replace replaced
    | .error message => .reject message

/-- An action that converts every token and drops the names. -/
def mapTokens (f : Token → Token) : Action :=
  map fun results ↦ .ofTokens (results.tokens.map f)

/-- An action that accepts a match only when a test holds, with a message of its own. -/
def conditionWith (test : Results → Bool) (message : String) (fatal : Bool) : Action :=
  ⟨none, .condition test message fatal⟩

/-- An action that accepts a match only when a test holds. -/
def condition (test : Results → Bool) : Action :=
  conditionWith test "failed user-defined condition" false

/-- Runs an action: what it decided, and whether a rejection is fatal. -/
def apply (action : Action) (context : Context) (results : Results) : Verdict × Bool :=
  match action.effect with
  | .transform decide => (decide context results, false)
  | .condition test message fatal => if test results then (.keep, false)
      else (.reject message, fatal)

/-- Reads the text of the first token as a whole number. -/
def toInteger : Action :=
  tryMap fun results ↦
    match results.tokens with
    | [] => .error "expected a token"
    | token :: _ =>
      match readInteger token.text with
      | .ok number => .ok (.ofToken (.int number))
      | .error reason =>
        .error ("invalid integer " ++ String.ofList (quote token.text) ++ ": " ++ reason.message)

def describe (action : Action) : String :=
  match action.effect with
  | .transform _ => "ParseAction::Transform"
  | .condition _ message fatal =>
    "ParseAction::Condition \x7b message: " ++ quoteString message ++ ", fatal: " ++
      (if fatal then "true" else "false") ++ " \x7d"

end Action

end Packrat
