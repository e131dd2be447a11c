import Packrat.Matching.Evaluation

/-!
# Traces

A trace is what an evaluation amounts to when nothing is remembered: its outcome, and in order
everything that it recorded and every action that it ran. Traces are the meaning of grammars,
against which other ways of evaluating are measured.
-/

set_option autoImplicit false
set_option relaxedAutoImplicit false

namespace Packrat

/-- Something that happens during an evaluation. -/
inductive Event where
  /-- A failure is recorded. -/
  | failed (failure : Failure)
  /-- An action runs. -/
  | invoked (invocation : Invocation)

def Event.failure? : Event → Option Failure
  | .failed failure => some failure
  | .invoked _ => none

def Event.invocation? : Event → Option Invocation
  | .failed _ => none
  | .invoked invocation => some invocation

/-- An outcome and the events before it. -/
structure Trace (α : Type) where
  /-- How the evaluation ends. -/
  outcome : Except Halt α
  /-- What happens on the way, in order. -/
  events : List Event

namespace Trace

def ofValue {α : Type} (value : α) : Trace α := ⟨.ok value, []⟩

/-- One evaluation after another; a halt ends it. -/
def andThen {α β : Type} (first : Trace α) (next : α → Trace β) : Trace β :=
  match first.outcome with
  | .ok value => ⟨(next value).outcome, first.events ++ (next value).events⟩
  | .error halt => ⟨.error halt, first.events⟩

instance : MatchMonad Trace where
  pure := ofValue
  bind := andThen
  halt reason := ⟨.error reason, []⟩
  attempt trace :=
    match trace.outcome with
    | .ok value => ⟨.ok (.ok value), trace.events⟩
    | .error (.failure failure) => ⟨.ok (.error failure), trace.events⟩
    | .error (.error error) => ⟨.error (.error error), trace.events⟩
  record failure := ⟨.ok (), [.failed failure]⟩
  shield trace := { trace with events := trace.events.filter fun event ↦ event.failure?.isNone }
  invoke invocation := ⟨.ok (), [.invoked invocation]⟩

def failures {α : Type} (trace : Trace α) : List Failure := trace.events.filterMap Event.failure?

def invocations {α : Type} (trace : Trace α) : List Invocation :=
  trace.events.filterMap Event.invocation?

/-- The furthest failure recorded; of several at one offset the first. -/
def furthest {α : Type} (trace : Trace α) : Option Failure :=
  trace.failures.foldl Failure.further none

end Trace

def Grammar.trace (grammar : Grammar) (text : Text) (room : Nat) (id : NodeId) (offset : Nat) :
    Trace Match :=
  grammar.evaluateWith text (fun _ _ evaluation ↦ evaluation) room id offset

end Packrat
