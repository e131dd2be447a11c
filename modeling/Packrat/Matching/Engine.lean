import Packrat.Matching.Evaluation
import Packrat.Matching.Memo

/-!
# The engine

The engine evaluates nodes and remembers their outcomes. Of the failures recorded it keeps only the
furthest one. When an outcome is remembered together with the furthest failure on the way to it,
that failure is recorded again, so that a parse reports the same failure whether or not anything was
remembered.
-/

set_option autoImplicit false
set_option relaxedAutoImplicit false

namespace Packrat

/-- The state of the engine. -/
structure EngineState where
  /-- What is remembered. -/
  memo : Memo := {}
  /-- What has been counted. -/
  counters : Counters := {}
  /-- The furthest failure recorded. -/
  furthest : Option Failure := none
  /-- The runs of actions, in order. -/
  invocations : Array Invocation := #[]

namespace EngineState

/-- Remembers an outcome: for good if it is pinned, and otherwise after forgetting the others when
there are too many. -/
def remember (state : EngineState) (capacity : Nat) (pinned : Bool) (id : NodeId)
    (offset : Nat) (found : Remembered) : EngineState :=
  if pinned then { state with memo := state.memo.pin id offset found }
  else if state.memo.isFull capacity then
    { state with
      memo := state.memo.forget.store id offset found
      counters := { state.counters with evictions := state.counters.evictions + 1 } }
  else { state with memo := state.memo.store id offset found }

/-- Records the furthest failure of an evaluation, if there is one. -/
def recordAll (state : EngineState) (failure : Option Failure) : EngineState :=
  match failure with
  | none => state
  | some failure => { state with furthest := Failure.further state.furthest failure }

end EngineState

/-- Evaluations by the engine. -/
def Engine (α : Type) := EngineState → Except Halt α × EngineState

namespace Engine

@[always_inline, inline]
instance : MatchMonad Engine where
  pure value := fun state ↦ (.ok value, state)
  bind first next := fun state ↦
    match first state with
    | (.ok value, state) => next value state
    | (.error halt, state) => (.error halt, state)
  halt reason := fun state ↦ (.error reason, state)
  attempt evaluation := fun state ↦
    match evaluation state with
    | (.ok value, state) => (.ok (.ok value), state)
    | (.error (.failure failure), state) => (.ok (.error failure), state)
    | (.error (.error error), state) => (.error (.error error), state)
  record failure := fun state ↦
    (.ok (), { state with furthest := Failure.further state.furthest failure })
  shield evaluation := fun state ↦
    let held := state.furthest
    let (outcome, state) := evaluation state
    (outcome, { state with furthest := held })
  invoke invocation := fun state ↦
    (.ok (), { state with invocations := state.invocations.push invocation })

def counted (evaluation : Engine Match) : Engine Match := fun state ↦
  evaluation { state with
    counters := { state.counters with evaluations := state.counters.evaluations + 1 } }

/-- Gives the outcome that is remembered, and counts a hit. -/
def replay (found : Remembered) : Engine Match := fun state ↦
  let counted :=
    { state with counters := { state.counters with hits := state.counters.hits + 1 } }
  (found.outcome.mapError .failure, counted.recordAll found.furthest)

/-- Evaluates and remembers the outcome unless it is an error, and counts a miss. -/
def learn (capacity : Nat) (pinned : Bool) (id : NodeId) (offset : Nat)
    (evaluation : Engine Match) : Engine Match := fun state ↦
  let held := state.furthest
  let (outcome, state) := evaluation
    { state with
      furthest := none
      counters := { state.counters with misses := state.counters.misses + 1 } }
  let reached := state.furthest
  let state := { state with furthest := held }
  let state :=
    match outcome with
    | .ok found => state.remember capacity pinned id offset ⟨.ok found, reached⟩
    | .error (.failure failure) =>
      state.remember capacity pinned id offset ⟨.error failure, reached⟩
    | .error (.error _) => state
  (outcome, state.recordAll reached)

def memoized (capacity : Nat) (pinned : Bool) (id : NodeId) (offset : Nat)
    (evaluation : Engine Match) : Engine Match := fun state ↦
  match state.memo.find? id offset with
  | some found => replay found state
  | none => learn capacity pinned id offset evaluation state

end Engine

namespace Grammar

/-- Whether the outcomes of a node are remembered. -/
def remembers (grammar : Grammar) (node : Node) : Bool :=
  grammar.config.packrat &&
    (grammar.config.memoScope == .all || node.isCall || node.isAction)

def layer (grammar : Grammar) (id : NodeId) (offset : Nat) (evaluation : Engine Match) :
    Engine Match :=
  let node := grammar.node id
  if grammar.remembers node then
    Engine.memoized grammar.config.maxMemoSize node.isAction id offset (Engine.counted evaluation)
  else Engine.counted evaluation

/-- Evaluates a node at an offset with the engine. -/
def evaluate (grammar : Grammar) (text : Text) (room : Nat) (id : NodeId) (offset : Nat) :
    Engine Match :=
  grammar.evaluateWith text grammar.layer room id offset

end Grammar

end Packrat
