import Packrat.Proofs.Matching.Events
import Packrat.Proofs.Matching.Room

/-!
# The engine without memory

An engine that remembers nothing does what the trace says: its outcome is the outcome of the trace,
the furthest failure is the furthest one among the events, and the actions that it runs are those of
the trace, in order (`Grammar.performs_evaluate`). Only the counters are its own.
-/

set_option autoImplicit false
set_option relaxedAutoImplicit false

namespace Packrat

open MatchMonad

variable {α β : Type}

/-! ### The operations of the engine -/

namespace Engine

theorem bind_of_ok {engine : Engine α} {value : α} {state after : EngineState}
    (hrun : engine state = (.ok value, after)) (next : α → Engine β) :
    (engine >>= next) state = next value after := by
  simp only [bind, hrun]

theorem bind_of_error {engine : Engine α} {halt : Halt} {state after : EngineState}
    (hrun : engine state = (.error halt, after)) (next : α → Engine β) :
    (engine >>= next) state = (.error halt, after) := by
  simp only [bind, hrun]

theorem attempt_of_ok {engine : Engine α} {value : α} {state after : EngineState}
    (hrun : engine state = (.ok value, after)) :
    (attempt engine : Engine _) state = (.ok (.ok value), after) := by
  simp only [attempt, hrun]

theorem attempt_of_failure {engine : Engine α} {failure : Failure} {state after : EngineState}
    (hrun : engine state = (.error (.failure failure), after)) :
    (attempt engine : Engine _) state = (.ok (.error failure), after) := by
  simp only [attempt, hrun]

theorem attempt_of_error {engine : Engine α} {error : ParseError} {state after : EngineState}
    (hrun : engine state = (.error (.error error), after)) :
    (attempt engine : Engine _) state = (.error (.error error), after) := by
  simp only [attempt, hrun]

theorem shield_apply (engine : Engine α) (state : EngineState) :
    (shield engine : Engine _) state =
      ((engine state).1, { (engine state).2 with furthest := state.furthest }) := rfl

end Engine

/-! ### Doing what a trace says -/

/-- The state after some events, with the given counters. -/
def EngineState.after (state : EngineState) (events : List Event) (counters : Counters) :
    EngineState :=
  { state with
    counters := counters
    furthest := furthestAfter state.furthest events
    invocations := state.invocations ++ (runsOf events).toArray }

theorem EngineState.after_after (state : EngineState) (first second : List Event)
    (counters others : Counters) :
    (state.after first counters).after second others = state.after (first ++ second) others := by
  simp only [after, furthestAfter_append, runsOf_append, Array.append_assoc,
    List.append_toArray]

/-- The engine does what a trace says, in every state. -/
def Performs (engine : Engine α) (trace : Trace α) (property : α → Prop) : Prop :=
  (∀ state : EngineState, ∃ counters,
    engine state = (trace.outcome, state.after trace.events counters)) ∧ trace.Gives property

/-- An evaluation without events leaves everything as it was. -/
theorem performs_of_silent {engine : Engine α} {outcome : Except Halt α} {property : α → Prop}
    (hrun : ∀ state, engine state = (outcome, state))
    (hgives : Trace.Gives ⟨outcome, []⟩ property) : Performs engine ⟨outcome, []⟩ property := by
  refine ⟨fun state ↦ ⟨state.counters, ?_⟩, hgives⟩
  simp only [hrun, EngineState.after, furthestAfter_nil, runsOf_nil, Array.append_empty]

/-- The operations keep the engine with its trace. -/
def performance : Correspondence Engine Trace where
  Holds := Performs
  Allows _ := True
  holds_mono hholds himp := ⟨hholds.1, hholds.2.mono himp⟩
  holds_pure value hvalue := performs_of_silent (fun _ ↦ rfl) (Trace.gives_pure value hvalue)
  holds_bind {α β first second next next' property goal} hfirst hnext := by
    obtain ⟨hrun, hgives⟩ := hfirst
    refine ⟨fun state ↦ ?_, hgives.bind fun value hvalue ↦ (hnext value hvalue).2⟩
    obtain ⟨counters, hstate⟩ := hrun state
    cases houtcome : second.outcome with
    | error halt =>
      rw [houtcome] at hstate
      rw [Trace.bind_of_error houtcome]
      exact ⟨counters, Engine.bind_of_error hstate next⟩
    | ok value =>
      obtain ⟨others, hrest⟩ := (hnext value (hgives value houtcome)).1
        (state.after second.events counters)
      rw [houtcome] at hstate
      rw [Trace.bind_of_ok houtcome]
      refine ⟨others, ?_⟩
      rw [Engine.bind_of_ok hstate, hrest, EngineState.after_after]
  holds_failure failure := performs_of_silent (fun _ ↦ rfl) (Trace.gives_halt _ _)
  holds_error error _ := performs_of_silent (fun _ ↦ rfl) (Trace.gives_halt _ _)
  holds_attempt {α first second property} hholds := by
    refine ⟨fun state ↦ ?_, hholds.2.attempt⟩
    obtain ⟨counters, hstate⟩ := hholds.1 state
    match houtcome : second.outcome with
    | .ok value =>
      rw [houtcome] at hstate
      rw [Trace.attempt_of_ok houtcome]
      exact ⟨counters, Engine.attempt_of_ok hstate⟩
    | .error (.failure failure) =>
      rw [houtcome] at hstate
      rw [Trace.attempt_of_failure houtcome]
      exact ⟨counters, Engine.attempt_of_failure hstate⟩
    | .error (.error error) =>
      rw [houtcome] at hstate
      rw [Trace.attempt_of_error houtcome]
      exact ⟨counters, Engine.attempt_of_error hstate⟩
  holds_record failure := by
    refine ⟨fun state ↦ ⟨state.counters, ?_⟩, fun _ _ ↦ True.intro⟩
    change (Except.ok (), { state with furthest := Failure.further state.furthest failure }) =
      (Except.ok (), state.after [.failed failure] state.counters)
    have hruns : runsOf [Event.failed failure] = [] := rfl
    rw [EngineState.after, hruns, Array.append_empty]
    rfl
  holds_shield {α first second property} hholds := by
    refine ⟨fun state ↦ ?_, hholds.2⟩
    obtain ⟨counters, hstate⟩ := hholds.1 state
    refine ⟨counters, ?_⟩
    change _ = (second.outcome, state.after (second.events.filter _) counters)
    rw [Engine.shield_apply, hstate]
    simp only [EngineState.after, furthestAfter_filter, runsOf_filter]

/-- Runs of actions are noted by the engine as they are in the trace. -/
theorem performs_invoke (invocation : Invocation) :
    Performs (invoke invocation) (invoke invocation) fun _ ↦ True := by
  refine ⟨fun state ↦ ⟨state.counters, ?_⟩, fun _ _ ↦ True.intro⟩
  change (Except.ok (), { state with invocations := state.invocations.push invocation }) =
    (Except.ok (), state.after [.invoked invocation] state.counters)
  rw [Array.push_eq_append]
  rfl

namespace Grammar

/-- Without memory every layer of the engine only counts. -/
theorem layer_of_not_packrat {grammar : Grammar} (hplain : grammar.config.packrat = false)
    (id : NodeId) (offset : Nat) (evaluation : Engine Match) :
    grammar.layer id offset evaluation = Engine.counted evaluation := by
  simp [layer, remembers, hplain]

/-- Without memory the engine does what the trace says. -/
theorem performs_evaluate {grammar : Grammar} (hplain : grammar.config.packrat = false)
    (text : Text) (room : Nat) : ∀ (id : NodeId) (offset : Nat),
      Performs (grammar.evaluate text room id offset) (grammar.trace text room id offset)
        fun _ ↦ True := by
  induction room with
  | zero => exact fun id offset ↦ performance.holds_error _ True.intro
  | succ room ih =>
    intro id offset
    have hmeets : performance.Meets .trivial (grammar.evaluate text room)
        (grammar.trace text room) := ⟨fun id offset _ ↦ ih id offset, fun _ _ ↦ True.intro⟩
    have hnode : Performs
        ((grammar.node id).matcher grammar text (grammar.evaluate text room) id offset)
        ((grammar.node id).matcher grammar text (grammar.trace text room) id offset) fun _ ↦ True :=
      hmeets.holds_matcher_of_invoke performs_invoke (Node.demands_trivial grammar text offset _)
    refine ⟨fun state ↦ ?_, fun _ _ ↦ True.intro⟩
    change ∃ counters, grammar.layer id offset _ state = _
    rw [layer_of_not_packrat hplain]
    obtain ⟨counters, hrun⟩ := hnode.1 { state with
      counters := { state.counters with evaluations := state.counters.evaluations + 1 } }
    exact ⟨counters, hrun⟩

end Grammar

end Packrat
