import Mathlib.Data.Nat.Init
import Mathlib.Order.Nat
import Packrat.Matching.Trace
import Packrat.Proofs.Matching.Correspondence

/-!
# Traces and the room that they are given

An evaluation that goes deeper than its room is stopped, and the stop is an error that nothing
catches. A trace that was not stopped is therefore the same for every greater room
(`Grammar.trace_eq_of_le`): the trace of a node at an offset is a matter of the grammar and the text
alone, and the room only decides whether it is reached.
-/

set_option autoImplicit false
set_option relaxedAutoImplicit false

namespace Packrat

/-- The limit on the depth of evaluations brought an outcome about. -/
def IsLimited {α : Type} : Except Halt α → Prop
  | .error (.error (.recursionLimit _ _)) => True
  | _ => False

instance {α : Type} (outcome : Except Halt α) : Decidable (IsLimited outcome) :=
  match outcome with
  | .ok _ => isFalse id
  | .error (.failure _) => isFalse id
  | .error (.error (.mismatch _)) => isFalse id
  | .error (.error (.grammar _)) => isFalse id
  | .error (.error (.recursionLimit _ _)) => isTrue True.intro
  | .error (.error .endless) => isFalse id

@[simp] theorem not_isLimited_ok {α : Type} (value : α) :
    ¬ IsLimited (.ok value : Except Halt α) := id

@[simp] theorem not_isLimited_failure {α : Type} (failure : Failure) :
    ¬ IsLimited (.error (.failure failure) : Except Halt α) := id

/-- Whether an outcome is limited does not depend on the type of the values that it could have
had. -/
theorem isLimited_error_iff {α β : Type} (halt : Halt) :
    IsLimited (.error halt : Except Halt α) ↔ IsLimited (.error halt : Except Halt β) := by
  cases halt with
  | failure failure => rfl
  | error error => cases error <;> rfl

namespace Trace

open MatchMonad

variable {α β : Type}

/-! ### The operations of traces -/

theorem bind_of_ok {trace : Trace α} {value : α} (hvalue : trace.outcome = .ok value)
    (next : α → Trace β) :
    (trace >>= next) = ⟨(next value).outcome, trace.events ++ (next value).events⟩ := by
  change andThen trace next = _
  simp only [andThen, hvalue]

theorem bind_of_error {trace : Trace α} {halt : Halt} (hhalt : trace.outcome = .error halt)
    (next : α → Trace β) : (trace >>= next) = ⟨.error halt, trace.events⟩ := by
  change andThen trace next = _
  simp only [andThen, hhalt]

theorem attempt_of_ok {trace : Trace α} {value : α} (hvalue : trace.outcome = .ok value) :
    attempt trace = ⟨.ok (.ok value), trace.events⟩ := by
  simp only [attempt, hvalue]

theorem attempt_of_failure {trace : Trace α} {failure : Failure}
    (hfailure : trace.outcome = .error (.failure failure)) :
    attempt trace = ⟨.ok (.error failure), trace.events⟩ := by
  simp only [attempt, hfailure]

theorem attempt_of_error {trace : Trace α} {error : ParseError}
    (herror : trace.outcome = .error (.error error)) :
    attempt trace = ⟨.error (.error error), trace.events⟩ := by
  simp only [attempt, herror]

/-- The value of a trace, if it has one, has a property. -/
def Gives (trace : Trace α) (property : α → Prop) : Prop :=
  ∀ value, trace.outcome = .ok value → property value

theorem Gives.mono {trace : Trace α} {strong weak : α → Prop} (hgives : trace.Gives strong)
    (himp : ∀ value, strong value → weak value) : trace.Gives weak :=
  fun value hok ↦ himp value (hgives value hok)

theorem gives_pure {property : α → Prop} (value : α) (hvalue : property value) :
    (pure value : Trace α).Gives property :=
  fun _ hok ↦ Except.ok.inj hok ▸ hvalue

theorem gives_halt (halt : Halt) (property : α → Prop) :
    (MatchMonad.halt halt : Trace α).Gives property :=
  fun _ hok ↦ nomatch hok

/-- The value of one evaluation after another is the value of the second. -/
theorem Gives.bind {trace : Trace α} {next : α → Trace β} {property : α → Prop} {goal : β → Prop}
    (hgives : trace.Gives property) (hnext : ∀ value, property value → (next value).Gives goal) :
    (trace >>= next).Gives goal := by
  intro result hresult
  cases houtcome : trace.outcome with
  | error halt =>
    rw [bind_of_error houtcome] at hresult
    cases hresult
  | ok value =>
    rw [bind_of_ok houtcome] at hresult
    exact hnext value (hgives value houtcome) result hresult

/-- The value of an attempt, unless it is a failure, is the value of the evaluation. -/
theorem Gives.attempt {trace : Trace α} {property : α → Prop} (hgives : trace.Gives property) :
    (MatchMonad.attempt trace).Gives fun result ↦ ∀ value, result = .ok value → property value := by
  rintro result hresult value rfl
  match houtcome : trace.outcome with
  | .ok other =>
    rw [attempt_of_ok houtcome] at hresult
    cases hresult
    exact hgives value houtcome
  | .error (.failure failure) =>
    rw [attempt_of_failure houtcome] at hresult
    cases hresult
  | .error (.error error) =>
    rw [attempt_of_error houtcome] at hresult
    cases hresult

/-! ### Traces that were stopped -/

/-- A trace was stopped by the limit on its depth. -/
def Limited (trace : Trace α) : Prop := IsLimited trace.outcome

/-- An evaluation whose first part was stopped was stopped. -/
theorem Limited.bind {trace : Trace α} (hlimited : trace.Limited) (next : α → Trace β) :
    (trace >>= next).Limited := by
  cases houtcome : trace.outcome with
  | ok value => simp [Limited, houtcome] at hlimited
  | error halt =>
    rw [bind_of_error houtcome]
    rw [Limited, houtcome] at hlimited
    exact (isLimited_error_iff halt).mp hlimited

/-- An attempt at an evaluation that was stopped was stopped. -/
theorem Limited.attempt {trace : Trace α} (hlimited : trace.Limited) :
    (MatchMonad.attempt trace).Limited := by
  match houtcome : trace.outcome with
  | .ok value => simp [Limited, houtcome] at hlimited
  | .error (.failure failure) => simp [Limited, houtcome] at hlimited
  | .error (.error error) =>
    rw [attempt_of_error houtcome]
    rw [Limited, houtcome] at hlimited
    exact (isLimited_error_iff _).mp hlimited

/-- Of two traces the first was stopped, or they are the same. This is how a trace with less room is
to one with more. -/
def Refines (trace other : Trace α) (property : α → Prop) : Prop :=
  trace.Limited ∨ (trace = other ∧ trace.Gives property)

/-- The operations keep the relation between traces with less room and traces with more. -/
def refinement : Correspondence Trace Trace where
  Holds := Refines
  Allows _ := True
  holds_mono hholds himp := hholds.imp_right fun hright ↦ ⟨hright.1, hright.2.mono himp⟩
  holds_pure value hvalue := Or.inr ⟨rfl, gives_pure value hvalue⟩
  holds_bind {α β first second next next' property goal} hfirst hnext := by
    rcases hfirst with hlimited | ⟨rfl, hgives⟩
    · exact Or.inl (hlimited.bind next)
    · cases houtcome : first.outcome with
      | error halt =>
        rw [Refines, bind_of_error houtcome, bind_of_error houtcome]
        exact Or.inr ⟨rfl, gives_halt halt goal⟩
      | ok value =>
        rw [Refines, bind_of_ok houtcome, bind_of_ok houtcome]
        rcases hnext value (hgives value houtcome) with hlimited | ⟨heq, hgoal⟩
        · exact Or.inl hlimited
        · exact Or.inr ⟨by rw [heq], hgoal⟩
  holds_failure failure := Or.inr ⟨rfl, gives_halt _ _⟩
  holds_error error _ := Or.inr ⟨rfl, gives_halt _ _⟩
  holds_attempt {α first second property} hholds := by
    rcases hholds with hlimited | ⟨rfl, hgives⟩
    · exact Or.inl hlimited.attempt
    · exact Or.inr ⟨rfl, hgives.attempt⟩
  holds_record failure := Or.inr ⟨rfl, fun _ _ ↦ True.intro⟩
  holds_shield hholds := by
    rcases hholds with hlimited | ⟨rfl, hgives⟩
    · exact Or.inl hlimited
    · exact Or.inr ⟨rfl, hgives⟩

/-- Runs of actions are noted alike. -/
theorem refines_invoke (invocation : Invocation) :
    Refines (invoke invocation) (invoke invocation) fun _ ↦ True :=
  Or.inr ⟨rfl, fun _ _ ↦ True.intro⟩

/-- A trace that was not stopped is the one that it refines. -/
theorem Refines.eq {trace other : Trace α} {property : α → Prop}
    (hrefines : trace.Refines other property) (hunlimited : ¬ trace.Limited) : trace = other :=
  (hrefines.resolve_left hunlimited).1

end Trace

namespace Grammar

variable (grammar : Grammar) (text : Text)

/-- A trace with some room is the matcher of its node, given the traces with less room. -/
theorem trace_succ (room : Nat) (id : NodeId) (offset : Nat) :
    grammar.trace text (room + 1) id offset =
      (grammar.node id).matcher grammar text (grammar.trace text room) id offset := rfl

theorem limited_trace_zero (id : NodeId) (offset : Nat) :
    (grammar.trace text 0 id offset).Limited := True.intro

/-- A trace refines the one with one more level of room. -/
theorem trace_refines_succ (room : Nat) : ∀ (id : NodeId) (offset : Nat),
    (grammar.trace text room id offset).Refines (grammar.trace text (room + 1) id offset)
      fun _ ↦ True := by
  induction room with
  | zero => exact fun id offset ↦ Or.inl (grammar.limited_trace_zero text id offset)
  | succ room ih =>
    intro id offset
    have hmeets : Trace.refinement.Meets .trivial (grammar.trace text room)
        (grammar.trace text (room + 1)) := ⟨fun id offset _ ↦ ih id offset, fun _ _ ↦ True.intro⟩
    exact hmeets.holds_matcher_of_invoke Trace.refines_invoke
      (Node.demands_trivial grammar text offset _)

/-- A trace that was not stopped stays the same with more room. -/
theorem trace_eq_of_le {room more : Nat} (hle : room ≤ more) {id : NodeId} {offset : Nat}
    (hunlimited : ¬ (grammar.trace text room id offset).Limited) :
    grammar.trace text more id offset = grammar.trace text room id offset := by
  induction more, hle using Nat.le_induction with
  | base => rfl
  | succ more _ ih =>
    rw [← ih]
    exact ((grammar.trace_refines_succ text more id offset).eq (ih ▸ hunlimited)).symm

/-- Two traces of a node at an offset that were not stopped are the same. -/
theorem trace_unique {room other : Nat} {id : NodeId} {offset : Nat}
    (hroom : ¬ (grammar.trace text room id offset).Limited)
    (hother : ¬ (grammar.trace text other id offset).Limited) :
    grammar.trace text room id offset = grammar.trace text other id offset := by
  rcases le_total room other with hle | hle
  · exact (grammar.trace_eq_of_le text hle hroom).symm
  · exact grammar.trace_eq_of_le text hle hother

end Grammar

end Packrat
