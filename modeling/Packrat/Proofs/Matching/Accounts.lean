import Packrat.Proofs.Matching.Events
import Packrat.Proofs.Matching.Room

/-!
# Accounts of evaluations

An account of an evaluation says how it ends and which failures it records, and nothing of the
actions that it runs. It is what is left of a trace when runs of actions are dropped
(`Grammar.account_trace`), and all that a report of a parse depends on (`Account.report`).
-/

set_option autoImplicit false
set_option relaxedAutoImplicit false

namespace Packrat

open MatchMonad

variable {α β : Type}

/-- An outcome and the failures recorded before it. -/
structure Account (α : Type) where
  /-- How the evaluation ends. -/
  outcome : Except Halt α
  /-- The failures recorded on the way, in order. -/
  failures : List Failure

namespace Account

/-- One evaluation after another; a halt ends it. -/
def andThen (first : Account α) (next : α → Account β) : Account β :=
  match first.outcome with
  | .ok value => ⟨(next value).outcome, first.failures ++ (next value).failures⟩
  | .error halt => ⟨.error halt, first.failures⟩

instance : MatchMonad Account where
  pure value := ⟨.ok value, []⟩
  bind := andThen
  halt reason := ⟨.error reason, []⟩
  attempt account :=
    match account.outcome with
    | .ok value => ⟨.ok (.ok value), account.failures⟩
    | .error (.failure failure) => ⟨.ok (.error failure), account.failures⟩
    | .error (.error error) => ⟨.error (.error error), account.failures⟩
  record failure := ⟨.ok (), [failure]⟩
  shield account := { account with failures := [] }
  invoke _ := ⟨.ok (), []⟩

/-- The furthest failure recorded; of several at one offset the first. -/
def furthest (account : Account α) : Option Failure :=
  account.failures.foldl Failure.further none

def report (account : Account α) (text : Text) : Except ParseError α :=
  account.outcome.mapError (Halt.toError text account.furthest)

theorem bind_of_ok {account : Account α} {value : α} (houtcome : account.outcome = .ok value)
    (next : α → Account β) :
    (account >>= next) = ⟨(next value).outcome, account.failures ++ (next value).failures⟩ := by
  change account.andThen next = _
  rw [andThen, houtcome]

theorem bind_of_error {account : Account α} {halt : Halt} (houtcome : account.outcome = .error halt)
    (next : α → Account β) : (account >>= next) = ⟨.error halt, account.failures⟩ := by
  change account.andThen next = _
  rw [andThen, houtcome]

end Account

def Trace.account (trace : Trace α) : Account α := ⟨trace.outcome, trace.failures⟩

/-- The operations keep traces with their accounts. -/
def reckoning : Correspondence Trace Account where
  Holds trace account property := trace.account = account ∧ trace.Gives property
  Allows _ := True
  holds_mono hholds himp := ⟨hholds.1, hholds.2.mono himp⟩
  holds_pure value hvalue := ⟨rfl, Trace.gives_pure value hvalue⟩
  holds_bind {α β first second next next' property goal} hfirst hnext := by
    obtain ⟨rfl, hgives⟩ := hfirst
    refine ⟨?_, hgives.bind fun value hvalue ↦ (hnext value hvalue).2⟩
    cases houtcome : first.outcome with
    | error halt =>
      have haccount : first.account.outcome = .error halt := houtcome
      rw [Trace.bind_of_error houtcome, Account.bind_of_error haccount]
      rfl
    | ok value =>
      have haccount : first.account.outcome = .ok value := houtcome
      rw [Trace.bind_of_ok houtcome, Account.bind_of_ok haccount,
        ← (hnext value (hgives value houtcome)).1]
      simp only [Trace.account, Trace.failures, List.filterMap_append]
  holds_failure failure := ⟨rfl, Trace.gives_halt _ _⟩
  holds_error error _ := ⟨rfl, Trace.gives_halt _ _⟩
  holds_attempt {α first second property} hholds := by
    obtain ⟨rfl, hgives⟩ := hholds
    refine ⟨?_, hgives.attempt⟩
    match houtcome : first.outcome with
    | .ok value =>
      rw [Trace.attempt_of_ok houtcome]
      simp only [attempt, Trace.account, houtcome, Trace.failures]
    | .error (.failure failure) =>
      rw [Trace.attempt_of_failure houtcome]
      simp only [attempt, Trace.account, houtcome, Trace.failures]
    | .error (.error error) =>
      rw [Trace.attempt_of_error houtcome]
      simp only [attempt, Trace.account, houtcome, Trace.failures]
  holds_record failure := ⟨rfl, fun _ _ ↦ True.intro⟩
  holds_shield {α first second property} hholds := by
    obtain ⟨rfl, hgives⟩ := hholds
    refine ⟨?_, hgives⟩
    change (⟨first.outcome, (first.events.filter _).filterMap _⟩ : Account α) = ⟨first.outcome, []⟩
    rw [filterMap_failure?_filter]

theorem reckoning_invoke (invocation : Invocation) :
    reckoning.Holds (invoke invocation) (invoke invocation) fun _ ↦ True :=
  ⟨rfl, fun _ _ ↦ True.intro⟩

namespace Grammar

variable {grammar : Grammar} {text : Text}

def account (grammar : Grammar) (text : Text) (room : Nat) (id : NodeId) (offset : Nat) :
    Account Match :=
  grammar.evaluateWith text (fun _ _ evaluation ↦ evaluation) room id offset

/-- The account of a node is the account of its trace. The induction is on the room. -/
theorem account_trace (room : Nat) : ∀ (id : NodeId) (offset : Nat),
    (grammar.trace text room id offset).account = grammar.account text room id offset := by
  induction room with
  | zero => exact fun _ _ ↦ rfl
  | succ room ih =>
    intro id offset
    have hmeets : reckoning.Meets .trivial (grammar.trace text room) (grammar.account text room) :=
      ⟨fun id offset _ ↦ ⟨ih id offset, fun _ _ ↦ True.intro⟩, fun _ _ ↦ True.intro⟩
    exact (hmeets.holds_matcher_of_invoke reckoning_invoke
      (Node.demands_trivial grammar text offset (grammar.node id))).1

end Grammar

end Packrat
