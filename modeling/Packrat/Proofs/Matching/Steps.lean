import Packrat.Proofs.Matching.Room

/-!
# Steps of evaluations

The evaluation of a node asks for evaluations of other nodes, and these ask for others. Written down
with how each of them ended they form a tree of steps (`Step`). It tells where a failure comes from:
from the step that ends with it, if none of those below that it asked for did (`Told.Originates`).
Steps under a negative lookahead are left out, like the failures that are recorded there.

If every failure at an offset comes from inside an outermost evaluation of a label that starts there
and fails there (`Step.Labeled`), then a step that ends with an ordinary failure at that offset ends
with the message of the label (`Step.SaysLabel`, `Grammar.holds_tell`): whatever went back over
other failures there, only labels handed one on.
-/

set_option autoImplicit false
set_option relaxedAutoImplicit false

namespace Packrat

open MatchMonad

variable {α β : Type}

/-- The evaluation of a node at an offset. -/
structure Step where
  /-- The node. -/
  id : NodeId
  /-- Where it was evaluated. -/
  offset : Nat
  /-- How the evaluation ended. -/
  outcome : Except Halt Match
  /-- The evaluations that it asked for, in order. -/
  inner : List Step

/-- An evaluation with its steps. -/
structure Told (α : Type) where
  /-- How the evaluation ends. -/
  outcome : Except Halt α
  /-- The evaluations of nodes that it asks for, in order. -/
  steps : List Step

namespace Told

/-- One evaluation after another; a halt ends it. -/
def andThen (first : Told α) (next : α → Told β) : Told β :=
  match first.outcome with
  | .ok value => ⟨(next value).outcome, first.steps ++ (next value).steps⟩
  | .error halt => ⟨.error halt, first.steps⟩

instance : MatchMonad Told where
  pure value := ⟨.ok value, []⟩
  bind := andThen
  halt reason := ⟨.error reason, []⟩
  attempt told :=
    match told.outcome with
    | .ok value => ⟨.ok (.ok value), told.steps⟩
    | .error (.failure failure) => ⟨.ok (.error failure), told.steps⟩
    | .error (.error error) => ⟨.error (.error error), told.steps⟩
  record _ := ⟨.ok (), []⟩
  shield told := ⟨told.outcome, []⟩
  invoke _ := ⟨.ok (), []⟩

theorem bind_of_ok {first : Told α} {value : α} (houtcome : first.outcome = .ok value)
    (next : α → Told β) :
    (first >>= next) = ⟨(next value).outcome, first.steps ++ (next value).steps⟩ := by
  change first.andThen next = _
  rw [andThen, houtcome]

theorem bind_of_error {first : Told α} {halt : Halt} (houtcome : first.outcome = .error halt)
    (next : α → Told β) : (first >>= next) = ⟨.error halt, first.steps⟩ := by
  change first.andThen next = _
  rw [andThen, houtcome]

end Told

/-! ### Where failures come from -/

/-- A step ended with a failure, which may have become fatal since. -/
def Step.EndsWith (step : Step) (failure : Failure) : Prop :=
  ∃ earlier, step.outcome = .error (.failure earlier) ∧
  (failure = earlier ∨ failure = earlier.asFatal)

/-- An evaluation ends with a failure at an offset with which none of its steps ended. -/
def Told.Originates (told : Told α) (offset : Nat) : Prop :=
  ∃ failure, told.outcome = .error (.failure failure) ∧ failure.offset = offset ∧
    ∀ step ∈ told.steps, ¬ step.EndsWith failure

namespace Step

def told (step : Step) : Told Match := ⟨step.outcome, step.inner⟩

/-- A step is another one or below it. -/
inductive Within (step : Step) : Step → Prop
  | self : Within step step
  | inner {child whole : Step} (hchild : child ∈ whole.inner) (hwithin : Within step child) :
      Within step whole

/-- A step ended with a failure at an offset. -/
def FailsAt (step : Step) (offset : Nat) : Prop :=
  ∃ failure, step.outcome = .error (.failure failure) ∧ failure.offset = offset

/-- Every failure at an offset comes from inside an outermost evaluation of a label with a message
that starts there, after skipped characters, and fails there. -/
inductive Labeled (grammar : Grammar) (text : Text) (expected : String) (offset : Nat) : Step → Prop
  | elsewhere {step : Step} (hnone : ∀ inner : Step, inner.Within step →
      ¬ inner.told.Originates offset) :
      Labeled grammar text expected offset step
  | label {step : Step} {child : NodeId} {skip : Option CharSet}
      (hnode : grammar.node step.id = .labeled child skip expected)
      (hstart : skipFrom skip text step.offset = offset) (hfails : step.FailsAt offset) :
      Labeled grammar text expected offset step
  | through {step : Step} (hnode : ∀ child skip other, grammar.node step.id ≠
      .labeled child skip other) (horigin : ¬ step.told.Originates offset)
      (hinner : ∀ child ∈ step.inner, Labeled grammar text expected offset child) :
      Labeled grammar text expected offset step

/-- If all failures at an offset come from labels with a message, then an ordinary failure at that
offset with which a step ends has that message. -/
def SaysLabel (grammar : Grammar) (text : Text) (expected : String) (offset : Nat) (step : Step) :
    Prop :=
  ∀ failure, step.Labeled grammar text expected offset → step.outcome = .error (.failure failure) →
    failure.fatal = false → failure.offset = offset → failure.message = expected

end Step

/-- A failure that does not come from an evaluation itself is one with which a step of it ended. -/
theorem Told.exists_endsWith {told : Told α} {failure : Failure}
    (houtcome : told.outcome = .error (.failure failure))
    (horigin : ¬ told.Originates failure.offset) : ∃ step ∈ told.steps, step.EndsWith failure := by
  by_contra hnone
  exact horigin ⟨failure, houtcome, rfl, fun step hstep hends ↦ hnone ⟨step, hstep, hends⟩⟩

/-- The step is of an ordinary failure if the failure is ordinary. -/
theorem Step.EndsWith.outcome_eq {step : Step} {failure : Failure} (hends : step.EndsWith failure)
    (hordinary : failure.fatal = false) : step.outcome = .error (.failure failure) := by
  obtain ⟨earlier, hearlier, rfl | rfl⟩ := hends
  · exact hearlier
  · cases hordinary

/-- Failures at an offset do not come from a step that did not fail there. -/
theorem Step.not_originates {step : Step} {offset : Nat} (hfails : ¬ step.FailsAt offset) :
    ¬ step.told.Originates offset :=
  fun ⟨failure, houtcome, hoffset, _⟩ ↦ hfails ⟨failure, houtcome, hoffset⟩

/-- A step without steps below that did not fail at an offset needs no label. -/
theorem Step.Labeled.of_leaf {grammar : Grammar} {text : Text} {expected : String}
    {offset : Nat} {step : Step} (hleaf : step.inner = []) (hfails : ¬ step.FailsAt offset) :
    step.Labeled grammar text expected offset := by
  refine .elsewhere fun inner hwithin ↦ ?_
  cases hwithin with
  | self => exact Step.not_originates hfails
  | inner hchild =>
    rw [hleaf] at hchild
    cases hchild

/-- A failure with which a step ends comes from somewhere in the step. The recursion goes to the
step below that ends with it. -/
theorem Step.exists_originates (step : Step) {failure : Failure}
    (houtcome : step.outcome = .error (.failure failure)) :
    ∃ inner : Step, inner.Within step ∧ inner.told.Originates failure.offset := by
  by_cases horigin : step.told.Originates failure.offset
  · exact ⟨step, .self, horigin⟩
  · obtain ⟨child, hchild, earlier, hearlier, hsame⟩ := Told.exists_endsWith houtcome horigin
    have hoffset : earlier.offset = failure.offset := by
      rcases hsame with rfl | rfl
      · rfl
      · rfl
    obtain ⟨inner, hwithin, hfound⟩ := child.exists_originates hearlier
    exact ⟨inner, .inner hchild hwithin, hoffset ▸ hfound⟩
termination_by sizeOf step
decreasing_by
  obtain ⟨id, offset, outcome, inner⟩ := step
  have hlt := List.sizeOf_lt_of_mem hchild
  rw [Step.mk.sizeOf_spec]
  change sizeOf child < sizeOf inner at hlt
  omega

/-- A labeled evaluation hands on a match, an error, a fatal failure and a failure beyond its start;
another failure gets the message of the label. -/
theorem Told.outcome_labeled (text : Text) (skip : Option CharSet) (expected : String)
    (child : Matcher Told) (offset : Nat) :
    (Matcher.labeled text skip expected child offset).outcome =
      match (child offset).outcome with
      | .error (.failure failure) =>
        if failure.fatal then .error (.failure failure)
        else .error (.failure (if failure.offset ≤ skipFrom skip text offset then
          .ordinary failure.offset expected
          else failure))
      | outcome => outcome := by
  simp only [Matcher.labeled, backtrack]
  generalize child offset = told
  obtain ⟨outcome, steps⟩ := told
  cases outcome with
  | ok found => rfl
  | error halt =>
    cases halt with
    | error error => rfl
    | failure failure =>
      obtain ⟨place, message, fatal⟩ := failure
      cases fatal with
      | true => rfl
      | false => rfl

/-- An ordinary failure of a labeled evaluation at or before its start has the message of the
label. -/
theorem Told.message_labeled {text : Text} {skip : Option CharSet} {expected : String}
    {child : Matcher Told} {offset : Nat} {failure : Failure}
    (houtcome : (Matcher.labeled text skip expected child offset).outcome =
      .error (.failure failure))
    (hordinary : failure.fatal = false) (hstart : failure.offset ≤ skipFrom skip text offset) :
    failure.message = expected := by
  rw [Told.outcome_labeled] at houtcome
  match hchild : (child offset).outcome with
  | .ok found =>
    rw [hchild] at houtcome
    cases houtcome
  | .error (.error error) =>
    rw [hchild] at houtcome
    cases houtcome
  | .error (.failure inner) =>
    rw [hchild] at houtcome
    simp only at houtcome
    split_ifs at houtcome with hfatal hbefore
    · obtain rfl := Halt.failure.inj (Except.error.inj houtcome)
      rw [hfatal] at hordinary
      cases hordinary
    · obtain rfl := Halt.failure.inj (Except.error.inj houtcome)
      rfl
    · obtain rfl := Halt.failure.inj (Except.error.inj houtcome)
      exact absurd hstart hbefore

/-! ### Steps of grammars -/

/-- The operations keep evaluations with steps of some kind the same as their traces. -/
def telling (good : Step → Prop) : Correspondence Told Trace where
  Holds told trace property := told.outcome = trace.outcome ∧ trace.Gives property ∧
    ∀ step ∈ told.steps, good step
  Allows _ := True
  holds_mono hholds himp := ⟨hholds.1, hholds.2.1.mono himp, hholds.2.2⟩
  holds_pure value hvalue := ⟨rfl, Trace.gives_pure value hvalue, List.forall_mem_nil _⟩
  holds_bind {α β first second next next' property goal} hfirst hnext := by
    obtain ⟨hsame, hgives, hsteps⟩ := hfirst
    cases houtcome : second.outcome with
    | error halt =>
      rw [houtcome] at hsame
      rw [Told.bind_of_error hsame, Trace.bind_of_error houtcome]
      exact ⟨rfl, fun _ hvalue ↦ (nomatch hvalue), hsteps⟩
    | ok value =>
      rw [houtcome] at hsame
      obtain ⟨hrest, hgoal, hlater⟩ := hnext value (hgives value houtcome)
      rw [Told.bind_of_ok hsame, Trace.bind_of_ok houtcome]
      exact ⟨hrest, hgoal, List.forall_mem_append.mpr ⟨hsteps, hlater⟩⟩
  holds_failure failure := ⟨rfl, Trace.gives_halt _ _, List.forall_mem_nil _⟩
  holds_error error _ := ⟨rfl, Trace.gives_halt _ _, List.forall_mem_nil _⟩
  holds_attempt {α first second property} hholds := by
    obtain ⟨hsame, hgives, hsteps⟩ := hholds
    obtain ⟨outcome, steps⟩ := first
    obtain ⟨other, events⟩ := second
    obtain rfl : outcome = other := hsame
    refine ⟨?_, hgives.attempt, ?_⟩
    · match outcome with
      | .ok value => rfl
      | .error (.failure failure) => rfl
      | .error (.error error) => rfl
    · match outcome with
      | .ok value => exact hsteps
      | .error (.failure failure) => exact hsteps
      | .error (.error error) => exact hsteps
  holds_record failure := ⟨rfl, fun _ _ ↦ True.intro, List.forall_mem_nil _⟩
  holds_shield hholds := ⟨hholds.1, hholds.2.1, List.forall_mem_nil _⟩

namespace Grammar

variable {grammar : Grammar} {text : Text}

/-- Evaluates a node and tells the steps. -/
def tell (grammar : Grammar) (text : Text) (room : Nat) (id : NodeId) (offset : Nat) : Told Match :=
  grammar.evaluateWith text
    (fun id offset told ↦ ⟨told.outcome, [⟨id, offset, told.outcome, told.steps⟩]⟩) room id offset

/-- If the steps that an evaluation of a node asks for say their labels, so does the step that is
the evaluation. -/
theorem saysLabel_step {expected : String} {place : Nat} {call : NodeId → Matcher Told}
    {id : NodeId} {offset : Nat} {told : Told Match}
    (htold : (grammar.node id).matcher grammar text call id offset = told)
    (hsteps : ∀ step ∈ told.steps, step.SaysLabel grammar text expected place) :
    (⟨id, offset, told.outcome, told.steps⟩ : Step).SaysLabel grammar text expected place := by
  intro failure hlabeled houtcome hordinary hoffset
  cases hlabeled with
  | elsewhere hnone =>
    obtain ⟨inner, hwithin, horigin⟩ := Step.exists_originates _ houtcome
    exact absurd (hoffset ▸ horigin) (hnone inner hwithin)
  | @label _ child skip hnode hstart _ =>
    have hmatcher : Matcher.labeled text skip expected (call child) offset = told := by
      have hfound : grammar.node id = .labeled child skip expected := hnode
      rw [← htold, hfound]
      rfl
    refine Told.message_labeled (hmatcher ▸ houtcome) hordinary ?_
    rw [hoffset, hstart]
  | through hnode horigin hinner =>
    obtain ⟨step, hstep, hends⟩ := Told.exists_endsWith houtcome (hoffset ▸ horigin)
    exact hsteps step hstep failure (hinner step hstep) (hends.outcome_eq hordinary)
      hordinary hoffset

/-- An evaluation that tells its steps ends like its trace, and its steps say their labels. The
induction is on the room. -/
theorem holds_tell (grammar : Grammar) (text : Text) (expected : String)
    (place : Nat) (room : Nat) :
    ∀ (id : NodeId) (offset : Nat), (telling (Step.SaysLabel grammar text expected place)).Holds
      (grammar.tell text room id offset) (grammar.trace text room id offset) fun _ ↦ True := by
  induction room with
  | zero => exact fun _ _ ↦ (telling _).holds_error _ True.intro
  | succ room ih =>
    intro id offset
    have hmeets : (telling (Step.SaysLabel grammar text expected place)).Meets .trivial
        (grammar.tell text room) (grammar.trace text room) :=
      ⟨fun id offset _ ↦ ih id offset, fun _ _ ↦ True.intro⟩
    obtain ⟨hsame, hgives, hsteps⟩ := hmeets.holds_matcher_of_invoke
      (fun _ ↦ ⟨rfl, fun _ _ ↦ True.intro, List.forall_mem_nil _⟩)
      (Node.demands_trivial grammar text offset (grammar.node id))
    refine ⟨hsame, hgives, fun step hstep ↦ ?_⟩
    obtain rfl := List.mem_singleton.mp hstep
    exact saysLabel_step rfl hsteps

end Grammar

end Packrat
