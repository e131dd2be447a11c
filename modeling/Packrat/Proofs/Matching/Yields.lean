import Packrat.Proofs.Matching.Progress
import Packrat.Proofs.Matching.Room
import Packrat.Proofs.Terminal.Quoted

/-!
# What traces yield

The trace of a node of an accepted grammar ends where the contract of progress says, and its only
errors are the limit on the depth and scans that never end (`Grammar.yields_trace`). Given enough
room the limit is not reached: what an evaluation asks for is further on in the text, or stands
lower in the order of left calls, so the number `Grammar.depthBound` gets smaller from an evaluation
to the ones inside it. Every scan ends if no quoted string has an empty escaped quote
(`Grammar.yields_trace_ne_endless`).
-/

set_option autoImplicit false
set_option relaxedAutoImplicit false

namespace Packrat

open MatchMonad

/-! ### Errors of traces -/

/-- The errors of a trace are allowed, and its value has a property. -/
structure Trace.Yields {α : Type} (trace : Trace α) (allows : ParseError → Prop)
    (property : α → Prop) : Prop where
  /-- An error that ends the trace is allowed. -/
  errors : ∀ error, trace.outcome = .error (.error error) → allows error
  /-- The value, if there is one, has the property. -/
  gives : trace.Gives property

def Trace.yielding (allows : ParseError → Prop) : Correspondence Trace Trace where
  Holds trace _ property := trace.Yields allows property
  Allows := allows
  holds_mono hholds himp := ⟨hholds.errors, hholds.gives.mono himp⟩
  holds_pure value hvalue := ⟨fun _ herror ↦ (nomatch herror), Trace.gives_pure value hvalue⟩
  holds_bind {α β first second next next' property goal} hfirst hnext := by
    refine ⟨fun error herror ↦ ?_,
      hfirst.gives.bind fun value hvalue ↦ (hnext value hvalue).gives⟩
    cases houtcome : first.outcome with
    | error halt =>
      rw [Trace.bind_of_error houtcome] at herror
      cases herror
      exact hfirst.errors error houtcome
    | ok value =>
      rw [Trace.bind_of_ok houtcome] at herror
      exact (hnext value (hfirst.gives value houtcome)).errors error herror
  holds_failure failure := ⟨fun _ herror ↦ (nomatch herror), Trace.gives_halt _ _⟩
  holds_error error hallowed :=
    ⟨fun _ herror ↦ Halt.error.inj (Except.error.inj herror) ▸ hallowed, Trace.gives_halt _ _⟩
  holds_attempt {α first second property} hholds := by
    refine ⟨fun error herror ↦ ?_, hholds.gives.attempt⟩
    match houtcome : first.outcome with
    | .ok value =>
      rw [Trace.attempt_of_ok houtcome] at herror
      cases herror
    | .error (.failure failure) =>
      rw [Trace.attempt_of_failure houtcome] at herror
      cases herror
    | .error (.error other) =>
      rw [Trace.attempt_of_error houtcome] at herror
      cases herror
      exact hholds.errors error houtcome
  holds_record failure := ⟨fun _ herror ↦ (nomatch herror), fun _ _ ↦ True.intro⟩
  holds_shield hholds := ⟨hholds.errors, hholds.gives⟩

/-- A trace that is not allowed to reach the limit was not stopped by it. -/
theorem Trace.Yields.not_limited {α : Type} {trace : Trace α} {allows : ParseError → Prop}
    {property : α → Prop} (hyields : trace.Yields allows property)
    (hlimit : ∀ offset limit, ¬ allows (.recursionLimit offset limit)) : ¬ trace.Limited := by
  intro hlimited
  rw [Trace.Limited] at hlimited
  cases houtcome : trace.outcome with
  | ok value => simp [houtcome] at hlimited
  | error halt =>
    cases halt with
    | failure failure => simp [houtcome] at hlimited
    | error reason =>
      cases reason with
      | recursionLimit offset limit => exact hlimit offset limit (hyields.errors _ houtcome)
      | mismatch report => simp [houtcome, IsLimited] at hlimited
      | grammar error => simp [houtcome, IsLimited] at hlimited
      | endless => simp [houtcome, IsLimited] at hlimited

namespace Grammar

variable {grammar : Grammar} {text : Text} {id child : NodeId} {offset place : Nat}

/-! ### How deep evaluations go -/

/-- A bound on how deep the evaluation of a node at an offset goes below it: for every offset
further on all nodes, and at the offset itself those that are reached by left calls. -/
noncomputable def depthBound (grammar : Grammar) (text : Text) (id : NodeId) (offset : Nat) : Nat :=
  (text.size - offset) * grammar.nodeCount + grammar.leftRank grammar.nullable id

/-- The bound is below the number of pairs of nodes and offsets. -/
theorem depthBound_lt (haccepted : grammar.Accepted) (hid : id < grammar.nodeCount) :
    grammar.depthBound text id offset < grammar.nodeCount * (text.size + 1) := by
  have hrank := leftRank_lt_nodeCount hid (acc_leftCalls haccepted.formed haccepted.circles hid)
  have hoffsets : (text.size - offset) * grammar.nodeCount ≤ text.size * grammar.nodeCount :=
    Nat.mul_le_mul_right _ (Nat.sub_le _ _)
  rw [depthBound, Nat.mul_succ, Nat.mul_comm grammar.nodeCount]
  omega

/-- The bound gets smaller from an evaluation to those that it asks for. -/
theorem depthBound_lt_depthBound (haccepted : grammar.Accepted)
    (hmay : (grammar.progress text id offset).May child place) :
    grammar.depthBound text child place < grammar.depthBound text id offset := by
  obtain ⟨hchild, hwithin, hcalls⟩ := hmay
  have hacc := acc_leftCalls haccepted.formed haccepted.circles hchild
  by_cases hplace : place = offset
  · rw [depthBound, depthBound, hplace]
    exact Nat.add_lt_add_left (leftRank_lt_leftRank hchild hacc (hcalls hplace)) _
  · have hrank := leftRank_lt_nodeCount hchild hacc
    have hfurther : text.size - place + 1 ≤ text.size - offset := by
      unfold Within at hwithin
      omega
    have hoffsets := Nat.mul_le_mul_right grammar.nodeCount hfurther
    rw [Nat.succ_mul] at hoffsets
    rw [depthBound, depthBound]
    omega

/-! ### Traces of nodes -/

/-- The traces of nodes of an accepted grammar end where progress says. Beside scans that never end
their only error is the limit on the depth, and with enough room there is no such error. The
induction is on the room. -/
theorem yields_trace (haccepted : grammar.Accepted) (hhonest : grammar.HasHonestRegexes)
    (text : Text) (allows : ParseError → Prop) (hendless : allows .endless) (room : Nat) :
    ∀ (id : NodeId) (offset : Nat), id < grammar.nodeCount →
      ((∀ place limit, allows (.recursionLimit place limit)) ∨
        grammar.depthBound text id offset < room) →
      (grammar.trace text room id offset).Yields allows fun found ↦
        grammar.EndsAfter text id offset found.stop := by
  induction room with
  | zero =>
    intro id offset hid henough
    refine (Trace.yielding allows).holds_error _ ?_
    exact (henough.resolve_right (Nat.not_lt_zero _)) _ _
  | succ room ih =>
    intro id offset hid henough
    have hmeets : (Trace.yielding allows).Meets (grammar.progress text id offset)
        (grammar.trace text room) (grammar.trace text room) := by
      refine ⟨fun child place hmay ↦ ih child place hmay.1 (henough.imp_right fun hroom ↦ ?_),
        fun _ herror ↦ herror ▸ hendless⟩
      have hlt := depthBound_lt_depthBound haccepted hmay
      omega
    exact hmeets.holds_matcher_of_invoke
      (fun _ ↦ ⟨fun _ herror ↦ (nomatch herror), fun _ _ ↦ True.intro⟩)
      (demands_progress haccepted hhonest hid)

/-! ### Errors of any grammar -/

/-- The errors of the trace of a node are the limit on the depth, rounds that do not advance, and
scans of its terminals that never end. The induction is on the room. -/
theorem yields_trace_allowing {allows : ParseError → Prop}
    (hlimit : ∀ place limit, allows (.recursionLimit place limit))
    (hrounds : ∀ what place, allows (.grammar (.zeroWidthIteration what place)))
    (hendless : ∀ form skip expected before chars,
      Node.terminal form skip expected ∈ grammar.nodes.toList → form.scan before chars = .endless →
        allows .endless) (room : Nat) :
    ∀ (id : NodeId) (offset : Nat), (grammar.trace text room id offset).Yields allows
      fun _ ↦ True := by
  induction room with
  | zero => exact fun _ _ ↦ (Trace.yielding _).holds_error _ (hlimit _ _)
  | succ room ih =>
    intro id offset
    have hmeets : (Trace.yielding allows).Meets (.allowing allows) (grammar.trace text room)
        (grammar.trace text room) :=
      ⟨fun child place _ ↦ ih child place, fun _ hallowed ↦ hallowed⟩
    have hdemands : (grammar.node id).Demands grammar text (.allowing allows) offset
        fun _ ↦ True := by
      refine Node.demands_allowing hrounds (fun form skip expected before chars hnode hscan ↦ ?_)
        grammar text offset
      rcases grammar.node_mem_or_eq_empty id with hmem | hempty
      · exact hendless form skip expected before chars (hnode ▸ hmem) hscan
      · cases hnode.symm.trans hempty
    exact hmeets.holds_matcher_of_invoke
      (fun _ ↦ ⟨fun _ herror ↦ (nomatch herror), fun _ _ ↦ True.intro⟩) hdemands

/-- No quoted string of a grammar has an empty escaped quote. -/
def NoEmptyEscapes (grammar : Grammar) : Prop :=
  ∀ form skip expected, Node.terminal (.quoted form) skip expected ∈ grammar.nodes.toList →
    form.escapedQuote ≠ some []

theorem yields_trace_ne_endless (hescapes : grammar.NoEmptyEscapes) (room : Nat)
    (id : NodeId) (offset : Nat) :
    (grammar.trace text room id offset).Yields (· ≠ .endless) fun _ ↦ True := by
  refine yields_trace_allowing (fun _ _ ↦ nofun) (fun _ _ ↦ nofun) ?_ room id offset
  intro form skip expected before chars hmem hscan
  obtain ⟨quoted, rfl, hquoted⟩ := Terminal.exists_of_scan_endless hscan
  exact absurd (Quoted.scan_eq_endless_iff.mp hquoted).2.2.1 (hescapes quoted skip expected hmem)

end Grammar

end Packrat
