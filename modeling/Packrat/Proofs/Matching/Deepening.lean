import Packrat.Proofs.Matching.Events
import Packrat.Proofs.Matching.Room

/-!
# Deepening traces

What an engine remembers was found at different depths, so it cannot be compared with the trace of
one room. A `Deepening` holds the traces of all rooms at once. Deepenings are evaluations like
others: the matcher of a node, read for deepenings, is the deepening of the node
(`Grammar.trace_matcher_deepening`).

An action runs in a trace only when the evaluation of its node at its offset is not stopped
(`Grammar.accounts_trace`), and so never inside the evaluation of the same node at the same offset
(`Grammar.node_ne_of_mem_runsOf_child`). Runs at one place are therefore the same
(`Grammar.eq_of_site_eq`).
-/

set_option autoImplicit false
set_option relaxedAutoImplicit false

namespace Packrat

open MatchMonad

/-- The traces of an evaluation with every room. -/
structure Deepening (α : Type) where
  /-- The trace with a room. -/
  trace : Nat → Trace α
  /-- A trace refines those with more room. -/
  refines : ∀ less more, less ≤ more → (trace less).Refines (trace more) fun _ ↦ True

namespace Deepening

variable {α : Type}

def constant (trace : Trace α) : Deepening α where
  trace _ := trace
  refines _ _ _ := Or.inr ⟨rfl, fun _ _ ↦ True.intro⟩

instance : MatchMonad Deepening where
  pure value := constant (pure value)
  bind first next :=
    { trace := fun room ↦ first.trace room >>= fun value ↦ (next value).trace room
      refines := fun less more hle ↦ Trace.refinement.holds_bind (first.refines less more hle)
        fun value _ ↦ (next value).refines less more hle }
  halt reason := constant (halt reason)
  attempt evaluation :=
    { trace := fun room ↦ attempt (evaluation.trace room)
      refines := fun less more hle ↦ Trace.refinement.holds_mono
        (Trace.refinement.holds_attempt (evaluation.refines less more hle)) fun _ _ ↦ True.intro }
  record failure := constant (record failure)
  shield evaluation :=
    { trace := fun room ↦ shield (evaluation.trace room)
      refines := fun less more hle ↦
        Trace.refinement.holds_shield (evaluation.refines less more hle) }
  invoke invocation := constant (invoke invocation)

/-- Traces that were not stopped are all the same. -/
theorem trace_unique (deepening : Deepening α) {room other : Nat}
    (hroom : ¬ (deepening.trace room).Limited) (hother : ¬ (deepening.trace other).Limited) :
    deepening.trace room = deepening.trace other := by
  rcases le_total room other with hle | hle
  · exact (deepening.refines room other hle).eq hroom
  · exact ((deepening.refines other room hle).eq hother).symm

/-- A trace that was not stopped stays the same with more room. -/
theorem trace_eq_of_le (deepening : Deepening α) {room more : Nat} (hle : room ≤ more)
    (hunlimited : ¬ (deepening.trace room).Limited) :
    deepening.trace more = deepening.trace room :=
  ((deepening.refines room more hle).eq hunlimited).symm

/-- The operations keep a deepening with its trace at one room. -/
def projection (room : Nat) : Correspondence Deepening Trace where
  Holds deepening trace property := deepening.trace room = trace ∧ trace.Gives property
  Allows _ := True
  holds_mono hholds himp := ⟨hholds.1, hholds.2.mono himp⟩
  holds_pure value hvalue := ⟨rfl, Trace.gives_pure value hvalue⟩
  holds_bind {α β first second next next' property goal} hfirst hnext := by
    obtain ⟨rfl, hgives⟩ := hfirst
    refine ⟨?_, hgives.bind fun value hvalue ↦ (hnext value hvalue).2⟩
    change (first.trace room >>= fun value ↦ (next value).trace room) = first.trace room >>= next'
    cases houtcome : (first.trace room).outcome with
    | error halt => rw [Trace.bind_of_error houtcome, Trace.bind_of_error houtcome]
    | ok value =>
      rw [Trace.bind_of_ok houtcome, Trace.bind_of_ok houtcome,
        (hnext value (hgives value houtcome)).1]
  holds_failure failure := ⟨rfl, Trace.gives_halt _ _⟩
  holds_error error _ := ⟨rfl, Trace.gives_halt _ _⟩
  holds_attempt hholds := ⟨congrArg attempt hholds.1, hholds.2.attempt⟩
  holds_record failure := ⟨rfl, fun _ _ ↦ True.intro⟩
  holds_shield hholds := ⟨congrArg shield hholds.1, hholds.2⟩

end Deepening

/-! ### The actions of a node -/

/-- No error ends an evaluation. -/
def Settled {α : Type} (outcome : Except Halt α) : Prop := ∀ error, outcome ≠ .error (.error error)

/-- An outcome that is no error was not limited. -/
theorem Settled.not_isLimited {α : Type} {outcome : Except Halt α} (hsettled : Settled outcome) :
    ¬ IsLimited outcome := by
  match outcome with
  | .ok value => exact not_isLimited_ok value
  | .error (.failure failure) => exact not_isLimited_failure failure
  | .error (.error error) => exact absurd rfl (hsettled error)

/-- A trace of actions of a node at an offset, from a place among them on: it ends without an error,
and they run at places of their own. -/
structure RunsFrom {α : Type} (id : NodeId) (offset index : Nat) (trace : Trace α) : Prop where
  /-- No error ends it. -/
  settled : Settled trace.outcome
  /-- No two actions run at one place. -/
  nodup : (sites (runsOf trace.events)).Nodup
  /-- The places belong to the node and the offset. -/
  places : ∀ site ∈ sites (runsOf trace.events),
    ∃ place, site = (id, place, offset) ∧ index ≤ place

/-- A further run in front of a trace of actions. -/
theorem RunsFrom.invoke {α : Type} {id : NodeId} {offset index : Nat} {invocation : Invocation}
    {next : Unit → Trace α} (hnext : RunsFrom id offset (index + 1) (next ()))
    (hsite : invocation.site = (id, index, offset)) :
    RunsFrom id offset index (MatchMonad.invoke invocation >>= next) := by
  have hevents : (MatchMonad.invoke invocation >>= next) =
      ⟨(next ()).outcome, [.invoked invocation] ++ (next ()).events⟩ := Trace.bind_of_ok rfl next
  rw [hevents]
  have hsites : sites (runsOf ([Event.invoked invocation] ++ (next ()).events)) =
      (id, index, offset) :: sites (runsOf (next ()).events) := by
    rw [← hsite]
    rfl
  refine ⟨hnext.settled, ?_, ?_⟩
  · rw [hsites, List.nodup_cons]
    refine ⟨fun hmem ↦ ?_, hnext.nodup⟩
    obtain ⟨place, heq, hle⟩ := hnext.places _ hmem
    simp only [Prod.mk.injEq, true_and, and_true] at heq
    omega
  · rw [hsites]
    intro site hmem
    rcases List.mem_cons.mp hmem with rfl | hlater
    · exact ⟨index, rfl, le_rfl⟩
    · obtain ⟨place, heq, hle⟩ := hnext.places site hlater
      exact ⟨place, heq, by omega⟩

/-- Actions end without errors and run at places of their own. -/
theorem runsFrom_runActions (id : NodeId) (offset : Nat) (context : Context)
    (actions : List Action) : ∀ (index : Nat) (results : Results),
      RunsFrom id offset index
        (Matcher.runActions id offset context index actions results : Trace Results) := by
  induction actions with
  | nil =>
    intro index results
    refine ⟨?_, List.nodup_nil, ?_⟩
    · intro error hresult
      cases hresult
    · intro site hsite
      cases hsite
  | cons action rest ih =>
    intro index results
    simp only [Matcher.runActions]
    refine RunsFrom.invoke ?_ rfl
    split
    · exact ih (index + 1) results
    · exact ih (index + 1) _
    · refine ⟨?_, List.nodup_nil, ?_⟩
      · intro error hresult
        cases hresult
      · intro site hsite
        cases hsite

/-- Changing the value of a trace of actions changes nothing else. -/
theorem RunsFrom.bind_pure {α β : Type} {id : NodeId} {offset index : Nat} {trace : Trace α}
    (hruns : RunsFrom id offset index trace) (f : α → β) :
    RunsFrom id offset index (trace >>= fun value ↦ pure (f value)) := by
  cases houtcome : trace.outcome with
  | ok value =>
    rw [Trace.bind_of_ok houtcome]
    change RunsFrom id offset index ⟨.ok (f value), trace.events ++ []⟩
    rw [List.append_nil]
    refine ⟨?_, hruns.nodup, hruns.places⟩
    intro error hresult
    cases hresult
  | error halt =>
    cases halt with
    | failure failure =>
      rw [Trace.bind_of_error houtcome]
      refine ⟨?_, hruns.nodup, hruns.places⟩
      intro error hresult
      cases hresult
    | error error => exact absurd houtcome (hruns.settled error)

/-- What a node with actions does after its child has matched. -/
def actOn {m : Type → Type} [MatchMonad m] (text : Text) (skip : Option CharSet) (id : NodeId)
    (actions : List Action) (offset : Nat) (found : Match) : m Match := do
  let start := min (skipFrom skip text offset) found.stop
  let results ← Matcher.runActions id offset ⟨text, start, found.stop⟩ 0 actions found.results
  pure ⟨found.stop, results⟩

/-- What a node with actions does after its child has matched runs each of them once. -/
theorem runsFrom_actOn (text : Text) (skip : Option CharSet) (id : NodeId) (actions : List Action)
    (offset : Nat) (found : Match) :
    RunsFrom id offset 0 (actOn text skip id actions offset found : Trace Match) :=
  (runsFrom_runActions id offset _ actions 0 found.results).bind_pure _

/-! ### Runs of actions in traces -/

namespace Trace

/-- Every action that runs in a trace has a property. -/
def EveryRun {α : Type} (trace : Trace α) (property : Invocation → Prop) : Prop :=
  ∀ run ∈ runsOf trace.events, property run

/-- What is said of all runs is true of a trace without runs. -/
theorem everyRun_of_runsOf_eq_nil {α : Type} {trace : Trace α} {property : Invocation → Prop}
    (hnone : runsOf trace.events = []) : trace.EveryRun property := by
  intro run hrun
  rw [hnone] at hrun
  cases hrun

/-- What is said of all runs is true of one evaluation after another if it is true of each. -/
theorem EveryRun.bind {α β : Type} {trace : Trace α} {next : α → Trace β}
    {property : Invocation → Prop} (htrace : trace.EveryRun property)
    (hnext : ∀ value, trace.outcome = .ok value → (next value).EveryRun property) :
    (trace >>= next).EveryRun property := by
  cases houtcome : trace.outcome with
  | error halt =>
    rw [bind_of_error houtcome]
    exact htrace
  | ok value =>
    rw [bind_of_ok houtcome]
    intro run hrun
    rw [runsOf_append, List.mem_append] at hrun
    exact hrun.elim (htrace run) (hnext value houtcome run)

/-- The operations keep what is said of the actions that run. -/
def inspecting (property : Invocation → Prop) : Correspondence Trace Trace where
  Holds trace _ goal := trace.EveryRun property ∧ trace.Gives goal
  Allows _ := True
  holds_mono hholds himp := ⟨hholds.1, hholds.2.mono himp⟩
  holds_pure value hvalue := ⟨everyRun_of_runsOf_eq_nil rfl, gives_pure value hvalue⟩
  holds_bind hfirst hnext :=
    ⟨hfirst.1.bind fun value hvalue ↦ (hnext value (hfirst.2 value hvalue)).1,
      hfirst.2.bind fun value hvalue ↦ (hnext value hvalue).2⟩
  holds_failure failure := ⟨everyRun_of_runsOf_eq_nil rfl, gives_halt _ _⟩
  holds_error error _ := ⟨everyRun_of_runsOf_eq_nil rfl, gives_halt _ _⟩
  holds_attempt {α first second goal} hholds := by
    refine ⟨?_, hholds.2.attempt⟩
    match houtcome : first.outcome with
    | .ok value =>
      rw [attempt_of_ok houtcome]
      exact hholds.1
    | .error (.failure failure) =>
      rw [attempt_of_failure houtcome]
      exact hholds.1
    | .error (.error error) =>
      rw [attempt_of_error houtcome]
      exact hholds.1
  holds_record failure := ⟨everyRun_of_runsOf_eq_nil rfl, fun _ _ ↦ True.intro⟩
  holds_shield {α first second goal} hholds := by
    refine ⟨?_, hholds.2⟩
    intro run hrun
    change run ∈ runsOf (first.events.filter _) at hrun
    rw [runsOf_filter] at hrun
    exact hholds.1 run hrun

end Trace

namespace Grammar

variable (grammar : Grammar) (text : Text)

/-- The traces of a node at an offset with every room. -/
def deepening (id : NodeId) (offset : Nat) : Deepening Match where
  trace room := grammar.trace text room id offset
  refines less more hle := by
    by_cases hlimited : (grammar.trace text less id offset).Limited
    · exact Or.inl hlimited
    · exact Or.inr ⟨(grammar.trace_eq_of_le text hle hlimited).symm, fun _ _ ↦ True.intro⟩

/-- The children of a node, read for deepenings, have the traces of one room. -/
theorem meets_deepening (room : Nat) :
    (Deepening.projection room).Meets .trivial (grammar.deepening text) (grammar.trace text room) :=
  ⟨fun _ _ _ ↦ ⟨rfl, fun _ _ ↦ True.intro⟩, fun _ _ ↦ True.intro⟩

/-- The matcher of a node, read for deepenings, has the traces of the node. -/
theorem trace_matcher_deepening (room : Nat) (id : NodeId) (offset : Nat) :
    ((grammar.node id).matcher grammar text (grammar.deepening text) id offset).trace room =
      grammar.trace text (room + 1) id offset :=
  ((grammar.meets_deepening text room).holds_matcher_of_invoke
    (fun _ ↦ ⟨rfl, fun _ _ ↦ True.intro⟩) (Node.demands_trivial grammar text offset _)).1

/-! ### Runs of actions in traces -/

/-- A node with actions evaluates its child and runs the actions. -/
theorem matcher_action {m : Type → Type} [MatchMonad m] (call : NodeId → Matcher m)
    (child : NodeId) (actions : List Action) (skip : Option CharSet) (id : NodeId) (offset : Nat) :
    (Node.action child actions skip).matcher grammar text call id offset =
      call child offset >>= actOn text skip id actions offset := rfl

/-- The trace of a node with actions is that of its child and then that of its actions. -/
theorem trace_succ_action {id child : NodeId} {actions : List Action} {skip : Option CharSet}
    (hnode : grammar.node id = .action child actions skip) (room offset : Nat) :
    grammar.trace text (room + 1) id offset =
      grammar.trace text room child offset >>= actOn text skip id actions offset := by
  rw [trace_succ, hnode, matcher_action]

/-- A trace of a node is made of traces of other nodes with one level of room less and of runs of
actions of the node itself, so what is true of all these runs is true of all runs of the trace. -/
theorem everyRun_trace_succ {property : Invocation → Prop} {room : Nat}
    (hroom : ∀ (id : NodeId) (offset : Nat), (grammar.trace text room id offset).EveryRun property)
    {id : NodeId} {offset : Nat}
    (hown : ∀ (child : NodeId) (actions : List Action) (skip : Option CharSet) (found : Match),
      grammar.node id = .action child actions skip →
        (grammar.trace text room child offset).outcome = .ok found →
      (actOn text skip id actions offset found : Trace Match).EveryRun property) :
    (grammar.trace text (room + 1) id offset).EveryRun property := by
  have hmeets : (Trace.inspecting property).Meets .trivial (grammar.trace text room)
      (grammar.trace text room) :=
    ⟨fun id offset _ ↦ ⟨hroom id offset, fun _ _ ↦ True.intro⟩, fun _ _ ↦ True.intro⟩
  by_cases hplain : (grammar.node id).isAction = false
  · exact (hmeets.holds_matcher hplain (Node.demands_trivial grammar text offset _)).1
  · cases hnode : grammar.node id with
    | action child actions skip =>
      rw [grammar.trace_succ_action text hnode room offset]
      exact (hroom child offset).bind fun found houtcome ↦
        hown child actions skip found hnode houtcome
    | _ => exact absurd (by rw [hnode]; rfl) hplain

/-- Every action that runs in a trace belongs to an evaluation that is not stopped. The induction is
on the room; at a node with actions its own runs come after its child has matched, and then nothing
stops it. -/
theorem accounts_trace (room : Nat) : ∀ (id : NodeId) (offset : Nat),
    (grammar.trace text room id offset).EveryRun fun run ↦
      ¬ (grammar.trace text room run.node run.offset).Limited := by
  induction room with
  | zero => exact fun id offset ↦ Trace.everyRun_of_runsOf_eq_nil rfl
  | succ room ih =>
    have hroom (id : NodeId) (offset : Nat) : (grammar.trace text room id offset).EveryRun fun run ↦
        ¬ (grammar.trace text (room + 1) run.node run.offset).Limited := by
      intro run hrun
      have hunlimited := ih id offset run hrun
      rwa [grammar.trace_eq_of_le text room.le_succ hunlimited]
    intro id offset
    refine grammar.everyRun_trace_succ text hroom
      fun child actions skip found hnode houtcome run hrun ↦ ?_
    have hruns := runsFrom_actOn text skip id actions offset found
    obtain ⟨place, hsite, -⟩ := hruns.places _ (List.mem_map_of_mem hrun)
    simp only [Invocation.site, Prod.mk.injEq] at hsite
    obtain ⟨rfl, rfl, rfl⟩ := hsite
    change ¬ (grammar.trace text (room + 1) run.node run.offset).Limited
    rw [Trace.Limited, grammar.trace_succ_action text hnode, Trace.bind_of_ok houtcome]
    exact hruns.settled.not_isLimited

/-- No action of a node runs inside the evaluation of the child at the same offset. Otherwise the
node would be evaluated there with less room, and inside that again, until the room is used up. -/
theorem node_ne_of_mem_runsOf_child {id child : NodeId} {actions : List Action}
    {skip : Option CharSet} (hnode : grammar.node id = .action child actions skip)
    {room offset : Nat} (hunlimited : ¬ (grammar.trace text room child offset).Limited)
    {run : Invocation} (hrun : run ∈ runsOf (grammar.trace text room child offset).events) :
    ¬ (run.node = id ∧ run.offset = offset) := by
  rintro ⟨rfl, rfl⟩
  have hdescent (bound : Nat) : (grammar.trace text bound run.node run.offset).Limited := by
    induction bound with
    | zero => exact grammar.limited_trace_zero text _ _
    | succ bound ih =>
      by_contra hreached
      have hchild : ¬ (grammar.trace text bound child run.offset).Limited := by
        intro hlimited
        rw [grammar.trace_succ_action text hnode] at hreached
        exact hreached (hlimited.bind _)
      rw [grammar.trace_unique text hunlimited hchild] at hrun
      exact grammar.accounts_trace text bound child run.offset run hrun ih
  exact grammar.accounts_trace text room child run.offset run hrun (hdescent room)

/-- Every action that runs in a trace runs in the trace of its node at its offset as one of the
actions of the node. -/
theorem owns_trace (room : Nat) : ∀ (id : NodeId) (offset : Nat),
    (grammar.trace text room id offset).EveryRun fun run ↦ (grammar.node run.node).isAction = true ∧
      run ∈ runsOf (grammar.trace text room run.node run.offset).events := by
  induction room with
  | zero => exact fun id offset ↦ Trace.everyRun_of_runsOf_eq_nil rfl
  | succ room ih =>
    intro id offset
    refine grammar.everyRun_trace_succ text (fun id offset run hrun ↦ ?_)
      fun child actions skip found hnode houtcome run hrun ↦ ?_
    · rw [grammar.trace_eq_of_le text room.le_succ
        (grammar.accounts_trace text room id offset run hrun)]
      exact ih id offset run hrun
    · obtain ⟨place, hsite, -⟩ :=
        (runsFrom_actOn text skip id actions offset found).places _ (List.mem_map_of_mem hrun)
      simp only [Invocation.site, Prod.mk.injEq] at hsite
      obtain ⟨rfl, rfl, rfl⟩ := hsite
      rw [hnode, grammar.trace_succ_action text hnode, Trace.bind_of_ok houtcome, runsOf_append]
      exact ⟨rfl, List.mem_append_right _ hrun⟩

/-- In a trace there is one run at each place: runs at one place are the same. -/
theorem eq_of_site_eq {room : Nat} {id : NodeId} {offset : Nat} {run other : Invocation}
    (hrun : run ∈ runsOf (grammar.trace text room id offset).events)
    (hother : other ∈ runsOf (grammar.trace text room id offset).events)
    (hsite : run.site = other.site) :
    run = other := by
  have hunlimited := grammar.accounts_trace text room id offset run hrun
  obtain ⟨haction, hrun⟩ := grammar.owns_trace text room id offset run hrun
  obtain ⟨-, hother⟩ := grammar.owns_trace text room id offset other hother
  obtain ⟨node, index, place, action, context, results⟩ := run
  obtain ⟨node', index', place', action', context', results'⟩ := other
  simp only [Invocation.site, Prod.mk.injEq] at hsite
  obtain ⟨rfl, rfl, rfl⟩ := hsite
  simp only at hunlimited haction hrun hother
  cases room with
  | zero => exact absurd (grammar.limited_trace_zero text node place) hunlimited
  | succ room =>
    cases hnode : grammar.node node with
    | action child actions skip =>
      rw [grammar.trace_succ_action text hnode] at hunlimited hrun hother
      have hchild : ¬ (grammar.trace text room child place).Limited :=
        fun hlimited ↦ hunlimited (hlimited.bind _)
      have hapart {run : Invocation}
          (hrun : run ∈ runsOf (grammar.trace text room child place).events) :
          ¬ (run.node = node ∧ run.offset = place) :=
        grammar.node_ne_of_mem_runsOf_child text hnode hchild hrun
      cases houtcome : (grammar.trace text room child place).outcome with
      | error halt =>
        rw [Trace.bind_of_error houtcome] at hrun
        exact absurd ⟨rfl, rfl⟩ (hapart hrun)
      | ok found =>
        rw [Trace.bind_of_ok houtcome, runsOf_append, List.mem_append] at hrun hother
        have hnodup := (runsFrom_actOn text skip node actions place found).nodup
        exact List.inj_on_of_nodup_map hnodup (hrun.resolve_left fun hinside ↦
          hapart hinside ⟨rfl, rfl⟩) (hother.resolve_left fun hinside ↦ hapart hinside ⟨rfl, rfl⟩)
            rfl
    | _ =>
      rw [hnode] at haction
      cases haction

end Grammar

end Packrat
