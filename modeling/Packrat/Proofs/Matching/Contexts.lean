import Packrat.Proofs.Matching.Endings

/-!
# What actions see

An action sees where its expression matched: the match of the child ends where the child says, and
starts after the characters that the node itself skips (`Grammar.Sees`). So it is in every session,
also in one that was stopped by the limit on the depth: whatever runs an action has evaluated the
child of its node before, from a state in which what is remembered is right
(`Grammar.attests_evaluate`).

Runs of actions come from the matchers of nodes with actions only. What the engine does around a
node adds none (`Grammar.invocations_layer`), and the other operations keep those that there are
(`Engine.attesting`).
-/

set_option autoImplicit false
set_option relaxedAutoImplicit false

namespace Packrat

open MatchMonad

/-! ### Runs of the actions of a node -/

/-- The actions of a node run at its offset and see one and the same place. -/
theorem eq_of_mem_runsOf_runActions {node offset : Nat} {context : Context} {actions : List Action}
    {run : Invocation} :
    ∀ {index : Nat} {results : Results},
      run ∈ runsOf (Matcher.runActions node offset context index actions results :
        Trace Results).events →
      run.node = node ∧ run.offset = offset ∧ run.context = context := by
  induction actions with
  | nil => exact fun hrun ↦ absurd hrun List.not_mem_nil
  | cons action rest ih =>
    intro index results hrun
    simp only [Matcher.runActions] at hrun
    rw [Trace.bind_of_ok rfl, runsOf_append] at hrun
    rcases List.mem_append.mp hrun with hfirst | hlater
    · rw [List.mem_singleton.mp hfirst]
      exact ⟨rfl, rfl, rfl⟩
    · split at hlater
      · exact ih hlater
      · exact ih hlater
      · cases hlater

theorem eq_of_mem_runsOf_actOn {text : Text} {skip : Option CharSet} {id : NodeId}
    {actions : List Action} {offset : Nat} {found : Match} {run : Invocation}
    (hrun : run ∈ runsOf (actOn text skip id actions offset found : Trace Match).events) :
    run.node = id ∧ run.offset = offset ∧
      run.context = ⟨text, min (skipFrom skip text offset) found.stop, found.stop⟩ := by
  unfold actOn at hrun
  match hacted :
      (Matcher.runActions id offset ⟨text, min (skipFrom skip text offset) found.stop, found.stop⟩ 0
        actions
      found.results : Trace Results).outcome with
  | .ok results =>
    rw [Trace.bind_of_ok hacted, runsOf_append] at hrun
    exact eq_of_mem_runsOf_runActions ((List.mem_append.mp hrun).resolve_right fun hnone ↦
      nomatch hnone)
  | .error halt =>
    rw [Trace.bind_of_error hacted] at hrun
    exact eq_of_mem_runsOf_runActions hrun

/-! ### The engine -/

/-- A run of an action is one of a node whose child matches at the offset of the run. It sees where
that match ends, and as its start the end of the characters that the node skips there, or the end of
the match if that comes first. -/
def Grammar.Sees (grammar : Grammar) (text : Text) (run : Invocation) : Prop :=
  ∃ child actions skip found, grammar.node run.node = .action child actions skip ∧
    grammar.ending text child run.offset = .ended found ∧
    run.context = ⟨text, min (skipFrom skip text run.offset) found.stop, found.stop⟩

/-- What the actions of a node see is a matter of what its child comes to. -/
theorem Grammar.Sees.exists_match {grammar : Grammar} {text : Text} {run : Invocation}
    (hsees : grammar.Sees text run) {child : NodeId} {actions : List Action} {skip : Option CharSet}
    (hnode : grammar.node run.node = .action child actions skip) :
    ∃ found, grammar.ending text child run.offset = .ended found ∧
      run.context = ⟨text, min (skipFrom skip text run.offset) found.stop, found.stop⟩ := by
  obtain ⟨inner, others, set, found, hother, hfound, hcontext⟩ := hsees
  obtain ⟨rfl, rfl, rfl⟩ := Node.action.inj (hnode.symm.trans hother)
  exact ⟨found, hfound, hcontext⟩

/-- What is remembered is right, and all actions that ran saw what their nodes matched. -/
structure EngineState.Attests (grammar : Grammar) (text : Text) (state : EngineState) : Prop where
  /-- What is remembered is right. -/
  valid : state.Valid grammar text
  /-- Actions saw what their nodes matched. -/
  runs : ∀ run ∈ state.invocations.toList, grammar.Sees text run

variable {grammar : Grammar} {text : Text}

/-- Only what is remembered and the runs of actions matter. -/
theorem EngineState.Attests.of_eq {state other : EngineState} (hstate : state.Attests grammar text)
    (hmemo : other.memo = state.memo) (hruns : other.invocations = state.invocations) :
    other.Attests grammar text :=
  ⟨hstate.valid.of_eq hmemo hruns, hruns.symm ▸ hstate.runs⟩

/-- The operations other than runs of actions keep what states attest. -/
def Engine.attesting (grammar : Grammar) (text : Text) : Correspondence Engine Engine where
  Holds evaluation _ property := ∀ state : EngineState, state.Attests grammar text →
    (evaluation state).2.Attests grammar text ∧ ∀ value, (evaluation state).1 = .ok value →
    property value
  Allows _ := True
  holds_mono hholds himp := fun state hstate ↦
    ⟨(hholds state hstate).1, fun value hvalue ↦ himp value ((hholds state hstate).2 value hvalue)⟩
  holds_pure value hvalue := fun state hstate ↦ ⟨hstate, fun _ hsame ↦ Except.ok.inj hsame ▸ hvalue⟩
  holds_bind {α β first second next next' property goal} hfirst hnext := by
    intro state hstate
    obtain ⟨hmiddle, hgives⟩ := hfirst state hstate
    match hrun : first state with
    | (.ok value, middle) =>
      rw [hrun] at hmiddle hgives
      rw [Engine.bind_of_ok hrun]
      exact hnext value (hgives value rfl) middle hmiddle
    | (.error halt, after) =>
      rw [hrun] at hmiddle
      rw [Engine.bind_of_error hrun]
      exact ⟨hmiddle, fun _ hsame ↦ nomatch hsame⟩
  holds_failure failure := fun state hstate ↦ ⟨hstate, fun _ hsame ↦ nomatch hsame⟩
  holds_error error _ := fun state hstate ↦ ⟨hstate, fun _ hsame ↦ nomatch hsame⟩
  holds_attempt {α first second property} hholds := by
    intro state hstate
    obtain ⟨hafter, hgives⟩ := hholds state hstate
    match hrun : first state with
    | (.ok value, after) =>
      rw [hrun] at hafter hgives
      rw [Engine.attempt_of_ok hrun]
      refine ⟨hafter, fun result hresult other hother ↦ hgives other ?_⟩
      rw [← Except.ok.inj hresult] at hother
      rw [Except.ok.inj hother]
    | (.error (.failure failure), after) =>
      rw [hrun] at hafter
      rw [Engine.attempt_of_failure hrun]
      refine ⟨hafter, fun result hresult other hother ↦ ?_⟩
      rw [← Except.ok.inj hresult] at hother
      cases hother
    | (.error (.error error), after) =>
      rw [hrun] at hafter
      rw [Engine.attempt_of_error hrun]
      exact ⟨hafter, fun _ hsame ↦ nomatch hsame⟩
  holds_record failure := fun state hstate ↦ ⟨hstate.of_eq rfl rfl, fun _ _ ↦ True.intro⟩
  holds_shield hholds := fun state hstate ↦
    ⟨(hholds state hstate).1.of_eq rfl rfl, (hholds state hstate).2⟩

namespace Grammar

variable {id : NodeId} {offset : Nat}

/-- Around a node the engine runs no actions: those that ran after it are those that ran before, or
those that ran after the evaluation of the node with the same things remembered. -/
theorem invocations_layer (grammar : Grammar) (id : NodeId) (offset : Nat)
    (evaluation : Engine Match) (state : EngineState) :
    (grammar.layer id offset evaluation state).2.invocations = state.invocations ∨
      ∃ fresh : EngineState, fresh.memo = state.memo ∧ fresh.invocations = state.invocations ∧
        (grammar.layer id offset evaluation state).2.invocations =
          (evaluation fresh).2.invocations := by
  by_cases hremembers : grammar.remembers (grammar.node id) = true
  · rw [layer, if_pos hremembers]
    unfold Engine.memoized
    split
    next found hfind => exact Or.inl (EngineState.invocations_recordAll _)
    next =>
      refine Or.inr ⟨{ state with
        furthest := none
        counters := { state.counters with
          misses := state.counters.misses + 1
          evaluations := state.counters.evaluations + 1 } }, rfl, rfl, ?_⟩
      simp only [Engine.learn, Engine.counted, EngineState.invocations_recordAll]
      split
      · exact EngineState.invocations_remember _ _ _
      · exact EngineState.invocations_remember _ _ _
      · rfl
  · rw [layer, if_neg hremembers]
    exact Or.inr ⟨{ state with
      counters := { state.counters with evaluations := state.counters.evaluations + 1 } },
        rfl, rfl, rfl⟩

/-- The actions of a node see what it matched, if those see what they should that run while its
child is evaluated. -/
theorem sees_matcher_action {room : Nat} {child : NodeId} {actions : List Action}
    {skip : Option CharSet} (hnode : grammar.node id = .action child actions skip)
    {state : EngineState} (hstate : state.Attests grammar text)
    (hchild : (grammar.evaluate text room child offset state).2.Attests grammar text) :
    ∀ run ∈ (((grammar.node id).matcher grammar text (grammar.evaluate text room) id offset
      state).2.invocations).toList,
      grammar.Sees text run := by
  rw [hnode, matcher_action]
  match hrun : grammar.evaluate text room child offset state with
  | (.error halt, after) =>
    rw [hrun] at hchild
    rw [Engine.bind_of_error hrun]
    exact hchild.runs
  | (.ok found, middle) =>
    have hreached : ¬ IsLimited (grammar.evaluate text room child offset state).1 := by
      rw [hrun]
      exact not_isLimited_ok found
    have hfound : grammar.ending text child offset = .ended found := by
      rw [ending_eq_of_evaluate hstate.valid hreached, hrun, Ending.ofOutcome_ok]
    obtain ⟨counters, hacted⟩ := (performs_actOn skip actions found).1 middle
    rw [hrun] at hchild
    rw [Engine.bind_of_ok hrun, hacted]
    intro run hmem
    simp only [EngineState.after, Array.toList_append, List.mem_append] at hmem
    rcases hmem with hbefore | hown
    · exact hchild.runs run hbefore
    · obtain ⟨rfl, rfl, hcontext⟩ := eq_of_mem_runsOf_actOn hown
      exact ⟨child, actions, skip, found, hnode, hfound, hcontext⟩

/-- Evaluations by the engine keep what states attest. The induction is on the room. -/
theorem attests_evaluate (room : Nat) : ∀ (id : NodeId) (offset : Nat),
    (Engine.attesting grammar text).Holds (grammar.evaluate text room id offset)
      (grammar.evaluate text room id offset) fun _ ↦ True := by
  induction room with
  | zero => exact fun _ _ ↦ (Engine.attesting grammar text).holds_error _ True.intro
  | succ room ih =>
    intro id offset state hstate
    have hmeets : (Engine.attesting grammar text).Meets .trivial (grammar.evaluate text room)
        (grammar.evaluate text room) := ⟨fun child place _ ↦ ih child place, fun _ _ ↦ True.intro⟩
    have hmatcher (fresh : EngineState) (hfresh : fresh.Attests grammar text) :
        ∀ run ∈ ((grammar.node id).matcher grammar text (grammar.evaluate text room) id offset
          fresh).2.invocations.toList, grammar.Sees text run := by
      by_cases hplain : (grammar.node id).isAction = false
      · exact (hmeets.holds_matcher hplain (Node.demands_trivial grammar text offset _) fresh
          hfresh).1.runs
      · cases hnode : grammar.node id with
        | action child actions skip =>
          rw [← hnode]
          exact sees_matcher_action hnode hfresh (ih child offset fresh hfresh).1
        | _ => exact absurd (by rw [hnode]; rfl) hplain
    have hlayer : grammar.evaluate text (room + 1) id offset state = grammar.layer id offset
      ((grammar.node id).matcher grammar text (grammar.evaluate text room) id offset) state := rfl
    refine ⟨⟨(answers_evaluate hstate.valid (room + 1) id offset).1, ?_⟩, fun _ _ ↦ True.intro⟩
    rw [hlayer]
    rcases grammar.invocations_layer id offset _ state with hsame | ⟨fresh, hmemo, hruns, hsame⟩
    · rw [hsame]
      exact hstate.runs
    · rw [hsame]
      exact hmatcher fresh (hstate.of_eq hmemo hruns)

end Grammar

end Packrat
