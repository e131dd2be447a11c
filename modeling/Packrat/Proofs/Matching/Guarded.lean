import Packrat.Proofs.Matching.Outcomes

/-!
# Evaluations under guard

A guarded evaluation knows the nodes and offsets whose evaluations it stands inside of, and halts
with an alarm when one of them is to be evaluated again (`Grammar.guarded`). In an accepted grammar
the alarm never goes off: whatever the alarm is, the guarded evaluation does what the plain one does
(`Grammar.guarded_eq_evaluate`). So no node is evaluated at an offset while it is already being
evaluated there, and evaluations cannot go deeper than there are nodes and offsets.

The invariant is that the bound on the depth is smaller for an evaluation than for those that it
stands inside of, so it cannot be one of them.
-/

set_option autoImplicit false
set_option relaxedAutoImplicit false

namespace Packrat

open MatchMonad

/-- Evaluations that know the nodes and offsets whose evaluations they stand inside of. -/
def Guarded (m : Type → Type) (α : Type) := List (NodeId × Nat) → m α

instance {m : Type → Type} [MatchMonad m] : MatchMonad (Guarded m) where
  pure value := fun _ ↦ pure value
  bind first next := fun stack ↦ first stack >>= fun value ↦ next value stack
  halt reason := fun _ ↦ halt reason
  attempt evaluation := fun stack ↦ attempt (evaluation stack)
  record failure := fun _ ↦ record failure
  shield evaluation := fun stack ↦ shield (evaluation stack)
  invoke invocation := fun _ ↦ invoke invocation

namespace Grammar

/-- What the engine does around every node, unless the node is already being evaluated at the
offset: then it halts with an alarm. -/
def guard (grammar : Grammar) (alarm : Halt) (id : NodeId) (offset : Nat)
    (evaluation : Guarded Engine Match) : Guarded Engine Match := fun stack ↦
  if (id, offset) ∈ stack then halt alarm
  else grammar.layer id offset (evaluation ((id, offset) :: stack))

/-- Evaluates a node at an offset with the engine under guard. -/
def guarded (grammar : Grammar) (text : Text) (alarm : Halt) (room : Nat) (id : NodeId)
    (offset : Nat) : Guarded Engine Match :=
  grammar.evaluateWith text (grammar.guard alarm) room id offset

end Grammar

/-! ### Guarded and plain evaluations -/

/-- The operations keep a guarded evaluation the same as a plain one, in the states of which
something is known. -/
def guarding (known : EngineState → Prop)
    (hknown : ∀ state other : EngineState, known state → other.memo = state.memo →
      other.invocations = state.invocations → known other)
    (stack : List (NodeId × Nat)) : Correspondence (Guarded Engine) Engine where
  Holds guarded plain property := ∀ state, known state →
    guarded stack state = plain state ∧ known (plain state).2 ∧
      ∀ value, (plain state).1 = .ok value → property value
  Allows _ := True
  holds_mono hholds himp state hstate :=
    ⟨(hholds state hstate).1, (hholds state hstate).2.1,
      fun value hok ↦ himp value ((hholds state hstate).2.2 value hok)⟩
  holds_pure value hvalue state hstate :=
    ⟨rfl, hstate, fun _ hok ↦ Except.ok.inj hok ▸ hvalue⟩
  holds_bind {α β first second next next' property goal} hfirst hnext := by
    intro state hstate
    obtain ⟨hsame, hmiddle, hvalue⟩ := hfirst state hstate
    match hrun : second state with
    | (.error halt, after) =>
      rw [hrun] at hsame hmiddle
      rw [Engine.bind_of_error hrun]
      exact ⟨Engine.bind_of_error hsame _, hmiddle, fun _ hok ↦ nomatch hok⟩
    | (.ok value, middle) =>
      rw [hrun] at hsame hmiddle hvalue
      rw [Engine.bind_of_ok hrun]
      obtain ⟨hrest, hafter, hgoal⟩ := hnext value (hvalue value rfl) middle hmiddle
      exact ⟨(Engine.bind_of_ok hsame _).trans hrest, hafter, hgoal⟩
  holds_failure failure state hstate := ⟨rfl, hstate, fun _ hok ↦ nomatch hok⟩
  holds_error error _ state hstate := ⟨rfl, hstate, fun _ hok ↦ nomatch hok⟩
  holds_attempt {α first second property} hholds := by
    intro state hstate
    obtain ⟨hsame, hafter, hvalue⟩ := hholds state hstate
    match hrun : second state with
    | (.ok value, after) =>
      rw [hrun] at hsame hafter hvalue
      rw [Engine.attempt_of_ok hrun]
      refine ⟨Engine.attempt_of_ok hsame, hafter, ?_⟩
      rintro result hok other rfl
      cases hok
      exact hvalue value rfl
    | (.error (.failure failure), after) =>
      rw [hrun] at hsame hafter
      rw [Engine.attempt_of_failure hrun]
      refine ⟨Engine.attempt_of_failure hsame, hafter, ?_⟩
      rintro result hok other rfl
      cases hok
    | (.error (.error error), after) =>
      rw [hrun] at hsame hafter
      rw [Engine.attempt_of_error hrun]
      exact ⟨Engine.attempt_of_error hsame, hafter, fun _ hok ↦ nomatch hok⟩
  holds_record failure state hstate :=
    ⟨rfl, hknown state _ hstate rfl rfl, fun _ _ ↦ True.intro⟩
  holds_shield {α first second property} hholds := by
    intro state hstate
    obtain ⟨hsame, hafter, hvalue⟩ := hholds state hstate
    refine ⟨?_, hknown _ _ hafter rfl rfl, hvalue⟩
    change (shield (first stack) : Engine _) state = _
    rw [Engine.shield_apply, Engine.shield_apply, hsame]

/-- What a node with actions does after its child has matched is the same under guard. -/
theorem guarded_actOn (text : Text) (skip : Option CharSet) (id : NodeId) (actions : List Action)
    (offset : Nat) (found : Match) (stack : List (NodeId × Nat)) (state : EngineState) :
    (actOn text skip id actions offset found : Guarded Engine Match) stack state =
      (actOn text skip id actions offset found : Engine Match) state := by
  have hacts : (guarding (fun _ ↦ True) (fun _ _ _ _ _ ↦ True.intro) stack).Holds
      (actOn text skip id actions offset found : Guarded Engine Match)
      (actOn text skip id actions offset found : Engine Match) fun _ ↦ True :=
    Concord.holds_bind _
      (Concord.holds_runActions (fun _ _ _ ↦ ⟨rfl, True.intro, fun _ _ ↦ True.intro⟩)
        id offset _ actions 0 found.results)
      fun _ _ ↦ Concord.holds_pure _ _ True.intro
  exact (hacts state True.intro).1

namespace Grammar

variable {grammar : Grammar} {text : Text} {id : NodeId} {offset : Nat}

/-- What the engine does around a node depends on what the node does in the states that remember the
same. -/
theorem layer_congr {first second : Engine Match} {state : EngineState}
    (hsame : ∀ other : EngineState, other.memo = state.memo →
      other.invocations = state.invocations → first other = second other) :
    grammar.layer id offset first state = grammar.layer id offset second state := by
  have hcounted (other : EngineState) (hmemo : other.memo = state.memo)
      (hruns : other.invocations = state.invocations) :
      Engine.counted first other = Engine.counted second other := hsame _ hmemo hruns
  by_cases hremembers : grammar.remembers (grammar.node id) = true
  · rw [layer, layer, if_pos hremembers, if_pos hremembers]
    unfold Engine.memoized
    split
    · rfl
    · have hrun := hcounted
        { state with
          furthest := none
          counters := { state.counters with misses := state.counters.misses + 1 } } rfl rfl
      simp only [Engine.learn]
      revert hrun
      generalize Engine.counted first _ = result
      rintro rfl
      rfl
  · rw [layer, layer, if_neg hremembers, if_neg hremembers]
    exact hcounted state rfl rfl

/-- A node whose children are the same under guard is the same under guard. -/
theorem guarded_matcher (haccepted : grammar.Accepted) (hhonest : grammar.HasHonestRegexes)
    (hid : id < grammar.nodeCount) {alarm : Halt} {room : Nat} {stack : List (NodeId × Nat)}
    (hchildren : ∀ child place, (grammar.progress text id offset).May child place →
      ∀ state : EngineState, state.Valid grammar text →
        grammar.guarded text alarm room child place stack state =
          grammar.evaluate text room child place state)
    {state : EngineState} (hvalid : state.Valid grammar text) :
    (grammar.node id).matcher grammar text (grammar.guarded text alarm room) id offset stack state =
      (grammar.node id).matcher grammar text (grammar.evaluate text room) id offset state := by
  by_cases hplain : (grammar.node id).isAction = false
  · have hmeets : (guarding (EngineState.Valid grammar text)
        (fun _ _ hstate hmemo hruns ↦ hstate.of_eq hmemo hruns) stack).Meets
          (grammar.progress text id offset) (grammar.guarded text alarm room)
          (grammar.evaluate text room) := by
      refine ⟨fun child place hmay other hother ↦ ⟨hchildren child place hmay other hother,
        (grammar.answers_evaluate hother room child place).1, fun found hfound ↦ ?_⟩,
        fun _ _ ↦ True.intro⟩
      exact endsAfter_of_evaluate haccepted hhonest hother hmay.1 hfound
    exact (hmeets.holds_matcher hplain (demands_progress haccepted hhonest hid) state hvalid).1
  · cases hnode : grammar.node id with
    | action child actions skip =>
      have hdemands : (grammar.node id).Demands grammar text
          (grammar.progress text id offset) offset (grammar.EndsAfter text id offset) :=
        demands_progress haccepted hhonest hid
      rw [hnode] at hdemands
      have hchild := hchildren child offset hdemands.1 state hvalid
      rw [grammar.matcher_action, grammar.matcher_action]
      match hrun : grammar.evaluate text room child offset state with
      | (.error halt, after) =>
        rw [hrun] at hchild
        rw [Engine.bind_of_error hrun]
        exact Engine.bind_of_error hchild _
      | (.ok found, after) =>
        rw [hrun] at hchild
        rw [Engine.bind_of_ok hrun]
        refine (Engine.bind_of_ok hchild _).trans ?_
        exact guarded_actOn text skip id actions offset found stack after
    | _ => exact absurd (by rw [hnode]; rfl) hplain

/-- Under guard an evaluation is the same as without, as long as those that it stands inside of may
go deeper than it. The induction is on the room. -/
theorem guarded_eq_of_depthBound_lt (haccepted : grammar.Accepted)
    (hhonest : grammar.HasHonestRegexes) (alarm : Halt) (room : Nat) :
    ∀ (id : NodeId) (offset : Nat) (stack : List (NodeId × Nat)) (state : EngineState),
      id < grammar.nodeCount → state.Valid grammar text →
      (∀ outer ∈ stack,
        grammar.depthBound text id offset < grammar.depthBound text outer.1 outer.2) →
      grammar.guarded text alarm room id offset stack state =
        grammar.evaluate text room id offset state := by
  induction room with
  | zero => exact fun _ _ _ _ _ _ _ ↦ rfl
  | succ room ih =>
    intro id offset stack state hid hvalid hstack
    have hfresh : (id, offset) ∉ stack := fun hmem ↦ Nat.lt_irrefl _ (hstack _ hmem)
    have hguard : grammar.guarded text alarm (room + 1) id offset stack =
        grammar.layer id offset ((grammar.node id).matcher grammar text
          (grammar.guarded text alarm room) id offset ((id, offset) :: stack)) := if_neg hfresh
    have hplain : grammar.evaluate text (room + 1) id offset =
        grammar.layer id offset ((grammar.node id).matcher grammar text
          (grammar.evaluate text room) id offset) := rfl
    rw [hguard, hplain]
    refine layer_congr fun other hmemo hruns ↦ ?_
    refine guarded_matcher haccepted hhonest hid (fun child place hmay inner hinner ↦ ?_)
      (hvalid.of_eq hmemo hruns)
    refine ih child place _ inner hmay.1 hinner fun outer houter ↦ ?_
    have hlt := depthBound_lt_depthBound haccepted hmay
    rcases List.mem_cons.mp houter with rfl | hbefore
    · exact hlt
    · exact Nat.lt_trans hlt (hstack outer hbefore)

/-- Under guard an evaluation that stands inside of no other is the same as without: nothing is
evaluated inside an evaluation of itself. -/
theorem guarded_eq_evaluate (haccepted : grammar.Accepted) (hhonest : grammar.HasHonestRegexes)
    (alarm : Halt) (room : Nat) (hid : id < grammar.nodeCount) {state : EngineState}
    (hvalid : state.Valid grammar text) :
    grammar.guarded text alarm room id offset [] state =
      grammar.evaluate text room id offset state :=
  guarded_eq_of_depthBound_lt haccepted hhonest alarm room id offset [] state hid hvalid
    fun _ houter ↦ nomatch houter

end Grammar

end Packrat
