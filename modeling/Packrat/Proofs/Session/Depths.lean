import Packrat.Proofs.Session.Transparency

/-!
# Greater limits on the depth

The limit on the depth is an error that nothing catches: no combination of evaluations goes back
over it, no lookahead takes it for a failure, and the engine does not remember it. So an evaluation
that it does not stop does the same with more room, in every state and under every configuration of
the memory: it has the same outcome and leaves the same state (`Engine.Survives`,
`Grammar.survives_evaluate`). A session in which the limit stops no request therefore answers alike
with every greater limit (`Draft.answer_after_of_le_depth`).

Comparing with traces would not do. Where outcomes are remembered, the engine may come through with
less room than the trace needs.
-/

set_option autoImplicit false
set_option relaxedAutoImplicit false

namespace Packrat

open MatchMonad

/-! ### Limits -/

/-- The configuration with another limit on the depth. -/
def Config.withDepth (config : Config) (depth : Nat) : Config := { config with maxDepth := depth }

/-- The draft with another limit on the depth. -/
def Draft.withDepth (draft : Draft) (depth : Nat) : Draft :=
  draft.withConfig (draft.config.withDepth depth)

/-- The grammar with another limit on the depth. -/
def Grammar.withDepth (grammar : Grammar) (depth : Nat) : Grammar :=
  grammar.withConfig (grammar.config.withDepth depth)

/-- A draft builds with every limit on the depth when it builds with one. -/
theorem Draft.build_withDepth {draft : Draft} {grammar : Grammar}
    (hbuild : draft.build = .ok grammar) (depth : Nat) :
    (draft.withDepth depth).build = .ok (grammar.withDepth depth) := by
  rw [Grammar.withDepth, config_of_build hbuild]
  exact build_withConfig hbuild rfl

/-! ### Evaluations with more room -/

/-- An evaluation that is not stopped by the limit does the same as another one, in every state, and
its value has a property. -/
def Engine.Survives {α : Type} (less more : Engine α) (property : α → Prop) : Prop :=
  ∀ state : EngineState, IsLimited (less state).1 ∨
    (more state = less state ∧ ∀ value, (less state).1 = .ok value → property value)

/-- The operations keep evaluations that survive. -/
def surviving : Correspondence Engine Engine where
  Holds := Engine.Survives
  Allows _ := True
  holds_mono hholds himp state :=
    (hholds state).imp_right fun ⟨hsame, hvalue⟩ ↦
    ⟨hsame, fun value hok ↦ himp value (hvalue value hok)⟩
  holds_pure value hvalue state := Or.inr ⟨rfl, fun _ hok ↦ Except.ok.inj hok ▸ hvalue⟩
  holds_bind {α β first second next next' property goal} hfirst hnext := by
    intro state
    match hrun : first state with
    | (.error halt, after) =>
      rw [Engine.bind_of_error hrun]
      refine (hfirst state).imp (fun hlimited ↦ ?_) fun ⟨hsame, _⟩ ↦ ⟨?_, fun _ hok ↦ nomatch hok⟩
      · rw [hrun] at hlimited
        exact (isLimited_error_iff halt).mp hlimited
      · exact Engine.bind_of_error (hsame.trans hrun) _
    | (.ok value, middle) =>
      rw [Engine.bind_of_ok hrun]
      rcases hfirst state with hlimited | ⟨hsame, hvalue⟩
      · rw [hrun] at hlimited
        exact absurd hlimited (not_isLimited_ok value)
      · rw [Engine.bind_of_ok (hsame.trans hrun)]
        exact hnext value (hvalue value (congrArg Prod.fst hrun)) middle
  holds_failure failure state := Or.inr ⟨rfl, fun _ hok ↦ nomatch hok⟩
  holds_error error _ state := Or.inr ⟨rfl, fun _ hok ↦ nomatch hok⟩
  holds_attempt {α first second property} hholds := by
    intro state
    match hrun : first state with
    | (.ok value, after) =>
      rcases hholds state with hlimited | ⟨hsame, hvalue⟩
      · rw [hrun] at hlimited
        exact absurd hlimited (not_isLimited_ok value)
      · rw [Engine.attempt_of_ok hrun, Engine.attempt_of_ok (hsame.trans hrun)]
        refine Or.inr ⟨rfl, ?_⟩
        rintro result hok other rfl
        cases hok
        exact hvalue value (congrArg Prod.fst hrun)
    | (.error (.failure failure), after) =>
      rcases hholds state with hlimited | ⟨hsame, -⟩
      · rw [hrun] at hlimited
        exact absurd hlimited (not_isLimited_failure failure)
      · rw [Engine.attempt_of_failure hrun, Engine.attempt_of_failure (hsame.trans hrun)]
        refine Or.inr ⟨rfl, ?_⟩
        rintro result hok other rfl
        cases hok
    | (.error (.error error), after) =>
      rw [Engine.attempt_of_error hrun]
      refine (hholds state).imp (fun hlimited ↦ ?_) fun ⟨hsame, _⟩ ↦ ⟨?_, fun _ hok ↦ nomatch hok⟩
      · rw [hrun] at hlimited
        exact (isLimited_error_iff _).mp hlimited
      · exact Engine.attempt_of_error (hsame.trans hrun)
  holds_record failure state := Or.inr ⟨rfl, fun _ _ ↦ True.intro⟩
  holds_shield {α first second property} hholds := by
    intro state
    rw [Engine.shield_apply, Engine.shield_apply]
    exact (hholds state).imp_right fun ⟨hsame, hvalue⟩ ↦ ⟨by rw [hsame], hvalue⟩

namespace Engine.Survives

variable {less more : Engine Match}

theorem counted (hsurvives : less.Survives more fun _ ↦ True) :
    (Engine.counted less).Survives (Engine.counted more) fun _ ↦ True :=
  fun _ ↦ hsurvives _

/-- Remembering outcomes: what was stopped is not remembered, and anything else is remembered
alike. -/
theorem learn (hsurvives : less.Survives more fun _ ↦ True) (capacity : Nat)
    (pinned : Bool) (id : NodeId) (offset : Nat) :
    (Engine.learn capacity pinned id offset less).Survives
      (Engine.learn capacity pinned id offset more) fun _ ↦ True := by
  intro state
  rcases hsurvives { state with
      furthest := none
      counters := { state.counters with misses := state.counters.misses + 1 } }
        with hlimited | ⟨hsame, -⟩
  · exact Or.inl hlimited
  · refine Or.inr ⟨?_, fun _ _ ↦ True.intro⟩
    simp only [Engine.learn, hsame]

theorem memoized (hsurvives : less.Survives more fun _ ↦ True) (capacity : Nat)
    (pinned : Bool) (id : NodeId) (offset : Nat) :
    (Engine.memoized capacity pinned id offset less).Survives
      (Engine.memoized capacity pinned id offset more) fun _ ↦ True := by
  intro state
  unfold Engine.memoized
  split
  · exact Or.inr ⟨rfl, fun _ _ ↦ True.intro⟩
  · exact hsurvives.learn capacity pinned id offset state

end Engine.Survives

namespace Grammar

variable {grammar : Grammar} {text : Text}

/-- What the engine does around a node does not depend on the limit. -/
theorem survives_layer {less more : Engine Match} (hsurvives : less.Survives more fun _ ↦ True)
    (depth : Nat) (id : NodeId) (offset : Nat) :
    (grammar.layer id offset less).Survives ((grammar.withDepth depth).layer id offset more)
      fun _ ↦ True := by
  have hlayer : (grammar.withDepth depth).layer id offset more = grammar.layer id offset more := rfl
  rw [hlayer]
  unfold layer
  dsimp only
  split
  · exact hsurvives.counted.memoized _ _ id offset
  · exact hsurvives.counted

/-- An evaluation that is not stopped does the same with more room, whatever limit it would report.
The induction is on the room. -/
theorem survives_evaluate (depth : Nat) {room : Nat} :
    ∀ {more : Nat}, room ≤ more → ∀ (id : NodeId) (offset : Nat),
      (grammar.evaluate text room id offset).Survives
        ((grammar.withDepth depth).evaluate text more id offset) fun _ ↦ True := by
  induction room with
  | zero => exact fun _ _ _ _ ↦ Or.inl True.intro
  | succ room ih =>
    intro more hmore id offset
    obtain ⟨rest, rfl⟩ : ∃ rest, more = rest + 1 := ⟨more - 1, by omega⟩
    have hmeets : surviving.Meets .trivial (grammar.evaluate text room)
        ((grammar.withDepth depth).evaluate text rest) :=
      ⟨fun child place _ ↦ ih (Nat.le_of_succ_le_succ hmore) child place, fun _ _ ↦ True.intro⟩
    have hmatcher : ((grammar.node id).matcher grammar text (grammar.evaluate text room) id
        offset).Survives ((grammar.node id).matcher grammar text
          ((grammar.withDepth depth).evaluate text rest) id offset) fun _ ↦ True :=
      hmeets.holds_matcher_of_invoke (fun _ _ ↦ Or.inr ⟨rfl, fun _ _ ↦ True.intro⟩)
        ((grammar.node id).demands_trivial grammar text offset)
    rw [← grammar.matcher_withConfig (grammar.config.withDepth depth) text _ id
      (grammar.node id)] at hmatcher
    exact survives_layer hmatcher depth id offset

end Grammar

/-! ### Sessions -/

namespace Session

/-- The session with another limit on the depth. -/
def withDepth (session : Session) (depth : Nat) : Session :=
  { session with grammar := session.grammar.withDepth depth }

/-- None of some requests in order is stopped by the limit on the depth. -/
def Unstopped (session : Session) : List Request → Prop
  | [] => True
  | request :: rest => ¬ HitsLimit (session.answer request).1 ∧
      (session.answer request).2.Unstopped rest

variable {session : Session} {depth : Nat}

/-- A session answers a request that is not stopped as it does with a greater limit, and keeps the
same. -/
theorem answer_withDepth (hdepth : session.grammar.config.maxDepth ≤ depth) {request : Request}
    (hreached : ¬ HitsLimit (session.answer request).1) :
    (session.withDepth depth).answer request =
      ((session.answer request).1, (session.answer request).2.withDepth depth) := by
  have hsurvives : (request.evaluation session.grammar session.text session.matcher).Survives
      (request.evaluation session.grammar session.text (session.withDepth depth).matcher) fun _ ↦
      True :=
    surviving.holds_evaluation True.intro (fun _ ↦ True.intro)
      (fun id offset _ ↦ Grammar.survives_evaluate depth hdepth id offset) request
  have hevaluation : request.evaluation (session.withDepth depth).grammar session.text
      (session.withDepth depth).matcher =
        request.evaluation session.grammar session.text (session.withDepth depth).matcher := by
    cases request <;> rfl
  rcases hrun : request.evaluation session.grammar session.text session.matcher session.state
    with ⟨outcome, after⟩
  have hanswer := (session.answer_eq_run request).trans (run_eq hrun)
  rw [hanswer] at hreached ⊢
  rcases hsurvives session.state with hlimited | ⟨hsame, -⟩
  · rw [hrun] at hlimited
    exact absurd (hitsLimit_mapError_iff.mpr hlimited) hreached
  · rw [hrun, ← hevaluation] at hsame
    rw [answer_eq_run]
    exact run_eq hsame

/-- Requests that are not stopped leave the same with a greater limit. -/
theorem after_withDepth {history : List Request} :
    ∀ {session : Session}, session.grammar.config.maxDepth ≤ depth → session.Unstopped history →
      (session.withDepth depth).after history = (session.after history).withDepth depth := by
  induction history with
  | nil => exact fun _ _ ↦ rfl
  | cons request rest ih =>
    intro session hdepth hunstopped
    obtain ⟨hreached, hrest⟩ := hunstopped
    have hgrammar : (session.answer request).2.grammar = session.grammar :=
      session.grammar_after [request]
    change ((session.withDepth depth).answer request).2.after rest = _
    rw [answer_withDepth hdepth hreached]
    exact ih (hgrammar ▸ hdepth) hrest

end Session

/-- The limit on the depth only stops requests. A draft builds with every limit. If a session of its
grammar stopped no request with one limit, it answers the next one alike with every greater limit,
and keeps the same, unless it stops that one. -/
theorem Draft.answer_after_of_le_depth {draft : Draft} {grammar : Grammar}
    (hbuild : draft.build = .ok grammar) {less more : Nat} (hle : less ≤ more) (text : Text)
    {history : List Request} (hunstopped : (Session.start (grammar.withDepth less) text).Unstopped
      history) {request : Request}
    (hreached : ¬ HitsLimit (((Session.start (grammar.withDepth less) text).after history).answer
      request).1) :
    (draft.withDepth less).build = .ok (grammar.withDepth less) ∧
      (draft.withDepth more).build = .ok (grammar.withDepth more) ∧
      ((Session.start (grammar.withDepth more) text).after history).answer request =
        ((((Session.start (grammar.withDepth less) text).after history).answer request).1,
          (((Session.start (grammar.withDepth less) text).after history).answer request).2.withDepth
            more) := by
  have hstart : Session.start (grammar.withDepth more) text =
      (Session.start (grammar.withDepth less) text).withDepth more := rfl
  have hdepth :
    (((Session.start (grammar.withDepth less) text).after history)).grammar.config.maxDepth ≤
    more := by
    rw [Session.grammar_after]
    exact hle
  refine ⟨build_withDepth hbuild less, build_withDepth hbuild more, ?_⟩
  rw [hstart, Session.after_withDepth hle hunstopped]
  exact Session.answer_withDepth hdepth hreached

/-- Two letters are scanned and then parsed with as much room as that takes, and alike with more. -/
theorem Draft.answer_after_of_le_depth_retried :
    Draft.retried.build = .ok .retried ∧ 5 ≤ 9 ∧
      (Session.start (Grammar.retried.withDepth 5) (.ofChars ['a', 'b'])).Unstopped [.scan] ∧
      ¬ HitsLimit (((Session.start (Grammar.retried.withDepth 5) (.ofChars ['a', 'b'])).after
        [.scan]).answer (.parse true)).1 ∧
      (((Session.start (Grammar.retried.withDepth 9) (.ofChars ['a', 'b'])).after [.scan]).answer
          (.parse true)).1 =
        (((Session.start (Grammar.retried.withDepth 5) (.ofChars ['a', 'b'])).after [.scan]).answer
          (.parse true)).1 := by
  have hunstopped : (Session.start (Grammar.retried.withDepth 5) (.ofChars ['a', 'b'])).Unstopped
      [.scan] :=
    ⟨not_hitsLimit_of_isOk (by cbv), True.intro⟩
  have hreached :
      ¬ HitsLimit (((Session.start (Grammar.retried.withDepth 5) (.ofChars ['a', 'b'])).after
        [.scan]).answer (.parse true)).1 := not_hitsLimit_of_isOk (by cbv)
  have hsame := answer_after_of_le_depth build_retried (show 5 ≤ 9 by decide)
    (.ofChars ['a', 'b']) hunstopped hreached
  exact ⟨build_retried, by decide, hunstopped, hreached, by rw [hsame.2.2]⟩

end Packrat
