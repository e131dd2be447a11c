import Mathlib
import Packrat.Proofs.Grammar.Building
import Packrat.Proofs.Matching.Memoization
import Packrat.Proofs.Session.Requests

/-!
# Sessions that remember

Whatever was asked of a session before, what it remembers keeps the invariant of the engine
(`Session.sound_after`). A request is therefore answered with what its trace says, unless the trace
was stopped by the limit on the depth (`Session.answer_after_eq_report`), and that is also what a
session answers that remembers nothing (`Grammar.answer_after_eq_answer_withoutMemory`).

Actions run at most once at each offset, over the whole life of a session. When no trace was
stopped, those that run are the ones that would run without memory, less all but the first at each
place (`Grammar.invocations_after`).
-/

set_option autoImplicit false
set_option relaxedAutoImplicit false

namespace Packrat

/-! ### What traces say of requests -/

def Grammar.requestTrace (grammar : Grammar) (text : Text) (request : Request) : Trace Reply :=
  request.evaluation grammar text (grammar.trace text grammar.config.maxDepth)

/-- A request, read for deepenings, has the traces of the request. -/
theorem Grammar.trace_evaluation_deepening (grammar : Grammar) (text : Text) (request : Request)
    (room : Nat) :
    (request.evaluation grammar text (grammar.deepening text)).trace room =
      request.evaluation grammar text (grammar.trace text room) :=
  ((Deepening.projection room).holds_evaluation True.intro (fun _ ↦ True.intro)
    (fun _ _ _ ↦ ⟨rfl, fun _ _ ↦ True.intro⟩) request).1

def Trace.report {α : Type} (trace : Trace α) (text : Text) : Except ParseError α :=
  trace.outcome.mapError (Halt.toError text (furthestAfter none trace.events))

/-- The limit is reported of an evaluation that was stopped, and only of such an evaluation. -/
theorem hitsLimit_mapError_iff {α : Type} {outcome : Except Halt α} {text : Text}
    {furthest : Option Failure} :
    HitsLimit (outcome.mapError (Halt.toError text furthest)) ↔ IsLimited outcome := by
  match outcome with
  | .ok value => simp [HitsLimit, Except.mapError]
  | .error (.failure failure) => simp [HitsLimit, Except.mapError, Halt.toError]
  | .error (.error (.mismatch report)) => simp [HitsLimit, Except.mapError, Halt.toError, IsLimited]
  | .error (.error (.grammar error)) => simp [HitsLimit, Except.mapError, Halt.toError, IsLimited]
  | .error (.error (.recursionLimit offset limit)) =>
    simp [HitsLimit, Except.mapError, Halt.toError, IsLimited]
  | .error (.error .endless) => simp [HitsLimit, Except.mapError, Halt.toError, IsLimited]

/-- The limit is reported of a trace that was stopped, and only of such a trace. -/
theorem Trace.hitsLimit_report_iff {α : Type} {trace : Trace α} {text : Text} :
    HitsLimit (trace.report text) ↔ trace.Limited := hitsLimit_mapError_iff

namespace Session

variable {session : Session}

/-! ### Without memory -/

/-- In a session that remembers nothing the evaluation of a request does what its trace says. -/
theorem performs_evaluation (hplain : session.grammar.config.packrat = false) (request : Request) :
    Performs (request.evaluation session.grammar session.text session.matcher)
      (session.grammar.requestTrace session.text request) fun _ ↦ True :=
  performance.holds_evaluation True.intro (fun _ ↦ True.intro)
    (fun id offset _ ↦ session.grammar.performs_evaluate hplain session.text _ id offset) request

/-- A session that remembers nothing answers what the trace of the request says, and runs the
actions of the trace. -/
theorem answer_of_not_packrat (hplain : session.grammar.config.packrat = false)
    (request : Request) : ∃ counters,
      session.answer request =
        ((session.grammar.requestTrace session.text request).report session.text,
          session.keep (session.state.after
            (session.grammar.requestTrace session.text request).events counters)) := by
  obtain ⟨counters, hrun⟩ := (performs_evaluation hplain request).1 session.state
  refine ⟨counters, ?_⟩
  rw [answer_eq_run, run_eq hrun]
  rfl

/-! ### With memory -/

/-- The invariant of a session: what it remembers is right. -/
def Sound (session : Session) : Prop := session.state.Sound session.grammar session.text

theorem sound_start (grammar : Grammar) (text : Text) : (start grammar text).Sound :=
  EngineState.sound_empty grammar text

/-- In a session that remembers the evaluation of a request is faithful to its traces. -/
theorem faithful_evaluation (hpackrat : session.grammar.config.packrat = true) (request : Request) :
    Faithful session.grammar session.text session.grammar.config.maxDepth
      (request.evaluation session.grammar session.text session.matcher)
      (request.evaluation session.grammar session.text (session.grammar.deepening session.text))
      fun _ ↦ True :=
  (faithfulness session.grammar session.text _).holds_evaluation True.intro (fun _ ↦ True.intro)
    (fun id offset _ ↦ session.grammar.faithful_evaluate hpackrat _ id offset) request

/-- How a session that remembers answers a request. -/
theorem answer_of_packrat (hpackrat : session.grammar.config.packrat = true)
    (hsound : session.Sound) (request : Request) :
    (session.answer request).2.Sound ∧
      (¬ (session.grammar.requestTrace session.text request).Limited →
        (session.answer request).1 =
          (session.grammar.requestTrace session.text request).report session.text ∧
        (session.answer request).2.invocations.toList =
          runsAfter session.invocations.toList
            (runsOf (session.grammar.requestTrace session.text request).events)) := by
  obtain ⟨hafter, hagrees, -⟩ := faithful_evaluation hpackrat request session.state hsound
  have htrace : (request.evaluation session.grammar session.text
      (session.grammar.deepening session.text)).trace session.grammar.config.maxDepth =
        session.grammar.requestTrace session.text request :=
    session.grammar.trace_evaluation_deepening session.text request _
  match hrun : request.evaluation session.grammar session.text session.matcher session.state with
  | (outcome, after) =>
    rw [hrun] at hafter hagrees
    rw [answer_eq_run, run_eq hrun]
    refine ⟨hafter.of_eq rfl rfl, fun hunlimited ↦ ?_⟩
    rcases hagrees with ⟨-, hstopped⟩ | ⟨enough, hreached, hreproduces⟩
    · rw [htrace] at hstopped
      exact absurd hstopped hunlimited
    · rw [← htrace] at hunlimited
      rw [Deepening.trace_unique _ hreached hunlimited, htrace] at hreproduces
      obtain ⟨houtcome, hfurthest, hruns⟩ := hreproduces
      refine ⟨?_, hruns⟩
      change outcome = _ at houtcome
      change after.furthest = _ at hfurthest
      rw [houtcome, hfurthest]
      rfl

/-! ### After other requests -/

/-- Requests keep the invariant, also those that end in errors. -/
theorem sound_after (hpackrat : session.grammar.config.packrat = true) (hsound : session.Sound)
    (requests : List Request) : (session.after requests).Sound := by
  induction requests generalizing session with
  | nil => exact hsound
  | cons request rest ih =>
    have hgrammar : (session.answer request).2.grammar = session.grammar :=
      session.grammar_after [request]
    exact ih (hgrammar ▸ hpackrat) (answer_of_packrat hpackrat hsound request).1

/-- Whatever was asked before, a request is answered with what its trace says. -/
theorem answer_after_eq_report (grammar : Grammar) (text : Text) (history : List Request)
    (request : Request) (hunlimited : ¬ (grammar.requestTrace text request).Limited) :
    (((start grammar text).after history).answer request).1 =
      (grammar.requestTrace text request).report text := by
  have hgrammar : ((start grammar text).after history).grammar = grammar :=
    (start grammar text).grammar_after history
  have htext : ((start grammar text).after history).text = text :=
    (start grammar text).text_after history
  by_cases hpackrat : grammar.config.packrat = true
  · have hanswer := (answer_of_packrat (hgrammar.symm ▸ hpackrat)
      (sound_after hpackrat (sound_start grammar text) history) request).2
    rw [hgrammar, htext] at hanswer
    exact (hanswer hunlimited).1
  · have hplain : ((start grammar text).after history).grammar.config.packrat = false := by
      rw [hgrammar]
      exact Bool.eq_false_iff.mpr hpackrat
    obtain ⟨counters, hanswer⟩ := answer_of_not_packrat hplain request
    rw [hanswer, hgrammar, htext]

/-- A session that remembers answers what some trace of the request says that was not stopped,
unless it is stopped itself by the limit on the depth. -/
theorem hitsLimit_or_exists_report (hpackrat : session.grammar.config.packrat = true)
    (hsound : session.Sound) (request : Request) :
    HitsLimit (session.answer request).1 ∨
      ∃ room, ¬ ((request.evaluation session.grammar session.text
          (session.grammar.deepening session.text)).trace room).Limited ∧
        (session.answer request).1 = ((request.evaluation session.grammar session.text
          (session.grammar.deepening session.text)).trace room).report session.text := by
  obtain ⟨-, hagrees, -⟩ := faithful_evaluation hpackrat request session.state hsound
  match hrun : request.evaluation session.grammar session.text session.matcher session.state with
  | (outcome, after) =>
    rw [hrun] at hagrees
    rw [answer_eq_run, run_eq hrun]
    rcases hagrees with ⟨hstopped, -⟩ | ⟨room, hreached, houtcome, hfurthest, -⟩
    · exact Or.inl (hitsLimit_mapError_iff.mpr hstopped)
    · refine Or.inr ⟨room, hreached, ?_⟩
      change outcome = _ at houtcome
      change after.furthest = _ at hfurthest
      rw [houtcome, hfurthest]
      rfl

/-- A request that succeeds with some room is answered so, whatever was asked before, unless the
limit on the depth is hit. -/
theorem answer_after_eq_ok {grammar : Grammar} {text : Text} {request : Request}
    {room : Nat} {reply : Reply} (hroom :
    (request.evaluation grammar text (grammar.trace text room)).outcome = .ok reply)
    (history : List Request)
    (hreached : ¬ HitsLimit (((start grammar text).after history).answer request).1) :
    (((start grammar text).after history).answer request).1 = .ok reply := by
  have hgrammar : ((start grammar text).after history).grammar = grammar :=
    (start grammar text).grammar_after history
  have htext : ((start grammar text).after history).text = text :=
    (start grammar text).text_after history
  have hunlimited (enough : Nat)
      (henough : ¬ ((request.evaluation grammar text (grammar.deepening text)).trace
        enough).Limited) :
      ((request.evaluation grammar text (grammar.deepening text)).trace enough).report text =
      .ok reply := by
    have hsucceeds : ¬ ((request.evaluation grammar text (grammar.deepening text)).trace
          room).Limited := by
      rw [grammar.trace_evaluation_deepening, Trace.Limited, hroom]
      exact not_isLimited_ok reply
    rw [Deepening.trace_unique _ henough hsucceeds, grammar.trace_evaluation_deepening,
      Trace.report, hroom]
    rfl
  by_cases hpackrat : grammar.config.packrat = true
  · rcases hitsLimit_or_exists_report (hgrammar.symm ▸ hpackrat)
      (sound_after hpackrat (sound_start grammar text) history) request with hlimit
      | ⟨enough, henough, hanswer⟩
    · exact absurd hlimit hreached
    · rw [hanswer]
      rw [hgrammar, htext] at henough ⊢
      exact hunlimited enough henough
  · have hplain : ((start grammar text).after history).grammar.config.packrat = false := by
      rw [hgrammar]
      exact Bool.eq_false_iff.mpr hpackrat
    obtain ⟨counters, hanswer⟩ := answer_of_not_packrat hplain request
    rw [hanswer, hgrammar, htext, Trace.hitsLimit_report_iff, Grammar.requestTrace,
      ← grammar.trace_evaluation_deepening] at hreached
    rw [hanswer, hgrammar, htext, Grammar.requestTrace, ← grammar.trace_evaluation_deepening]
    exact hunlimited _ hreached

/-- When no trace of the requests was stopped, the actions that run in a session that remembers are
those of the traces, less all that ran before at their places. -/
theorem invocations_after (hpackrat : session.grammar.config.packrat = true)
    (hsound : session.Sound) (requests : List Request)
    (hunlimited : ∀ request ∈ requests,
      ¬ (session.grammar.requestTrace session.text request).Limited) :
    (session.after requests).invocations.toList =
      runsAfter session.invocations.toList (requests.flatMap fun request ↦
        runsOf (session.grammar.requestTrace session.text request).events) := by
  induction requests generalizing session with
  | nil => rfl
  | cons request rest ih =>
    have hgrammar : (session.answer request).2.grammar = session.grammar :=
      session.grammar_after [request]
    have htext : (session.answer request).2.text = session.text := session.text_after [request]
    obtain ⟨hafter, hanswer⟩ := answer_of_packrat hpackrat hsound request
    have hrest := ih (hgrammar ▸ hpackrat) hafter (by
      rw [hgrammar, htext]
      exact fun other hother ↦ hunlimited other (List.mem_cons_of_mem _ hother))
    rw [hgrammar, htext, (hanswer (hunlimited request List.mem_cons_self)).2] at hrest
    rw [List.flatMap_cons, runsAfter_append]
    exact hrest

end Session

/-! ### A letter that is tried twice -/

/-- A letter with an action, tried first before another letter and then alone. Almost nothing of it
is remembered. -/
def Draft.retried : Draft where
  rules := [("letter", ⟨1, .action ⟨0, .terminal (.literal "a" false)⟩ [Action.map id]⟩)]
  entry := some (.expr ⟨5, .choice
    [⟨4, .sequence [⟨2, .rule "letter"⟩, ⟨3, .terminal (.literal "b" false)⟩] none⟩,
      ⟨2, .rule "letter"⟩]⟩)
  config := { memoScope := .rules, maxMemoSize := 0 }

/-- The grammar of a letter that is tried twice. -/
def Grammar.retried : Grammar where
  nodes := #[.terminal (.literal "a" false) (some .blanks) "Expected \"a\"",
    .action 0 [Action.map id] (some .blanks), .call 0,
    .terminal (.literal "b" false) (some .blanks) "Expected \"b\"",
    .sequence [2, 3] none, .choice [4, 2]]
  ruleNames := ["letter"]
  ruleBodies := [1]
  entry := some 5
  config := { memoScope := .rules, maxMemoSize := 0 }

/-- The draft of a letter that is tried twice builds into its grammar. -/
theorem Draft.build_retried : Draft.retried.build = .ok Grammar.retried := by
  cbv

/-! ### With and without memory -/

namespace Grammar

/-- The trace of a request does not depend on what is remembered. -/
theorem requestTrace_withoutMemory (grammar : Grammar) (text : Text) (request : Request) :
    grammar.withoutMemory.requestTrace text request = grammar.requestTrace text request := by
  rw [requestTrace, requestTrace, trace_withoutMemory]
  cases request <;> rfl

/-- What a session that remembers nothing and was asked nothing before answers, and which actions it
runs. -/
theorem answer_start_withoutMemory (grammar : Grammar) (text : Text) (request : Request) :
    ((Session.start grammar.withoutMemory text).answer request).1 =
        (grammar.requestTrace text request).report text ∧
      ((Session.start grammar.withoutMemory text).answer request).2.invocations.toList =
        runsOf (grammar.requestTrace text request).events := by
  have hplain : (Session.start grammar.withoutMemory text).grammar.config.packrat = false := rfl
  obtain ⟨counters, hanswer⟩ := Session.answer_of_not_packrat hplain request
  rw [hanswer, ← grammar.requestTrace_withoutMemory text request]
  refine ⟨rfl, ?_⟩
  simp [Session.keep, EngineState.after, Session.state, Session.start]

/-- What is remembered makes no difference to answers. A session that remembers, in any scope and
however little, answers every request as a session without memory that was asked nothing before,
whatever was asked of it before, unless the latter is stopped by the limit on the depth. -/
theorem answer_after_eq_answer_withoutMemory {draft : Draft} {grammar : Grammar}
    (hbuild : draft.build = .ok grammar) (text : Text) (history : List Request) (request : Request)
    (hreached : ¬ HitsLimit ((Session.start grammar.withoutMemory text).answer request).1) :
    draft.withoutMemory.build = .ok grammar.withoutMemory ∧
      (((Session.start grammar text).after history).answer request).1 =
        ((Session.start grammar.withoutMemory text).answer request).1 := by
  refine ⟨Draft.build_withoutMemory hbuild, ?_⟩
  rw [(grammar.answer_start_withoutMemory text request).1, Trace.hitsLimit_report_iff] at hreached
  rw [(grammar.answer_start_withoutMemory text request).1]
  exact Session.answer_after_eq_report grammar text history request hreached

/-- A scan of two letters is answered alike after other requests. -/
theorem answer_after_retried :
    Draft.retried.build = .ok retried ∧
      ¬ HitsLimit ((Session.start retried.withoutMemory (.ofChars ['a', 'a'])).answer .scan).1 ∧
      (((Session.start retried (.ofChars ['a', 'a'])).after [.parse true, .scan]).answer .scan).1 =
        ((Session.start retried.withoutMemory (.ofChars ['a', 'a'])).answer .scan).1 := by
  have hreached :
      ¬ HitsLimit ((Session.start retried.withoutMemory (.ofChars ['a', 'a'])).answer .scan).1 :=
    not_hitsLimit_of_isOk (by cbv)
  exact ⟨Draft.build_retried, hreached,
    (answer_after_eq_answer_withoutMemory Draft.build_retried (.ofChars ['a', 'a'])
      [.parse true, .scan] .scan hreached).2⟩

/-- Actions run at most once at each offset in a session that remembers, whatever is asked of it.
They are the ones that run without memory, of which at each place only the first is left, when none
of the requests is stopped by the limit on the depth. -/
theorem invocations_after_eq_firstRuns {draft : Draft} {grammar : Grammar}
    (hbuild : draft.build = .ok grammar) (hpackrat : grammar.config.packrat = true) (text : Text)
    (requests : List Request) :
    draft.withoutMemory.build = .ok grammar.withoutMemory ∧
      (sites ((Session.start grammar text).after requests).invocations.toList).Nodup ∧
      ((∀ request ∈ requests,
          ¬ HitsLimit ((Session.start grammar.withoutMemory text).answer request).1) →
        ((Session.start grammar text).after requests).invocations.toList =
          firstRuns (requests.flatMap fun request ↦
            ((Session.start grammar.withoutMemory text).answer request).2.invocations.toList)) := by
  have hstart := Session.sound_start grammar text
  refine ⟨Draft.build_withoutMemory hbuild, (Session.sound_after hpackrat hstart requests).once,
    fun hreached ↦ ?_⟩
  have hunlimited : ∀ request ∈ requests, ¬ (grammar.requestTrace text request).Limited := by
    intro request hrequest hlimited
    refine hreached request hrequest ?_
    rw [(grammar.answer_start_withoutMemory text request).1]
    exact Trace.hitsLimit_report_iff.mpr hlimited
  rw [Session.invocations_after hpackrat hstart requests hunlimited]
  simp only [answer_start_withoutMemory, firstRuns]
  rfl

/-- In two scans of two letters, each of which is tried twice, the action runs once for each
letter. -/
theorem invocations_after_retried :
    Draft.retried.build = .ok retried ∧ retried.config.packrat = true ∧
      ((Session.start retried (.ofChars ['a', 'a'])).after [.scan, .scan]).invocations.toList =
        firstRuns ([Request.scan, .scan].flatMap fun request ↦
          ((Session.start retried.withoutMemory (.ofChars ['a', 'a'])).answer
            request).2.invocations.toList) ∧
      ((Session.start retried (.ofChars ['a', 'a'])).after [.scan, .scan]).invocations.size =
        2 := by
  have hscan :
      ¬ HitsLimit ((Session.start retried.withoutMemory (.ofChars ['a', 'a'])).answer .scan).1 :=
    not_hitsLimit_of_isOk (by cbv)
  refine ⟨Draft.build_retried, rfl, ?_, by cbv⟩
  refine (invocations_after_eq_firstRuns Draft.build_retried rfl (.ofChars ['a', 'a'])
    [.scan, .scan]).2.2 ?_
  simpa using hscan

end Grammar

end Packrat
