import Packrat.Proofs.Matching.Tallies
import Packrat.Proofs.Session.Guarantees
import Packrat.Proofs.Session.Promises

/-!
# What sessions count

A session of a grammar that remembers all outcomes and has room for them never forgets any. As long
as its requests are answered with results or with the failure of the text to match, it has evaluated
one node at one offset for each outcome that it remembers, so it does linear work over its whole
life, and a request that was made before is answered again without evaluating anything
(`Grammar.tallied_after`).
-/

set_option autoImplicit false
set_option relaxedAutoImplicit false

namespace Packrat

open MatchMonad

variable {grammar : Grammar} {text : Text} {α β : Type}

/-! ### Evaluating again -/

/-- Where a memory is still held, an evaluation has a certain outcome, remembers nothing more and
counts nothing but hits. -/
def Engine.Repeats (engine : Engine α) (outcome : Except Halt α) (memo : Memo) : Prop :=
  ∀ later : EngineState, later.memo.Extends memo →
    (engine later).1 = outcome ∧ (engine later).2.memo = later.memo ∧
      (engine later).2.counters = { later.counters with hits := (engine later).2.counters.hits }

/-- An evaluation that changes no state repeats. -/
theorem Engine.repeats_constant (outcome : Except Halt α) (memo : Memo) :
    Engine.Repeats (fun state ↦ (outcome, state)) outcome memo :=
  fun _ _ ↦ ⟨rfl, rfl, rfl⟩

/-- One evaluation after another repeats if both do. -/
theorem Engine.Repeats.bind {first : Engine α} {next : α → Engine β} {value : α}
    {outcome : Except Halt β} {middle final : Memo} (hfirst : first.Repeats (.ok value) middle)
    (hnext : (next value).Repeats outcome final) (hgrown : final.Extends middle) :
    Engine.Repeats (first >>= next) outcome final := by
  intro later hlater
  obtain ⟨hvalue, hmemo, hcounters⟩ := hfirst later (hlater.trans hgrown)
  rcases hrun : first later with ⟨given, after⟩
  rw [hrun] at hvalue hmemo hcounters
  cases given with
  | error halt => cases hvalue
  | ok given =>
    obtain rfl := Except.ok.inj hvalue
    change after.memo = later.memo at hmemo
    obtain ⟨houtcome, hsame, hcounted⟩ := hnext after (by rw [hmemo]; exact hlater)
    rw [Engine.bind_of_ok hrun]
    refine ⟨houtcome, hsame.trans hmemo, ?_⟩
    rw [hcounted]
    change after.counters = _ at hcounters
    rw [hcounters]

/-- An evaluation whose first part halts repeats if that part does. -/
theorem Engine.Repeats.bind_error {first : Engine α} {halt : Halt} {memo : Memo}
    (hfirst : first.Repeats (.error halt) memo) (next : α → Engine β) :
    Engine.Repeats (first >>= next) (.error halt) memo := by
  intro later hlater
  obtain ⟨hvalue, hmemo, hcounters⟩ := hfirst later hlater
  rcases hrun : first later with ⟨given, after⟩
  rw [hrun] at hvalue hmemo hcounters
  cases given with
  | ok given => cases hvalue
  | error other =>
    obtain rfl := Except.error.inj hvalue
    rw [Engine.bind_of_error hrun]
    exact ⟨rfl, hmemo, hcounters⟩

/-- An attempt at an evaluation repeats if the evaluation does. -/
theorem Engine.Repeats.attempt {first : Engine α} {stored : Except Failure α} {memo : Memo}
    (hfirst : first.Repeats (stored.mapError .failure) memo) :
    Engine.Repeats (MatchMonad.attempt first) (.ok stored) memo := by
  intro later hlater
  obtain ⟨hvalue, hmemo, hcounters⟩ := hfirst later hlater
  match hrun : first later with
  | (outcome, after) =>
    rw [hrun] at hvalue hmemo hcounters
    change outcome = _ at hvalue
    subst hvalue
    cases stored with
    | ok value =>
      rw [Engine.attempt_of_ok hrun]
      exact ⟨rfl, hmemo, hcounters⟩
    | error failure =>
      rw [Engine.attempt_of_failure hrun]
      exact ⟨rfl, hmemo, hcounters⟩

/-- What holds after an evaluation that began while nothing was pending and did not end with an
error. -/
structure Recounts (grammar : Grammar) (text : Text) (engine : Engine α) (property : α → Prop)
    (place : Nat → Prop) (state : EngineState) : Prop where
  /-- The tally is kept. -/
  tallied : (engine state).2.Tallied grammar text ∅
  /-- What was remembered still is. -/
  grown : (engine state).2.memo.Extends state.memo
  /-- How the evaluation ended. -/
  ended : Ended property place (engine state).1
  /-- The evaluation repeats as long as what it left is remembered. -/
  repeats : engine.Repeats (engine state).1 (engine state).2.memo

/-- The operations keep the tally while nothing is pending, and what they are made of repeats. -/
def Engine.recounting (grammar : Grammar) (text : Text) : Assurance Engine where
  Holds engine property place := ∀ state : EngineState, state.Sound grammar text →
    state.Tallied grammar text ∅ → (engine state).2.Sound grammar text ∧
      (Settled (engine state).1 → Recounts grammar text engine property place state)
  Admits _ := False
  holds_mono hholds himp hplace state hsound htallied := by
    obtain ⟨hafter, hrecounts⟩ := hholds state hsound htallied
    refine ⟨hafter, fun hsettled ↦ ?_⟩
    obtain ⟨hkept, hgrown, hended, hrepeats⟩ := hrecounts hsettled
    exact ⟨hkept, hgrown, hended.mono himp hplace, hrepeats⟩
  holds_pure value hvalue state hsound htallied :=
    ⟨hsound, fun _ ↦ ⟨htallied, .refl _, hvalue, repeats_constant _ _⟩⟩
  holds_bind {α β first next property goal place} hfirst hnext := by
    intro state hsound htallied
    obtain ⟨hmiddle, hrecounts⟩ := hfirst state hsound htallied
    match hrun : first state with
    | (.error halt, after) =>
      rw [hrun] at hmiddle
      have hwhole := Engine.bind_of_error hrun next
      rw [hwhole]
      refine ⟨hmiddle, fun hsettled ↦ ?_⟩
      obtain ⟨hkept, hgrown, hended, hrepeats⟩ := hrecounts (by
        rw [hrun]
        intro error herror
        cases herror
        exact hsettled error rfl)
      rw [hrun] at hkept hgrown hended hrepeats
      constructor <;> rw [hwhole]
      · exact hkept
      · exact hgrown
      · match halt with
        | .failure failure => exact hended
        | .error error => exact True.intro
      · exact hrepeats.bind_error next
    | (.ok value, middle) =>
      obtain ⟨hkept, hgrown, hended, hrepeats⟩ := hrecounts (by
        rw [hrun]
        exact fun _ herror ↦ nomatch herror)
      rw [hrun] at hmiddle hkept hgrown hended hrepeats
      have hwhole := Engine.bind_of_ok hrun next
      rw [hwhole]
      obtain ⟨hafter, hlast⟩ := hnext value hended middle hmiddle hkept
      refine ⟨hafter, fun hsettled ↦ ?_⟩
      obtain ⟨hfinal, hmore, hgoal, hagain⟩ := hlast hsettled
      constructor <;> rw [hwhole]
      · exact hfinal
      · exact hmore.trans hgrown
      · exact hgoal
      · exact hrepeats.bind hagain hmore
  holds_failure failure hplace state hsound htallied :=
    ⟨hsound, fun _ ↦ ⟨htallied, .refl _, hplace, repeats_constant _ _⟩⟩
  holds_error error state hsound htallied := ⟨hsound, fun hsettled ↦ absurd rfl (hsettled error)⟩
  holds_attempt {α evaluation property place} hholds := by
    intro state hsound htallied
    obtain ⟨hafter, hrecounts⟩ := hholds state hsound htallied
    have hattempt (stored : Except Failure α)
        (hstored : (evaluation state).1 = stored.mapError .failure)
        (hrun : (attempt evaluation : Engine _) state = (.ok stored, (evaluation state).2)) :
        Recounts grammar text (attempt evaluation) (Attempted property place) place state := by
      obtain ⟨hkept, hgrown, hended, hrepeats⟩ := hrecounts (by
        rw [hstored]
        intro error herror
        cases stored <;> cases herror)
      constructor <;> rw [hrun]
      · exact hkept
      · exact hgrown
      · rw [hstored] at hended
        cases stored <;> exact hended
      · rw [hstored] at hrepeats
        exact hrepeats.attempt
    match hrun : evaluation state with
    | (.ok value, after) =>
      have hwhole := Engine.attempt_of_ok hrun
      rw [hrun] at hafter hattempt
      rw [hwhole]
      exact ⟨hafter, fun _ ↦ hattempt (.ok value) rfl hwhole⟩
    | (.error (.failure failure), after) =>
      have hwhole := Engine.attempt_of_failure hrun
      rw [hrun] at hafter hattempt
      rw [hwhole]
      exact ⟨hafter, fun _ ↦ hattempt (.error failure) rfl hwhole⟩
    | (.error (.error error), after) =>
      rw [Engine.attempt_of_error hrun]
      rw [hrun] at hafter
      exact ⟨hafter, fun hsettled ↦ absurd rfl (hsettled error)⟩
  holds_record failure hplace state hsound htallied :=
    ⟨hsound.of_eq rfl rfl, fun _ ↦ ⟨htallied.of_eq rfl rfl, .refl _, True.intro,
      fun _ _ ↦ ⟨rfl, rfl, rfl⟩⟩⟩
  holds_shield hholds state hsound htallied := by
    obtain ⟨hafter, hrecounts⟩ := hholds state hsound htallied
    refine ⟨hafter.of_eq rfl rfl, fun hsettled ↦ ?_⟩
    obtain ⟨hkept, hgrown, hended, hrepeats⟩ := hrecounts hsettled
    exact ⟨hkept.of_eq rfl rfl, hgrown, hended, hrepeats⟩
  holds_invoke _ hadmits := hadmits.elim

/-! ### Requests -/

/-- Whether an answer is a reply or says that the text does not match. -/
def IsPlain : Except ParseError Reply → Bool
  | .ok _ => true
  | .error error => error.isMismatch

/-- An evaluation of a node that nothing else is pending for repeats. -/
theorem Grammar.recounts_evaluate (hformed : grammar.WellFormed) (hall : grammar.RemembersAll text)
    (room : Nat) {id : NodeId} {offset : Nat} (hid : id < grammar.nodeCount)
    (hoffset : text.IsBoundary offset) :
    (Engine.recounting grammar text).Holds (grammar.evaluate text room id offset)
      (text.Fulfils Promise.nothing id offset) (text.Ahead offset) := by
  intro state hsound htallied
  refine ⟨(grammar.faithful_evaluate hall.packrat room id offset state hsound).1, fun hsettled ↦ ?_⟩
  obtain ⟨hkept, hgrown, found, hfind, hsame⟩ :=
    grammar.registers_evaluate hformed hall room id offset ∅ state hid hoffset hsound htallied
      (fun _ hpending ↦ absurd hpending (Finset.notMem_empty _)) hsettled
  refine ⟨hkept, hgrown, grammar.ended_evaluate (grammar.maintains_nothing text)
    (fun _ ↦ hsound) hoffset room, fun later hlater ↦ ?_⟩
  cases room with
  | zero => exact absurd rfl (hsettled _)
  | succ room =>
    have hreplay : grammar.evaluate text (room + 1) id offset later =
        Engine.replay found later := by
      rw [hall.evaluate_succ, Engine.memoized, hlater id offset found hfind]
    rw [hreplay]
    refine ⟨hsame, EngineState.memo_recordAll _, ?_⟩
    rw [Engine.replay, EngineState.counters_recordAll]

namespace Session

variable {session : Session} {request : Request} {asked : List Request}

/-- An evaluation of a request that is answered with a reply, or with a failure of the text to
match, did not end with an error. -/
theorem settled_of_answer (hvalid : session.state.Valid session.grammar session.text)
    (hanswer : IsPlain (session.answer request).1 = true) :
    Settled (request.evaluation session.grammar session.text session.matcher session.state).1 := by
  intro error houtcome
  have hmismatch : error.isMismatch = true := by
    suffices hreported : (session.answer request).1 = .error error by
      rwa [hreported] at hanswer
    match hrun : request.evaluation session.grammar session.text session.matcher session.state with
    | (outcome, after) =>
      rw [hrun] at houtcome
      change outcome = _ at houtcome
      rw [answer_eq_run, run_eq hrun, houtcome]
      rfl
  have hanswers := answers_evaluation hvalid request
  rw [houtcome] at hanswers
  rcases hanswers with ⟨hlimited, -⟩ | ⟨enough, -, htrace⟩
  · cases error <;> simp [IsLimited, ParseError.isMismatch] at hlimited hmismatch
  · rw [session.grammar.trace_evaluation_deepening] at htrace
    have hyields : (Trace.yielding fun error ↦ error.isMismatch = false).Holds
        (request.evaluation session.grammar session.text
          (session.grammar.trace session.text enough))
        (request.evaluation session.grammar session.text
          (session.grammar.trace session.text enough))
        fun _ ↦ True :=
      (Trace.yielding fun error ↦ error.isMismatch = false).holds_evaluation rfl (fun _ ↦ rfl)
        (fun id offset _ ↦ Grammar.yields_trace_not_mismatch enough id offset) request
    rw [hyields.errors error htrace] at hmismatch
    cases hmismatch

/-- Whether every request of a list is answered, when they are made one after another, with a reply
or with a failure of the text to match. -/
def answersAll (session : Session) : List Request → Bool
  | [] => true
  | request :: rest =>
    IsPlain (session.answer request).1 && (session.answer request).2.answersAll rest

/-- A session answers all requests of which the traces end without an error. -/
theorem answersAll_after (grammar : Grammar) (text : Text) {history : List Request}
    (hsettled : ∀ request ∈ history, Settled (grammar.requestTrace text request).outcome)
    (earlier : List Request) : ((start grammar text).after earlier).answersAll history = true := by
  induction history generalizing earlier with
  | nil => rfl
  | cons request rest ih =>
    have hended := hsettled request List.mem_cons_self
    have hplain : IsPlain (((start grammar text).after earlier).answer request).1 = true := by
      rw [answer_after_eq_report grammar text earlier request hended.not_isLimited, Trace.report]
      cases houtcome : (grammar.requestTrace text request).outcome with
      | ok reply => rfl
      | error halt =>
        cases halt with
        | failure failure => rfl
        | error error => exact absurd houtcome (hended error)
    have hnext : (((start grammar text).after earlier).answer request).2 =
        (start grammar text).after (earlier ++ [request]) := by
      simp [after, List.foldl_append]
    rw [answersAll, hplain, Bool.true_and, hnext]
    exact ih (fun other hother ↦ hsettled other (List.mem_cons_of_mem _ hother)) _

/-- A session that counted what it evaluated, and in which the requests of a list repeat. -/
structure Counted (session : Session) (asked : List Request) : Prop where
  /-- What is remembered is right. -/
  sound : session.state.Sound session.grammar session.text
  /-- The tally is right. -/
  tallied : session.state.Tallied session.grammar session.text ∅
  /-- The requests repeat. -/
  repeats : ∀ request ∈ asked, ∃ outcome,
    (request.evaluation session.grammar session.text session.matcher).Repeats outcome session.memo

/-- A session in which nothing was asked has counted nothing. -/
theorem counted_start (grammar : Grammar) (text : Text) : (start grammar text).Counted [] := by
  refine ⟨EngineState.sound_empty grammar text,
    ⟨⟨∅, ⟨rfl, fun id offset ↦ ?_⟩, ?_, ?_⟩, rfl, rfl, rfl⟩, fun _ hmem ↦ nomatch hmem⟩
  · simp [state, start, Memo.find?]
  · exact Finset.disjoint_empty_left ∅
  · simp

/-- Answering a request without an error, a session counts what it evaluates, and the request
repeats. -/
theorem Counted.answer (hcounted : session.Counted asked) (hformed : session.grammar.WellFormed)
    (hall : session.grammar.RemembersAll session.text)
    (hanswer : IsPlain (session.answer request).1 = true) :
    (session.answer request).2.Counted (request :: asked) := by
  have hsettled := settled_of_answer (fun _ ↦ hcounted.sound) hanswer
  have hholds : (Engine.recounting session.grammar session.text).Holds
      (request.evaluation session.grammar session.text session.matcher)
      (Reply.Fulfils session.text fun _ ↦ True) session.text.IsBoundary :=
    (Engine.recounting session.grammar session.text).holds_evaluation
      (fun id place hstart hplace ↦ session.grammar.recounts_evaluate hformed hall _
        (hformed.lt_of_isStart hstart) hplace) (fun _ _ _ _ ↦ True.intro) request
  obtain ⟨hafter, hrecounts⟩ := hholds session.state hcounted.sound hcounted.tallied
  obtain ⟨hkept, hgrown, -, hrepeats⟩ := hrecounts hsettled
  rw [answer_snd]
  refine ⟨hafter.of_eq rfl rfl, hkept.of_eq rfl rfl, fun other hother ↦ ?_⟩
  rcases List.mem_cons.mp hother with rfl | hearlier
  · exact ⟨_, hrepeats⟩
  · obtain ⟨outcome, hagain⟩ := hcounted.repeats other hearlier
    exact ⟨outcome, fun later hlater ↦ hagain later (hlater.trans hgrown)⟩

/-- Whatever is asked of a session without an error, it counts what it evaluates, and all of it
repeats. -/
theorem Counted.after (hcounted : session.Counted asked) (hformed : session.grammar.WellFormed)
    (hall : session.grammar.RemembersAll session.text) {history : List Request}
    (hanswers : session.answersAll history = true) :
    (session.after history).Counted (history.reverse ++ asked) := by
  induction history generalizing session asked with
  | nil => exact hcounted
  | cons request rest ih =>
    rw [answersAll, Bool.and_eq_true] at hanswers
    have hnext := hcounted.answer hformed hall hanswers.1
    rw [List.reverse_cons, List.append_assoc, List.singleton_append]
    refine ih hnext ?_ ?_ hanswers.2
    · change (session.answer request).2.grammar.WellFormed
      rw [answer_snd]
      exact hformed
    · change (session.answer request).2.grammar.RemembersAll (session.answer request).2.text
      rw [answer_snd]
      exact hall

end Session

namespace Grammar

/-- The bound on the work of a session that remembers all outcomes. If all of its requests are
answered with results or with failures of the text to match, then it has evaluated a node at an
offset for each outcome that it remembers and looked that up in vain before, it has forgotten
nothing, and it remembers at most one outcome for each node and each offset of the text. A request
that was made before is answered again without any evaluation and without anything looked up in
vain. -/
theorem tallied_after {draft : Draft} (hbuild : draft.build = .ok grammar) (text : Text)
    (hpackrat : grammar.config.packrat = true) (hscope : grammar.config.memoScope = .all)
    (hcapacity : grammar.nodeCount * (text.size + 1) ≤ grammar.config.maxMemoSize)
    (history : List Request) (hanswers : (Session.start grammar text).answersAll history = true) :
    let session := (Session.start grammar text).after history
    session.counters.evaluations = session.counters.misses ∧
      session.counters.misses = session.memo.entries.size + session.memo.pinned.size ∧
      session.memo.entries.size + session.memo.pinned.size ≤ grammar.nodeCount * (text.size + 1) ∧
      session.counters.evictions = 0 ∧
      ∀ request ∈ history,
        (session.answer request).2.memo = session.memo ∧
        (session.answer request).2.counters.evaluations = session.counters.evaluations ∧
        (session.answer request).2.counters.misses = session.counters.misses := by
  intro session
  have hformed := (Draft.accepted_of_build hbuild).formed
  have hcounted : session.Counted (history.reverse ++ []) :=
    (Session.counted_start grammar text).after hformed ⟨hpackrat, hscope, hcapacity⟩ hanswers
  have hgrammar : session.grammar = grammar := (Session.start grammar text).grammar_after history
  have htext : session.text = text := (Session.start grammar text).text_after history
  have htallied := hcounted.tallied
  rw [hgrammar, htext] at htallied
  refine ⟨htallied.evaluations, htallied.misses, htallied.size_add_card_le, htallied.evictions,
    fun request hrequest ↦ ?_⟩
  obtain ⟨outcome, hrepeats⟩ := hcounted.repeats request (by simpa using hrequest)
  obtain ⟨-, hmemo, hcounters⟩ := hrepeats session.state (.refl _)
  have hevaluations := congrArg Counters.evaluations hcounters
  have hmisses := congrArg Counters.misses hcounters
  rw [Session.answer_snd]
  exact ⟨hmemo, hevaluations, hmisses⟩

end Grammar

/-- Any number of pairs of letters, with an action. There is room for the outcomes of all nodes at
the five offsets of four letters, and for no more. -/
def Draft.pairs : Draft where
  rules := [("pair", ⟨3, .action ⟨2, .sequence
    [⟨0, .terminal (.literal "a" false)⟩, ⟨1, .terminal (.literal "b" false)⟩] none⟩
    [Action.map id]⟩)]
  entry := some (.expr ⟨5, .repetition ⟨4, .rule "pair"⟩ 0 none⟩)
  config := { maxMemoSize := 30 }

def Grammar.pairs : Grammar where
  nodes := #[.terminal (.literal "a" false) (some .blanks) "Expected \"a\"",
    .terminal (.literal "b" false) (some .blanks) "Expected \"b\"",
    .sequence [0, 1] none, .action 2 [Action.map id] (some .blanks), .call 0,
    .repetition 4 0 none "[pair]..."]
  ruleNames := ["pair"]
  ruleBodies := [3]
  entry := some 5
  config := { maxMemoSize := 30 }

theorem Draft.build_pairs : Draft.pairs.build = .ok Grammar.pairs := by
  cbv

/-- Two pairs are parsed, one of them is found where two are, and all are scanned. What was
evaluated for this is remembered, and parsing again evaluates nothing. -/
theorem Grammar.tallied_after_pairs :
    Draft.pairs.build = .ok pairs ∧
      pairs.nodeCount * ((Text.ofChars ['a', 'b', 'a', 'b']).size + 1) = pairs.config.maxMemoSize ∧
      (Session.start pairs (.ofChars ['a', 'b', 'a', 'b'])).answersAll
        [.parse true, .parseRule "pair" true, .scan] = true ∧
      let session := (Session.start pairs (.ofChars ['a', 'b', 'a', 'b'])).after
        [.parse true, .parseRule "pair" true, .scan]
      session.counters.evaluations = session.memo.entries.size + session.memo.pinned.size ∧
      session.counters.evictions = 0 ∧
      (session.answer (.parse true)).2.counters.evaluations = session.counters.evaluations := by
  have hparse : (pairs.requestTrace (.ofChars ['a', 'b', 'a', 'b']) (.parse true)).outcome.isOk =
      true := by
    cbv
  have hscan : (pairs.requestTrace (.ofChars ['a', 'b', 'a', 'b']) .scan).outcome.isOk = true := by
    cbv
  have hrule : (pairs.requestTrace (.ofChars ['a', 'b', 'a', 'b']) (.parseRule "pair" true)).outcome
      = .error (.failure (.ordinary 2 Matcher.expectedEnd)) := by
    cbv
  have hsettled : ∀ request ∈ [Request.parse true, .parseRule "pair" true, .scan],
      Settled (pairs.requestTrace (.ofChars ['a', 'b', 'a', 'b']) request).outcome := by
    intro request hrequest error houtcome
    simp only [List.mem_cons, List.not_mem_nil, or_false] at hrequest
    rcases hrequest with rfl | rfl | rfl
    · simp [houtcome, Except.isOk, Except.toBool] at hparse
    · simp [houtcome] at hrule
    · simp [houtcome, Except.isOk, Except.toBool] at hscan
  have hanswers := Session.answersAll_after pairs (.ofChars ['a', 'b', 'a', 'b']) hsettled []
  have htallied := tallied_after Draft.build_pairs (.ofChars ['a', 'b', 'a', 'b']) rfl
    rfl (by decide)
    _ hanswers
  exact ⟨Draft.build_pairs, by decide, hanswers, htallied.1.trans htallied.2.1,
    htallied.2.2.2.1, (htallied.2.2.2.2 (.parse true) List.mem_cons_self).2.1⟩

end Packrat
