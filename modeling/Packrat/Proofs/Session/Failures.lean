import Packrat.Proofs.Matching.Visits
import Packrat.Proofs.Matching.Yields
import Packrat.Proofs.Session.Transparency

/-!
# What sessions report when a parse fails

A parse that fails reports one failure. Two statements say which one, whatever was asked of the
session before and whatever it remembers.

A fatal failure is never passed over. Once the evaluation of a node ends with one, nothing more is
tried and the parse reports that failure; an error that ends a parse is the answer as it stands
(`Grammar.answer_after_of_stops`).

Any other failure gives way to one that was recorded further into the text. `Reports` says this of
the failures that the trace records, and it is what every session answers
(`Grammar.answer_after_eq_mismatch_iff`).
-/

set_option autoImplicit false
set_option relaxedAutoImplicit false

namespace Packrat

open MatchMonad

/-! ### Parses with a log -/

namespace Session

/-- The evaluation of a request in a session, with a log. -/
def logged (session : Session) (request : Request) : Logged Reply :=
  request.evaluation session.grammar session.text
    (session.grammar.evaluateLogged session.text session.grammar.config.maxDepth)

/-- What is noted while a session answers a request. -/
def visits (session : Session) (request : Request) : List Visit :=
  (session.logged request).log session.state

theorem plain_logged (session : Session) (request : Request) :
    (session.logged request).plain =
      request.evaluation session.grammar session.text session.matcher :=
  (erasure.holds_evaluation True.intro (fun _ ↦ True.intro)
    (fun id offset _ ↦ ⟨session.grammar.plain_evaluateLogged _ id offset, fun _ _ _ ↦ True.intro⟩)
    request).1

theorem orderly_visits (session : Session) {request : Request} (hparses : request.Parses) :
    Orderly ((session.logged request).plain session.state).1 (session.visits request) := by
  have hbehaves : behaving.Holds (session.logged request) (session.logged request) fun _ ↦ True :=
    behaving.holds_evaluation True.intro (fun _ ↦ True.intro)
      (fun id offset _ ↦ session.grammar.orderly_evaluateLogged _ id offset) hparses
  exact (hbehaves session.state).1

end Session

/-- The error that a final halt amounts to: the failure itself, marked fatal, or the error
itself. -/
def Halt.unchanged (text : Text) : Halt → ParseError
  | .failure reason => .mismatch (.ofText text reason.offset reason.message true)
  | .error reason => reason

/-- A final halt is reported unchanged, whatever was recorded. -/
theorem Halt.toError_of_isFinal {halt : Halt} (hfinal : halt.IsFinal) (text : Text)
    (furthest : Option Failure) : halt.toError text furthest = halt.unchanged text := by
  cases halt with
  | error reason => rfl
  | failure reason =>
    have hfatal : reason.fatal = true := hfinal
    have hreported : reportedFailure reason furthest = reason := by
      cases furthest with
      | none => rfl
      | some other => simp [reportedFailure, hfatal]
    simp only [toError, hreported, hfatal, unchanged]

namespace Grammar

/-- A fatal failure is never passed over, and neither is an error. The log of a parse, in which the
evaluations of nodes are noted whether they are computed or remembered, changes nothing. Once the
evaluation of a node ends with a fatal failure or with an error, or something halts with one, no
further evaluation begins: all that is noted later is the same halt. The answer is that failure,
with its offset and message and as a fatal one, or that error. -/
theorem answer_after_of_stops (grammar : Grammar) (text : Text) (history : List Request)
    {request : Request} (hparses : request.Parses) :
    let session := (Session.start grammar text).after history
    session.run (session.logged request).plain = session.answer request ∧
      ∀ (before after : List Visit) (visit : Visit) (halt : Halt),
        session.visits request = before ++ visit :: after → visit.Stops halt →
          (∀ later ∈ after, later.Stops halt) ∧
          (session.answer request).1 = .error (halt.unchanged text) := by
  intro session
  have hrun : session.run (session.logged request).plain = session.answer request := by
    rw [session.plain_logged, session.answer_eq_run]
  refine ⟨hrun, fun before after visit halt hlog hstops ↦ ?_⟩
  have horderly := session.orderly_visits hparses
  rw [hlog] at horderly
  obtain ⟨houtcome, hlater⟩ := horderly.stops hstops
  refine ⟨hlater, ?_⟩
  match hplain : (session.logged request).plain session.state with
  | (outcome, state) =>
    have htext : session.text = text := (Session.start grammar text).text_after history
    have hfinal := Halt.toError_of_isFinal hstops.isFinal text state.furthest
    have houtcome : outcome = .error halt := by simpa [hplain] using houtcome
    rw [← hrun, Session.run_eq hplain, houtcome, htext, Except.mapError, hfinal]

end Grammar

/-- Pairs of letters with a commit point inside and an action: any number of them unwanted, or else
one letter. Little is remembered but what the action gave. -/
def Draft.paired : Draft where
  rules := [("pair", ⟨3, .action ⟨2, .sequence
    [⟨0, .terminal (.literal "a" false)⟩, ⟨1, .terminal (.literal "b" false)⟩] (some 1)⟩
    [Action.map id]⟩)]
  entry := some (.expr ⟨7, .choice
    [⟨6, .lookahead ⟨5, .repetition ⟨4, .rule "pair"⟩ 0 none⟩ true⟩,
      ⟨0, .terminal (.literal "a" false)⟩]⟩)
  config := { memoScope := .rules, maxMemoSize := 0 }

def Grammar.paired : Grammar where
  nodes := #[.terminal (.literal "a" false) (some .blanks) "Expected \"a\"",
    .terminal (.literal "b" false) (some .blanks) "Expected \"b\"",
    .sequence [0, 1] (some 1), .action 2 [Action.map id] (some .blanks), .call 0,
    .repetition 4 0 none "[pair]...",
    .lookahead 5 true "Found unwanted token, [pair]...", .choice [6, 0]]
  ruleNames := ["pair"]
  ruleBodies := [3]
  entry := some 7
  config := { memoScope := .rules, maxMemoSize := 0 }

/-- The draft of unwanted pairs builds into its grammar. -/
theorem Draft.build_paired : Draft.paired.build = .ok Grammar.paired := by
  cbv

/-- A pair that breaks off after its commit point is remembered from an earlier parse. Its failure
comes out of the action, the rule, the repetition, the lookahead and the choice, whose other
alternative is not tried. -/
theorem Grammar.answer_after_paired :
    Draft.paired.build = .ok paired ∧ (Request.parse true).Parses ∧
      ∃ before after,
        ((Session.start paired (.ofChars ['a', 'b', 'a', 'c'])).after [.parse true]).visits
            (.parse true) =
          before ++ .ended 3 2 (.error (.failure ⟨3, "Expected \"b\"", true⟩)) :: after ∧
        after.length = 7 ∧ (∀ later ∈ after, later.Stops (.failure ⟨3, "Expected \"b\"", true⟩)) ∧
        (((Session.start paired (.ofChars ['a', 'b', 'a', 'c'])).after [.parse true]).answer
            (.parse true)).1 =
          .error (.mismatch (.ofText (.ofChars ['a', 'b', 'a', 'c']) 3 "Expected \"b\"" true)) := by
  have hvisit : (((Session.start paired (.ofChars ['a', 'b', 'a', 'c'])).after
      [.parse true]).visits (.parse true))[9]? =
        some (.ended 3 2 (.error (.failure ⟨3, "Expected \"b\"", true⟩))) := by
    cbv
  have hlength : (((Session.start paired (.ofChars ['a', 'b', 'a', 'c'])).after
      [.parse true]).visits (.parse true)).length = 17 := by
    cbv
  obtain ⟨hinside, hvisit⟩ := List.getElem?_eq_some_iff.mp hvisit
  have hlog := (List.take_append_drop 9 (((Session.start paired
    (.ofChars ['a', 'b', 'a', 'c'])).after [.parse true]).visits (.parse true))).symm
  rw [List.drop_eq_getElem_cons hinside, hvisit] at hlog
  have hparses : (Request.parse true).Parses := True.intro
  obtain ⟨hlater, hanswer⟩ := (answer_after_of_stops paired (.ofChars ['a', 'b', 'a', 'c'])
    [.parse true] hparses).2 _ _ _ _ hlog ⟨rfl, rfl⟩
  exact ⟨Draft.build_paired, hparses, _, _, hlog, by simp [hlength], hlater, hanswer⟩

/-! ### The failure that is reported -/

/-- Of some failures, one that no other exceeds, and the first of those at its offset. -/
def FirstFurthest (failures : List Failure) (best : Failure) : Prop :=
  ∃ before after, failures = before ++ best :: after ∧
    (∀ earlier ∈ before, earlier.offset < best.offset) ∧
    ∀ later ∈ after, later.offset ≤ best.offset

/-- What is reported of a failure that ends a parse, given all those recorded. -/
inductive Reports (ending : Failure) (recorded : List Failure) : Failure → Prop
  /-- The failure itself if it is fatal or none that was recorded is beyond it. -/
  | ending (hfurthest : ending.fatal = true ∨ ∀ other ∈ recorded, other.offset ≤ ending.offset) :
      Reports ending recorded ending
  /-- Otherwise the first of those recorded that reach furthest, as one that is not fatal. -/
  | recorded {best : Failure} (hordinary : ending.fatal = false)
      (hbest : FirstFurthest recorded best) (hbeyond : ending.offset < best.offset) :
      Reports ending recorded { best with fatal := false }

/-- No failure of a list exceeds the first of those that reach furthest. -/
theorem FirstFurthest.le {failures : List Failure} {best : Failure}
    (hbest : FirstFurthest failures best) : ∀ other ∈ failures, other.offset ≤ best.offset := by
  obtain ⟨before, after, rfl, hbefore, hafter⟩ := hbest
  intro other hother
  rcases List.mem_append.mp hother with hearlier | hrest
  · exact (hbefore other hearlier).le
  · rcases List.mem_cons.mp hrest with rfl | hlater
    · exact le_rfl
    · exact hafter other hlater

/-- A failure is one of those among which it is the furthest. -/
theorem FirstFurthest.mem {failures : List Failure} {best : Failure}
    (hbest : FirstFurthest failures best) : best ∈ failures := by
  obtain ⟨before, after, rfl, -, -⟩ := hbest
  simp

/-- Going through failures in order, what is kept in the end is the first of those that reach
furthest. The induction adds a failure at the end, as recording does. -/
theorem foldl_further_cases (failures : List Failure) :
    (failures = [] ∧ failures.foldl Failure.further none = none) ∨
      ∃ best, failures.foldl Failure.further none = some best ∧ FirstFurthest failures best := by
  induction failures using List.reverseRecOn with
  | nil => exact Or.inl ⟨rfl, rfl⟩
  | append_singleton rest last ih =>
    refine Or.inr ?_
    rw [List.foldl_append, List.foldl_cons, List.foldl_nil]
    rcases ih with ⟨rfl, hnone⟩ | ⟨best, hsome, hbest⟩
    · refine ⟨last, by rw [hnone]; rfl, [], [], rfl, ?_, ?_⟩ <;> simp
    · rw [hsome]
      by_cases hbeyond : best.offset < last.offset
      · refine ⟨last, by simp only [Failure.further, hbeyond, if_true], rest, [], rfl, ?_, by simp⟩
        exact fun earlier hearlier ↦ (hbest.le earlier hearlier).trans_lt hbeyond
      · refine ⟨best, by simp only [Failure.further, hbeyond, if_false], ?_⟩
        obtain ⟨before, after, rfl, hbefore, hafter⟩ := hbest
        refine ⟨before, after ++ [last], by simp, hbefore, fun later hlater ↦ ?_⟩
        rcases List.mem_append.mp hlater with hinside | hend
        · exact hafter later hinside
        · rw [List.mem_singleton.mp hend]
          exact Nat.le_of_not_lt hbeyond

/-- Of several failures there is one first furthest. -/
theorem FirstFurthest.eq_foldl {failures : List Failure} {best : Failure}
    (hbest : FirstFurthest failures best) :
    failures.foldl Failure.further none = some best := by
  obtain ⟨before, after, rfl, hbefore, hafter⟩ := hbest
  have hfirst : Failure.further (before.foldl Failure.further none) best = some best := by
    rcases foldl_further_cases before with ⟨-, hnone⟩ | ⟨earlier, hsome, hearlier⟩
    · rw [hnone]
      rfl
    · rw [hsome]
      simp only [Failure.further, hbefore earlier hearlier.mem, if_true]
  have hkept (later : Failure) (hlater : later ∈ after) :
      Failure.further (some best) later = some best := by
    simp only [Failure.further, Nat.not_lt.mpr (hafter later hlater), if_false]
  rw [List.foldl_append, List.foldl_cons, hfirst]
  clear hafter
  induction after with
  | nil => rfl
  | cons later rest ih =>
    rw [List.foldl_cons, hkept later List.mem_cons_self]
    exact ih fun other hother ↦ hkept other (List.mem_cons_of_mem _ hother)

/-- There is one failure to report, and the session picks it. -/
theorem reports_iff {ending reported : Failure} {recorded : List Failure} :
    Reports ending recorded reported ↔
      reported = reportedFailure ending (recorded.foldl Failure.further none) := by
  constructor
  · intro hreports
    cases hreports with
    | ending hfurthest =>
      rcases foldl_further_cases recorded with ⟨-, hnone⟩ | ⟨best, hsome, hbest⟩
      · rw [hnone]
        rfl
      · have hstays : ¬ (ending.fatal = false ∧ ending.offset < best.offset) := by
          rintro ⟨hordinary, hbeyond⟩
          rcases hfurthest with hfatal | hle
          · simp [hfatal] at hordinary
          · exact absurd (hle best hbest.mem) (Nat.not_le.mpr hbeyond)
        rw [hsome]
        simp [reportedFailure, hstays]
    | recorded hordinary hbest hbeyond =>
      rw [hbest.eq_foldl]
      simp [reportedFailure, hordinary, hbeyond]
  · rintro rfl
    rcases foldl_further_cases recorded with ⟨rfl, -⟩ | ⟨best, hsome, hbest⟩
    · exact .ending (Or.inr fun _ hmem ↦ nomatch hmem)
    · rw [hsome]
      by_cases hgives : ending.fatal = false ∧ ending.offset < best.offset
      · have hreported : reportedFailure ending (some best) = { best with fatal := false } := by
          simp [reportedFailure, hgives]
        rw [hreported]
        exact .recorded hgives.1 hbest hgives.2
      · have hreported : reportedFailure ending (some best) = ending := by
          simp [reportedFailure, hgives]
        rw [hreported]
        refine .ending ?_
        by_cases hfatal : ending.fatal = true
        · exact Or.inl hfatal
        · refine Or.inr fun other hother ↦ (hbest.le other hother).trans ?_
          exact Nat.le_of_not_lt fun hbeyond ↦ hgives ⟨Bool.eq_false_iff.mpr hfatal, hbeyond⟩

namespace Grammar

variable {grammar : Grammar} {text : Text}

/-- No evaluation halts with an error that says that the text does not match: that is what failures
are for. -/
theorem yields_trace_not_mismatch (room : Nat) (id : NodeId) (offset : Nat) :
    (grammar.trace text room id offset).Yields (fun error ↦ error.isMismatch = false)
      fun _ ↦ True := by
  refine yields_trace_allowing ?_ ?_ ?_ room id offset
  · exact fun place limit ↦ rfl
  · exact fun what place ↦ rfl
  · exact fun form skip expected before chars hmem hscan ↦ rfl

/-- A request is answered with a report of its trace if and only if the trace ends with a
failure. -/
theorem report_eq_mismatch_iff {request : Request} {report : FailureReport} :
    (grammar.requestTrace text request).report text = .error (.mismatch report) ↔
      ∃ ending, (grammar.requestTrace text request).outcome = .error (.failure ending) ∧
        (Halt.failure ending).toError text
          (furthestAfter none (grammar.requestTrace text request).events) = .mismatch report := by
  have hyields : (Trace.yielding fun error ↦ error.isMismatch = false).Holds
      (grammar.requestTrace text request) (grammar.requestTrace text request) fun _ ↦ True :=
    (Trace.yielding fun error ↦ error.isMismatch = false).holds_evaluation rfl (fun _ ↦ rfl)
      (fun id offset _ ↦ yields_trace_not_mismatch _ id offset) request
  rw [Trace.report]
  cases houtcome : (grammar.requestTrace text request).outcome with
  | ok reply => simp [Except.mapError]
  | error halt =>
    cases halt with
    | failure ending => simp [Except.mapError]
    | error reason =>
      have hother : reason ≠ .mismatch report := by
        rintro rfl
        cases hyields.errors _ houtcome
      simp [Except.mapError, Halt.toError, hother]

/-- Which failure is reported. The trace of a request says with which failure it ends and which ones
are recorded on the way, in order; those recorded inside a negative lookahead are not among them. A
session, whatever it remembers and whatever was asked of it before, reports the failure at the end
if that is fatal or none of the others is beyond it, and otherwise the first of those that reach
furthest, as one that is not fatal; all this unless a session without memory is stopped by the limit
on the depth. -/
theorem answer_after_eq_mismatch_iff (grammar : Grammar) (text : Text) (history : List Request)
    (request : Request)
    (hreached : ¬ HitsLimit ((Session.start grammar.withoutMemory text).answer request).1)
    (report : FailureReport) :
    (((Session.start grammar text).after history).answer request).1 = .error (.mismatch report) ↔
      ∃ ending reported,
        (grammar.requestTrace text request).outcome = .error (.failure ending) ∧
        Reports ending (grammar.requestTrace text request).failures reported ∧
        report = .ofText text reported.offset reported.message reported.fatal := by
  rw [(grammar.answer_start_withoutMemory text request).1, Trace.hitsLimit_report_iff] at hreached
  rw [Session.answer_after_eq_report grammar text history request hreached, report_eq_mismatch_iff]
  refine exists_congr fun ending ↦ ?_
  simp only [reports_iff, exists_and_left, exists_eq_left]
  refine and_congr_right fun _ ↦ ?_
  rw [Halt.toError, ParseError.mismatch.injEq]
  exact eq_comm

end Grammar

/-- Two letters, or nothing. -/
def Draft.paused : Draft where
  entry := some (.expr ⟨3, .optional ⟨2, .sequence
    [⟨0, .terminal (.literal "a" false)⟩, ⟨1, .terminal (.literal "b" false)⟩] none⟩ none⟩)

def Grammar.paused : Grammar where
  nodes := #[.terminal (.literal "a" false) (some .blanks) "Expected \"a\"",
    .terminal (.literal "b" false) (some .blanks) "Expected \"b\"",
    .sequence [0, 1] none, .optional 2 none]
  ruleNames := []
  ruleBodies := []
  entry := some 3
  config := {}

/-- The draft of two letters or nothing builds into its grammar. -/
theorem Draft.build_paused : Draft.paused.build = .ok Grammar.paused := by
  cbv

/-- A text of two letters, of which the second is wrong, fails because it goes on after nothing, but
the wrong letter is what is reported. -/
theorem Grammar.answer_after_paused :
    Draft.paused.build = .ok paused ∧
      ¬ HitsLimit ((Session.start paused.withoutMemory (.ofChars ['a', 'c'])).answer
        (.parse true)).1 ∧
      (((Session.start paused (.ofChars ['a', 'c'])).after [.parse false, .scan]).answer
          (.parse true)).1 =
        .error (.mismatch (.ofText (.ofChars ['a', 'c']) 1 "Expected \"b\"" false)) := by
  have htrace : (paused.requestTrace (.ofChars ['a', 'c']) (.parse true)).outcome =
      .error (.failure ⟨0, "Expected end of text", false⟩) := by
    cbv
  have hrecorded : (paused.requestTrace (.ofChars ['a', 'c']) (.parse true)).failures =
      [⟨1, "Expected \"b\"", false⟩] := by
    cbv
  have hreached : ¬ HitsLimit ((Session.start paused.withoutMemory (.ofChars ['a', 'c'])).answer
      (.parse true)).1 := by
    rw [(paused.answer_start_withoutMemory _ _).1, Trace.hitsLimit_report_iff,
      Trace.Limited, htrace]
    exact not_isLimited_failure _
  refine ⟨Draft.build_paused, hreached, ?_⟩
  refine (answer_after_eq_mismatch_iff paused (.ofChars ['a', 'c']) [.parse false, .scan]
    (.parse true) hreached _).mpr
    ⟨_, ⟨1, "Expected \"b\"", false⟩, htrace, ?_, rfl⟩
  rw [hrecorded]
  exact .recorded rfl ⟨[], [], rfl, by simp, by simp⟩ (by decide)

end Packrat
