import Packrat.Proofs.Matching.Steps
import Packrat.Proofs.Session.Promises

/-!
# Labels in reports

A label gives its message to the failure that its evaluation hands on. What was recorded before
keeps its own message. So a label is reported just if the failure that it handed on ends the parse:
if all failures at the offset of the report come from inside of a label that starts there and fails
there, the message is that of the label where the parse itself fails at that offset, and otherwise
that of the first failure recorded there (`Grammar.message_of_labels`). An option, a repetition, a
list or a choice that goes back over the failure of a label loses the label, although nothing else
was expected there (`Grammar.message_ne_label`).
-/

set_option autoImplicit false
set_option relaxedAutoImplicit false

namespace Packrat

open MatchMonad

namespace Grammar

variable {grammar : Grammar} {text : Text} {request : Request}

def tellRequest (grammar : Grammar) (text : Text) (request : Request) : Told Reply :=
  request.evaluation grammar text (grammar.tell text grammar.config.maxDepth)

/-- Every failure at an offset during a request comes from inside an outermost evaluation of a label
with a message that starts there, after skipped characters, and fails there. The request itself is
none: its check for the end of the text does not fail there. -/
def LabelsAll (grammar : Grammar) (text : Text) (request : Request) (expected : String)
    (offset : Nat) : Prop :=
  ¬ (grammar.tellRequest text request).Originates offset ∧
    ∀ step ∈ (grammar.tellRequest text request).steps, step.Labeled grammar text expected offset

/-- A request that tells its steps ends like its trace, and its steps say their labels. -/
theorem holds_tellRequest (grammar : Grammar) (text : Text) (request : Request) (expected : String)
    (place : Nat) :
    (telling (Step.SaysLabel grammar text expected place)).Holds (grammar.tellRequest text request)
      (grammar.requestTrace text request) fun _ ↦ True :=
  (telling _).holds_evaluation True.intro (fun _ ↦ True.intro)
    (fun id offset _ ↦ grammar.holds_tell text expected place _ id offset) request

/-- Where all failures at an offset come from a label, an ordinary failure there that ends a request
has the message of the label. -/
theorem message_of_outcome {expected : String} {failure : Failure}
    (houtcome : (grammar.requestTrace text request).outcome = .error (.failure failure))
    (hordinary : failure.fatal = false)
    (hlabels : grammar.LabelsAll text request expected failure.offset) :
    failure.message = expected := by
  obtain ⟨hsame, -, hsteps⟩ := grammar.holds_tellRequest text request expected failure.offset
  rw [← hsame] at houtcome
  obtain ⟨step, hstep, hends⟩ := Told.exists_endsWith houtcome hlabels.1
  exact hsteps step hstep failure (hlabels.2 step hstep) (hends.outcome_eq hordinary) hordinary rfl

/-- The failure that ends a request and those that are recorded for it are inside the text. -/
theorem offset_le_size (grammar : Grammar) (text : Text) (request : Request) :
    (∀ failure, (grammar.requestTrace text request).outcome = .error (.failure failure) →
      failure.offset ≤ text.size) ∧
      ∀ failure ∈ (grammar.requestTrace text request).failures, failure.offset ≤ text.size := by
  have hmaintains := grammar.maintains_nothing text
  have hranging : (Trace.ranging text).Holds (grammar.requestTrace text request)
      (Reply.Fulfils text fun _ ↦ True) text.IsBoundary :=
    (Trace.ranging text).holds_evaluation
      (fun id place _ hplace ↦ grammar.holds_trace hmaintains grammar.config.maxDepth id
        place hplace)
      (fun _ _ _ _ ↦ True.intro) request
  refine ⟨fun failure houtcome ↦ ?_, fun failure hfailure ↦ ?_⟩
  · have hended := hranging.1
    rw [houtcome] at hended
    exact Text.IsBoundary.le_size hended
  · obtain ⟨event, hevent, hsame⟩ := List.mem_filterMap.mp hfailure
    have hplaced := hranging.2 event hevent
    match event with
    | .failed other =>
      obtain rfl := Option.some.inj hsame
      exact Text.IsBoundary.le_size hplaced

/-- When labels reach the report. Of a request that a session answers with an ordinary failure,
whatever it remembers and whatever was asked of it before, suppose that all failures at the offset
of the report come from inside an outermost evaluation of a label that starts there, after skipped
characters, and fails there, those under a negative lookahead apart. If the failure with which the
request ends is at that offset, the report has the message of the label. If it is not, the report
has the message with which the first failure there was recorded; all this unless a session without
memory is stopped by the limit on the depth. -/
theorem message_of_labels (grammar : Grammar) (text : Text) (history : List Request)
    (request : Request) (hreached : ¬ HitsLimit
      ((Session.start grammar.withoutMemory text).answer request).1)
    {report : FailureReport}
    (hanswer : (((Session.start grammar text).after history).answer request).1 =
      .error (.mismatch report))
    (hordinary : report.fatal = false) {label : String}
    (hlabels : grammar.LabelsAll text request ("Expected " ++ label) report.offset) :
    ∃ ending, (grammar.requestTrace text request).outcome = .error (.failure ending) ∧
      (ending.offset = report.offset → report.message = "Expected " ++ label) ∧
      (ending.offset ≠ report.offset → ∃ best,
        FirstFurthest (grammar.requestTrace text request).failures best ∧
          best.offset = report.offset ∧ report.message = best.message) := by
  obtain ⟨ending, reported, houtcome, hreports, rfl⟩ :=
    (answer_after_eq_mismatch_iff grammar text history request hreached report).mp hanswer
  obtain ⟨hends, hrecorded⟩ := grammar.offset_le_size text request
  refine ⟨ending, houtcome, ?_⟩
  cases hreports with
  | ending hfurthest =>
    have hoffset : (FailureReport.ofText text ending.offset ending.message ending.fatal).offset =
        ending.offset :=
      Nat.min_eq_left (hends ending houtcome)
    rw [hoffset] at hlabels ⊢
    exact ⟨fun _ ↦ message_of_outcome houtcome hordinary hlabels, fun hother ↦ absurd rfl hother⟩
  | @recorded best _ hbest hbeyond =>
    have hoffset : (FailureReport.ofText text best.offset best.message false).offset =
        best.offset :=
      Nat.min_eq_left (hrecorded best hbest.mem)
    refine ⟨fun hsame ↦ absurd (hsame.trans hoffset) hbeyond.ne, fun _ ↦
      ⟨best, hbest, hoffset.symm, rfl⟩⟩

end Grammar

/-! ### Numbers after a letter -/

/-- A letter and then a number, which has a label. -/
def Draft.numbered : Draft where
  entry := some (.expr ⟨3, .sequence [⟨0, .terminal (.literal "a" false)⟩,
    ⟨2, .labeled ⟨1, .terminal (.numeral .natural)⟩ "number"⟩] none⟩)

/-- A letter and then a number, or nothing, and then another letter. -/
def Draft.maybeNumbered : Draft where
  entry :=
    some
      (.expr
        ⟨6,
          .sequence
            [⟨4, .optional ⟨3, .sequence [⟨0, .terminal (.literal "a" false)⟩,
              ⟨2, .labeled ⟨1, .terminal (.numeral .natural)⟩ "number"⟩] none⟩ none⟩,
    ⟨5, .terminal (.literal "b" false)⟩] none⟩)

def Grammar.numbered : Grammar where
  nodes := #[.terminal (.literal "a" false) (some .blanks) "Expected \"a\"",
    .terminal (.numeral .natural) (some .blanks) "Expected integer",
    .labeled 1 (some .blanks) "Expected number", .sequence [0, 2] none]
  ruleNames := []
  ruleBodies := []
  entry := some 3
  config := {}

/-- The grammar of a letter and a number, or nothing, before another letter. -/
def Grammar.maybeNumbered : Grammar where
  nodes := numbered.nodes ++ #[.optional 3 none,
    .terminal (.literal "b" false) (some .blanks) "Expected \"b\"", .sequence [4, 5] none]
  ruleNames := []
  ruleBodies := []
  entry := some 6
  config := {}

theorem Draft.build_numbered : Draft.numbered.build = .ok Grammar.numbered := by
  cbv

theorem Draft.build_maybeNumbered : Draft.maybeNumbered.build = .ok Grammar.maybeNumbered := by
  cbv

/-- A letter without its number, told in steps. -/
def Step.numbered : Step :=
  ⟨3, 0, .error (.failure ⟨2, "Expected number", false⟩), [⟨0, 0, .ok ⟨1, .ofToken (.str "a")⟩, []⟩,
    ⟨2, 1, .error (.failure ⟨2, "Expected number", false⟩),
      [⟨1, 1, .error (.failure ⟨2, "Expected integer", false⟩), []⟩]⟩]⟩

/-- The failure of the number comes from the label. -/
theorem Step.labeled_numbered {grammar : Grammar}
    (hlabel : grammar.node 2 = .labeled 1 (some .blanks) "Expected number")
    (hpair : grammar.node 3 = .sequence [0, 2] none) :
    Step.numbered.Labeled grammar (.ofChars ['a', ' ', 'b']) "Expected number" 2 := by
  refine .through (fun child skip other hnode ↦ ?_) ?_ fun step hstep ↦ ?_
  · cases hpair.symm.trans hnode
  · rintro ⟨failure, houtcome, -, hnone⟩
    cases houtcome
    exact hnone _ (List.mem_cons_of_mem _ List.mem_cons_self) ⟨_, rfl, Or.inl rfl⟩
  · rcases List.mem_cons.mp hstep with rfl | hstep
    · exact .of_leaf rfl fun ⟨_, houtcome, _⟩ ↦ nomatch houtcome
    · obtain rfl := List.mem_singleton.mp hstep
      exact .label hlabel (by cbv) ⟨_, rfl, rfl⟩

namespace Grammar

/-- A letter without its number is told in steps. -/
theorem tellRequest_numbered : numbered.tellRequest (.ofChars ['a', ' ', 'b']) (.parse true) =
    ⟨.error (.failure ⟨2, "Expected number", false⟩), [.numbered]⟩ := by
  cbv

/-- Where the number after a letter is missing, nothing takes its place, and the label is
reported. -/
theorem message_of_labels_numbered :
    Draft.numbered.build = .ok numbered ∧
      ¬ HitsLimit ((Session.start numbered.withoutMemory (.ofChars ['a', ' ', 'b'])).answer
        (.parse true)).1 ∧
      numbered.LabelsAll (.ofChars ['a', ' ', 'b']) (.parse true) ("Expected " ++ "number") 2 ∧
      ∃ report, (((Session.start numbered (.ofChars ['a', ' ', 'b'])).after [.scan]).answer
        (.parse true)).1 =
          .error (.mismatch report) ∧
        report.offset = 2 ∧ report.message = "Expected " ++ "number" := by
  have houtcome : (numbered.requestTrace (.ofChars ['a', ' ', 'b']) (.parse true)).outcome =
      .error (.failure ⟨2, "Expected number", false⟩) := by
    cbv
  have hrecorded : (numbered.requestTrace (.ofChars ['a', ' ', 'b']) (.parse true)).failures =
      [⟨2, "Expected integer", false⟩] := by
    cbv
  have hreached :
      ¬ HitsLimit ((Session.start numbered.withoutMemory (.ofChars ['a', ' ', 'b'])).answer
        (.parse true)).1 := by
    rw [(numbered.answer_start_withoutMemory _ _).1, Trace.hitsLimit_report_iff,
      Trace.Limited, houtcome]
    exact not_isLimited_failure _
  have hlabels : numbered.LabelsAll (.ofChars ['a', ' ', 'b']) (.parse true)
      ("Expected " ++ "number") 2 := by
    rw [LabelsAll, tellRequest_numbered]
    refine ⟨?_, fun step hstep ↦ ?_⟩
    · rintro ⟨failure, houtcome, -, hnone⟩
      cases houtcome
      exact hnone _ List.mem_cons_self ⟨_, rfl, Or.inl rfl⟩
    · obtain rfl := List.mem_singleton.mp hstep
      exact Step.labeled_numbered rfl rfl
  have hanswer := (answer_after_eq_mismatch_iff numbered (.ofChars ['a', ' ', 'b'])
    [.scan] (.parse true) hreached
      (.ofText (.ofChars ['a', ' ', 'b']) 2 "Expected number" false)).mpr
        ⟨_, _, houtcome, .ending (Or.inr (by simp [hrecorded])), rfl⟩
  have hoffset : (FailureReport.ofText (.ofChars ['a', ' ', 'b']) 2 "Expected number"
        false).offset = 2 := by
    cbv
  obtain ⟨ending, hending, hmessage, -⟩ :=
    message_of_labels numbered (.ofChars ['a', ' ', 'b']) [.scan] (.parse true) hreached hanswer rfl
      (hoffset.symm ▸ hlabels)
  rw [houtcome] at hending
  obtain rfl := Halt.failure.inj (Except.error.inj hending)
  exact ⟨Draft.build_numbered, hreached, hlabels, _, hanswer, hoffset, hmessage hoffset.symm⟩

/-- Where the number after a letter is missing, but may be, the parse fails at its start. What is
reported is the missing number all the same, and all that was expected in its place was inside of
the label; but it is not the label that is reported. -/
theorem message_ne_label :
    Draft.maybeNumbered.build = .ok maybeNumbered ∧
      maybeNumbered.LabelsAll (.ofChars ['a', ' ', 'b']) (.parse true) ("Expected " ++ "number") 2 ∧
      ((Session.start maybeNumbered (.ofChars ['a', ' ', 'b'])).answer (.parse true)).1 =
        .error (.mismatch (.ofText (.ofChars ['a', ' ', 'b']) 2 "Expected integer" false)) ∧
      "Expected integer" ≠ "Expected " ++ "number" := by
  have htold : maybeNumbered.tellRequest (.ofChars ['a', ' ', 'b']) (.parse true) =
      ⟨.error (.failure ⟨0, "Expected \"b\"", false⟩),
        [⟨6, 0, .error (.failure ⟨0, "Expected \"b\"", false⟩),
          [⟨4, 0, .ok ⟨0, .empty⟩, [.numbered]⟩,
            ⟨5, 0, .error (.failure ⟨0, "Expected \"b\"", false⟩), []⟩]⟩]⟩ := by
    cbv
  have hreport : (maybeNumbered.requestTrace (.ofChars ['a', ' ', 'b']) (.parse true)).report
      (.ofChars ['a', ' ', 'b']) =
        .error (.mismatch (.ofText (.ofChars ['a', ' ', 'b']) 2 "Expected integer" false)) := by
    cbv
  have hreached : ¬ (maybeNumbered.requestTrace (.ofChars ['a', ' ', 'b'])
        (.parse true)).Limited := by
    rw [← Trace.hitsLimit_report_iff, hreport]
    rintro ⟨_, _, herror⟩
    cases herror
  refine ⟨Draft.build_maybeNumbered, ?_, ?_, by decide⟩
  · rw [LabelsAll, htold]
    have hzero {step : Step} (houtcome : step.outcome =
        .error (.failure ⟨0, "Expected \"b\"", false⟩)) :
        ¬ step.FailsAt 2 := by
      rintro ⟨failure, hfailure, hoffset⟩
      rw [houtcome] at hfailure
      cases hfailure
      cases hoffset
    refine ⟨?_, fun step hstep ↦ ?_⟩
    · rintro ⟨_, houtcome, hoffset, _⟩
      cases houtcome
      cases hoffset
    obtain rfl := List.mem_singleton.mp hstep
    refine .through (fun _ _ _ hnode ↦ by cases hnode) (Step.not_originates (hzero rfl))
      fun step hstep ↦ ?_
    rcases List.mem_cons.mp hstep with rfl | hstep
    · refine .through (fun _ _ _ hnode ↦ by cases hnode) (Step.not_originates ?_)
        fun step hstep ↦ ?_
      · rintro ⟨_, houtcome, _⟩
        cases houtcome
      obtain rfl := List.mem_singleton.mp hstep
      exact Step.labeled_numbered rfl rfl
    · obtain rfl := List.mem_singleton.mp hstep
      exact .of_leaf rfl (hzero rfl)
  · rw [← hreport]
    exact Session.answer_after_eq_report maybeNumbered _ [] _ hreached

end Grammar

end Packrat
