import Packrat.Proofs.Matching.Guarded
import Packrat.Proofs.Session.Transparency
import Packrat.Regex.Parser

/-!
# What sessions of accepted grammars never do

The checks that a grammar passes when it is built are enough. A node that is not marked as nullable
consumes something whenever it matches, so no request is answered with an iteration that consumes
nothing (`Grammar.consumes_of_not_isMarked`). No node is evaluated inside an evaluation of itself at
the same offset, so no request is stopped by a limit on the depth that is at least the number of
pairs of nodes and offsets (`Grammar.not_hitsLimit_of_enough_depth`), and every request is answered
at all if no quoted string has an empty escaped quote. This takes nothing for granted but that the
regular expressions are honest.
-/

set_option autoImplicit false
set_option relaxedAutoImplicit false

namespace Packrat

variable {grammar : Grammar} {text : Text}

/-- A grammar error is about what was asked. -/
def Grammar.IsRequestError (grammar : Grammar) (error : GrammarError) : Prop :=
  error = .missingEntryPoint ∨ ∃ name, error = Compile.undefinedRule grammar.ruleNames name

theorem Grammar.WellFormed.lt_of_isStart (hformed : grammar.WellFormed) {id : NodeId}
    (hstart : grammar.IsStart id) : id < grammar.nodeCount := by
  rcases hstart with hentry | hbody
  · exact hformed.entry id hentry
  · exact hformed.bodies id hbody

/-- What the traces of nodes yield is what the traces of requests yield, beside their own errors. -/
theorem Grammar.yields_evaluation (haccepted : grammar.Accepted)
    (hhonest : grammar.HasHonestRegexes) (text : Text) {allows : ParseError → Prop}
    (hendless : allows .endless) (hentry : allows (.grammar .missingEntryPoint))
    (hrule : ∀ name, allows (.grammar (Compile.undefinedRule grammar.ruleNames name))) {room : Nat}
    (henough : (∀ place limit, allows (.recursionLimit place limit)) ∨
      grammar.nodeCount * (text.size + 1) ≤ room) (request : Request) :
    (request.evaluation grammar text (grammar.trace text room)).Yields allows fun _ ↦ True := by
  have hcall (id : NodeId) (offset : Nat) (hstart : grammar.IsStart id) :
      (grammar.trace text room id offset).Yields allows fun _ ↦ True := by
    have hid : id < grammar.nodeCount := haccepted.formed.lt_of_isStart hstart
    have hbound : grammar.depthBound text id offset < grammar.nodeCount * (text.size + 1) :=
      depthBound_lt haccepted hid
    have hyields := yields_trace haccepted hhonest text allows hendless room id offset hid
      (henough.imp_right hbound.trans_le)
    exact ⟨hyields.errors, fun _ _ ↦ True.intro⟩
  have hrequest : (Trace.yielding allows).Holds
      (request.evaluation grammar text (grammar.trace text room))
      (request.evaluation grammar text (grammar.trace text room)) fun _ ↦ True :=
    (Trace.yielding allows).holds_evaluation hentry hrule hcall request
  exact hrequest

namespace Session

/-- Whatever was asked before, what a session remembers is right. -/
theorem valid_after (grammar : Grammar) (text : Text) (history : List Request) :
    ((start grammar text).after history).state.Valid grammar text := by
  intro hpackrat
  have hsound := sound_after hpackrat (sound_start grammar text) history
  rw [Sound, grammar_after, text_after] at hsound
  exact hsound

/-- The evaluation of a request has the outcome of a trace of the request. -/
theorem answers_evaluation {session : Session}
    (hvalid : session.state.Valid session.grammar session.text) (request : Request) :
    Answers session.grammar.config.maxDepth
      (request.evaluation session.grammar session.text session.matcher session.state).1
      (request.evaluation session.grammar session.text
        (session.grammar.deepening session.text)) := by
  refine (answers_of_faithful (fun hpackrat ↦ faithful_evaluation hpackrat request)
    (fun hplain ↦ ?_) hvalid).2
  rw [session.grammar.trace_evaluation_deepening]
  exact performs_evaluation hplain request

/-- An answer that is an error is the outcome of the evaluation, unless it says that the text does
not match. -/
theorem evaluation_of_answer {session : Session} {request : Request} {error : ParseError}
    (hanswer : (session.answer request).1 = .error error) (hother : error.isMismatch = false) :
    (request.evaluation session.grammar session.text session.matcher session.state).1 =
      .error (.error error) := by
  match hrun : request.evaluation session.grammar session.text session.matcher session.state with
  | (.ok reply, after) =>
    rw [answer_eq_run, run_eq hrun] at hanswer
    cases hanswer
  | (.error (.failure failure), after) =>
    rw [answer_eq_run, run_eq hrun] at hanswer
    cases hanswer
    cases hother
  | (.error (.error found), after) =>
    rw [answer_eq_run, run_eq hrun] at hanswer
    cases hanswer
    rfl

/-- An answer of a session that is neither about the text nor about the depth is the outcome of a
trace, whatever was asked before. -/
theorem exists_trace_of_answer_after {history : List Request} {request : Request}
    {error : ParseError} (hanswer : (((start grammar text).after history).answer request).1 =
      .error error)
    (hother : error.isMismatch = false) (hdepth : ∀ place limit,
      error ≠ .recursionLimit place limit) :
    ∃ room, (request.evaluation grammar text (grammar.trace text room)).outcome =
      .error (.error error) := by
  have hvalid := valid_after grammar text history
  have hgrammar : ((start grammar text).after history).grammar = grammar :=
    (start grammar text).grammar_after history
  have htext : ((start grammar text).after history).text = text :=
    (start grammar text).text_after history
  have houtcome := evaluation_of_answer hanswer hother
  have hanswers := answers_evaluation (by rw [hgrammar, htext]; exact hvalid) request
  rw [houtcome, hgrammar, htext] at hanswers
  have hunlimited : ¬ IsLimited (.error (.error error) : Except Halt Reply) := by
    cases error with
    | recursionLimit place limit => exact absurd rfl (hdepth place limit)
    | _ => exact not_false
  obtain ⟨room, htrace⟩ := hanswers.exists_trace hunlimited
  rw [grammar.trace_evaluation_deepening] at htrace
  exact ⟨room, htrace⟩

/-- The only grammar errors that a session of an accepted grammar answers are about what was
asked. -/
theorem isRequestError_of_answer_after (haccepted : grammar.Accepted)
    (hhonest : grammar.HasHonestRegexes) {history : List Request} {request : Request}
    {error : GrammarError}
    (hanswer : (((start grammar text).after history).answer request).1 = .error (.grammar error)) :
    grammar.IsRequestError error := by
  obtain ⟨room, htrace⟩ := exists_trace_of_answer_after hanswer rfl fun _ _ ↦ nofun
  have hyields : (request.evaluation grammar text (grammar.trace text room)).Yields
      (fun found ↦ ∀ error, found = .grammar error → grammar.IsRequestError error) fun _ ↦
      True := by
    refine grammar.yields_evaluation haccepted hhonest text ?_ ?_ ?_ (Or.inl ?_) request
    · rintro error herror
      cases herror
    · rintro error herror
      exact Or.inl (ParseError.grammar.inj herror).symm
    · rintro name error herror
      exact Or.inr ⟨name, (ParseError.grammar.inj herror).symm⟩
    · rintro place limit error herror
      cases herror
  exact hyields.errors _ htrace error rfl

/-- A session of a grammar without empty escaped quotes answers every request. -/
theorem answer_after_ne_endless (hescapes : grammar.NoEmptyEscapes) (text : Text)
    (history : List Request) (request : Request) :
    (((start grammar text).after history).answer request).1 ≠ .error .endless := by
  intro hanswer
  obtain ⟨room, htrace⟩ := exists_trace_of_answer_after hanswer rfl fun _ _ ↦ nofun
  have hyields : (Trace.yielding (· ≠ .endless)).Holds
      (request.evaluation grammar text (grammar.trace text room))
      (request.evaluation grammar text (grammar.trace text room)) fun _ ↦ True :=
    (Trace.yielding (· ≠ .endless)).holds_evaluation nofun (fun _ ↦ nofun)
      (fun id offset _ ↦ Grammar.yields_trace_ne_endless hescapes room id offset) request
  exact hyields.errors _ htrace rfl

end Session

/-! ### A letter with a tail -/

theorem exists_of_isOk {ε α : Type} {outcome : Except ε α} (hok : outcome.isOk = true) :
    ∃ value, outcome = .ok value := by
  cases outcome with
  | ok value => exact ⟨value, rfl⟩
  | error error => cases hok

/-- A letter, and any number of another one after it. Almost nothing of it is remembered. -/
def Draft.tailed : Draft where
  rules := [("tailed",
    ⟨2, .sequence [⟨0, .terminal (.literal "a" false)⟩, ⟨1, .regex .standard "b*"⟩] none⟩)]
  entry := some (.rule "tailed")
  config := { maxMemoSize := 0 }

/-- Any number of a letter, at the start of a text. -/
def CompiledRegex.tail : CompiledRegex :=
  (Regex.cat (.look .textStart) (.repetition (.char (.single 'b')) 0 none true)).compiled

def Grammar.tailed : Grammar where
  nodes := #[.terminal (.literal "a" false) (some .blanks) "Expected \"a\"",
    .regex .tail (some .blanks) "Expected Re:(\"b*\")", .sequence [0, 1] none, .call 0]
  ruleNames := ["tailed"]
  ruleBodies := [2]
  entry := some 3
  config := { maxMemoSize := 0 }

/-- The draft of a letter with a tail builds into its grammar. -/
theorem Draft.build_tailed : Draft.tailed.build = .ok Grammar.tailed := by
  cbv

/-- The tail takes nothing only where it matches the empty text, which it does. -/
theorem Grammar.hasHonestRegexes_tailed : Grammar.tailed.HasHonestRegexes := by
  intro regex skip expected hmem
  have hnode : regex = .tail ∧ skip = some .blanks ∧ expected = "Expected Re:(\"b*\")" := by
    simpa [tailed] using hmem
  obtain ⟨rfl, -, -⟩ := hnode
  exact fun _ _ _ _ ↦ by cbv

namespace Grammar

/-- The analysis of what is nullable is right. A node that is not marked consumes something whenever
it matches, whatever is remembered as long as it is right, and so it always is in a session. No
request is ever answered with an iteration that consumes nothing. -/
theorem consumes_of_not_isMarked {draft : Draft} (hbuild : draft.build = .ok grammar)
    (hhonest : grammar.HasHonestRegexes) (text : Text) (history : List Request) :
    ((Session.start grammar text).after history).state.Valid grammar text ∧
      (∀ state : EngineState, state.Valid grammar text →
        ∀ (room : Nat) (id : NodeId) (offset : Nat) (found : Match), id < grammar.nodeCount →
          isMarked grammar.nullable id = false →
          (grammar.evaluate text room id offset state).1 = .ok found → offset < found.stop) ∧
      ∀ (request : Request) (expression : String) (offset : Nat),
        (((Session.start grammar text).after history).answer request).1 ≠
          .error (.grammar (.zeroWidthIteration expression offset)) := by
  have haccepted := Draft.accepted_of_build hbuild
  refine ⟨Session.valid_after grammar text history, ?_, ?_⟩
  · intro state hvalid room id offset found hid hunmarked hfound
    have hends := endsAfter_of_evaluate haccepted hhonest hvalid hid hfound
    exact hends.2 hunmarked
  · intro request expression offset hanswer
    rcases Session.isRequestError_of_answer_after haccepted hhonest hanswer with hentry | hrule
    · cases hentry
    · obtain ⟨name, hname⟩ := hrule
      cases hname

/-- A letter with a tail that was scanned before consumes something when it is evaluated. -/
theorem consumes_tailed :
    Draft.tailed.build = .ok tailed ∧ tailed.HasHonestRegexes ∧
      isMarked tailed.nullable 1 = true ∧ isMarked tailed.nullable 2 = false ∧
      ∃ found, (tailed.evaluate (.ofChars ['a', 'b']) 2 2 0
          ((Session.start tailed (.ofChars ['a', 'b'])).after [.scan]).state).1 = .ok found ∧
        0 < found.stop := by
  have hmatches : (tailed.evaluate (.ofChars ['a', 'b']) 2 2 0
      ((Session.start tailed (.ofChars ['a', 'b'])).after [.scan]).state).1.isOk = true := by
    cbv
  have hunmarked : isMarked tailed.nullable 2 = false := by cbv
  refine ⟨Draft.build_tailed, hasHonestRegexes_tailed, by cbv, hunmarked, ?_⟩
  have hconsumes := consumes_of_not_isMarked Draft.build_tailed hasHonestRegexes_tailed
    (.ofChars ['a', 'b']) [.scan]
  obtain ⟨found, hfound⟩ := exists_of_isOk hmatches
  exact ⟨found, hfound, hconsumes.2.1 _ hconsumes.1 2 2 0 found (by decide) hunmarked hfound⟩

/-- No node is evaluated inside an evaluation of itself at the same offset: an alarm that goes off
if one is makes no difference. So a limit on the depth that is at least the number of pairs of nodes
and offsets stops no evaluation of a node, and no request. Nor does any request wait for ever for
its answer, if no quoted string has an empty escaped quote. -/
theorem not_hitsLimit_of_enough_depth {draft : Draft} (hbuild : draft.build = .ok grammar)
    (hhonest : grammar.HasHonestRegexes) (text : Text) (history : List Request) :
    (∀ (alarm : Halt) (room : Nat) (id : NodeId) (offset : Nat), id < grammar.nodeCount →
        grammar.guarded text alarm room id offset []
            ((Session.start grammar text).after history).state =
          grammar.evaluate text room id offset
            ((Session.start grammar text).after history).state) ∧
      (∀ (room : Nat) (id : NodeId) (offset : Nat), id < grammar.nodeCount →
        grammar.nodeCount * (text.size + 1) ≤ room →
        ¬ IsLimited (grammar.evaluate text room id offset
          ((Session.start grammar text).after history).state).1) ∧
      (grammar.nodeCount * (text.size + 1) ≤ grammar.config.maxDepth → ∀ request : Request,
        ¬ HitsLimit (((Session.start grammar text).after history).answer request).1) ∧
      (grammar.NoEmptyEscapes → ∀ request : Request,
        (((Session.start grammar text).after history).answer request).1 ≠ .error .endless) := by
  have haccepted := Draft.accepted_of_build hbuild
  have hvalid := Session.valid_after grammar text history
  refine ⟨?_, ?_, ?_, fun hescapes ↦ Session.answer_after_ne_endless hescapes text history⟩
  · intro alarm room id offset hid
    exact guarded_eq_evaluate haccepted hhonest alarm room hid hvalid
  · intro room id offset hid henough
    have hbound : grammar.depthBound text id offset < grammar.nodeCount * (text.size + 1) :=
      depthBound_lt haccepted hid
    exact not_isLimited_evaluate haccepted hhonest hvalid hid (hbound.trans_le henough)
  · intro henough request
    have hyields : (grammar.requestTrace text request).Yields
        (fun error ↦ ∀ place limit, error ≠ .recursionLimit place limit) fun _ ↦ True := by
      refine grammar.yields_evaluation haccepted hhonest text ?_ ?_ ?_ (Or.inr henough) request
      · exact fun _ _ hendless ↦ nomatch hendless
      · exact fun _ _ hentry ↦ nomatch hentry
      · exact fun _ _ _ hrule ↦ nomatch hrule
    have hunlimited : ¬ (grammar.requestTrace text request).Limited :=
      hyields.not_limited fun place limit hallowed ↦ hallowed place limit rfl
    rw [Session.answer_after_eq_report grammar text history request hunlimited,
      Trace.hitsLimit_report_iff]
    exact hunlimited

/-- A letter with a tail has twelve pairs of nodes and offsets, fewer than the limit. -/
theorem not_hitsLimit_tailed :
    Draft.tailed.build = .ok tailed ∧ tailed.HasHonestRegexes ∧
      tailed.nodeCount * ((Text.ofChars ['a', 'b']).size + 1) ≤ tailed.config.maxDepth ∧
      ¬ HitsLimit (((Session.start tailed (.ofChars ['a', 'b'])).after
        [.scan, .parse true]).answer .scan).1 := by
  have henough :
      tailed.nodeCount * ((Text.ofChars ['a', 'b']).size + 1) ≤ tailed.config.maxDepth := by
    decide
  have hguarantee := not_hitsLimit_of_enough_depth Draft.build_tailed hasHonestRegexes_tailed
    (.ofChars ['a', 'b']) [.scan, .parse true]
  exact ⟨Draft.build_tailed, hasHonestRegexes_tailed, henough, hguarantee.2.2.1 henough .scan⟩

end Grammar

end Packrat
