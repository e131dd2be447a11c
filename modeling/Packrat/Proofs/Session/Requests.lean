import Packrat.Proofs.Matching.Uncached

/-!
# Requests to sessions

A session is asked to parse its text from the entry or from a rule, or to scan it. A `Request` is
one such call, and `Session.after` is the session after a list of them, whatever their outcome.

Every request comes down to one evaluation that is run in the session (`Session.answer_eq_run`), and
the evaluation is written for every `MatchMonad` (`Request.evaluation`). Whatever relates the
evaluations of nodes therefore relates the requests (`Correspondence.holds_evaluation`).
-/

set_option autoImplicit false
set_option relaxedAutoImplicit false

namespace Packrat

open MatchMonad

/-- A call to a session. -/
inductive Request where
  /-- Parses from the entry. -/
  | parse (whole : Bool)
  /-- Parses from a rule. -/
  | parseRule (name : String) (whole : Bool)
  /-- Looks for all matches of the entry. -/
  | scan
deriving DecidableEq, Repr

/-- A request for a rule is for one of the given names. -/
def Request.IsAmong (names : List String) : Request → Prop
  | .parseRule name _ => name ∈ names
  | .parse _ => True
  | .scan => True

/-- What a session answers to a request. -/
inductive Reply where
  /-- The results of a parse. -/
  | results (results : Results)
  /-- The matches that a scan found. -/
  | found (matched : List ScanMatch)

/-- An outcome is an error of the limit on the depth of evaluations. -/
def HitsLimit {α : Type} (outcome : Except ParseError α) : Prop :=
  ∃ offset limit, outcome = .error (.recursionLimit offset limit)

theorem not_hitsLimit_of_isOk {α : Type} {outcome : Except ParseError α}
    (hok : outcome.isOk = true) : ¬ HitsLimit outcome := by
  rintro ⟨offset, limit, rfl⟩
  cases hok

namespace Session

def answer (session : Session) : Request → Except ParseError Reply × Session
  | .parse whole => ((session.parse whole).1.map .results, (session.parse whole).2)
  | .parseRule name whole =>
    ((session.parseRule name whole).1.map .results, (session.parseRule name whole).2)
  | .scan => (session.scan.1.map .found, session.scan.2)

/-- The session after some requests in order. -/
def after (session : Session) (requests : List Request) : Session :=
  requests.foldl (fun session request ↦ (session.answer request).2) session

/-- The state in which a session runs its next evaluation. -/
def state (session : Session) : EngineState :=
  { memo := session.memo, counters := session.counters, invocations := session.invocations }

/-- The session with what an evaluation left. -/
def keep (session : Session) (state : EngineState) : Session :=
  { session with
    memo := state.memo, counters := state.counters, invocations := state.invocations }

end Session

/-- The evaluation of a request, given the evaluation of every node. -/
def Request.evaluation {m : Type → Type} [MatchMonad m] (grammar : Grammar) (text : Text)
    (call : NodeId → Matcher m) : Request → m Reply
  | .parse whole =>
    match grammar.entry with
    | none => halt (.error (.grammar .missingEntryPoint))
    | some entry => do
      let results ← parseFrom text grammar.skip whole (call entry)
      pure (.results results)
  | .parseRule name whole =>
    match grammar.findRule? name with
    | none => halt (.error (.grammar (Compile.undefinedRule grammar.ruleNames name)))
    | some body => do
      let results ← parseFrom text grammar.skip whole (call body)
      pure (.results results)
  | .scan =>
    match grammar.entry with
    | none => halt (.error (.grammar .missingEntryPoint))
    | some entry => do
      let found ← scanFrom text grammar.skip (call entry) 0 []
      pure (.found found)

namespace Session

theorem run_eq {α : Type} {session : Session} {evaluation : Engine α} {outcome : Except Halt α}
    {after : EngineState} (hrun : evaluation session.state = (outcome, after)) :
    session.run evaluation =
      (outcome.mapError (Halt.toError session.text after.furthest), session.keep after) := by
  rw [state] at hrun
  simp only [run, hrun, keep]

/-- Changing the value of an evaluation changes nothing else in a session. -/
theorem run_map {α β : Type} (session : Session) (evaluation : Engine α) (f : α → β) :
    session.run (evaluation >>= fun value ↦ pure (f value)) =
      ((session.run evaluation).1.map f, (session.run evaluation).2) := by
  rcases hrun : evaluation session.state with ⟨outcome, after⟩
  cases outcome with
  | ok value =>
    rw [run_eq hrun, run_eq (Engine.bind_of_ok hrun _)]
    rfl
  | error halt =>
    rw [run_eq hrun, run_eq (Engine.bind_of_error hrun _)]
    rfl

/-- A request is answered by running its evaluation. -/
theorem answer_eq_run (session : Session) (request : Request) :
    session.answer request =
      session.run (request.evaluation session.grammar session.text session.matcher) := by
  cases request with
  | parse whole =>
    simp only [answer, parse, Request.evaluation]
    cases session.grammar.entry with
    | none => rfl
    | some entry => exact (session.run_map _ _).symm
  | parseRule name whole =>
    simp only [answer, parseRule, Request.evaluation]
    cases session.grammar.findRule? name with
    | none => rfl
    | some body => exact (session.run_map _ _).symm
  | scan =>
    simp only [answer, scan, Request.evaluation]
    cases session.grammar.entry with
    | none => rfl
    | some entry => exact (session.run_map _ _).symm

/-- What a session is after it has answered a request. -/
theorem answer_snd (session : Session) (request : Request) :
    (session.answer request).2 = session.keep
      (request.evaluation session.grammar session.text session.matcher session.state).2 := by
  rw [answer_eq_run]
  rfl

@[simp] theorem grammar_after (session : Session) (requests : List Request) :
    (session.after requests).grammar = session.grammar := by
  induction requests generalizing session with
  | nil => rfl
  | cons request rest ih =>
    change (((session.answer request).2).after rest).grammar = _
    rw [ih, answer_eq_run]
    rfl

@[simp] theorem text_after (session : Session) (requests : List Request) :
    (session.after requests).text = session.text := by
  induction requests generalizing session with
  | nil => rfl
  | cons request rest ih =>
    change (((session.answer request).2).after rest).text = _
    rw [ih, answer_eq_run]
    rfl

end Session

/-- Requests start from a node: from the entry, or from the body of a rule. -/
def Grammar.IsStart (grammar : Grammar) (id : NodeId) : Prop :=
  id ∈ grammar.entry ∨ id ∈ grammar.ruleBodies

/-- A request that parses, as opposed to one that scans. -/
def Request.Parses : Request → Prop
  | .parse _ => True
  | .parseRule _ _ => True
  | .scan => False

/-- Parses evaluate alike when the nodes from which they start do. -/
theorem Concord.holds_evaluation {m n : Type → Type} [MatchMonad m] [MatchMonad n]
    (C : Concord m n) {grammar : Grammar} {text : Text} {call : NodeId → Matcher m}
    {call' : NodeId → Matcher n}
    (hentry : C.Allows (.grammar .missingEntryPoint))
    (hrule : ∀ name, C.Allows (.grammar (Compile.undefinedRule grammar.ruleNames name)))
    (hcall : ∀ id offset, grammar.IsStart id →
      C.Holds (call id offset) (call' id offset) fun _ ↦ True)
    {request : Request} (hparses : request.Parses) :
    C.Holds (request.evaluation grammar text call) (request.evaluation grammar text call')
      fun _ ↦ True := by
  have hparse (whole : Bool) (id : NodeId) (hid : grammar.IsStart id) :
      C.Holds
        (parseFrom text grammar.skip whole (call id) >>= fun results ↦ pure (Reply.results results))
        (parseFrom text grammar.skip whole (call' id) >>= fun results ↦
          pure (Reply.results results))
        fun _ ↦ True :=
    C.holds_bind (holds_parseFrom text _ whole (hcall id 0 hid))
      fun _ _ ↦ C.holds_pure _ True.intro
  cases request with
  | parse whole =>
    simp only [Request.evaluation]
    split
    · exact C.holds_error _ hentry
    next entry hstart => exact hparse whole entry (Or.inl hstart)
  | parseRule name whole =>
    simp only [Request.evaluation]
    split
    · exact C.holds_error _ (hrule name)
    next body hbody =>
      obtain ⟨rule, -, hstart⟩ := Option.bind_eq_some_iff.mp hbody
      exact hparse whole body (Or.inr (List.mem_of_getElem? hstart))
  | scan => exact hparses.elim

/-- Requests evaluate alike when the nodes from which they start do. -/
theorem Correspondence.holds_evaluation {m n : Type → Type} [MatchMonad m] [MatchMonad n]
    (C : Correspondence m n) {grammar : Grammar} {text : Text} {call : NodeId → Matcher m}
    {call' : NodeId → Matcher n}
    (hentry : C.Allows (.grammar .missingEntryPoint))
    (hrule : ∀ name, C.Allows (.grammar (Compile.undefinedRule grammar.ruleNames name)))
    (hcall : ∀ id offset, grammar.IsStart id →
      C.Holds (call id offset) (call' id offset) fun _ ↦ True)
    (request : Request) :
    C.Holds (request.evaluation grammar text call) (request.evaluation grammar text call')
      fun _ ↦ True := by
  cases request with
  | scan =>
    simp only [Request.evaluation]
    split
    · exact C.holds_error _ hentry
    next entry hstart =>
      have hentries (offset : Nat) := hcall entry offset (Or.inl hstart)
      exact C.holds_bind (C.holds_scanFrom text _ hentries _ 0 [] rfl)
        fun _ _ ↦ C.holds_pure _ True.intro
  | _ => exact C.toConcord.holds_evaluation hentry hrule hcall True.intro

end Packrat
