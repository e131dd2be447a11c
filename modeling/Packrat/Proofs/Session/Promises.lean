import Packrat.Proofs.Matching.Maintenance
import Packrat.Proofs.Session.Failures

/-!
# Sessions of grammars that maintain a property

What a grammar maintains of its matches holds in every session of it. Whatever was asked before, all
that a session remembers fulfils the promise (`Session.fulfils_after`), and so does what it notes
and answers when it is asked once more (`Session.kept_evaluation`, `Session.fulfils_of_answer`).
-/

set_option autoImplicit false
set_option relaxedAutoImplicit false

namespace Packrat

open MatchMonad

variable {grammar : Grammar} {text : Text} {promise : NodeId → Nat → Match → Prop}
  {keeps : Results → Prop}

/-- A match that was scanned stands between boundaries of the text. -/
structure ScanMatch.InRange (text : Text) (found : ScanMatch) : Prop where
  /-- It starts at a boundary. -/
  start : text.IsBoundary found.start
  /-- It ends ahead. -/
  stop : text.Ahead found.start found.stop

/-- All results that a session answers have a property, and the matches of a scan are in range. -/
def Reply.Fulfils (text : Text) (keeps : Results → Prop) : Reply → Prop
  | .results given => keeps given
  | .found matched => ∀ found ∈ matched, found.InRange text ∧ keeps found.results

/-- What is assured of the evaluations at boundaries of the nodes from which requests start is
assured of requests. -/
theorem Assurance.holds_evaluation {m : Type → Type} [MatchMonad m] (A : Assurance m)
    {call : NodeId → Matcher m}
    (hcall : ∀ id place, grammar.IsStart id → text.IsBoundary place →
      A.Holds (call id place) (text.Fulfils promise id place) (text.Ahead place))
    (hkeeps : ∀ id place found, promise id place found → keeps found.results) (request : Request) :
    A.Holds (request.evaluation grammar text call) (Reply.Fulfils text keeps) text.IsBoundary := by
  have hplaced (id : NodeId) (hstart : grammar.IsStart id) (place : Nat)
      (hplace : text.IsBoundary place) :
      A.Holds (call id place) (text.Fulfils promise id place) text.IsBoundary :=
    A.holds_mono (hcall id place hstart hplace) (fun _ hfound ↦ hfound) fun _ hahead ↦
    hahead.boundary
  have hparse (whole : Bool) (id : NodeId) (hstart : grammar.IsStart id) :
      A.Holds (parseFrom text grammar.skip whole (call id) >>= fun results ↦
        pure (Reply.results results)) (Reply.Fulfils text keeps) text.IsBoundary := by
    have hresults : A.Holds (parseFrom text grammar.skip whole (call id))
        keeps text.IsBoundary := by
      apply A.holds_parseFrom
      refine A.holds_mono (hplaced id hstart 0 text.isBoundary_zero) (fun found hfound ↦ ?_)
        fun _ hplace ↦ hplace
      exact ⟨hkeeps id 0 found hfound.2, (hfound.1.boundary.ahead_skipFrom _).boundary⟩
    exact A.holds_bind hresults fun results hkept ↦ A.holds_pure _ hkept
  have hscan (id : NodeId) (hstart : grammar.IsStart id) :
      A.Holds (scanFrom text grammar.skip (call id) 0 [] >>= fun found ↦ pure (Reply.found found))
        (Reply.Fulfils text keeps) text.IsBoundary := by
    have hfound : A.Holds (scanFrom text grammar.skip (call id) 0 [])
        (fun matched ↦ ∀ found ∈ matched, found.InRange text ∧ keeps found.results)
        text.IsBoundary := by
      refine A.holds_scanFrom (hplaced id hstart) (fun _ _ _ hends ↦ hends.1.boundary)
        (fun _ hstart hinside ↦ hstart.next hinside) (fun start one hstart hends ↦ ?_) _ 0 [] rfl
        (fun _ ↦ text.isBoundary_zero) fun _ hnone ↦ nomatch hnone
      have hmin := (hstart.ahead_skipFrom grammar.skip).min hends.1
      exact ⟨⟨hmin.boundary, hends.1.boundary.ahead (Nat.min_le_right _ _)⟩,
        hkeeps id start one hends.2⟩
    exact A.holds_bind hfound fun matched hmatched ↦ A.holds_pure _ hmatched
  match request with
  | .parse whole =>
    simp only [Request.evaluation]
    split
    · exact A.holds_error _
    next entry hstart => exact hparse whole entry (Or.inl hstart)
  | .parseRule name whole =>
    simp only [Request.evaluation]
    split
    · exact A.holds_error _
    next body hbody =>
      obtain ⟨rule, -, hstart⟩ := Option.bind_eq_some_iff.mp hbody
      exact hparse whole body (Or.inr (List.mem_of_getElem? hstart))
  | .scan =>
    simp only [Request.evaluation]
    split
    · exact A.holds_error _
    next entry hstart => exact hscan entry (Or.inl hstart)

namespace Session

/-- A session in which all that is remembered fulfils a promise keeps it when a request is
evaluated. -/
theorem kept_evaluation {session : Session}
    (hmaintains : session.grammar.Maintains session.text promise)
    (hstate : session.state.Fulfils session.text promise)
    (hkeeps : ∀ id place found, promise id place found → keeps found.results) (request : Request) :
    Kept session.text promise (Reply.Fulfils session.text keeps) session.text.IsBoundary
      session.state (session.visits request)
      (request.evaluation session.grammar session.text session.matcher session.state) := by
  have hkept : (Logged.keeping session.text promise).Holds (session.logged request)
      (Reply.Fulfils session.text keeps) session.text.IsBoundary :=
    (Logged.keeping session.text promise).holds_evaluation
      (fun id place _ ↦
        session.grammar.holds_evaluateLogged hmaintains session.grammar.config.maxDepth id place)
      hkeeps request
  rw [← session.plain_logged request]
  exact hkept session.state hstate

/-- A session in which nothing was asked remembers nothing. -/
theorem fulfils_start (grammar : Grammar) (text : Text) (promise : NodeId → Nat → Match → Prop) :
    (start grammar text).state.Fulfils text promise :=
  ⟨fun id offset found hfind ↦ by
    simp [state, start, Memo.find?] at hfind, fun _ hrun ↦ nomatch hrun⟩

/-- Answering a request, a session keeps a promise that its grammar maintains. -/
theorem fulfils_answer {session : Session}
    (hmaintains : session.grammar.Maintains session.text promise)
    (hstate : session.state.Fulfils session.text promise) (request : Request) :
    (session.answer request).2.state.Fulfils session.text promise := by
  have hkept : Kept session.text promise (Reply.Fulfils session.text fun _ ↦ True)
      session.text.IsBoundary session.state (session.visits request)
      (request.evaluation session.grammar session.text session.matcher session.state) :=
    kept_evaluation hmaintains hstate (fun _ _ _ _ ↦ True.intro) request
  rw [answer_eq_run]
  exact hkept.after.of_eq rfl rfl

/-- Whatever was asked before, all that a session remembers fulfils what its grammar maintains. -/
theorem fulfils_after (hmaintains : grammar.Maintains text promise) (history : List Request) :
    ((start grammar text).after history).state.Fulfils text promise := by
  suffices hsession : ∀ session : Session, session.grammar = grammar → session.text = text →
      session.state.Fulfils text promise → (session.after history).state.Fulfils text promise from
    hsession _ rfl rfl (fulfils_start grammar text promise)
  induction history with
  | nil => exact fun _ _ _ hstate ↦ hstate
  | cons request rest ih =>
    rintro session rfl rfl hstate
    refine ih (session.answer request).2 ?_ ?_ ?_
    · rw [answer_eq_run]
      rfl
    · rw [answer_eq_run]
      rfl
    · exact fulfils_answer hmaintains hstate request

/-- What a session answers fulfils what its grammar maintains. -/
theorem fulfils_of_answer {session : Session}
    (hmaintains : session.grammar.Maintains session.text promise)
    (hstate : session.state.Fulfils session.text promise)
    (hkeeps : ∀ id place found, promise id place found → keeps found.results) {request : Request}
    {reply : Reply} (hanswer : (session.answer request).1 = .ok reply) :
    reply.Fulfils session.text keeps := by
  have hkept := kept_evaluation hmaintains hstate hkeeps request
  match hrun : request.evaluation session.grammar session.text session.matcher session.state with
  | (.ok found, after) =>
    rw [answer_eq_run, run_eq hrun] at hanswer
    rw [hrun] at hkept
    obtain rfl := Except.ok.inj hanswer
    exact hkept.outcome
  | (.error reason, after) =>
    rw [answer_eq_run, run_eq hrun] at hanswer
    cases hanswer

/-- Whatever was asked before, what a session answers fulfils what its grammar maintains. -/
theorem fulfils_of_answer_after (hmaintains : grammar.Maintains text promise)
    (hkeeps : ∀ id place found, promise id place found → keeps found.results)
    {history : List Request} {request : Request} {reply : Reply}
    (hanswer : (((start grammar text).after history).answer request).1 = .ok reply) :
    reply.Fulfils text keeps := by
  have hgrammar : ((start grammar text).after history).grammar = grammar :=
    (start grammar text).grammar_after history
  have htext : ((start grammar text).after history).text = text :=
    (start grammar text).text_after history
  have hafter := fulfils_after hmaintains history
  have hreply : reply.Fulfils ((start grammar text).after history).text keeps :=
    fulfils_of_answer (by rw [hgrammar, htext]; exact hmaintains)
      (by rw [htext]; exact hafter) hkeeps hanswer
  rwa [htext] at hreply

end Session

end Packrat
