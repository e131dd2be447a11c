import Packrat.Proofs.Grammar.Supply
import Packrat.Proofs.Grammar.Twins
import Packrat.Proofs.Matching.Readings
import Packrat.Proofs.Session.Transparency

/-!
# What grammars mean

The grammar of a draft means what the draft says. Without memory the engine ends on the node of a
rule, and on the entry, as the expression reads, with the same results or the same failure, and the
furthest failure that it has recorded is that of the reading. Which expressions are shared makes no
difference: every copy of the draft builds, and without memory it answers every request alike
(`Draft.evaluate_follows_reading`).
-/

set_option autoImplicit false
set_option relaxedAutoImplicit false

namespace Packrat

open MatchMonad

variable {α : Type}

/-- An evaluation ends as an account says, and of the failures recorded before and those of the
account it keeps the furthest. -/
def Engine.Follows (evaluation : Engine α) (account : Account α) : Prop :=
  ∀ state : EngineState, (evaluation state).1 = account.outcome ∧
    (evaluation state).2.furthest = account.failures.foldl Failure.further state.furthest

/-- What does what a trace says follows its account. -/
theorem Performs.follows {evaluation : Engine α} {trace : Trace α} {property : α → Prop}
    (hperforms : Performs evaluation trace property) : evaluation.Follows trace.account := by
  intro state
  obtain ⟨counters, hrun⟩ := hperforms.1 state
  rw [hrun]
  exact ⟨rfl, rfl⟩

namespace Grammar

/-- Without memory the engine follows the accounts of nodes. -/
theorem evaluate_follows_account (grammar : Grammar) (text : Text) (room : Nat) (id : NodeId)
    (offset : Nat) :
    (grammar.withoutMemory.evaluate text room id offset).Follows
      (grammar.account text room id offset) := by
  have hplain : grammar.withoutMemory.config.packrat = false := rfl
  have hperforms := performs_evaluate hplain text room id offset
  rw [trace_withoutMemory] at hperforms
  rw [← account_trace]
  exact hperforms.follows

def requestAccount (grammar : Grammar) (text : Text) (request : Request) : Account Reply :=
  request.evaluation grammar text (grammar.account text grammar.config.maxDepth)

/-- The account of a request with some room is the account of its trace. -/
theorem account_evaluation (grammar : Grammar) (text : Text) (request : Request) (room : Nat) :
    (request.evaluation grammar text (grammar.trace text room)).account =
      request.evaluation grammar text (grammar.account text room) :=
  (reckoning.holds_evaluation True.intro (fun _ ↦ True.intro)
    (fun id offset _ ↦ ⟨account_trace _ id offset, fun _ _ ↦ True.intro⟩) request).1

/-- The account of a request is the account of its trace. -/
theorem account_requestTrace (grammar : Grammar) (text : Text) (request : Request) :
    (grammar.requestTrace text request).account = grammar.requestAccount text request :=
  grammar.account_evaluation text request grammar.config.maxDepth

/-- A request whose account succeeds with some room is answered so, whatever was asked before,
unless the limit on the depth is hit. -/
theorem answer_after_eq_ok_of_account {grammar : Grammar} {text : Text}
    {request : Request} {room : Nat} {reply : Reply}
    (hroom : (request.evaluation grammar text (grammar.account text room)).outcome = .ok reply)
    (history : List Request)
    (hreached : ¬ HitsLimit (((Session.start grammar text).after history).answer request).1) :
    (((Session.start grammar text).after history).answer request).1 = .ok reply := by
  rw [← account_evaluation] at hroom
  exact Session.answer_after_eq_ok hroom history hreached

/-- What a session that remembers nothing answers is in the account of the request. -/
theorem answer_withoutMemory_eq_report (grammar : Grammar) (text : Text) (request : Request) :
    ((Session.start grammar.withoutMemory text).answer request).1 =
      (grammar.requestAccount text request).report text := by
  rw [(grammar.answer_start_withoutMemory text request).1, ← account_requestTrace]
  rfl

end Grammar

namespace Draft

variable {draft : Draft} {first second : Grammar}

/-- Grammars of drafts with the same rules have the same accounts of requests. Only a rule that is
not bound tells them apart: which name is suggested in its place depends on the order of the
names. -/
theorem Reorders.requestAccount_eq {other : Draft} (hsame : draft.Reorders other)
    (hfirst : draft.LowersTo first) (hsecond : other.LowersTo second)
    (text : Text) {request : Request} (hrequest : request.IsAmong draft.ruleNames ∨
      other.ruleNames = draft.ruleNames) :
    first.requestAccount text request = second.requestAccount text request := by
  have hconfig : first.config = second.config :=
    hfirst.config.trans (hsame.config.symm.trans hsecond.config.symm)
  have hskip : first.skip = second.skip := congrArg Config.skip hconfig
  have hcall (id twin : NodeId)
      (htwins : Twins draft.ruleNames other.ruleNames first.nodes second.nodes id twin) :
      first.account text first.config.maxDepth id =
      second.account text second.config.maxDepth twin := by
    obtain ⟨skip, expr, hid, htwin⟩ := htwins
    rw [hconfig, hfirst.account_eq_reading text _ hid,
      hsame.symm.within.account_eq_reading hsecond text _ htwin]
  have hentry := hsame.twins_entry hfirst hsecond
  cases request with
  | parse whole =>
    simp only [Grammar.requestAccount, Request.evaluation, hskip]
    generalize first.entry = id, second.entry = twin at hentry
    cases hentry with
    | none => rfl
    | some htwins => simp only [hcall _ _ htwins]
  | parseRule name whole =>
    have hbody := hsame.twins_findRule hfirst hsecond name
    have hfound : (first.findRule? name).isSome = true ∨ first.ruleNames = second.ruleNames := by
      refine hrequest.imp (fun hname ↦ ?_) fun hnames ↦ ?_
      · obtain ⟨rule, hrule⟩ := Option.isSome_iff_exists.mp (List.isSome_idxOf?.mpr hname)
        obtain ⟨-, id, -, hid, -⟩ := hfirst.exists_body hrule
        rw [hid]
        rfl
      · rw [hfirst.ruleNames, hsecond.ruleNames, hnames]
    simp only [Grammar.requestAccount, Request.evaluation, hskip]
    generalize first.findRule? name = id, second.findRule? name = twin at hbody hfound
    cases hbody with
    | none => rw [hfound.resolve_left Bool.false_ne_true]
    | some htwins => simp only [hcall _ _ htwins]
  | scan =>
    simp only [Grammar.requestAccount, Request.evaluation, hskip]
    generalize first.entry = id, second.entry = twin at hentry
    cases hentry with
    | none => rfl
    | some htwins => simp only [hcall _ _ htwins]

/-- Grammars that one draft has become have the same accounts of requests. -/
theorem LowersTo.requestAccount_eq (hfirst : draft.LowersTo first) (hsecond : draft.LowersTo second)
    (text : Text) (request : Request) :
    first.requestAccount text request = second.requestAccount text request :=
  (Reorders.refl draft).requestAccount_eq hfirst hsecond text (Or.inr rfl)

/-- Without memory the engine follows the readings of what became nodes. -/
theorem LowersTo.follows_reading (hlowers : draft.LowersTo first) (text : Text) (room : Nat)
    {skip : Option CharSet} {expr : Expr} {id : NodeId}
    (hcompiles : expr.CompilesTo first.nodes draft.ruleNames skip id) (offset : Nat) :
    (first.withoutMemory.evaluate text room id offset).Follows
      (draft.reading text room skip expr offset) := by
  rw [← hlowers.account_eq_reading text room hcompiles]
  exact first.evaluate_follows_account text room id offset

/-- The grammar of a draft means what the draft says. Without memory, in any room and at every
offset, the body of a rule and the entry evaluate as they read: with the default of the grammar
skipped around them, they end with the same match or the same failure and record the same furthest
failure. Copies of the draft, in which other expressions are shared, build as well and answer every
request alike. -/
theorem evaluate_follows_reading {grammar : Grammar} (hcoherent : draft.Coherent)
    (hbuild : draft.build = .ok grammar) (text : Text) :
    (∀ name body, draft.body? name = some body → ∃ id, grammar.findRule? name = some id ∧
      ∀ room offset, (grammar.withoutMemory.evaluate text room id offset).Follows
        (draft.reading text room draft.config.skip body offset)) ∧
    (∀ point expr, draft.entry = some point → point.Means expr → ∃ id, grammar.entry = some id ∧
      ∀ room offset, (grammar.withoutMemory.evaluate text room id offset).Follows
        (draft.reading text room draft.config.skip expr offset)) ∧
    ∀ copy : Draft, copy.Coherent → copy.anonymous = draft.anonymous →
      ∃ other, copy.build = .ok other ∧
        ∀ request, ((Session.start other.withoutMemory text).answer request).1 =
          ((Session.start grammar.withoutMemory text).answer request).1 := by
  have hlowers := lowersTo_of_compile hcoherent (build_eq_ok_iff.mp hbuild).1
  refine ⟨fun name body hbody ↦ ?_, fun point expr hpoint hmeans ↦ ?_, fun copy hcopy hsame ↦ ?_⟩
  · obtain ⟨number, hnumber, -⟩ := Option.bind_eq_some_iff.mp hbody
    obtain ⟨same, id, hsame, hid, -, hcompiles⟩ := hlowers.exists_body hnumber
    obtain rfl := Option.some.inj (hsame.symm.trans hbody)
    exact ⟨id, hid, fun room offset ↦ hlowers.follows_reading text room hcompiles offset⟩
  · obtain ⟨id, hid, hcompiles⟩ := hlowers.exists_entry hpoint hmeans
    exact ⟨id, hid, fun room offset ↦ hlowers.follows_reading text room hcompiles offset⟩
  · obtain ⟨other, hother, hfirst, hsecond⟩ :=
      exists_build_of_anonymous_eq hcoherent hcopy hsame hbuild
    refine ⟨other, hother, fun request ↦ ?_⟩
    rw [other.answer_withoutMemory_eq_report, grammar.answer_withoutMemory_eq_report,
      hfirst.requestAccount_eq hsecond]

end Draft

/-! ### A letter in two surroundings -/

/-- A letter, and the same one again without blanks before it. -/
def Draft.spaced : Build Draft := do
  let letter ← Expr.literal "a"
  let pair ← letter.andThen (← letter.withoutBlanks)
  pure { rules := [("pair", pair)], entry := some (.rule "pair") }

/-- A letter, and a copy of it without blanks before it. -/
def Draft.spacedApart : Build Draft := do
  let letter ← Expr.literal "a"
  let copy ← Expr.literal "a"
  let pair ← letter.andThen (← copy.withoutBlanks)
  pure { rules := [("pair", pair)], entry := some (.rule "pair") }

/-- The grammar of a letter in two surroundings. -/
def Grammar.spaced : Grammar where
  nodes := #[.terminal (.literal "a" false) (some .blanks) "Expected \"a\"",
    .terminal (.literal "a" false) none "Expected \"a\"", .sequence [0, 1] none, .call 0]
  ruleNames := ["pair"]
  ruleBodies := [2]
  entry := some 3
  config := {}

namespace Draft

/-- A letter that is used twice is a single expression. -/
theorem coherent_spaced (next : Nat) : (spaced next).1.Coherent := by
  have hdraws : Build.Draws (fun _ ↦ False) spaced Drawn := by
    refine Build.draws_bind (Build.draws_leaf fun _ ↦ rfl) fun letter first _ hletter ↦ ?_
    refine Build.draws_bind (Build.draws_around (fun _ ↦ rfl) hletter)
      fun tight second hgrown htight ↦ ?_
    refine Build.draws_bind (Build.draws_andThen (hgrown _ hletter) htight)
      fun pair drawn _ hpair ↦ Build.draws_pure _ ⟨fun body hbody ↦ ?_,
        fun _ hentry ↦ nomatch hentry⟩
    exact List.mem_singleton.mp hbody ▸ hpair
  exact hdraws.coherent next

theorem coherent_spacedApart (next : Nat) : (spacedApart next).1.Coherent := by
  have hdraws : Build.Draws (fun _ ↦ False) spacedApart Drawn := by
    refine Build.draws_bind (Build.draws_leaf fun _ ↦ rfl) fun letter first _ hletter ↦ ?_
    refine Build.draws_bind (Build.draws_leaf fun _ ↦ rfl) fun copy second hgrown hcopy ↦ ?_
    refine Build.draws_bind (Build.draws_around (fun _ ↦ rfl) hcopy)
      fun tight third hmore htight ↦ ?_
    refine Build.draws_bind (Build.draws_andThen (hmore _ (hgrown _ hletter)) htight)
      fun pair drawn _ hpair ↦ Build.draws_pure _ ⟨fun body hbody ↦ ?_,
        fun _ hentry ↦ nomatch hentry⟩
    exact List.mem_singleton.mp hbody ▸ hpair
  exact hdraws.coherent next

/-- The draft of a letter in two surroundings builds into its grammar. -/
theorem build_spaced : (spaced 0).1.build = .ok Grammar.spaced := by
  cbv

/-- Of a letter in two surroundings only the first occurrence skips blanks, whether it is one
expression or two. -/
theorem evaluate_follows_reading_spaced :
    (spaced 0).1.Coherent ∧ (spaced 0).1.build = .ok Grammar.spaced ∧
      (spacedApart 0).1.Coherent ∧ (spacedApart 0).1.anonymous = (spaced 0).1.anonymous ∧
      ∃ other, (spacedApart 0).1.build = .ok other ∧
        ((Session.start other.withoutMemory (.ofChars [' ', 'a', ' ', 'a'])).answer
            (.parse true)).1 =
          .error (.mismatch (.ofText (.ofChars [' ', 'a', ' ', 'a']) 2 "Expected \"a\""
            false)) := by
  have hsame : (spacedApart 0).1.anonymous = (spaced 0).1.anonymous := by cbv
  obtain ⟨other, hother, hanswer⟩ := (evaluate_follows_reading (coherent_spaced 0) build_spaced
    (.ofChars [' ', 'a', ' ', 'a'])).2.2 _ (coherent_spacedApart 0) hsame
  refine ⟨coherent_spaced 0, build_spaced, coherent_spacedApart 0, hsame, other, hother, ?_⟩
  rw [hanswer]
  cbv

end Draft

end Packrat
