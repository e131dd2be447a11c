import Packrat.Proofs.Matching.Maintenance
import Packrat.Proofs.Matching.Outcomes
import Packrat.Proofs.Matching.Readings

/-!
# Endings of evaluations

How much room an evaluation is given decides whether it is stopped, and nothing else. Its `Ending`
is what it comes to when it has all the room that it needs: a value, a halt, or, if no room is
enough, nothing at all. Endings are evaluations like others, in which records and runs of actions
leave no mark, so the ending of a node is what its matcher makes of the endings of the nodes that it
uses (`Grammar.ending_eq`). Whatever the engine remembers, an evaluation that it does not stop has
the ending of the node as its outcome (`Grammar.ending_eq_of_evaluate`).

All nodes of an expression end alike, with the same characters skipped around it, so expressions
have endings as well (`Grammar.meaning`), which are those of their shapes
(`Draft.LowersTo.meaning_eq`).
-/

set_option autoImplicit false
set_option relaxedAutoImplicit false

namespace Packrat

open MatchMonad

variable {α β : Type}

/-- What an evaluation comes to. -/
inductive Ending (α : Type) where
  /-- It is stopped whatever room it is given. -/
  | never
  /-- It has a value. -/
  | ended (value : α)
  /-- It halts. -/
  | halted (halt : Halt)

namespace Ending

def ofOutcome : Except Halt α → Ending α
  | .ok value => .ended value
  | .error halt => .halted halt

theorem ofOutcome_ok (value : α) : ofOutcome (.ok value) = .ended value := rfl

theorem ofOutcome_error (halt : Halt) : (ofOutcome (.error halt) : Ending α) = .halted halt := rfl

theorem ofOutcome_ne_never (outcome : Except Halt α) : ofOutcome outcome ≠ .never := by
  cases outcome <;> nofun

theorem ofOutcome_injective : Function.Injective (ofOutcome : Except Halt α → Ending α) := by
  intro outcome other hsame
  cases outcome <;> cases other <;> cases hsame <;> rfl

def andThen (first : Ending α) (next : α → Ending β) : Ending β :=
  match first with
  | .never => .never
  | .ended value => next value
  | .halted halt => .halted halt

instance : MatchMonad Ending where
  pure := ended
  bind := andThen
  halt := halted
  attempt
    | .never => .never
    | .ended value => .ended (.ok value)
    | .halted (.failure failure) => .ended (.error failure)
    | .halted (.error error) => .halted (.error error)
  record _ := .ended ()
  shield ending := ending
  invoke _ := .ended ()

/-! ### The operations of endings -/

@[simp] theorem pure_eq (value : α) : (pure value : Ending α) = .ended value := rfl

@[simp] theorem halt_eq (halt : Halt) : (MatchMonad.halt halt : Ending α) = .halted halt := rfl

@[simp] theorem never_bind (next : α → Ending β) : (never >>= next) = .never := rfl

@[simp] theorem ended_bind (value : α) (next : α → Ending β) :
    (Ending.ended value >>= next) = next value :=
  rfl

@[simp] theorem halted_bind (halt : Halt) (next : α → Ending β) :
    (halted halt >>= next) = .halted halt := rfl

@[simp] theorem bind_ended (ending : Ending α) : (ending >>= Ending.ended) = ending := by
  cases ending <;> rfl

theorem bind_assoc {γ : Type} (ending : Ending α) (next : α → Ending β) (last : β → Ending γ) :
    ((ending >>= next) >>= last) = ending >>= fun value ↦ next value >>= last := by
  cases ending <;> rfl

instance : LawfulMonad Ending := LawfulMonad.mk' Ending bind_ended (fun _ _ ↦ rfl) bind_assoc

@[simp] theorem backtrack_never : backtrack (never : Ending α) = .never := rfl

@[simp] theorem backtrack_ended (value : α) : backtrack (Ending.ended value) = .ended (.ok value) :=
  rfl

@[simp] theorem backtrack_error (error : ParseError) :
    backtrack (halted (.error error) : Ending α) = .halted (.error error) := rfl

/-- Ordinary failures become values, and fatal ones stay what they are. -/
@[simp] theorem backtrack_failure (failure : Failure) :
    backtrack (halted (.failure failure) : Ending α) =
      if failure.fatal then .halted (.failure failure) else .ended (.error failure) := rfl

@[simp] theorem commit_never : commit (never : Ending α) = .never := rfl

@[simp] theorem commit_ended (value : α) : commit (Ending.ended value) = .ended value := rfl

@[simp] theorem commit_failure (failure : Failure) :
    commit (halted (.failure failure) : Ending α) = .halted (.failure failure.asFatal) := rfl

@[simp] theorem commit_error (error : ParseError) :
    commit (halted (.error error) : Ending α) = .halted (.error error) := rfl

/-- One evaluation after another ends if the first one does and then the second. -/
theorem exists_of_bind_eq_ended {first : Ending α} {next : α → Ending β} {value : β}
    (hended : (first >>= next) = .ended value) :
    ∃ middle, first = .ended middle ∧ next middle = .ended value := by
  cases first with
  | never => cases hended
  | ended middle => exact ⟨middle, rfl, hended⟩
  | halted halt => cases hended

/-- What follows an evaluation from which there is a way back ends after the value of the
evaluation, or after its ordinary failure. -/
theorem exists_of_backtrack_bind_eq_ended {first : Ending α}
    {next : Except Failure α → Ending β} {value : β}
    (hended : (backtrack first >>= next) = .ended value) :
    (∃ middle, first = .ended middle ∧ next (.ok middle) = .ended value) ∨
      ∃ failure, first = .halted (.failure failure) ∧ failure.fatal = false ∧
        next (.error failure) = .ended value := by
  cases first with
  | never => cases hended
  | ended middle => exact Or.inl ⟨middle, rfl, hended⟩
  | halted halt =>
    cases halt with
    | error error => cases hended
    | failure failure =>
      rw [backtrack_failure] at hended
      split_ifs at hended with hfatal
      · cases hended
      · exact Or.inr ⟨failure, rfl, Bool.eq_false_iff.mpr hfatal, hended⟩

/-- The value of an ending, if it has one, has a property. -/
def Gives (ending : Ending α) (property : α → Prop) : Prop :=
  ∀ value, ending = .ended value → property value

/-- An ending that is not an ordinary failure. -/
def Firm (ending : Ending α) :
    Prop := ∀ failure, ending = .halted (.failure failure) → failure.fatal = true

/-- A commit point makes no difference to an evaluation that has no ordinary failures. -/
theorem Firm.commit_eq {ending : Ending α} (hfirm : ending.Firm) : commit ending = ending := by
  match ending with
  | .never => rfl
  | .ended value => rfl
  | .halted (.error error) => rfl
  | .halted (.failure failure) =>
    rw [commit_failure, Failure.asFatal, ← hfirm failure rfl]

end Ending

/-! ### Deepenings -/

namespace Deepening

open Classical in
/-- What an evaluation comes to when it has all the room that it needs. -/
noncomputable def ending (deepening : Deepening α) : Ending α :=
  if hreached : ∃ room, ¬ (deepening.trace room).Limited then
    .ofOutcome (deepening.trace hreached.choose).outcome
  else .never

/-- An outcome of a trace that was not stopped says what the evaluation comes to. -/
theorem ending_of_outcome (deepening : Deepening α) (room : Nat) {outcome : Except Halt α}
    (houtcome : (deepening.trace room).outcome = outcome) (hreached : ¬ IsLimited outcome) :
    deepening.ending = .ofOutcome outcome := by
  subst houtcome
  have hexists : ∃ room, ¬ (deepening.trace room).Limited := ⟨room, hreached⟩
  rw [ending, dif_pos hexists, deepening.trace_unique hexists.choose_spec hreached]

/-- An evaluation all of whose traces are stopped comes to nothing. -/
theorem ending_of_limited (deepening : Deepening α)
    (hlimited : ∀ room, (deepening.trace room).Limited) :
    deepening.ending = .never :=
  dif_neg fun ⟨room, hreached⟩ ↦ hreached (hlimited room)

/-- An evaluation has the ending of a trace that was not stopped, or none if there is no such
trace. -/
theorem ending_cases (deepening : Deepening α) :
    (deepening.ending = .never ∧ ∀ room, (deepening.trace room).Limited) ∨
      ∃ room, ¬ (deepening.trace room).Limited ∧
        deepening.ending = .ofOutcome (deepening.trace room).outcome := by
  by_cases hlimited : ∀ room, (deepening.trace room).Limited
  · exact Or.inl ⟨deepening.ending_of_limited hlimited, hlimited⟩
  · obtain ⟨room, hreached⟩ := not_forall.mp hlimited
    exact Or.inr ⟨room, hreached, deepening.ending_of_outcome room rfl hreached⟩

/-- Two evaluations of which one is the other with more room end alike. -/
theorem ending_eq_of_succ {deepening other : Deepening α} (hzero : (deepening.trace 0).Limited)
    (hsucc : ∀ room, deepening.trace (room + 1) = other.trace room) :
    deepening.ending = other.ending := by
  rcases other.ending_cases with ⟨hnever, hlimited⟩ | ⟨room, hreached, hending⟩
  · rw [hnever]
    refine deepening.ending_of_limited fun room ↦ ?_
    cases room with
    | zero => exact hzero
    | succ room => exact hsucc room ▸ hlimited room
  · rw [hending]
    exact deepening.ending_of_outcome (room + 1) (congrArg Trace.outcome (hsucc room)) hreached

/-- The ending of a constant trace is its outcome. -/
theorem ending_constant (trace : Trace α) (hreached : ¬ trace.Limited) :
    (constant trace).ending = .ofOutcome trace.outcome :=
  (constant trace).ending_of_outcome 0 rfl hreached

/-- The ending of one evaluation after another is made of their endings. -/
theorem ending_bind (deepening : Deepening α) (next : α → Deepening β) :
    (deepening >>= next).ending = deepening.ending >>= fun value ↦ (next value).ending := by
  have htrace (room : Nat) : (deepening >>= next).trace room =
      deepening.trace room >>= fun value ↦ (next value).trace room := rfl
  rcases deepening.ending_cases with ⟨hnever, hlimited⟩ | ⟨room, hreached, hending⟩
  · rw [hnever]
    exact ending_of_limited _ fun room ↦ (hlimited room).bind _
  rw [hending]
  match houtcome : (deepening.trace room).outcome with
  | .error halt =>
    rw [Trace.Limited, houtcome] at hreached
    refine ending_of_outcome _ room ?_ (mt (isLimited_error_iff halt).mpr hreached)
    rw [htrace, Trace.bind_of_error houtcome]
  | .ok value =>
    have hwhole {more : Nat} (hmore : ¬ (deepening.trace more).Limited) :
        ((deepening >>= next).trace more).outcome = ((next value).trace more).outcome := by
      have hvalue : (deepening.trace more).outcome = .ok value := by
        rw [deepening.trace_unique hmore hreached, houtcome]
      rw [htrace, Trace.bind_of_ok hvalue]
    change _ = (next value).ending
    rcases (next value).ending_cases with ⟨hnever, hstopped⟩ | ⟨enough, henough, hnext⟩
    · rw [hnever]
      refine ending_of_limited _ fun more ↦ ?_
      by_cases hmore : (deepening.trace more).Limited
      · exact hmore.bind _
      · rw [Trace.Limited, hwhole hmore]
        exact hstopped more
    · have hfirst : ¬ (deepening.trace (max room enough)).Limited := by
        rwa [deepening.trace_eq_of_le (Nat.le_max_left _ _) hreached]
      have hsecond := (next value).trace_eq_of_le (Nat.le_max_right room enough) henough
      rw [hnext]
      exact ending_of_outcome _ (max room enough)
        ((hwhole hfirst).trans (congrArg Trace.outcome hsecond)) henough

theorem ending_attempt (deepening : Deepening α) :
    (attempt deepening).ending = attempt deepening.ending := by
  have htrace (room : Nat) : (attempt deepening).trace room = attempt (deepening.trace room) := rfl
  rcases deepening.ending_cases with ⟨hnever, hlimited⟩ | ⟨room, hreached, hending⟩
  · rw [hnever]
    exact ending_of_limited _ fun room ↦ (hlimited room).attempt
  rw [hending]
  cases houtcome : (deepening.trace room).outcome with
  | ok value =>
    refine ending_of_outcome _ room ?_ (not_isLimited_ok _)
    rw [htrace, Trace.attempt_of_ok houtcome]
  | error halt =>
    cases halt with
    | failure failure =>
      refine ending_of_outcome _ room ?_ (not_isLimited_ok _)
      rw [htrace, Trace.attempt_of_failure houtcome]
    | error error =>
      rw [Trace.Limited, houtcome] at hreached
      refine ending_of_outcome _ room ?_ (mt (isLimited_error_iff _).mpr hreached)
      rw [htrace, Trace.attempt_of_error houtcome]

theorem ending_shield (deepening : Deepening α) : (shield deepening).ending = deepening.ending := by
  rcases deepening.ending_cases with ⟨hnever, hlimited⟩ | ⟨room, hreached, hending⟩
  · rw [hnever]
    exact (shield deepening).ending_of_limited hlimited
  · rw [hending]
    exact (shield deepening).ending_of_outcome room rfl hreached

end Deepening

/-- The operations keep deepenings with their endings. -/
noncomputable def settling : Correspondence Deepening Ending where
  Holds deepening ending property := deepening.ending = ending ∧ ending.Gives property
  Allows error := ∀ offset limit, error ≠ .recursionLimit offset limit
  holds_mono hholds himp := ⟨hholds.1, fun value hvalue ↦ himp value (hholds.2 value hvalue)⟩
  holds_pure value hvalue :=
    ⟨Deepening.ending_constant (pure value) (not_isLimited_ok value), fun _ hsame ↦
      Ending.ended.inj hsame ▸ hvalue⟩
  holds_bind {α β first second next next' property goal} hfirst hnext := by
    obtain ⟨rfl, hgives⟩ := hfirst
    rw [Deepening.ending_bind]
    match hending : first.ending with
    | .never => exact ⟨rfl, fun _ hsame ↦ nomatch hsame⟩
    | .halted halt => exact ⟨rfl, fun _ hsame ↦ nomatch hsame⟩
    | .ended value => exact hnext value (hgives value hending)
  holds_failure failure :=
    ⟨Deepening.ending_constant (MatchMonad.halt (.failure failure)) (not_isLimited_failure failure),
      fun _ hsame ↦ nomatch hsame⟩
  holds_error {α property} error hallowed := by
    refine ⟨Deepening.ending_constant (MatchMonad.halt (.error error)) ?_,
      fun _ hsame ↦ nomatch hsame⟩
    cases error with
    | recursionLimit offset limit => exact absurd rfl (hallowed offset limit)
    | _ => exact id
  holds_attempt {α first second property} hholds := by
    obtain ⟨rfl, hgives⟩ := hholds
    refine ⟨Deepening.ending_attempt first, ?_⟩
    match hending : first.ending with
    | .never => exact fun _ hsame ↦ nomatch hsame
    | .halted (.error error) => exact fun _ hsame ↦ nomatch hsame
    | .halted (.failure failure) =>
      rintro result hsame value rfl
      cases hsame
    | .ended given =>
      rintro result hsame value rfl
      cases hsame
      exact hgives _ hending
  holds_record failure :=
    ⟨Deepening.ending_constant (record failure) (not_isLimited_ok ()), fun _ _ ↦ True.intro⟩
  holds_shield hholds := ⟨(Deepening.ending_shield _).trans hholds.1, hholds.2⟩

/-- Runs of actions leave no mark on endings. -/
theorem settling_invoke (invocation : Invocation) :
    settling.Holds (invoke invocation) (invoke invocation) fun _ ↦ True :=
  ⟨Deepening.ending_constant (invoke invocation) (not_isLimited_ok ()), fun _ _ ↦ True.intro⟩

/-! ### Nodes -/

namespace Grammar

variable (grammar : Grammar) (text : Text)

/-- What the evaluation of a node at an offset comes to. -/
noncomputable def ending (id : NodeId) : Matcher Ending := fun offset ↦
  (grammar.deepening text id offset).ending

/-- The ending of a node is what its matcher makes of the endings of the nodes that it uses. -/
theorem ending_eq (id : NodeId) :
    grammar.ending text id = (grammar.node id).matcher grammar text (grammar.ending text) id := by
  funext offset
  have hmeets : settling.Meets (.allowing fun error ↦ ∀ place limit,
      error ≠ .recursionLimit place limit) (grammar.deepening text) (grammar.ending text) :=
    ⟨fun id offset _ ↦ ⟨rfl, fun _ _ ↦ True.intro⟩, fun _ hallowed ↦ hallowed⟩
  have hdemands : (grammar.node id).Demands grammar text
      (.allowing fun error ↦ ∀ place limit, error ≠ .recursionLimit place limit) offset fun _ ↦
      True :=
    Node.demands_allowing (fun _ _ _ _ hsame ↦ nomatch hsame)
      (fun _ _ _ _ _ _ _ _ _ hsame ↦ nomatch hsame) grammar text offset
  have hmatcher : ((grammar.node id).matcher grammar text (grammar.deepening text) id offset).ending
      = (grammar.node id).matcher grammar text (grammar.ending text) id offset :=
    (hmeets.holds_matcher_of_invoke settling_invoke hdemands).1
  rw [← hmatcher]
  refine Deepening.ending_eq_of_succ (grammar.limited_trace_zero text id offset) fun room ↦ ?_
  exact (grammar.trace_matcher_deepening text room id offset).symm

variable {grammar text} {id : NodeId} {offset : Nat}

/-- A trace that was not stopped has the ending of the node as its outcome. -/
theorem ending_of_trace {room : Nat} (hreached : ¬ (grammar.trace text room id offset).Limited) :
    grammar.ending text id offset = .ofOutcome (grammar.trace text room id offset).outcome :=
  (grammar.deepening text id offset).ending_of_outcome room rfl hreached

/-- An evaluation by the engine that is not stopped has the ending of the node as its outcome. -/
theorem ending_eq_of_evaluate {state : EngineState} (hvalid : state.Valid grammar text) {room : Nat}
    (hreached : ¬ IsLimited (grammar.evaluate text room id offset state).1) :
    grammar.ending text id offset = .ofOutcome (grammar.evaluate text room id offset state).1 := by
  rcases (grammar.answers_evaluate hvalid room id offset).2 with ⟨hlimited, -⟩ | ⟨enough, -, hsame⟩
  · exact absurd hlimited hreached
  · exact Deepening.ending_of_outcome _ enough hsame hreached

/-- What a node comes to is the outcome of a trace that was not stopped. -/
theorem exists_trace_of_ending {outcome : Except Halt Match}
    (hending : grammar.ending text id offset = .ofOutcome outcome) :
    ∃ room, (grammar.trace text room id offset).outcome = outcome ∧ ¬ IsLimited outcome := by
  rcases (grammar.deepening text id offset).ending_cases with ⟨hnever, -⟩ | ⟨room, hreached, hfound⟩
  · rw [ending, hnever] at hending
    cases outcome <;> cases hending
  · rw [ending, hfound] at hending
    have houtcome : (grammar.trace text room id offset).outcome = outcome :=
      Ending.ofOutcome_injective hending
    exact ⟨room, houtcome, houtcome ▸ hreached⟩

/-- The matches at which a node ends give what the grammar maintains. -/
theorem fulfils_of_ending {promise : NodeId → Nat → Match → Prop}
    (hmaintains : grammar.Maintains text promise) (hoffset : text.IsBoundary offset) {found : Match}
    (hfound : grammar.ending text id offset = .ended found) :
    text.Fulfils promise id offset found := by
  obtain ⟨room, houtcome, -⟩ := exists_trace_of_ending
    (hfound.trans (Ending.ofOutcome_ok found).symm)
  have hended := (holds_trace hmaintains room id offset hoffset).1
  rwa [houtcome] at hended

/-- Nodes whose accounts are the same in every room end alike. -/
theorem ending_eq_of_account {other : Grammar} {twin : NodeId}
    (hsame : ∀ room, grammar.account text room id offset = other.account text room twin offset) :
    grammar.ending text id offset = other.ending text twin offset := by
  have houtcome (room : Nat) : (grammar.trace text room id offset).outcome =
      (other.trace text room twin offset).outcome := by
    have haccount := hsame room
    rw [← account_trace, ← account_trace] at haccount
    exact congrArg Account.outcome haccount
  rcases (other.deepening text twin offset).ending_cases with ⟨hnever, hlimited⟩
    | ⟨room, hreached, hending⟩
  · rw [ending, ending, hnever]
    refine Deepening.ending_of_limited _ fun room ↦ ?_
    change IsLimited (grammar.trace text room id offset).outcome
    rw [houtcome]
    exact hlimited room
  · rw [ending, ending, hending]
    exact Deepening.ending_of_outcome _ room (houtcome room) hreached

/-! ### Expressions -/

variable (grammar text) in
open Classical in
/-- What the evaluations of an expression come to, with the given characters skipped around it. -/
noncomputable def meaning (skip : Option CharSet) (expr : Expr) : Matcher Ending :=
  if hexpr : ∃ id, expr.CompilesTo grammar.nodes grammar.ruleNames skip id then
    grammar.ending text hexpr.choose
  else fun _ ↦ .never

end Grammar

namespace Draft

variable {draft other : Draft} {first second : Grammar} {skip : Option CharSet} {expr : Expr}

/-- An expression that became nodes of two grammars ends alike in both, if the rules of the one
draft are bound in the other. -/
theorem Within.ending_eq (hwithin : draft.Within other) (hfirst : draft.LowersTo first)
    (hsecond : other.LowersTo second) (text : Text) {id twin : NodeId}
    (hid : expr.CompilesTo first.nodes first.ruleNames skip id)
    (htwin : expr.CompilesTo second.nodes second.ruleNames skip twin) :
    first.ending text id = second.ending text twin := by
  rw [hfirst.ruleNames] at hid
  rw [hsecond.ruleNames] at htwin
  funext offset
  refine Grammar.ending_eq_of_account fun room ↦ ?_
  rw [hwithin.account_eq_reading hfirst text room hid, hsecond.account_eq_reading text room htwin]

/-- What an expression became ends as the expression. -/
theorem LowersTo.ending_eq_meaning (hlowers : draft.LowersTo first) (text : Text) {id : NodeId}
    (hid : expr.CompilesTo first.nodes first.ruleNames skip id) :
    first.ending text id = first.meaning text skip expr := by
  have hexpr : ∃ id, expr.CompilesTo first.nodes first.ruleNames skip id := ⟨id, hid⟩
  rw [Grammar.meaning, dif_pos hexpr]
  exact (Within.refl draft).ending_eq hlowers hlowers text hid hexpr.choose_spec

/-- An expression has one meaning in two grammars, if the rules of the one draft are bound in the
other. -/
theorem Within.meaning_eq (hwithin : draft.Within other) (hfirst : draft.LowersTo first)
    (hsecond : other.LowersTo second) (text : Text) {id twin : NodeId}
    (hid : expr.CompilesTo first.nodes first.ruleNames skip id)
    (htwin : expr.CompilesTo second.nodes second.ruleNames skip twin) :
    first.meaning text skip expr = second.meaning text skip expr := by
  rw [← hfirst.ending_eq_meaning text hid, ← hsecond.ending_eq_meaning text htwin]
  exact hwithin.ending_eq hfirst hsecond text hid htwin

/-- The meaning of an expression is made of the meanings of what the expression is made of, as its
shape says. -/
theorem LowersTo.meaning_eq (hlowers : draft.LowersTo first) (text : Text) {id : NodeId}
    (hid : expr.CompilesTo first.nodes first.ruleNames skip id) :
    first.meaning text skip expr =
      (expr.innermost skip).2.shape.matcher text (first.meaning text)
        (draft.readRule (first.meaning text)) (expr.innermost skip).1
          (expr.innermost skip).2.identity := by
  obtain ⟨node, ids, hnode, hshape, hchildren⟩ := hid.lowers
  have hfound : first.node id = node := by rw [Grammar.node, hnode, Option.getD_some]
  rw [← hlowers.ending_eq_meaning text hid, first.ending_eq, hfound]
  refine hshape.matcher_eq (fun _ _ _ ↦ rfl) text
    (hchildren.imp fun _ _ hchild ↦ (hlowers.ending_eq_meaning text hchild).symm)
    (fun name number hnumber ↦ ?_) id _
  rw [hlowers.ruleNames] at hnumber
  obtain ⟨body, inner, hbody, -, hinner, hcompiled⟩ := hlowers.exists_body hnumber
  rw [← hlowers.ruleNames] at hcompiled
  rw [Draft.readRule, hbody, hinner]
  exact (hlowers.ending_eq_meaning text hcompiled).symm

end Draft

end Packrat
