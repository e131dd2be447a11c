import Packrat.Proofs.Session.Meaning

/-!
# Rules bound in another order

In which order rules are bound makes no difference to a grammar. The numbers of rules and the
positions of nodes depend on it, and so does the order in which nodes are marked and circles are
looked for. But nodes that stand for the same expression are marked alike, call each other on the
left alike and evaluate alike, so a draft is accepted in every order or in none, and without memory
its grammars answer alike (`Draft.answer_eq_of_perm`).
-/

set_option autoImplicit false
set_option relaxedAutoImplicit false

namespace Packrat

/-- Whatever was asked before, what a session that remembers nothing answers is in the account of
the request. -/
theorem Grammar.answer_after_withoutMemory (grammar : Grammar) (text : Text)
    (history : List Request) (request : Request) :
    (((Session.start grammar.withoutMemory text).after history).answer request).1 =
      (grammar.requestAccount text request).report text := by
  have hplain : ((Session.start grammar.withoutMemory text).after history).grammar.config.packrat =
      false := by
    rw [Session.grammar_after]
    rfl
  obtain ⟨counters, hanswer⟩ := Session.answer_of_not_packrat hplain request
  rw [hanswer, Session.grammar_after, Session.text_after, ← account_requestTrace,
    ← grammar.requestTrace_withoutMemory text request]
  rfl

namespace Draft

/-- A draft with its rules in another order builds when the draft does. -/
theorem exists_build_of_perm {draft other : Draft} {grammar : Grammar} (hcoherent : draft.Coherent)
    (hrules : other.rules.Perm draft.rules) (hentry : other.entry = draft.entry)
    (hconfig : other.config = draft.config) (hbuild : draft.build = .ok grammar) :
    ∃ built, other.build = .ok built := by
  have hdistinct := nodup_of_build hbuild
  have hnames : other.ruleNames.Perm draft.ruleNames := hrules.map Prod.fst
  have hsame := reorders_of_perm hdistinct hrules hentry hconfig
  obtain ⟨built, hother, -⟩ := hsame.anonymous.exists_build hcoherent (hsame.coherent hcoherent)
    (hnames.nodup_iff.mpr hdistinct) hbuild
  exact ⟨built, hother⟩

/-- The order in which rules are bound makes no difference. A draft and the draft with its rules in
another order build both or neither, and if they do, then without memory their grammars give the
same answer to every request, be it results, a failure or an error, whatever was asked of either
before. Which name is suggested for a rule that is not bound may differ, so requests for a rule are
for one that is bound. -/
theorem answer_eq_of_perm {draft other : Draft} (hcoherent : draft.Coherent)
    (hrules : other.rules.Perm draft.rules) (hentry : other.entry = draft.entry)
    (hconfig : other.config = draft.config) :
    ((∃ grammar, draft.build = .ok grammar) ↔ ∃ grammar, other.build = .ok grammar) ∧
      ∀ first second, draft.build = .ok first → other.build = .ok second →
        ∀ (text : Text) (history others : List Request) (request : Request),
          request.IsAmong draft.ruleNames →
            (((Session.start first.withoutMemory text).after history).answer request).1 =
              (((Session.start second.withoutMemory text).after others).answer request).1 := by
  have hnames : other.ruleNames.Perm draft.ruleNames := hrules.map Prod.fst
  have hreorders {grammar : Grammar} (hbuild : other.build = .ok grammar) : draft.Reorders other :=
    reorders_of_perm (hnames.nodup_iff.mp (nodup_of_build hbuild)) hrules hentry hconfig
  refine ⟨⟨?_, ?_⟩, fun first second hfirst hsecond text history others request hrequest ↦ ?_⟩
  · rintro ⟨grammar, hbuild⟩
    exact exists_build_of_perm hcoherent hrules hentry hconfig hbuild
  · rintro ⟨grammar, hbuild⟩
    exact exists_build_of_perm ((hreorders hbuild).coherent hcoherent) hrules.symm hentry.symm
      hconfig.symm hbuild
  · have hsame := hreorders hsecond
    have hlowers := lowersTo_of_compile hcoherent (build_eq_ok_iff.mp hfirst).1
    have hlowers' := lowersTo_of_compile (hsame.coherent hcoherent) (build_eq_ok_iff.mp hsecond).1
    rw [Grammar.answer_after_withoutMemory, Grammar.answer_after_withoutMemory,
      hsame.requestAccount_eq hlowers hlowers' text (Or.inl hrequest)]

end Draft

/-! ### A pair of letters in two orders -/

/-- Two letters, with the rule of the pair before that of the letter. -/
def Draft.coupled : Build Draft := do
  let use ← Expr.rule "letter"
  let pair ← use.andThen use
  let letter ← Expr.literal "a"
  pure { rules := [("pair", pair), ("letter", letter)], entry := some (.rule "pair"),
         config := { maxMemoSize := 0 } }

/-- The draft with its rules from the last to the first. -/
def Draft.reversed (draft : Draft) : Draft := { draft with rules := draft.rules.reverse }

def Grammar.coupled : Grammar where
  nodes := #[.call 1, .sequence [0, 0] none,
    .terminal (.literal "a" false) (some .blanks) "Expected \"a\"", .call 0]
  ruleNames := ["pair", "letter"]
  ruleBodies := [1, 2]
  entry := some 3
  config := { maxMemoSize := 0 }

/-- The grammar of a pair of letters with the rule of the letter first: nodes and rules have other
numbers. -/
def Grammar.coupledReversed : Grammar where
  nodes := #[.terminal (.literal "a" false) (some .blanks) "Expected \"a\"", .call 0,
    .sequence [1, 1] none, .call 1]
  ruleNames := ["letter", "pair"]
  ruleBodies := [0, 2]
  entry := some 3
  config := { maxMemoSize := 0 }

namespace Draft

theorem coherent_coupled (next : Nat) : (coupled next).1.Coherent := by
  have hdraws : Build.Draws (fun _ ↦ False) coupled Drawn := by
    refine Build.draws_bind (Build.draws_leaf fun _ ↦ rfl) fun use first _ huse ↦ ?_
    refine Build.draws_bind (Build.draws_andThen huse huse) fun pair second _ hpair ↦ ?_
    refine Build.draws_bind (Build.draws_leaf fun _ ↦ rfl) fun letter drawn hgrown hletter ↦
      Build.draws_pure _ ⟨fun body hbody ↦ ?_, fun _ hentry ↦ nomatch hentry⟩
    rcases List.mem_cons.mp hbody with rfl | hlast
    · exact hgrown _ hpair
    · exact List.mem_singleton.mp hlast ▸ hletter
  exact hdraws.coherent next

/-- The draft of a pair of letters builds into its grammar. -/
theorem build_coupled : (coupled 0).1.build = .ok Grammar.coupled := by
  cbv

/-- In the other order it builds into the other grammar. -/
theorem build_reversed_coupled : (coupled 0).1.reversed.build = .ok Grammar.coupledReversed := by
  cbv

/-- In either order the second letter is missed where another one stands. -/
theorem answer_eq_of_perm_coupled :
    (coupled 0).1.Coherent ∧ (coupled 0).1.reversed.rules.Perm (coupled 0).1.rules ∧
      (coupled 0).1.build = .ok Grammar.coupled ∧
      (coupled 0).1.reversed.build = .ok Grammar.coupledReversed ∧
      (Request.parseRule "pair" true).IsAmong (coupled 0).1.ruleNames ∧
      (((Session.start Grammar.coupledReversed.withoutMemory (.ofChars ['a', 'b'])).after []).answer
          (.parseRule "pair" true)).1 =
        .error (.mismatch (.ofText (.ofChars ['a', 'b']) 1 "Expected \"a\"" false)) := by
  have hrules : (coupled 0).1.reversed.rules.Perm (coupled 0).1.rules := List.reverse_perm _
  have hrequest : (Request.parseRule "pair" true).IsAmong (coupled 0).1.ruleNames :=
    List.mem_cons_self
  have hanswer := (answer_eq_of_perm (coherent_coupled 0) hrules rfl rfl).2 Grammar.coupled
    Grammar.coupledReversed build_coupled build_reversed_coupled (.ofChars ['a', 'b']) [] []
    (.parseRule "pair" true) hrequest
  refine ⟨coherent_coupled 0, hrules, build_coupled, build_reversed_coupled, hrequest, ?_⟩
  rw [← hanswer]
  cbv

end Draft

end Packrat
