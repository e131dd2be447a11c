import Packrat.Proofs.Matching.Memoization
import Packrat.Proofs.Matching.Yields

/-!
# Outcomes of the engine

Under every configuration the outcome of an evaluation by the engine is that of a trace that was not
stopped, or both the evaluation and the trace with the same room were stopped (`Answers`). This
needs only that what is remembered is right (`EngineState.Valid`), which says nothing where nothing
is remembered.

What the traces of an accepted grammar yield is therefore what the engine yields
(`Grammar.endsAfter_of_evaluate`, `Grammar.not_isLimited_evaluate`).
-/

set_option autoImplicit false
set_option relaxedAutoImplicit false

namespace Packrat

variable {α : Type} {grammar : Grammar} {text : Text}

/-- What is remembered is right, if anything is. -/
def EngineState.Valid (grammar : Grammar) (text : Text) (state : EngineState) : Prop :=
  grammar.config.packrat = true → state.Sound grammar text

/-- Being valid is a matter of what is remembered and what ran. -/
theorem EngineState.Valid.of_eq {state other : EngineState} (hvalid : state.Valid grammar text)
    (hmemo : other.memo = state.memo) (hruns : other.invocations = state.invocations) :
    other.Valid grammar text :=
  fun hpackrat ↦ (hvalid hpackrat).of_eq hmemo hruns

/-- An outcome is that of a trace that was not stopped, or it was stopped as the trace with the same
room. -/
def Answers (room : Nat) (outcome : Except Halt α) (deepening : Deepening α) : Prop :=
  (IsLimited outcome ∧ (deepening.trace room).Limited) ∨
    ∃ enough, ¬ (deepening.trace enough).Limited ∧ (deepening.trace enough).outcome = outcome

/-- An outcome was not stopped where the trace with the same room was not. -/
theorem Answers.not_isLimited {room : Nat} {outcome : Except Halt α} {deepening : Deepening α}
    (hanswers : Answers room outcome deepening) (hroom : ¬ (deepening.trace room).Limited) :
    ¬ IsLimited outcome := by
  rcases hanswers with ⟨-, hlimited⟩ | ⟨enough, hreached, rfl⟩
  · exact absurd hlimited hroom
  · exact hreached

/-- An outcome that was not stopped is that of a trace. -/
theorem Answers.exists_trace {room : Nat} {outcome : Except Halt α} {deepening : Deepening α}
    (hanswers : Answers room outcome deepening) (hunlimited : ¬ IsLimited outcome) :
    ∃ enough, (deepening.trace enough).outcome = outcome := by
  rcases hanswers with ⟨hlimited, -⟩ | ⟨enough, -, hsame⟩
  · exact absurd hlimited hunlimited
  · exact ⟨enough, hsame⟩

/-- An evaluation that is faithful where outcomes are remembered, and does what the trace says where
they are not, keeps states valid and has the outcomes of traces. -/
theorem answers_of_faithful {room : Nat} {engine : Engine α} {deepening : Deepening α}
    {property : α → Prop}
    (hfaithful : grammar.config.packrat = true →
      Faithful grammar text room engine deepening property)
    (hperforms : grammar.config.packrat = false →
      Performs engine (deepening.trace room) property)
    {state : EngineState} (hvalid : state.Valid grammar text) :
    (engine state).2.Valid grammar text ∧ Answers room (engine state).1 deepening := by
  by_cases hpackrat : grammar.config.packrat = true
  · obtain ⟨hafter, hagrees, -⟩ := hfaithful hpackrat state (hvalid hpackrat)
    exact ⟨fun _ ↦ hafter, hagrees.imp_right fun ⟨enough, hreached, hreproduces⟩ ↦
      ⟨enough, hreached, hreproduces.outcome.symm⟩⟩
  · obtain ⟨counters, hrun⟩ := (hperforms (Bool.eq_false_iff.mpr hpackrat)).1 state
    refine ⟨fun hother ↦ absurd hother hpackrat, ?_⟩
    rw [hrun]
    by_cases hlimited : (deepening.trace room).Limited
    · exact Or.inl ⟨hlimited, hlimited⟩
    · exact Or.inr ⟨room, hlimited, rfl⟩

namespace Grammar

variable {state : EngineState} {id : NodeId} {offset : Nat}

/-- The engine keeps states valid and has the outcomes of traces, under every configuration. -/
theorem answers_evaluate (hvalid : state.Valid grammar text) (room : Nat) (id : NodeId)
    (offset : Nat) :
    (grammar.evaluate text room id offset state).2.Valid grammar text ∧
      Answers room (grammar.evaluate text room id offset state).1
        (grammar.deepening text id offset) :=
  answers_of_faithful (fun hpackrat ↦ grammar.faithful_evaluate hpackrat room id offset)
    (fun hplain ↦ grammar.performs_evaluate hplain text room id offset) hvalid

/-- A match by the engine ends where progress says. -/
theorem endsAfter_of_evaluate (haccepted : grammar.Accepted) (hhonest : grammar.HasHonestRegexes)
    (hvalid : state.Valid grammar text) (hid : id < grammar.nodeCount) {room : Nat} {found : Match}
    (hfound : (grammar.evaluate text room id offset state).1 = .ok found) :
    grammar.EndsAfter text id offset found.stop := by
  have hanswers := (grammar.answers_evaluate hvalid room id offset).2
  rw [hfound] at hanswers
  obtain ⟨enough, htrace⟩ := hanswers.exists_trace (not_isLimited_ok found)
  have hyields := yields_trace haccepted hhonest text (fun _ ↦ True) True.intro enough id offset hid
    (Or.inl fun _ _ ↦ True.intro)
  exact hyields.gives found htrace

/-- An evaluation by the engine that has enough room is not stopped by the limit on the depth. -/
theorem not_isLimited_evaluate (haccepted : grammar.Accepted) (hhonest : grammar.HasHonestRegexes)
    (hvalid : state.Valid grammar text) (hid : id < grammar.nodeCount) {room : Nat}
    (henough : grammar.depthBound text id offset < room) :
    ¬ IsLimited (grammar.evaluate text room id offset state).1 := by
  refine (grammar.answers_evaluate hvalid room id offset).2.not_isLimited ?_
  have hyields := yields_trace haccepted hhonest text (· = .endless) rfl room id offset hid
    (Or.inr henough)
  exact hyields.not_limited fun _ _ ↦ nofun

end Grammar

end Packrat
