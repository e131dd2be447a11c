import Packrat.Matching.Trace
import Packrat.Session

/-!
# Drafts that build

A draft builds into its compiled grammar when no repetition in it can go round without consuming
anything and no rules call one another in a circle (`Draft.build_eq_ok_iff`).

Of its configuration only the characters that are skipped by default decide about what a draft is
compiled to. With another configuration that skips the same characters it builds when it did before,
into the same grammar with that configuration (`Draft.build_withConfig`). So whether outcomes are
remembered changes nothing else about a grammar (`Draft.build_withoutMemory`), and its nodes have
the same traces (`Grammar.trace_withoutMemory`).
-/

set_option autoImplicit false
set_option relaxedAutoImplicit false

namespace Packrat

/-! ### What is checked -/

/-- What the checks of a compiled grammar come to. -/
theorem Draft.build_eq_ok_iff {draft : Draft} {grammar : Grammar} :
    draft.build = .ok grammar ↔
      draft.compile = .ok grammar ∧ grammar.nullableRepetition? grammar.nullable = none ∧
        grammar.leftRecursion grammar.nullable = [] := by
  rw [build]
  cases draft.compile with
  | error error =>
    change Except.error error = Except.ok grammar ↔ _
    simp
  | ok compiled =>
    simp only [bind, Except.bind]
    constructor
    · intro hbuild
      cases hrounds : compiled.nullableRepetition? compiled.nullable with
      | some what =>
        rw [hrounds] at hbuild
        cases hbuild
      | none =>
        rw [hrounds] at hbuild
        cases hcycles : compiled.leftRecursion compiled.nullable with
        | cons cycle rest =>
          rw [hcycles] at hbuild
          cases hbuild
        | nil =>
          rw [hcycles] at hbuild
          cases hbuild
          exact ⟨rfl, hrounds, hcycles⟩
    · rintro ⟨hcompile, hrounds, hcycles⟩
      cases hcompile
      rw [hrounds, hcycles]
      rfl

/-! ### Other configurations -/

namespace Grammar

def withConfig (grammar : Grammar) (config : Config) : Grammar := { grammar with config := config }

/-- Which nodes are marked in the end does not depend on the configuration. -/
theorem saturate_withConfig (grammar : Grammar) (config : Config) (marks : Array Bool) :
    (grammar.withConfig config).saturate marks = grammar.saturate marks := by
  induction marks using saturate.induct grammar with
  | case1 marks hmore ih =>
    have hsweep : (grammar.withConfig config).sweep marks = grammar.sweep marks := rfl
    rw [saturate, hsweep, if_pos hmore, ih, saturate.eq_def grammar marks, if_pos hmore]
  | case2 marks hdone =>
    have hsweep : (grammar.withConfig config).sweep marks = grammar.sweep marks := rfl
    rw [saturate, hsweep, if_neg hdone, saturate.eq_def grammar, if_neg hdone]

/-- Which nodes can match nothing does not depend on the configuration. -/
theorem nullable_withConfig (grammar : Grammar) (config : Config) :
    (grammar.withConfig config).nullable = grammar.nullable :=
  grammar.saturate_withConfig config _

/-- The matcher of a node does not depend on the configuration. -/
theorem matcher_withConfig {m : Type → Type} [MatchMonad m] (grammar : Grammar) (config : Config)
    (text : Text) (call : NodeId → Matcher m) (id : NodeId) (node : Node) :
    node.matcher (grammar.withConfig config) text call id = node.matcher grammar text call id := by
  cases node with
  | lookahead child negative unwanted => cases negative <;> rfl
  | _ => rfl

end Grammar

namespace Draft

/-- Of the configuration compilation only looks at the characters skipped by default. -/
theorem compile_withConfig (draft : Draft) {config : Config}
    (hblanks : config.blanks = draft.config.blanks) :
    (draft.withConfig config).compile = draft.compile.map
      fun grammar ↦ grammar.withConfig config := by
  have haround : Surrounding.standard config = .standard draft.config := by
    rw [Surrounding.standard, Surrounding.standard, Config.skip, Config.skip, hblanks]
  have hall : (draft.withConfig config).compileAll = draft.compileAll := by
    simp only [compileAll, compileEntry, withConfig, ruleNames, haround]
  have hnames : (draft.withConfig config).ruleNames = draft.ruleNames := rfl
  simp only [compile, hall, hnames]
  change (if (draft.entry.isNone && draft.rules.isEmpty) = true then _ else _) = _
  split
  · rfl
  · cases duplicate? [] draft.ruleNames with
    | some name => rfl
    | none =>
      cases draft.compileAll.run {} with
      | error error => rfl
      | ok compiled => rfl

/-- A draft builds with another configuration in which the same characters are skipped, into its
grammar with that configuration. -/
theorem build_withConfig {draft : Draft} {grammar : Grammar} (hbuild : draft.build = .ok grammar)
    {config : Config} (hblanks : config.blanks = draft.config.blanks) :
    (draft.withConfig config).build = .ok (grammar.withConfig config) := by
  obtain ⟨hcompile, hrounds, hcycles⟩ := build_eq_ok_iff.mp hbuild
  refine build_eq_ok_iff.mpr ⟨?_, ?_, ?_⟩
  · rw [compile_withConfig draft hblanks, hcompile]
    rfl
  · rw [Grammar.nullable_withConfig]
    exact hrounds
  · rw [Grammar.nullable_withConfig]
    exact hcycles

/-- A grammar has the configuration of its draft: with that configuration the draft is what it
was. -/
theorem config_of_build {draft : Draft} {grammar : Grammar} (hbuild : draft.build = .ok grammar) :
    grammar.config = draft.config := by
  have hagain : draft.build = .ok (grammar.withConfig draft.config) := build_withConfig hbuild rfl
  rw [hbuild] at hagain
  exact congrArg Grammar.config (Except.ok.inj hagain)

end Draft

/-! ### Memory -/

/-- The draft with nothing remembered during evaluations. -/
def Draft.withoutMemory (draft : Draft) : Draft :=
  draft.withConfig { draft.config with packrat := false }

namespace Grammar

/-- The grammar with nothing remembered during evaluations. -/
def withoutMemory (grammar : Grammar) : Grammar :=
  { grammar with config := { grammar.config with packrat := false } }

theorem trace_withoutMemory (grammar : Grammar) (text : Text) (room : Nat) :
    grammar.withoutMemory.trace text room = grammar.trace text room := by
  induction room with
  | zero => rfl
  | succ room ih =>
    funext id offset
    change (grammar.node id).matcher (grammar.withConfig { grammar.config with packrat := false })
      text (grammar.withoutMemory.trace text room) id offset =
        (grammar.node id).matcher grammar text (grammar.trace text room) id offset
    rw [ih, matcher_withConfig]

end Grammar

/-- A draft without memory builds when the draft does, into its grammar without memory. -/
theorem Draft.build_withoutMemory {draft : Draft} {grammar : Grammar}
    (hbuild : draft.build = .ok grammar) :
    draft.withoutMemory.build = .ok grammar.withoutMemory := by
  rw [Grammar.withoutMemory, config_of_build hbuild]
  exact build_withConfig hbuild rfl

end Packrat
