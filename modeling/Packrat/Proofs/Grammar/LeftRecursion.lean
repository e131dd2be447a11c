import Mathlib
import Packrat.Proofs.Grammar.Compiling
import Packrat.Proofs.Grammar.LeftCalls
import Packrat.Proofs.Grammar.Orders

/-!
# Left recursion

A rule leads to the rules that are called at the left edge of its body (`Grammar.LeadsTo`). A rule
that leads to itself in the end is left-recursive. The search reports closed walks along these
steps, none of which comes through a rule twice, and it reports one if there is any
(`Draft.detects_leftRecursion`).

Which ones it reports depends on the order of the rules. A rule is gone through once, so a rule that
only reaches itself through rules that were gone through before is in no report
(`Draft.culprit_not_reported_crossed`). What a refused draft can rely on is that every closed walk
takes the last step of a reported circle, so that a circle that leads through a left-recursive rule
and back is reported; and a rule with only one circle through it is named there
(`Draft.culprits_of_leftRecursion`).
-/

set_option autoImplicit false
set_option relaxedAutoImplicit false

namespace Packrat

namespace Grammar

open CycleSearch

/-! ### Rules and their names -/

/-- Each rule has a name of its own. -/
structure NamesRules (grammar : Grammar) : Prop where
  /-- The names are different. -/
  distinct : grammar.ruleNames.Nodup
  /-- There are as many names as bodies. -/
  length : grammar.ruleNames.length = grammar.ruleBodies.length

def nameOf (grammar : Grammar) (rule : Nat) : String := grammar.ruleNames[rule]?.getD ""

/-- The rule of a name has the rule of another name at its left edge. -/
def LeadsTo (grammar : Grammar) (marks : Array Bool) (name other : String) : Prop :=
  ∃ rule next, grammar.ruleNames[rule]? = some name ∧ grammar.ruleNames[next]? = some other ∧
    grammar.AtLeftEdge marks next (grammar.ruleBody rule)

variable {grammar : Grammar} {marks : Array Bool} {rule next : Nat} {name : String}

theorem NamesRules.getElem?_ruleNames (hnames : grammar.NamesRules)
    (hrule : rule < grammar.ruleBodies.length) :
    grammar.ruleNames[rule]? = some (grammar.nameOf rule) := by
  rw [nameOf, List.getElem?_eq_getElem (hnames.length ▸ hrule)]
  rfl

theorem NamesRules.idxOf_eq (hnames : grammar.NamesRules)
    (hname : grammar.ruleNames[rule]? = some name) :
    grammar.ruleNames.idxOf name = rule := by
  obtain ⟨hinside, rfl⟩ := List.getElem?_eq_some_iff.mp hname
  exact hnames.distinct.idxOf_getElem rule hinside

/-- A name that is bound is the name of the rule that is found by it. -/
theorem nameOf_idxOf (hname : name ∈ grammar.ruleNames) :
    grammar.nameOf (grammar.ruleNames.idxOf name) = name := by
  rw [nameOf, List.getElem?_eq_getElem (List.idxOf_lt_length_of_mem hname), List.getElem_idxOf]
  rfl

/-! ### Steps between rules -/

/-- A rule called at a left edge is a rule of the grammar. -/
theorem AtLeftEdge.lt_length {id : NodeId} (hformed : grammar.WellFormed)
    (hedge : grammar.AtLeftEdge marks rule id) : rule < grammar.ruleBodies.length := by
  induction hedge with
  | @call id hcall =>
    have hid : id < grammar.nodeCount := by
      refine Nat.lt_of_not_le fun houtside ↦ ?_
      rw [node, Array.getElem?_eq_none houtside] at hcall
      cases hcall
    simpa [hcall, Node.IsSound] using (hformed.fits id hid).sound
  | inside _ _ _ ih => exact ih

/-- The search goes from a rule to those that are called at the left edge of its body. -/
theorem leads_iff (hformed : grammar.WellFormed) :
    Leads (grammar.ruleEdges marks) rule next ↔
      rule < grammar.ruleBodies.length ∧ grammar.AtLeftEdge marks next (grammar.ruleBody rule) := by
  by_cases hrule : rule < grammar.ruleBodies.length
  · rw [Leads, Follows, getElem?_ruleEdges hrule,
      mem_leftEdgesOf_iff hformed _ (hformed.ruleBody_lt hrule)]
    exact ⟨fun hedge ↦ ⟨hrule, hedge⟩, fun hboth ↦ hboth.2⟩
  · have houtside : (grammar.ruleEdges marks).length ≤ rule := by
      rw [ruleEdges, List.length_map]
      exact Nat.le_of_not_lt hrule
    rw [Leads, Follows, List.getElem?_eq_none houtside]
    exact ⟨fun hnone ↦ absurd hnone List.not_mem_nil, fun hboth ↦ absurd hboth.1 hrule⟩

/-- The names of rules between which the search goes. -/
theorem leadsTo_of_leads (hformed : grammar.WellFormed) (hnames : grammar.NamesRules)
    (hleads : Leads (grammar.ruleEdges marks) rule next) :
    grammar.LeadsTo marks (grammar.nameOf rule) (grammar.nameOf next) := by
  obtain ⟨hrule, hedge⟩ := (leads_iff hformed).mp hleads
  exact ⟨rule, next, hnames.getElem?_ruleNames hrule,
    hnames.getElem?_ruleNames (hedge.lt_length hformed), hedge⟩

/-- The rules of names of which one leads to the other. -/
theorem leads_of_leadsTo (hformed : grammar.WellFormed) (hnames : grammar.NamesRules)
    {name other : String} (hleads : grammar.LeadsTo marks name other) :
    Leads (grammar.ruleEdges marks) (grammar.ruleNames.idxOf name)
      (grammar.ruleNames.idxOf other) := by
  obtain ⟨rule, next, hname, hother, hedge⟩ := hleads
  rw [hnames.idxOf_eq hname, hnames.idxOf_eq hother, leads_iff hformed, ← hnames.length]
  exact ⟨(List.getElem?_eq_some_iff.mp hname).1, hedge⟩

/-! ### What is reported -/

/-- Every circle that is reported is one: each name leads to the next, the last is the first, and no
other name comes twice. -/
theorem isCircle_of_mem_leftRecursion (hformed : grammar.WellFormed) (hnames : grammar.NamesRules)
    {cycle : List String} (hcycle : cycle ∈ grammar.leftRecursion marks) :
    IsCircle (grammar.LeadsTo marks) cycle := by
  obtain ⟨rules, hrules, rfl⟩ := List.mem_map.mp hcycle
  have hcircle := isCircle_of_mem_cyclesOf hrules
  have hname (rule : Nat) (hrule : rule ∈ rules) :
      grammar.ruleNames[rule]? = some (grammar.nameOf rule) := by
    obtain ⟨next, -, hleads⟩ := hcircle.exists_step hrule
    exact hnames.getElem?_ruleNames ((leads_iff hformed).mp hleads).1
  refine hcircle.map grammar.nameOf (fun rule next ↦ leadsTo_of_leads hformed hnames)
    fun rule hrule next hnext hsame ↦ ?_
  rw [← hnames.idxOf_eq (hname rule hrule), hsame, hnames.idxOf_eq (hname next hnext)]

/-- Every closed walk takes the last step of a circle that is reported. -/
theorem exists_isLastStep_of_isClosedWalk (hformed : grammar.WellFormed)
    (hnames : grammar.NamesRules) {walk : List String}
    (hwalk : IsClosedWalk (grammar.LeadsTo marks) walk) :
    ∃ name other, IsLastStep (grammar.leftRecursion marks) name other ∧
      [name, other] <:+: walk := by
  have hrules := hwalk.map grammar.ruleNames.idxOf fun name other ↦ leads_of_leadsTo hformed hnames
  obtain ⟨rule, next, ⟨cycle, hcycle, hlast⟩, hinfix⟩ := hrules.exists_infix acc_open_cyclesOf
  have hwhole : (walk.map grammar.ruleNames.idxOf).map grammar.nameOf = walk := by
    rw [List.map_map]
    refine (List.map_congr_left fun name hname ↦ ?_).trans (List.map_id walk)
    obtain ⟨_, _, rule, _, hrule, -⟩ := hwalk.exists_step hname
    exact nameOf_idxOf (List.mem_of_getElem? hrule)
  refine ⟨grammar.nameOf rule, grammar.nameOf next,
    ⟨cycle.map grammar.nameOf, List.mem_map_of_mem hcycle, hlast.map grammar.nameOf⟩, ?_⟩
  rw [← hwhole]
  exact hinfix.map grammar.nameOf

end Grammar

/-! ### Rules in two circles -/

/-- A rule that calls two others first, each of which goes back to it: the second one by way of the
first. -/
def Draft.crossed : Draft where
  rules := [("a", ⟨2, .choice [⟨0, .rule "b"⟩, ⟨1, .rule "c"⟩]⟩),
    ("b", ⟨5, .sequence [⟨3, .rule "a"⟩, ⟨4, .terminal (.literal "x" false)⟩] none⟩),
    ("c", ⟨8, .sequence [⟨6, .rule "b"⟩, ⟨7, .terminal (.literal "y" false)⟩] none⟩)]
  entry := some (.rule "a")

/-- The compiled grammar of the two circles. -/
def Grammar.crossed : Grammar where
  nodes := #[.call 1, .call 2, .choice [0, 1], .call 0,
    .terminal (.literal "x" false) (some .blanks) "Expected \"x\"", .sequence [3, 4] none,
    .terminal (.literal "y" false) (some .blanks) "Expected \"y\"", .sequence [0, 6] none]
  ruleNames := ["a", "b", "c"]
  ruleBodies := [2, 5, 7]
  entry := some 3
  config := {}

theorem Draft.compile_crossed : Draft.crossed.compile = .ok Grammar.crossed := by
  cbv

/-- Only the first circle is reported. -/
theorem Draft.build_crossed : Draft.crossed.build = .error (.leftRecursion [["a", "b", "a"]]) := by
  cbv

/-- The second rule reaches itself by way of the first one and of the rule that calls both. -/
theorem Grammar.transGen_crossed (marks : Array Bool) :
    Relation.TransGen (Grammar.crossed.LeadsTo marks) "c" "c" := by
  have hsecond : Grammar.crossed.LeadsTo marks "c" "b" :=
    ⟨2, 1, rfl, rfl, .inside rfl List.mem_cons_self (.call rfl)⟩
  have hfirst : Grammar.crossed.LeadsTo marks "b" "a" :=
    ⟨1, 0, rfl, rfl, .inside rfl List.mem_cons_self (.call rfl)⟩
  have hcaller : Grammar.crossed.LeadsTo marks "a" "c" :=
    ⟨0, 2, rfl, rfl, .inside rfl (List.mem_cons_of_mem _ List.mem_cons_self) (.call rfl)⟩
  exact ((Relation.TransGen.single hsecond).tail hfirst).tail hcaller

namespace Draft

variable {draft : Draft} {grammar : Grammar}

/-- The rules of a draft that compiles have names of their own. -/
theorem namesRules_of_compile (hcompile : draft.compile = .ok grammar) : grammar.NamesRules := by
  obtain ⟨-, hdistinct, bodies, entry, arena, hall, rfl⟩ := compile_eq_ok_iff.mp hcompile
  obtain ⟨-, -, hlength, -, -⟩ := Compile.keeps_compileAll draft #[] {}
    (Arena.ordered_empty _) (.refl _) (bodies, entry) arena hall
  exact ⟨(duplicate?_eq_none_iff.mp hdistinct).1, hlength.symm⟩

/-! ### What the search detects -/

/-- The search for left recursion reports something just if there is a closed walk from rule to rule
along left edges. Every report is such a walk in which no name but the first comes twice. -/
theorem detects_leftRecursion (hcompile : draft.compile = .ok grammar) (marks : Array Bool) :
    (grammar.leftRecursion marks ≠ [] ↔ ∃ walk, IsClosedWalk (grammar.LeadsTo marks) walk) ∧
      ∀ cycle ∈ grammar.leftRecursion marks, IsCircle (grammar.LeadsTo marks) cycle := by
  have hformed := wellFormed_of_compile hcompile
  have hnames := namesRules_of_compile hcompile
  have hcircles (cycle : List String) (hcycle : cycle ∈ grammar.leftRecursion marks) :=
    Grammar.isCircle_of_mem_leftRecursion hformed hnames hcycle
  refine ⟨⟨fun hsome ↦ ?_, fun ⟨walk, hwalk⟩ hnone ↦ ?_⟩, hcircles⟩
  · obtain ⟨cycle, hcycle⟩ := List.exists_mem_of_ne_nil _ hsome
    exact ⟨cycle, (hcircles cycle hcycle).toIsClosedWalk⟩
  · obtain ⟨_, _, ⟨cycle, hcycle, -⟩, -⟩ :=
      Grammar.exists_isLastStep_of_isClosedWalk hformed hnames hwalk
    rw [hnone] at hcycle
    cases hcycle

/-- Of two circles the one that is reported is there. -/
theorem detects_leftRecursion_crossed :
    Draft.crossed.compile = .ok Grammar.crossed ∧
      ["a", "b", "a"] ∈ Grammar.crossed.leftRecursion Grammar.crossed.nullable ∧
      IsCircle (Grammar.crossed.LeadsTo Grammar.crossed.nullable) ["a", "b", "a"] := by
  have hreported : ["a", "b", "a"] ∈ Grammar.crossed.leftRecursion Grammar.crossed.nullable := by
    have hcycles : Grammar.crossed.leftRecursion Grammar.crossed.nullable = [["a", "b", "a"]] := by
      cbv
    exact hcycles ▸ List.mem_singleton_self _
  exact ⟨compile_crossed, hreported,
    (detects_leftRecursion compile_crossed Grammar.crossed.nullable).2 _ hreported⟩

/-! ### Whom the report names -/

/-- A draft is refused for circles of rules if it compiles, no repetition in it can go round without
consuming anything, and these are its circles. -/
theorem build_eq_error_leftRecursion_iff {cycles : List (List String)} :
    draft.build = .error (.leftRecursion cycles) ↔
      ∃ grammar, draft.compile = .ok grammar ∧ grammar.nullableRepetition? grammar.nullable = none ∧
        grammar.leftRecursion grammar.nullable = cycles ∧ cycles ≠ [] := by
  rw [build]
  cases hcompile : draft.compile with
  | error error =>
    constructor
    · intro hbuild
      cases hbuild
      exact absurd True.intro (not_isSeenWhole_of_compile hcompile)
    · rintro ⟨grammar, hother, -⟩
      cases hother
  | ok compiled =>
    simp only [bind, Except.bind]
    constructor
    · intro hbuild
      refine ⟨compiled, rfl, ?_⟩
      cases hrounds : compiled.nullableRepetition? compiled.nullable with
      | some what =>
        rw [hrounds] at hbuild
        cases hbuild
      | none =>
        rw [hrounds] at hbuild
        cases hfound : compiled.leftRecursion compiled.nullable with
        | cons cycle rest =>
          rw [hfound] at hbuild
          cases hbuild
          exact ⟨rfl, rfl, List.cons_ne_nil cycle rest⟩
        | nil =>
          rw [hfound] at hbuild
          cases hbuild
    · rintro ⟨grammar, hsame, hrounds, hfound, hsome⟩
      cases hsame
      rw [hrounds, hfound]
      cases cycles with
      | nil => exact absurd rfl hsome
      | cons cycle rest => rfl

/-- What a report of left recursion says of all circles. Every closed walk takes the last step of a
reported circle. So every rule that reaches itself reaches all rules of a reported circle and is
reached by them, and it is one of them if there is one circle only through it. -/
theorem culprits_of_leftRecursion {cycles : List (List String)}
    (hbuild : draft.build = .error (.leftRecursion cycles)) :
    ∃ grammar, draft.compile = .ok grammar ∧
      (∀ walk, IsClosedWalk (grammar.LeadsTo grammar.nullable) walk →
        ∃ name other, IsLastStep cycles name other ∧ [name, other] <:+: walk) ∧
      ∀ name, Relation.TransGen (grammar.LeadsTo grammar.nullable) name name →
        ∃ cycle ∈ cycles,
          (∀ other ∈ cycle, Relation.TransGen (grammar.LeadsTo grammar.nullable) name other ∧
            Relation.TransGen (grammar.LeadsTo grammar.nullable) other name) ∧
          (OnOneCircle (grammar.LeadsTo grammar.nullable) name → name ∈ cycle) := by
  obtain ⟨grammar, hcompile, -, rfl, -⟩ := build_eq_error_leftRecursion_iff.mp hbuild
  have hformed := wellFormed_of_compile hcompile
  have hnames := namesRules_of_compile hcompile
  refine ⟨grammar, hcompile, fun walk ↦ Grammar.exists_isLastStep_of_isClosedWalk hformed hnames,
    fun name hself ↦ ?_⟩
  obtain ⟨middle, hwalk⟩ := exists_isClosedWalk_of_transGen hself
  obtain ⟨last, first, ⟨cycle, hcycle, hlast⟩, hinfix⟩ :=
    Grammar.exists_isLastStep_of_isClosedWalk hformed hnames hwalk
  have hcircle := (Grammar.isCircle_of_mem_leftRecursion hformed hnames hcycle).toIsClosedWalk
  have hown : last ∈ cycle := hlast.subset List.mem_cons_self
  have hmet := hinfix.subset (List.mem_cons_self (a := last))
  have hreaches (other : String) (hother : other ∈ cycle) :
      Relation.TransGen (grammar.LeadsTo grammar.nullable) name other ∧
        Relation.TransGen (grammar.LeadsTo grammar.nullable) other name :=
    ⟨(hwalk.transGen List.mem_cons_self hmet).trans (hcircle.transGen hown hother),
      (hcircle.transGen hother hown).trans (hwalk.transGen hmet List.mem_cons_self)⟩
  exact ⟨cycle, hcycle, hreaches, fun hone ↦ hcircle.mem_of_onOneCircle hone hreaches⟩

/-- The second rule of the two circles reaches the circle that is reported and is reached by it. -/
theorem culprits_of_leftRecursion_crossed :
    Draft.crossed.build = .error (.leftRecursion [["a", "b", "a"]]) ∧
      Draft.crossed.compile = .ok Grammar.crossed ∧
      ∀ other ∈ ["a", "b", "a"],
        Relation.TransGen (Grammar.crossed.LeadsTo Grammar.crossed.nullable) "c" other ∧
          Relation.TransGen (Grammar.crossed.LeadsTo Grammar.crossed.nullable) other "c" := by
  obtain ⟨grammar, hcompile, -, hculprits⟩ := culprits_of_leftRecursion build_crossed
  obtain rfl : grammar = Grammar.crossed := Except.ok.inj (hcompile.symm.trans compile_crossed)
  obtain ⟨cycle, hcycle, hreaches, -⟩ := hculprits "c" (Grammar.transGen_crossed _)
  rw [List.mem_singleton.mp hcycle] at hreaches
  exact ⟨build_crossed, compile_crossed, hreaches⟩

/-- The second rule of the two circles reaches itself and is in no circle that is reported. -/
theorem culprit_not_reported_crossed :
    Draft.crossed.build = .error (.leftRecursion [["a", "b", "a"]]) ∧
      Draft.crossed.compile = .ok Grammar.crossed ∧
      Relation.TransGen (Grammar.crossed.LeadsTo Grammar.crossed.nullable) "c" "c" ∧
      ∀ cycle ∈ [["a", "b", "a"]], "c" ∉ cycle :=
  ⟨build_crossed, compile_crossed, Grammar.transGen_crossed _, by decide⟩

end Draft

end Packrat
