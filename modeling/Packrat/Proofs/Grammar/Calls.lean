import Mathlib
import Packrat.Proofs.Grammar.LeftCalls
import Packrat.Proofs.Grammar.Nullability
import Packrat.Proofs.Grammar.Supply
import Packrat.Proofs.Grammar.Twins

/-!
# The order of the arena

Compilation adds nodes one after another, and what it does to the arena is made of few steps: a node
is added that is no call, the node of an expression is remembered, and the call of a rule is looked
up or added. An invariant that each of these keeps is kept by compilation as a whole
(`Compile.Steps.keeps_compileAll`). In this way all uses of a rule come to share one call node
(`Draft.eq_of_call`).

`Draft.Arranges` collects what can be relied on in the arena of a grammar. Children come before the
nodes that use them, so that an ascending pass over the nodes has an entry for every child when it
comes to a node. A rule that is used has one call node, and it has a body. From where a parse can
start only nodes of the arena are reached. The marks of nullable nodes are the least solution of
their equations. All this holds of every grammar that is built (`Draft.arranges_of_build`).
-/

set_option autoImplicit false
set_option relaxedAutoImplicit false

namespace Packrat

/-! ### Steps of compilation -/

namespace Compile

/-- The steps of which compilation is made keep an invariant of the arena. -/
structure Steps (names : List String) (invariant : Arena → Prop) : Prop where
  /-- A node is added that is no call. -/
  adds : ∀ (known : Array Node) (node : Node), node.isCall = false →
    Keeps invariant known (push node) fun _ _ ↦ True
  /-- The node of an expression is remembered. -/
  remembers : ∀ (known : Array Node) (key : Nat × SkipSource) (id : NodeId),
    Keeps invariant known (modify fun arena ↦
      { arena with compiled := arena.compiled.insert key id }) fun _ _ ↦ True
  /-- The call of a rule is looked up, or added. -/
  calls : ∀ (known : Array Node) (name : String),
    Keeps invariant known (call names name) fun _ _ ↦ True

theorem isCall_terminalNode {terminal : Terminal} {skip : Option CharSet} {expected : String}
    {node : Node} (hnode : terminalNode terminal skip expected = .ok node) :
    node.isCall = false := by
  rcases terminalNode_cases hnode with rfl | rfl <;> rfl

theorem isCall_regexNode {engine : RegexEngine} {pattern : String} {skip : Option CharSet}
    {expected : String} {node : Node} (hnode : regexNode engine pattern skip expected = .ok node) :
    node.isCall = false := by
  obtain ⟨program, rfl⟩ := regexNode_cases hnode
  rfl

namespace Steps

variable {names : List String} {invariant : Arena → Prop}

/-- A node that is no call is added around what a child became. -/
theorem keeps_wrap (hsteps : Steps names invariant) {child : Compile NodeId} {wrap : NodeId → Node}
    {known : Array Node} (hchild : Keeps invariant known child fun _ _ ↦ True)
    (hwrap : ∀ id, (wrap id).isCall = false) :
    Keeps invariant known (child >>= fun id ↦ push (wrap id)) fun _ _ ↦ True :=
  keeps_bind hchild fun id nodes _ _ ↦ hsteps.adds nodes (wrap id) (hwrap id)

mutual

/-- Compiling an expression keeps what every step keeps. -/
theorem keeps_expr (hsteps : Steps names invariant) (around : Surrounding) (known : Array Node) :
    ∀ expression : Expr, Keeps invariant known (expr names around expression) fun _ _ ↦ True
  | ⟨identity, shape⟩ => by
    rw [expr]
    refine keeps_get fun arena _ _ ↦ ?_
    split
    next id hid => exact keeps_pure id fun _ _ ↦ True.intro
    next =>
      refine keeps_bind (keeps_lower hsteps around identity arena.nodes shape) fun id nodes _ _ ↦ ?_
      exact keeps_bind (hsteps.remembers nodes _ id) fun _ _ _ _ ↦
        keeps_pure id fun _ _ ↦ True.intro

/-- Compiling a shape keeps what every step keeps. -/
theorem keeps_lower (hsteps : Steps names invariant) (around : Surrounding) (identity : Nat)
    (known : Array Node) : ∀ shape : Shape, Keeps invariant known
      (lower names around identity shape) fun _ _ ↦ True
  | .empty => by
    rw [lower]
    exact hsteps.adds known _ rfl
  | .textEnd => by
    rw [lower]
    exact hsteps.adds known _ rfl
  | .terminal terminal => by
    rw [lower]
    refine keeps_bind (keeps_lift _ fun node hnode _ _ ↦ hnode) fun node nodes _ hnode ↦ ?_
    exact hsteps.adds nodes node (isCall_terminalNode hnode)
  | .regex engine pattern => by
    rw [lower]
    refine keeps_bind (keeps_lift _ fun node hnode _ _ ↦ hnode) fun node nodes _ hnode ↦ ?_
    exact hsteps.adds nodes node (isCall_regexNode hnode)
  | .sequence parts commit => by
    rw [lower]
    exact keeps_bind (keeps_exprs hsteps around known parts)
      fun ids nodes _ _ ↦ hsteps.adds nodes _ rfl
  | .choice alternatives => by
    rw [lower]
    exact keeps_bind (keeps_exprs hsteps around known alternatives)
      fun ids nodes _ _ ↦ hsteps.adds nodes _ rfl
  | .optional child default => by
    rw [lower]
    exact hsteps.keeps_wrap (keeps_expr hsteps around known child) fun _ ↦ rfl
  | .repetition child least most => by
    rw [lower]
    refine keeps_bind (keeps_checkBounds "repetition" least most) fun _ nodes _ _ ↦ ?_
    exact hsteps.keeps_wrap (keeps_expr hsteps around nodes child) fun _ ↦ rfl
  | .delimited item separator form => by
    rw [lower]
    refine keeps_bind (keeps_checkBounds "delimited list" form.least form.most) fun _ nodes _ _ ↦ ?_
    refine keeps_bind (keeps_expr hsteps around nodes item) fun first later _ _ ↦ ?_
    exact hsteps.keeps_wrap (keeps_expr hsteps around later separator) fun _ ↦ rfl
  | .lookahead child negative => by
    rw [lower]
    exact hsteps.keeps_wrap (keeps_expr hsteps around known child) fun _ ↦ rfl
  | .suppress child => by
    rw [lower]
    exact hsteps.keeps_wrap (keeps_expr hsteps around known child) fun _ ↦ rfl
  | .group child => by
    rw [lower]
    exact hsteps.keeps_wrap (keeps_expr hsteps around known child) fun _ ↦ rfl
  | .combine child joiner => by
    rw [lower]
    exact hsteps.keeps_wrap (keeps_expr hsteps .bare known child) fun _ ↦ rfl
  | .rule name => by
    rw [lower]
    exact hsteps.calls known name
  | .named child name accumulate => by
    rw [lower]
    exact hsteps.keeps_wrap (keeps_expr hsteps around known child) fun _ ↦ rfl
  | .action child actions => by
    rw [lower]
    exact hsteps.keeps_wrap (keeps_expr hsteps around known child) fun _ ↦ rfl
  | .labeled child label => by
    rw [lower]
    exact hsteps.keeps_wrap (keeps_expr hsteps around known child) fun _ ↦ rfl
  | .blanks child set => by
    rw [lower]
    exact keeps_expr hsteps (.override identity set) known child

/-- Compiling expressions keeps what every step keeps. -/
theorem keeps_exprs (hsteps : Steps names invariant) (around : Surrounding) (known : Array Node) :
    ∀ expressions : List Expr, Keeps invariant known (exprs names around expressions) fun _ _ ↦ True
  | [] => by
    rw [exprs]
    exact keeps_pure [] fun _ _ ↦ True.intro
  | first :: rest => by
    rw [exprs]
    refine keeps_bind (keeps_expr hsteps around known first) fun id nodes _ _ ↦ ?_
    exact keeps_bind (keeps_exprs hsteps around nodes rest) fun ids _ _ _ ↦
      keeps_pure (id :: ids) fun _ _ ↦ True.intro

end

end Steps

/-- Compiling a draft keeps what every step keeps. -/
theorem Steps.keeps_compileAll {draft : Draft} {invariant : Arena → Prop}
    (hsteps : Steps draft.ruleNames invariant) (known : Array Node) :
    Keeps invariant known draft.compileAll fun _ _ ↦ True := by
  have hentry (nodes : Array Node) : Keeps invariant nodes draft.compileEntry fun _ _ ↦ True := by
    unfold Draft.compileEntry
    split
    · exact keeps_pure none fun _ _ ↦ True.intro
    · exact keeps_bind (hsteps.calls nodes _) fun id _ _ _ ↦
        keeps_pure (some id) fun _ _ ↦ True.intro
    · exact keeps_bind (hsteps.keeps_expr _ nodes _) fun id _ _ _ ↦
        keeps_pure (some id) fun _ _ ↦ True.intro
  unfold Draft.compileAll
  refine keeps_bind (hsteps.keeps_exprs _ known _) fun bodies nodes _ _ ↦ ?_
  exact keeps_bind (hentry nodes) fun entry _ _ _ ↦ keeps_pure (bodies, entry) fun _ _ ↦ True.intro

/-! ### Calls -/

/-- The call nodes of an arena are those that are found for their rules. -/
def FindsCalls (arena : Arena) : Prop :=
  ∀ (id : NodeId) (rule : Nat), arena.nodes[id]? = some (.call rule) → arena.calls[rule]? = some id

/-- What comes after a look at the arena is given the arena. -/
theorem run_get_bind {α : Type} (next : Arena → Compile α) (arena : Arena) :
    (get >>= next : Compile α) arena = next arena arena := rfl

/-- Every step of compilation keeps call nodes findable. A call is added only where none is found
for its rule. -/
theorem steps_findsCalls (names : List String) : Steps names FindsCalls := by
  constructor
  case adds =>
    intro known node hplain arena hfinds hknown id after hrun
    cases hrun
    refine ⟨fun other rule hother ↦ ?_, hknown.trans (extends_push _ _), True.intro⟩
    change (arena.nodes.push node)[other]? = some (.call rule) at hother
    rw [Array.getElem?_push] at hother
    split at hother
    next =>
      cases hother
      cases hplain
    next => exact hfinds other rule hother
  case remembers =>
    intro known key id arena hfinds hknown value after hrun
    cases hrun
    exact ⟨hfinds, hknown, True.intro⟩
  case calls =>
    intro known name arena hfinds hknown value after hrun
    rw [call] at hrun
    cases hrule : names.idxOf? name with
    | none =>
      rw [hrule] at hrun
      cases hrun
    | some rule =>
      rw [hrule] at hrun
      simp only [run_get_bind] at hrun
      cases hfound : arena.calls[rule]? with
      | some id =>
        rw [hfound] at hrun
        cases hrun
        exact ⟨hfinds, hknown, True.intro⟩
      | none =>
        rw [hfound] at hrun
        cases hrun
        refine ⟨fun other called hother ↦ ?_, hknown.trans (extends_push _ _), True.intro⟩
        change (arena.nodes.push (.call rule))[other]? = some (.call called) at hother
        change (arena.calls.insert rule arena.nodes.size)[called]? = some other
        rw [Array.getElem?_push] at hother
        rw [Std.HashMap.getElem?_insert]
        split at hother
        next hlast =>
          cases hother
          rw [if_pos (beq_self_eq_true rule), hlast]
        next =>
          have hheld := hfinds other called hother
          have hdiffers : rule ≠ called := by
            rintro rfl
            rw [hfound] at hheld
            cases hheld
          rw [if_neg (by simpa using hdiffers), hheld]

end Compile

namespace Draft

variable {draft : Draft} {grammar : Grammar}

/-- In a compiled grammar all uses of a rule share one call node. -/
theorem eq_of_call (hcompile : draft.compile = .ok grammar) {id other : NodeId} {rule : Nat}
    (hid : grammar.node id = .call rule) (hother : grammar.node other = .call rule) :
    id = other := by
  obtain ⟨bodies, entry, arena, hall, rfl⟩ := compile_eq_ok hcompile
  have hempty : Compile.FindsCalls {} := fun place rule hplace ↦ by simp at hplace
  obtain ⟨hfinds, -, -⟩ := (Compile.steps_findsCalls draft.ruleNames).keeps_compileAll
    #[] {} hempty (.refl _) (bodies, entry) arena hall
  have hfound (place : NodeId) (hplace : (arena.nodes[place]?).getD .empty = .call rule) :
      arena.calls[rule]? = some place := by
    refine hfinds place rule ?_
    cases hnode : arena.nodes[place]? with
    | none =>
      rw [hnode] at hplace
      cases hplace
    | some node =>
      rw [hnode] at hplace
      exact congrArg some hplace
  exact Option.some.inj ((hfound id hid).symm.trans (hfound other hother))

/-- A rule is used in a draft: a use of its name occurs, or it is the entry. -/
def UsesRule (draft : Draft) (rule : Nat) : Prop :=
  ∃ skip identity name, draft.Covers skip ⟨identity, .rule name⟩ ∧
  draft.ruleNames.idxOf? name = some rule

/-- The children of what nodes may stand for are such expressions too. -/
theorem Covers.child {skip : Option CharSet} {expr : Expr} (hcovers : draft.Covers skip expr)
    {child : Option CharSet × Expr} (hchild : child ∈ expr.shape.children skip) :
    draft.Covers child.1 child.2 := by
  refine .reaches ?_
  cases hcovers with
  | reaches hreaches => exact .child hreaches hchild
  | entry hentry hmeans =>
    cases hmeans with
    | expr body => exact .child (.entry hentry) hchild
    | rule name identity => exact nomatch hchild

/-- What is inside the overrides of such an expression is one too. -/
theorem Covers.innermost : ∀ {skip : Option CharSet} {expr : Expr}, draft.Covers skip expr →
    draft.Covers (expr.innermost skip).1 (expr.innermost skip).2
  | skip, ⟨identity, shape⟩, hcovers => by
    cases shape with
    | blanks child set =>
      rw [Expr.innermost]
      exact Covers.innermost (hcovers.child List.mem_cons_self)
    | _ => exact hcovers

namespace LowersTo

variable (hlowers : draft.LowersTo grammar) {rule : Nat}

include hlowers

theorem exists_call (huses : draft.UsesRule rule) :
    ∃ id < grammar.nodeCount, grammar.node id = .call rule := by
  obtain ⟨skip, identity, name, hcovers, hname⟩ := huses
  obtain ⟨id, hid⟩ := hlowers.exists_node hcovers
  obtain ⟨node, ids, hnode, hshape, -⟩ := hid.lowers
  refine ⟨id, (Array.getElem?_eq_some_iff.mp hnode).1, ?_⟩
  rw [Grammar.node, hnode, Option.getD_some]
  cases hshape with
  | rule hrule =>
    rw [hname] at hrule
    cases hrule
    rfl

theorem usesRule {id : NodeId} (hid : id < grammar.nodeCount)
    (hcall : grammar.node id = .call rule) :
    draft.UsesRule rule := by
  obtain ⟨skip, expr, hcovers, hexpr⟩ := hlowers.covered id hid
  obtain ⟨node, ids, hnode, hshape, -⟩ := hexpr.lowers
  rw [Grammar.node, hnode, Option.getD_some] at hcall
  have hinner := hcovers.innermost
  generalize expr.innermost skip = inner at hshape hinner
  obtain ⟨around, ⟨identity, shape⟩⟩ := inner
  subst hcall
  cases hshape with
  | terminal hnode =>
    have hplain := Compile.isCall_terminalNode hnode
    cases hplain
  | regex hnode =>
    have hplain := Compile.isCall_regexNode hnode
    cases hplain
  | rule hrule => exact ⟨around, identity, _, hinner, hrule⟩

end LowersTo

end Draft

/-! ### Passes over the arena -/

namespace Grammar

variable (grammar : Grammar) (marks : Array Bool)

/-- The table of left edges as it is when the pass comes to a node. -/
def edgesBefore (id : NodeId) : Array (List Nat) :=
  (grammar.nodes.toList.take id).foldl
    (fun edges node ↦ edges.push (leftEdge marks (fun child ↦ edges[child]?.getD []) node)) #[]

/-- At a node its left edge is added to the table. -/
theorem edgesBefore_succ {id : NodeId} (hid : id < grammar.nodeCount) :
    grammar.edgesBefore marks (id + 1) = (grammar.edgesBefore marks id).push
      (leftEdge marks (fun child ↦ (grammar.edgesBefore marks id)[child]?.getD [])
        (grammar.node id)) := by
  have hnode : grammar.nodes.toList[id]? = some (grammar.node id) := by
    rw [node, Array.getElem?_toList, Array.getElem?_eq_getElem hid]
    rfl
  rw [edgesBefore, List.take_add_one, hnode, Option.toList_some, List.foldl_concat]
  rfl

/-- When the pass comes to a node the table has an entry for each node before it. -/
theorem size_edgesBefore {id : NodeId} (hid : id ≤ grammar.nodeCount) :
    (grammar.edgesBefore marks id).size = id := by
  induction id with
  | zero => rfl
  | succ id ih =>
    rw [edgesBefore_succ grammar marks hid, Array.size_push, ih (Nat.le_of_succ_le hid)]

/-- After the last node the table is that of all left edges. -/
theorem edgesBefore_nodeCount :
    grammar.edgesBefore marks grammar.nodeCount = grammar.leftEdges marks := by
  rw [edgesBefore, nodeCount, ← Array.length_toList, List.take_length, Array.foldl_toList]
  rfl

/-- Marks solve the equations of what can match nothing: a node is marked just when it can match
nothing by the marks of its children and of the rule that it calls. -/
def SolvesNullable (known : NodeId → Bool) : Prop :=
  ∀ id < grammar.nodeCount,
    known id = (grammar.node id).nullable known fun rule ↦ known (grammar.ruleBody rule)

theorem size_nullable : grammar.nullable.size = grammar.nodeCount := by
  rw [nullable, size_saturate, Array.size_replicate]
  rfl

/-- The marks that are found are the least solution. That nothing changes any more makes them a
solution, and a mark is only ever put where every solution has one. -/
theorem isLeast_nullable : IsLeast {known | grammar.SolvesNullable known}
    (isMarked grammar.nullable) := by
  refine ⟨fun id hid ↦ Bool.eq_iff_iff.mpr (isMarked_nullable_iff hid), fun known hsolves id ↦ ?_⟩
  refine Bool.le_iff_imp.mpr fun hmarked ↦ ?_
  refine due_of_isMarked_nullable (fun other ↦ known other = true)
    (fun marks hmarks other hother hnullable ↦ ?_) hmarked
  rw [hsolves other hother]
  exact nullable_mono (fun child _ ↦ hmarks child) (fun rule _ ↦ hmarks _) hnullable

/-- What the nodes of the arena use is in the arena. -/
theorem Uses.lt_nodeCount {grammar : Grammar} (hformed : grammar.WellFormed) {id other : NodeId}
    (huses : grammar.Uses id other) (hid : id < grammar.nodeCount) : other < grammar.nodeCount := by
  cases huses with
  | child hchild => exact Nat.lt_trans ((hformed.fits id hid).children other hchild) hid
  | body hcall =>
    have hsound := (hformed.fits id hid).sound
    rw [hcall] at hsound
    exact hformed.ruleBody_lt hsound

end Grammar

/-! ### The arena of a grammar -/

/-- What can be relied on in the arena of the grammar that a draft becomes. -/
structure Draft.Arranges (draft : Draft) (grammar : Grammar) : Prop where
  /-- Children come before the nodes that use them. -/
  children : ∀ id < grammar.nodeCount, ∀ child ∈ (grammar.node id).children, child < id
  /-- Every rule has a body. -/
  rules : grammar.ruleBodies.length = draft.rules.length
  /-- Bodies are nodes. -/
  bodies : ∀ body ∈ grammar.ruleBodies, body < grammar.nodeCount
  /-- The entry is a node. -/
  entry : ∀ start ∈ grammar.entry, start < grammar.nodeCount
  /-- A call is that of a rule that has a body and is used. -/
  called : ∀ id < grammar.nodeCount, ∀ rule, grammar.node id = .call rule →
    rule < grammar.ruleBodies.length ∧ draft.UsesRule rule
  /-- A rule that is used has one call node. -/
  calls : ∀ rule, draft.UsesRule rule → ∃! id, id < grammar.nodeCount ∧ grammar.node id = .call rule
  /-- From where a parse can start only nodes of the arena are reached. -/
  reached : ∀ start, start ∈ grammar.entry ∨ start ∈ grammar.ruleBodies → ∀ id,
    Relation.ReflTransGen grammar.Uses start id → id < grammar.nodeCount
  /-- When the pass that makes left edges comes to a node, it has an entry for each child. -/
  edges : ∀ marks, ∀ id < grammar.nodeCount, ∀ child ∈ (grammar.node id).children,
    child < (grammar.edgesBefore marks id).size
  /-- In the end it has one for each node. -/
  allEdges : ∀ marks, (grammar.leftEdges marks).size = grammar.nodeCount
  /-- There is a mark for each node. -/
  marks : grammar.nullable.size = grammar.nodeCount
  /-- The marks are the least solution of their equations. -/
  least : IsLeast {known | grammar.SolvesNullable known} (Grammar.isMarked grammar.nullable)

/-- The arena of every grammar that is built is in order. -/
theorem Draft.arranges_of_build {draft : Draft} {grammar : Grammar} (hcoherent : draft.Coherent)
    (hbuild : draft.build = .ok grammar) : draft.Arranges grammar := by
  have hcompile := (build_eq_ok_iff.mp hbuild).1
  have hformed := wellFormed_of_compile hcompile
  have hlowers := lowersTo_of_compile hcoherent hcompile
  have hstart (start : NodeId) (hstart : start ∈ grammar.entry ∨ start ∈ grammar.ruleBodies) :
      start < grammar.nodeCount := hstart.elim (hformed.entry start) (hformed.bodies start)
  constructor
  case children => exact fun id hid ↦ (hformed.fits id hid).children
  case rules => exact hlowers.bodies.length_eq.symm.trans (List.length_map _)
  case bodies => exact hformed.bodies
  case entry => exact hformed.entry
  case called =>
    intro id hid rule hcall
    have hsound := (hformed.fits id hid).sound
    rw [hcall] at hsound
    exact ⟨hsound, hlowers.usesRule hid hcall⟩
  case calls =>
    intro rule huses
    obtain ⟨id, hid, hcall⟩ := hlowers.exists_call huses
    exact ⟨id, ⟨hid, hcall⟩, fun other hother ↦ eq_of_call hcompile hother.2 hcall⟩
  case reached =>
    intro start hplace id hreached
    induction hreached with
    | refl => exact hstart start hplace
    | tail _ huses ih => exact huses.lt_nodeCount hformed ih
  case edges =>
    intro marks id hid child hchild
    rw [grammar.size_edgesBefore marks (Nat.le_of_lt hid)]
    exact (hformed.fits id hid).children child hchild
  case allEdges =>
    intro marks
    rw [← grammar.edgesBefore_nodeCount marks]
    exact grammar.size_edgesBefore marks (Nat.le_refl _)
  case marks => exact grammar.size_nullable
  case least => exact grammar.isLeast_nullable

/-! ### A rule that is used by itself and by the entry -/

/-- A series of letters: one letter, or one and then a series. -/
def Draft.series : Build Draft := do
  let letter ← Expr.literal "a"
  let use ← Expr.rule "series"
  let more ← letter.andThen use
  let either ← more.orElse letter
  pure { rules := [("series", either)], entry := some (.rule "series") }

/-- The grammar of a series of letters. The call in the body of the rule is the entry. -/
def Grammar.series : Grammar where
  nodes := #[.terminal (.literal "a" false) (some .blanks) "Expected \"a\"",
    .call 0, .sequence [0, 1] none, .choice [2, 0]]
  ruleNames := ["series"]
  ruleBodies := [3]
  entry := some 1
  config := {}

namespace Draft

theorem coherent_series (next : Nat) : (series next).1.Coherent := by
  have hdraws : Build.Draws (fun _ ↦ False) series Drawn := by
    refine Build.draws_bind (Build.draws_leaf fun _ ↦ rfl) fun letter first _ hletter ↦ ?_
    refine Build.draws_bind (Build.draws_leaf fun _ ↦ rfl) fun use second hgrown huse ↦ ?_
    refine Build.draws_bind (Build.draws_andThen (hgrown _ hletter) huse)
      fun more third hlater hmore ↦ ?_
    refine Build.draws_bind (Build.draws_orElse hmore (hlater _ (hgrown _ hletter)))
      fun either drawn _ heither ↦
      Build.draws_pure _ ⟨fun body hbody ↦ ?_, fun _ hentry ↦ nomatch hentry⟩
    exact List.mem_singleton.mp hbody ▸ heither
  exact hdraws.coherent next

/-- The draft of a series of letters builds into its grammar. -/
theorem build_series : (series 0).1.build = .ok Grammar.series := by
  cbv

/-- The arena of a series of letters is in order: the rule has one call node, which is the entry
too. -/
theorem arranges_series :
    (series 0).1.Coherent ∧ (series 0).1.build = .ok Grammar.series ∧
      (series 0).1.Arranges Grammar.series :=
  ⟨coherent_series 0, build_series, arranges_of_build (coherent_series 0) build_series⟩

end Draft

end Packrat
