import Packrat.Proofs.Grammar.Joins
import Packrat.Proofs.Grammar.Twins

/-!
# One draft with two entries

Two drafts that differ in the entry alone have the same rules, and whatever both hold became nodes
in both grammars (`Draft.Shared`), which are marked alike. So if the one draft is accepted, the
other one can only be refused for what its entry does not share: if no unshared part of it goes
round without end, it is accepted too (`Draft.accepted_entryExpr`). What goes round without end is
read off the parts that can match nothing (`Grammar.CanSkip`).
-/

set_option autoImplicit false
set_option relaxedAutoImplicit false

namespace Packrat

/-! ### What is shared -/

namespace Draft

variable {draft : Draft} {one whole : Expr} {first second : Grammar} {skip : Option CharSet}
  {expr : Expr}

/-- An expression became nodes of two grammars. -/
def Shared (first second : Grammar) (skip : Option CharSet) (expr : Expr) : Prop :=
  ∃ id twin, expr.CompilesTo first.nodes first.ruleNames skip id ∧
    expr.CompilesTo second.nodes second.ruleNames skip twin

theorem Shared.symm (hshared : Shared first second skip expr) : Shared second first skip expr :=
  let ⟨id, twin, hid, htwin⟩ := hshared
  ⟨twin, id, htwin, hid⟩

/-- The parts of an expression that is shared are shared. -/
theorem Shared.part (hshared : Shared first second skip expr) {part : Expr}
    (hpart : part ∈ expr.parts.1) :
    Shared first second skip part := by
  obtain ⟨id, twin, hid, htwin⟩ := hshared
  obtain ⟨inner, hinner⟩ := hid.exists_own_part hpart
  obtain ⟨other, hother⟩ := htwin.exists_own_part hpart
  exact ⟨inner, other, hinner, hother⟩

/-- Drafts that start at different expressions have the same rules. -/
theorem within_entryExpr (draft : Draft) (one whole : Expr) :
    (draft.entryExpr one).Within (draft.entryExpr whole) :=
  ⟨fun _ _ hbody ↦ hbody, rfl⟩

/-- A draft compiles with any sound expression as its entry if it does with another one. -/
theorem exists_compile_entryExpr (hcompile : (draft.entryExpr one).compile = .ok first)
    (hlowers : (draft.entryExpr one).LowersTo first) (hsound : whole.Sound draft.ruleNames) :
    ∃ second, (draft.entryExpr whole).compile = .ok second := by
  refine exists_compile (Or.inl rfl) (compile_eq_ok_iff.mp hcompile).2.1 (fun body hbody ↦ ?_)
    fun point hpoint expr hmeans ↦ ?_
  · obtain ⟨id, hid⟩ := hlowers.exists_node (.reaches (.body hbody))
    exact hid.sound
  · obtain rfl := Option.some.inj hpoint
    cases hmeans
    exact hsound

/-- What a draft whose entry is an expression holds is shared with another grammar of its rules or
belongs to the expression itself, if the parts of what belongs to it are shared or belong to it. -/
theorem covers_entryExpr_cases (hfirst : (draft.entryExpr one).LowersTo first)
    (hsecond : (draft.entryExpr whole).LowersTo second) {own : Expr → Prop} (hwhole : own whole)
    (hown : ∀ expr, own expr → ∀ child ∈ expr.shape.children draft.config.skip,
      Shared first second child.1 child.2 ∨ child.1 = draft.config.skip ∧ own child.2)
    (hcovers : (draft.entryExpr whole).Covers skip expr) :
    Shared first second skip expr ∨ skip = draft.config.skip ∧ own expr := by
  cases hcovers with
  | reaches hreaches =>
    induction hreaches with
    | @body body hbody =>
      obtain ⟨id, hid⟩ := hfirst.exists_node (.reaches (.body hbody))
      obtain ⟨twin, htwin⟩ := hsecond.exists_node (.reaches (.body hbody))
      rw [← hfirst.ruleNames] at hid
      rw [← hsecond.ruleNames] at htwin
      exact Or.inl ⟨id, twin, hid, htwin⟩
    | entry hentry =>
      obtain rfl := EntryPoint.expr.inj (Option.some.inj hentry)
      exact Or.inr ⟨rfl, hwhole⟩
    | child _ hchild ih =>
      rcases ih with ⟨id, twin, hid, htwin⟩ | ⟨rfl, hexpr⟩
      · obtain ⟨inner, hinner⟩ := hid.exists_child hchild
        obtain ⟨other, hother⟩ := htwin.exists_child hchild
        exact Or.inl ⟨inner, other, hinner, hother⟩
      · exact hown _ hexpr _ hchild
  | entry hentry hmeans =>
    obtain rfl := Option.some.inj hentry
    cases hmeans
    exact Or.inr ⟨rfl, hwhole⟩

end Draft

/-! ### Left calls of what is not shared -/

/-- An expression is no use of a rule and no override. -/
def Expr.IsPlain (expr : Expr) : Prop :=
  (∀ name, expr.shape ≠ .rule name) ∧ ∀ child set, expr.shape ≠ .blanks child set

/-- The node of a shape has the nodes of its children as children, and is no call unless the shape
is the use of a rule. -/
theorem Shape.Lowers.children_eq {names : List String} {skip : Option CharSet} {shape : Shape}
    {ids : List NodeId} {node : Node} (hlowers : shape.Lowers names skip ids node)
    (hplain : ∀ name, shape ≠ .rule name) : node.children = ids ∧ node.isCall = false := by
  cases hlowers with
  | terminal hnode =>
    rcases Compile.terminalNode_cases hnode with rfl | rfl
    · exact ⟨rfl, rfl⟩
    · exact ⟨rfl, rfl⟩
  | regex hnode =>
    obtain ⟨_, rfl⟩ := Compile.regexNode_cases hnode
    exact ⟨rfl, rfl⟩
  | rule hrule => exact absurd rfl (hplain _)
  | _ => exact ⟨rfl, rfl⟩

/-- Left calls from what an expression became end if they end from what its children became. -/
theorem Grammar.acc_leftCalls_of_children {grammar : Grammar} {marks : Array Bool}
    {skip : Option CharSet} {expr : Expr} {id : NodeId}
    (hid : expr.CompilesTo grammar.nodes grammar.ruleNames skip id) (hplain : expr.IsPlain)
    (hchildren : ∀ child ∈ expr.shape.children skip, ∀ inner,
      child.2.CompilesTo grammar.nodes grammar.ruleNames child.1 inner →
        Acc (grammar.LeftCalls marks) inner) :
    Acc (grammar.LeftCalls marks) id := by
  cases hid with
  | blanks hchild => exact absurd rfl (hplain.2 _ _)
  | @node _ identity shape id node ids hnode hlowers hlength hcompiled =>
    obtain ⟨hids, hcall⟩ := hlowers.children_eq hplain.1
    refine Acc.intro id fun child hchild ↦ ?_
    rw [Grammar.LeftCalls, Grammar.node, hnode] at hchild
    have hmem : child ∈ node.children := Grammar.mem_children_of_mem_leftChildren hcall hchild
    rw [hids] at hmem
    obtain ⟨origin, hpair⟩ := exists_mem_zip_right hlength hmem
    exact hchildren origin (List.of_mem_zip hpair).1 child (hcompiled origin child hpair)

namespace Draft

variable {draft : Draft} {one whole : Expr} {first second : Grammar}

/-- Rules of one name have twins as bodies whatever the entry is. -/
theorem ruleTwins_entryExpr (hfirst : (draft.entryExpr one).LowersTo first)
    (hsecond : (draft.entryExpr whole).LowersTo second) :
    RuleTwins first.ruleNames second.ruleNames first second := by
  rw [hfirst.ruleNames, hsecond.ruleNames]
  exact (draft.within_entryExpr one whole).ruleTwins hfirst hsecond

/-- A grammar is accepted with another entry if no part of that entry that is not shared repeats
without end what can match nothing. -/
theorem accepted_entryExpr (hfirst : (draft.entryExpr one).LowersTo first)
    (hsecond : (draft.entryExpr whole).LowersTo second) (hformed : first.WellFormed)
    (hrounds : first.nullableRepetition? first.nullable = none)
    (hcycles : first.leftRecursion first.nullable = []) (hformed' : second.WellFormed)
    (own : Expr → Prop) (hwhole : own whole)
    (hown : ∀ expr, own expr → ∀ child ∈ expr.shape.children draft.config.skip,
      Shared first second child.1 child.2 ∨ child.1 = draft.config.skip ∧ own child.2)
    (hplain : ∀ expr, own expr → expr.IsPlain)
    (hstalls : ∀ expr, own expr → ∀ id,
      expr.CompilesTo second.nodes second.ruleNames draft.config.skip id →
        ¬ (second.node id).Stalls second.nullable) :
    second.nullableRepetition? second.nullable = none ∧
      second.leftRecursion second.nullable = [] := by
  have hrules := ruleTwins_entryExpr hfirst hsecond
  have hcovered (id : NodeId) (hid : id < second.nodeCount) : ∃ skip expr,
      expr.CompilesTo second.nodes second.ruleNames skip id ∧
        (Shared first second skip expr ∨ skip = draft.config.skip ∧ own expr) := by
    obtain ⟨skip, expr, hcovers, hexpr⟩ := hsecond.covered id hid
    rw [← hsecond.ruleNames] at hexpr
    exact ⟨skip, expr, hexpr, covers_entryExpr_cases hfirst hsecond hwhole hown hcovers⟩
  constructor
  · refine Grammar.nullableRepetition?_eq_none_iff.mpr fun node hmem hrefused ↦ ?_
    obtain ⟨id, hid, rfl⟩ := List.getElem_of_mem hmem
    have hinside : id < second.nodes.size := by simpa using hid
    have hfound : second.nodes.toList[id] = second.node id := by
      rw [Grammar.node, Array.getElem?_eq_getElem hinside]
      rfl
    rw [hfound] at hrefused
    obtain ⟨skip, expr, hexpr, ⟨twin, -, htwin, -⟩ | ⟨rfl, hexpr'⟩⟩ := hcovered id hinside
    · obtain ⟨node, -, hnode, -⟩ := htwin.lowers
      refine Grammar.nullableRepetition?_eq_none_iff.mp hrounds _
        (Grammar.node_mem (Array.getElem?_eq_some_iff.mp hnode).1) ?_
      exact hrules.symm.stalls_of_stalls ⟨skip, expr, hexpr, htwin⟩ hrefused
    · exact hstalls expr hexpr' id hexpr hrefused
  · have hshared {skip : Option CharSet} {expr : Expr} {id : NodeId}
        (hexpr : Shared first second skip expr)
        (hid : expr.CompilesTo second.nodes second.ruleNames skip id) :
        Acc (second.LeftCalls second.nullable) id := by
      obtain ⟨twin, -, htwin, -⟩ := hexpr
      obtain ⟨node, -, hnode, -⟩ := htwin.lowers
      exact hrules.acc_leftCalls ⟨skip, expr, htwin, hid⟩
        (Grammar.acc_leftCalls hformed hcycles (Array.getElem?_eq_some_iff.mp hnode).1)
    have hleft (expr : Expr) (hsound : expr.Sound second.ruleNames) : own expr → ∀ id,
        expr.CompilesTo second.nodes second.ruleNames draft.config.skip id →
          Acc (second.LeftCalls second.nullable) id := by
      induction hsound with
      | @mk identity shape _ _ ih =>
        intro hexpr id hid
        refine Grammar.acc_leftCalls_of_children hid (hplain _ hexpr)
          fun child hchild inner hinner ↦ ?_
        rcases hown _ hexpr child hchild with hchild' | ⟨hskip, hchild'⟩
        · exact hshared hchild' hinner
        · have hmem : child.2 ∈ (shape.children none).map Prod.snd :=
            shape.map_snd_children draft.config.skip none ▸ List.mem_map_of_mem hchild
          obtain ⟨again, hagain, hsame⟩ := List.mem_map.mp hmem
          rw [hskip, ← hsame] at hinner
          rw [← hsame] at hchild'
          exact ih again hagain hchild' inner hinner
    refine Grammar.leftRecursion_eq_nil_of_acc hformed' fun id hid ↦ ?_
    obtain ⟨skip, expr, hexpr, hshared' | ⟨rfl, hexpr'⟩⟩ := hcovered id hid
    · exact hshared hshared' hexpr
    · exact hleft expr hexpr.sound hexpr' id hexpr

end Draft

/-! ### Marks -/

/-- Whatever an expression became is marked as nullable. -/
def Grammar.CanSkip (grammar : Grammar) (skip : Option CharSet) (expr : Expr) : Prop :=
  ∀ id, expr.CompilesTo grammar.nodes grammar.ruleNames skip id →
  Grammar.isMarked grammar.nullable id = true

namespace Draft

variable {draft : Draft} {grammar : Grammar} {skip : Option CharSet} {expr : Expr} {id : NodeId}

/-- What an expression became is marked alike everywhere in a grammar. -/
theorem LowersTo.canSkip_iff (hlowers : draft.LowersTo grammar)
    (hid : expr.CompilesTo grammar.nodes grammar.ruleNames skip id) :
    grammar.CanSkip skip expr ↔ Grammar.isMarked grammar.nullable id = true := by
  have hrules : RuleTwins grammar.ruleNames grammar.ruleNames grammar grammar := by
    rw [hlowers.ruleNames]
    exact (Within.refl draft).ruleTwins hlowers hlowers
  exact ⟨fun hskip ↦ hskip id hid, fun hmarked other hother ↦
    hrules.isMarked_of_isMarked ⟨skip, expr, hid, hother⟩ hmarked⟩

/-- A sequence can match nothing just if all its parts can. -/
theorem LowersTo.canSkip_sequence_iff (hlowers : draft.LowersTo grammar) {identity : Nat}
    {parts : List Expr} {commit : Option Nat}
    (hid : (⟨identity, .sequence parts commit⟩ : Expr).CompilesTo grammar.nodes
      grammar.ruleNames skip id) :
    grammar.CanSkip skip ⟨identity, .sequence parts commit⟩ ↔
      ∀ part ∈ parts, grammar.CanSkip skip part := by
  rw [hlowers.canSkip_iff hid]
  obtain ⟨node, ids, hnode, hshape, hchildren⟩ := hid.lowers
  cases hshape
  change List.Forall₂ _ (parts.map fun part ↦ (skip, part)) ids at hchildren
  rw [List.forall₂_map_left_iff] at hchildren
  rw [Grammar.isMarked_nullable_iff (Array.getElem?_eq_some_iff.mp hnode).1, Grammar.nullableBy,
    Grammar.node, hnode]
  change ids.all _ = true ↔ _
  clear hid hnode
  induction hchildren with
  | nil => simp
  | cons hfirst _ ih =>
    rw [List.all_cons, Bool.and_eq_true, ih, List.forall_mem_cons, hlowers.canSkip_iff hfirst]

/-- An expression can match nothing just if all its parts can. -/
theorem LowersTo.canSkip_parts_iff (hlowers : draft.LowersTo grammar)
    (hid : expr.CompilesTo grammar.nodes grammar.ruleNames skip id) :
    (∀ part ∈ expr.parts.1, grammar.CanSkip skip part) ↔ grammar.CanSkip skip expr := by
  rcases expr.parts_cases with ⟨identity, parts, commit, rfl, hparts⟩ | hparts
  · rw [hparts, hlowers.canSkip_sequence_iff hid]
  · rw [hparts]
    exact List.forall_mem_singleton

/-- Two expressions that are joined can match nothing just if the parts of the first and the second
one can. -/
theorem LowersTo.canSkip_joins_iff (hlowers : draft.LowersTo grammar) {one next joined : Expr}
    (hjoins : one.Joins next joined)
    (hid : joined.CompilesTo grammar.nodes grammar.ruleNames skip id) :
    grammar.CanSkip skip joined ↔
      (∀ part ∈ one.parts.1, grammar.CanSkip skip part) ∧ grammar.CanSkip skip next := by
  cases hjoins with
  | parts identity =>
    obtain ⟨inner, hinner⟩ := hid.exists_part List.mem_cons_self
    rw [hlowers.canSkip_sequence_iff hid, hlowers.canSkip_parts_iff hinner, List.forall_mem_cons,
      List.forall_mem_singleton]
  | library identity =>
    rw [hlowers.canSkip_sequence_iff hid, List.forall_mem_append, List.forall_mem_singleton]

/-- An expression without its results can match nothing just if the expression can. -/
theorem LowersTo.canSkip_suppress_iff (hlowers : draft.LowersTo grammar) {identity : Nat}
    (hid : (⟨identity, .suppress expr⟩ : Expr).CompilesTo grammar.nodes grammar.ruleNames skip id) :
    grammar.CanSkip skip ⟨identity, .suppress expr⟩ ↔ grammar.CanSkip skip expr := by
  rw [hlowers.canSkip_iff hid]
  obtain ⟨node, ids, hnode, hshape, hchildren⟩ := hid.lowers
  cases hshape with
  | suppress _ inner =>
  have hinner : expr.CompilesTo grammar.nodes grammar.ruleNames skip inner :=
    (List.forall₂_cons.mp hchildren).1
  rw [hlowers.canSkip_iff hinner, Grammar.isMarked_nullable_iff
    (Array.getElem?_eq_some_iff.mp hnode).1, Grammar.nullableBy, Grammar.node, hnode]
  rfl

/-- A repetition goes round without end just if it is not bounded and what it repeats can match
nothing. -/
theorem LowersTo.stalls_repetition_iff (hlowers : draft.LowersTo grammar) {identity least : Nat}
    {most : Option Nat}
    (hid : (⟨identity, .repetition expr least most⟩ : Expr).CompilesTo grammar.nodes
      grammar.ruleNames skip id) :
    (grammar.node id).Stalls grammar.nullable ↔ most = none ∧ grammar.CanSkip skip expr := by
  obtain ⟨node, ids, hnode, hshape, hchildren⟩ := hid.lowers
  rw [Grammar.node, hnode]
  cases hshape with
  | repetition _ _ _ inner _ =>
  have hinner : expr.CompilesTo grammar.nodes grammar.ruleNames skip inner :=
    (List.forall₂_cons.mp hchildren).1
  rw [hlowers.canSkip_iff hinner]
  cases most with
  | none => exact (and_iff_right rfl).symm
  | some bound =>
    exact ⟨fun hstalls ↦ hstalls.elim, fun hboth ↦ absurd hboth.1 (Option.some_ne_none bound)⟩

/-- A list goes round without end just if it is not bounded and items and separators can match
nothing. -/
theorem LowersTo.stalls_delimited_iff (hlowers : draft.LowersTo grammar) {identity : Nat}
    {item separator : Expr} {form : ListForm}
    (hid : (⟨identity, .delimited item separator form⟩ : Expr).CompilesTo
      grammar.nodes grammar.ruleNames skip id) :
    (grammar.node id).Stalls grammar.nullable ↔
      form.most = none ∧ grammar.CanSkip skip item ∧ grammar.CanSkip skip separator := by
  obtain ⟨node, ids, hnode, hshape, hchildren⟩ := hid.lowers
  rw [Grammar.node, hnode]
  cases hshape with
  | delimited _ _ _ one other _ =>
  obtain ⟨hone, hrest⟩ := List.forall₂_cons.mp hchildren
  have hitem : item.CompilesTo grammar.nodes grammar.ruleNames skip one := hone
  have hseparator : separator.CompilesTo grammar.nodes grammar.ruleNames skip other :=
    (List.forall₂_cons.mp hrest).1
  rw [hlowers.canSkip_iff hitem, hlowers.canSkip_iff hseparator]
  exact .rfl

variable {one whole : Expr} {first second : Grammar}

/-- An expression that became nodes of two grammars is marked alike in both. -/
theorem Shared.canSkip_iff (hshared : Shared first second skip expr)
    (hfirst : (draft.entryExpr one).LowersTo first)
    (hsecond : (draft.entryExpr whole).LowersTo second) :
    first.CanSkip skip expr ↔ second.CanSkip skip expr := by
  obtain ⟨id, twin, hid, htwin⟩ := hshared
  rw [hfirst.canSkip_iff hid, hsecond.canSkip_iff htwin,
    (ruleTwins_entryExpr hfirst hsecond).isMarked_eq ⟨skip, expr, hid, htwin⟩]

end Draft

/-- An expression is a sequence, an option or an expression without its results. -/
inductive Expr.IsFrame : Expr → Prop
  | sequence {identity : Nat} {parts : List Expr} {commit : Option Nat} :
      IsFrame ⟨identity, .sequence parts commit⟩
  | optional {identity : Nat} {child : Expr} {default : Option Token} :
      IsFrame ⟨identity, .optional child default⟩
  | suppress {identity : Nat} {child : Expr} : IsFrame ⟨identity, .suppress child⟩

theorem Expr.IsFrame.isPlain {expr : Expr} (hframe : expr.IsFrame) : expr.IsPlain := by
  cases hframe <;> exact ⟨nofun, nofun⟩

/-- Such an expression does not go round. -/
theorem Expr.IsFrame.not_stalls {grammar : Grammar} {skip : Option CharSet}
    {expr : Expr} {id : NodeId} {marks : Array Bool} (hframe : expr.IsFrame)
    (hid : expr.CompilesTo grammar.nodes grammar.ruleNames skip id) :
    ¬ (grammar.node id).Stalls marks := by
  obtain ⟨node, ids, hnode, hshape, -⟩ := hid.lowers
  rw [Grammar.node, hnode]
  cases hframe with
  | sequence =>
    cases hshape
    exact not_false
  | optional =>
    cases hshape
    exact not_false
  | suppress =>
    cases hshape
    exact not_false

end Packrat
