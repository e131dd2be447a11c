import Mathlib.Data.List.Forall2
import Packrat.Matching.Reading
import Packrat.Proofs.Grammar.Arena

/-!
# What expressions become

`Expr.CompilesTo` says of a node that it is what an expression becomes with given characters skipped
around it: the node of its shape, over what its children become, and overrides leave nothing behind.
An expression may become several nodes, and a node may stand for several expressions.

Compilation looks expressions up by their identities, and the characters skipped around them by
where these come from. It is right to do so when an identity belongs to a single expression
(`Draft.Coherent`). Then rule bodies and entry become what they should, and every node of the
grammar stands for some expression of the draft (`Draft.lowersTo_of_compile`).
-/

set_option autoImplicit false
set_option relaxedAutoImplicit false

namespace Packrat

/-- Two lists whose elements have the same images in pairs. -/
theorem map_eq_map_of_forall₂ {α β γ : Type} {f : α → γ} {g : β → γ} {first : List α}
    {second : List β} (hsame : List.Forall₂ (fun left right ↦ f left = g right) first second) :
    first.map f = second.map g := by
  rw [← List.forall₂_eq_eq_eq, List.forall₂_map_left_iff, List.forall₂_map_right_iff]
  exact hsame

/-! ### Expressions and their nodes -/

/-- The children of a shape, each with the characters skipped around it. -/
def Shape.children (skip : Option CharSet) : Shape → List (Option CharSet × Expr)
  | .sequence parts _ => parts.map fun part ↦ (skip, part)
  | .choice alternatives => alternatives.map fun alternative ↦ (skip, alternative)
  | .optional child _ => [(skip, child)]
  | .repetition child _ _ => [(skip, child)]
  | .delimited item separator _ => [(skip, item), (skip, separator)]
  | .lookahead child _ => [(skip, child)]
  | .suppress child => [(skip, child)]
  | .group child => [(skip, child)]
  | .combine child _ => [(none, child)]
  | .named child _ _ => [(skip, child)]
  | .action child _ => [(skip, child)]
  | .labeled child _ => [(skip, child)]
  | .blanks child set => [(overriding set, child)]
  | .empty => []
  | .textEnd => []
  | .terminal _ => []
  | .regex _ _ => []
  | .rule _ => []

/-- Which children a shape has does not depend on the characters skipped around it. -/
theorem Shape.map_snd_children (shape : Shape) (skip other : Option CharSet) :
    (shape.children skip).map Prod.snd = (shape.children other).map Prod.snd := by
  cases shape with
  | sequence parts commit => simp [children]
  | choice alternatives => simp [children]
  | _ => rfl

/-- The shapes of an expression and of all that it is made of have a property. -/
inductive Expr.Throughout (property : Shape → Prop) : Expr → Prop
  | mk {identity : Nat} {shape : Shape} (hshape : property shape)
    (hchildren : ∀ child ∈ shape.children none, Throughout property child.2) :
    Throughout property ⟨identity, shape⟩

namespace Expr.Throughout

variable {property : Shape → Prop} {expr : Expr}

/-- The shape of an expression has the property. -/
theorem shape (hexpr : expr.Throughout property) : property expr.shape := by
  cases hexpr with
  | mk hshape _ => exact hshape

/-- The children of an expression have the property throughout. -/
theorem child (hexpr : expr.Throughout property) (skip : Option CharSet)
    {child : Option CharSet × Expr} (hchild : child ∈ expr.shape.children skip) :
    child.2.Throughout property := by
  cases hexpr with
  | @mk identity shape _ hchildren =>
    have hmem : child.2 ∈ (shape.children none).map Prod.snd :=
      shape.map_snd_children skip none ▸ List.mem_map_of_mem hchild
    obtain ⟨again, hagain, hsame⟩ := List.mem_map.mp hmem
    exact hsame ▸ hchildren again hagain

theorem imp {weak : Shape → Prop} (hexpr : expr.Throughout property)
    (himp : ∀ shape, property shape → weak shape) : expr.Throughout weak := by
  induction hexpr with
  | mk hshape _ ih => exact .mk (himp _ hshape) ih

end Expr.Throughout

/-- What an expression has throughout, in terms of its children. -/
theorem Expr.throughout_iff {property : Shape → Prop} {identity : Nat} {shape : Shape} :
    (⟨identity, shape⟩ : Expr).Throughout property ↔
      property shape ∧ ∀ child ∈ shape.children none, child.2.Throughout property :=
  ⟨fun ⟨hshape, hchildren⟩ ↦ ⟨hshape, hchildren⟩, fun ⟨hshape, hchildren⟩ ↦ .mk hshape hchildren⟩

/-- The node that a shape becomes over the nodes of its children. An override becomes no node. -/
inductive Shape.Lowers (names : List String) (skip : Option CharSet) :
    Shape → List NodeId → Node → Prop
  | empty : Lowers names skip .empty [] .empty
  | textEnd : Lowers names skip .textEnd [] (.textEnd skip)
  | terminal {terminal : Terminal} {node : Node}
    (hnode : Compile.terminalNode terminal skip ("Expected " ++ terminal.describe) = .ok node) :
    Lowers names skip (.terminal terminal) [] node
  | regex {engine : RegexEngine} {pattern : String} {node : Node}
    (hnode : Compile.regexNode engine pattern skip
      ("Expected " ++ (Shape.regex engine pattern).display) = .ok node) :
    Lowers names skip (.regex engine pattern) [] node
  | sequence (parts : List Expr) (commit : Option Nat) (ids : List NodeId) :
    Lowers names skip (.sequence parts commit) ids (.sequence ids commit)
  | choice (alternatives : List Expr) (ids : List NodeId) :
    Lowers names skip (.choice alternatives) ids (.choice ids)
  | optional (child : Expr) (default : Option Token) (id : NodeId) :
    Lowers names skip (.optional child default) [id] (.optional id default)
  | repetition (child : Expr) (least : Nat) (most : Option Nat) (id : NodeId)
    (hbounds : ∀ bound ∈ most, least ≤ bound) :
    Lowers names skip (.repetition child least most) [id]
      (.repetition id least most (Shape.repetition child least most).display)
  | delimited (item separator : Expr) (form : ListForm) (first second : NodeId)
    (hbounds : ∀ bound ∈ form.most, form.least ≤ bound) :
    Lowers names skip (.delimited item separator form) [first, second]
      (.delimited first second form (Shape.delimited item separator form).display)
  | lookahead (child : Expr) (negative : Bool) (id : NodeId) :
    Lowers names skip (.lookahead child negative) [id]
      (.lookahead id negative ("Found unwanted token, " ++ child.display))
  | suppress (child : Expr) (id : NodeId) :
    Lowers names skip (.suppress child) [id] (.suppress id)
  | group (child : Expr) (id : NodeId) : Lowers names skip (.group child) [id] (.group id)
  | combine (child : Expr) (joiner : String) (id : NodeId) :
    Lowers names skip (.combine child joiner) [id] (.combine id joiner skip)
  | rule {name : String} {rule : Nat} (hrule : names.idxOf? name = some rule) :
    Lowers names skip (.rule name) [] (.call rule)
  | named (child : Expr) (name : String) (accumulate : Bool) (id : NodeId) :
    Lowers names skip (.named child name accumulate) [id] (.named id name accumulate)
  | action (child : Expr) (actions : List Action) (id : NodeId) :
    Lowers names skip (.action child actions) [id] (.action id actions skip)
  | labeled (child : Expr) (label : String) (id : NodeId) :
    Lowers names skip (.labeled child label) [id] (.labeled id skip ("Expected " ++ label))

/-- The node at a position is what an expression becomes with the given characters skipped around
it. -/
inductive Expr.CompilesTo (nodes : Array Node) (names : List String) :
    Option CharSet → Expr → NodeId → Prop
  | node {skip : Option CharSet} {identity : Nat} {shape : Shape} {id : NodeId} {node : Node}
    {ids : List NodeId} (hnode : nodes[id]? = some node)
      (hlowers : shape.Lowers names skip ids node)
    (hlength : (shape.children skip).length = ids.length)
    (hchildren : ∀ child inner, (child, inner) ∈ (shape.children skip).zip ids →
      CompilesTo nodes names child.1 child.2 inner) :
    CompilesTo nodes names skip ⟨identity, shape⟩ id
  | blanks {skip set : Option CharSet} {identity : Nat} {child : Expr} {id : NodeId}
    (hchild : CompilesTo nodes names (overriding set) child id) :
    CompilesTo nodes names skip ⟨identity, .blanks child set⟩ id

/-- Every member of a list is paired with a member of a list of the same length. -/
theorem exists_mem_zip {α β : Type} {first : List α} {second : List β}
    (hlength : first.length = second.length) {value : α} (hvalue : value ∈ first) :
    ∃ other, (value, other) ∈ first.zip second := by
  obtain ⟨index, hindex, rfl⟩ := List.getElem_of_mem hvalue
  have hinside : index < (first.zip second).length := by
    rw [List.length_zip]
    exact Nat.lt_min.mpr ⟨hindex, hlength ▸ hindex⟩
  exact ⟨_, List.mem_iff_getElem.mpr ⟨index, hinside, List.getElem_zip⟩⟩

/-- Every member of a list is paired with a member of a list of the same length before it. -/
theorem exists_mem_zip_right {α β : Type} {first : List α} {second : List β}
    (hlength : first.length = second.length) {value : β} (hvalue : value ∈ second) :
    ∃ other, (other, value) ∈ first.zip second := by
  obtain ⟨index, hindex, rfl⟩ := List.getElem_of_mem hvalue
  have hinside : index < (first.zip second).length := by
    rw [List.length_zip]
    exact Nat.lt_min.mpr ⟨hlength ▸ hindex, hindex⟩
  exact ⟨_, List.mem_iff_getElem.mpr ⟨index, hinside, List.getElem_zip⟩⟩

namespace Expr.CompilesTo

variable {nodes later : Array Node} {names : List String} {skip : Option CharSet} {expr : Expr}
  {id : NodeId}

/-- What an expression became stays what it was when nodes are added. -/
theorem mono (hcompiles : CompilesTo nodes names skip expr id) (hextends : Extends nodes later) :
    CompilesTo later names skip expr id := by
  induction hcompiles with
  | node hnode hlowers hlength _ ih => exact .node (hextends _ _ hnode) hlowers hlength ih
  | blanks _ ih => exact .blanks ih

/-- The node of a shape over the nodes of its children. -/
theorem of_lowers {identity : Nat} {shape : Shape} {node : Node} {ids : List NodeId}
    (hnode : nodes[id]? = some node) (hlowers : shape.Lowers names skip ids node)
    (hchildren : List.Forall₂ (fun child inner ↦ CompilesTo nodes names child.1 child.2 inner)
      (shape.children skip) ids) : CompilesTo nodes names skip ⟨identity, shape⟩ id :=
  .node hnode hlowers hchildren.length_eq fun _ _ hmem ↦ (List.forall₂_iff_zip.mp hchildren).2 hmem

/-- What an expression became is the node of the shape inside all overrides. -/
theorem lowers (hcompiles : CompilesTo nodes names skip expr id) :
    ∃ node ids, nodes[id]? = some node ∧
      (expr.innermost skip).2.shape.Lowers names (expr.innermost skip).1 ids node ∧
      List.Forall₂ (fun child inner ↦ CompilesTo nodes names child.1 child.2 inner)
        ((expr.innermost skip).2.shape.children (expr.innermost skip).1) ids := by
  induction hcompiles with
  | @node skip identity shape id node ids hnode hlowers hlength hchildren _ =>
    have hinnermost : (⟨identity, shape⟩ : Expr).innermost skip = (skip, ⟨identity, shape⟩) := by
      cases hlowers <;> rfl
    rw [hinnermost]
    exact ⟨node, ids, hnode, hlowers,
      List.forall₂_iff_zip.mpr ⟨hlength, fun hmem ↦ hchildren _ _ hmem⟩⟩
  | @blanks skip set identity child id _ ih =>
    have hinnermost : (⟨identity, .blanks child set⟩ : Expr).innermost skip =
        child.innermost (overriding set) := by
      rw [Expr.innermost]
    rw [hinnermost]
    exact ih

/-- The children of an expression that became a node became nodes. -/
theorem exists_child (hcompiles : CompilesTo nodes names skip expr id)
    {child : Option CharSet × Expr} (hchild : child ∈ expr.shape.children skip) :
    ∃ inner, CompilesTo nodes names child.1 child.2 inner := by
  cases hcompiles with
  | node hnode hlowers hlength hchildren =>
    obtain ⟨inner, hinner⟩ := exists_mem_zip hlength hchild
    exact ⟨inner, hchildren child inner hinner⟩
  | blanks hinner =>
    rw [List.mem_singleton.mp hchild]
    exact ⟨id, hinner⟩

/-- Which identity the use of a rule has makes no difference to what it became. -/
theorem of_rule {name : String} {identity other : Nat}
    (hrule : CompilesTo nodes names skip ⟨identity, .rule name⟩ id) :
    CompilesTo nodes names skip ⟨other, .rule name⟩ id := by
  cases hrule with
  | node hnode hlowers hlength hchildren => exact .node hnode hlowers hlength hchildren

end Expr.CompilesTo

/-! ### The expressions of a draft -/

namespace Draft

/-- An expression occurs in a draft with the given characters skipped around it. -/
inductive Reaches (draft : Draft) : Option CharSet → Expr → Prop
  | body {body : Expr} (hbody : body ∈ draft.rules.map Prod.snd) :
      Reaches draft draft.config.skip body
  | entry {expr : Expr} (hentry : draft.entry = some (.expr expr)) :
    Reaches draft draft.config.skip expr
  | child {skip : Option CharSet} {expr : Expr} {child : Option CharSet × Expr}
    (hexpr : Reaches draft skip expr) (hchild : child ∈ expr.shape.children skip) :
    Reaches draft child.1 child.2

/-- An identity belongs to a single expression of a draft. -/
def Coherent (draft : Draft) : Prop :=
  ∀ ⦃skip other : Option CharSet⦄ ⦃first second : Expr⦄, draft.Reaches skip first →
    draft.Reaches other second → first.identity = second.identity → first = second

/-- The characters skipped around expressions of a draft, and where they come from. -/
inductive Surrounds (draft : Draft) : Surrounding → Prop
  | bare : Surrounds draft .bare
  | standard : Surrounds draft (.standard draft.config)
  | override {skip set : Option CharSet} {identity : Nat} {child : Expr}
    (hreaches : draft.Reaches skip ⟨identity, .blanks child set⟩) :
    Surrounds draft (.override identity set)

end Draft

/-- The expressions for which an entry stands; a rule as an entry stands for all its uses. -/
inductive EntryPoint.Means : EntryPoint → Expr → Prop
  | expr (expr : Expr) : Means (.expr expr) expr
  | rule (name : String) (identity : Nat) : Means (.rule name) ⟨identity, .rule name⟩

theorem EntryPoint.exists_means (point : EntryPoint) : ∃ expr, point.Means expr := by
  cases point with
  | rule name => exact ⟨_, .rule name 0⟩
  | expr body => exact ⟨body, .expr body⟩

/-- What the nodes of a grammar stand for: an expression that occurs, or the entry. -/
inductive Draft.Covers (draft : Draft) : Option CharSet → Expr → Prop
  | reaches {skip : Option CharSet} {expr : Expr} (hreaches : draft.Reaches skip expr) :
    Covers draft skip expr
  | entry {point : EntryPoint} {expr : Expr} (hentry : draft.entry = some point)
    (hmeans : point.Means expr) : Covers draft draft.config.skip expr

/-- Inside an override its characters are skipped. -/
theorem Surrounding.skip_override (identity : Nat) (set : Option CharSet) :
    (override identity set).skip = overriding set := by
  cases set with
  | none => rfl
  | some set =>
    by_cases hempty : set.isEmpty = true
    · simp [override, overriding, Option.filter, hempty, bare]
    · simp [override, overriding, Option.filter, hempty]

/-- At first the default is skipped. -/
theorem Surrounding.skip_standard (config : Config) : (standard config).skip = config.skip := by
  rw [standard]
  cases hskip : config.skip with
  | none => rfl
  | some set => rfl

namespace Draft

variable {draft : Draft}

/-- What the rules and the entry of a draft have throughout, everything that occurs in the draft
has. -/
theorem Reaches.throughout {property : Shape → Prop} {skip : Option CharSet} {expr : Expr}
    (hreaches : draft.Reaches skip expr)
    (hbodies : ∀ body ∈ draft.rules.map Prod.snd, body.Throughout property)
    (hentry : ∀ entry, draft.entry = some (.expr entry) → entry.Throughout property) :
    expr.Throughout property := by
  induction hreaches with
  | body hbody => exact hbodies _ hbody
  | entry hexpr => exact hentry _ hexpr
  | child _ hchild ih => exact ih.child _ hchild

/-- The three places where skipped characters come from. -/
theorem Surrounds.cases {around : Surrounding} (hsurrounds : draft.Surrounds around) :
    (around.source = .nowhere ∧ around.skip = none) ∨
      (around.source = .standard ∧ around.skip = draft.config.skip) ∨
      ∃ skip identity child set, draft.Reaches skip ⟨identity, .blanks child set⟩ ∧
        around.source = .override identity ∧ around.skip = overriding set := by
  cases hsurrounds with
  | bare => exact Or.inl ⟨rfl, rfl⟩
  | standard =>
    rw [Surrounding.standard]
    cases draft.config.skip with
    | none => exact Or.inl ⟨rfl, rfl⟩
    | some set => exact Or.inr (Or.inl ⟨rfl, rfl⟩)
  | @override skip set identity child hreaches =>
    cases set with
    | none => exact Or.inl ⟨rfl, rfl⟩
    | some set =>
      by_cases hempty : set.isEmpty = true
      · refine Or.inl ?_
        simp [Surrounding.override, hempty, Surrounding.bare]
      · refine Or.inr (Or.inr ⟨skip, identity, child, some set, hreaches, ?_, ?_⟩)
        · simp [Surrounding.override, hempty]
        · exact Surrounding.skip_override identity (some set)

/-- Where skipped characters come from says which they are. -/
theorem Surrounds.skip_eq (hcoherent : draft.Coherent) {first second : Surrounding}
    (hfirst : draft.Surrounds first) (hsecond : draft.Surrounds second)
    (hsource : first.source = second.source) : first.skip = second.skip := by
  rcases hfirst.cases with ⟨hfrom, hskip⟩ | ⟨hfrom, hskip⟩
    | ⟨_, _, child, set, hreaches, hfrom, hskip⟩ <;>
    rcases hsecond.cases with ⟨hfrom', hskip'⟩ | ⟨hfrom', hskip'⟩ |
      ⟨_, _, child', set', hreaches', hfrom', hskip'⟩ <;>
    rw [hfrom, hfrom'] at hsource
  case inl.inl => rw [hskip, hskip']
  case inr.inl.inr.inl => rw [hskip, hskip']
  case inr.inr.inr.inr =>
    have hsame := hcoherent hreaches hreaches' (SkipSource.override.inj hsource)
    injection hsame with _ hshape
    injection hshape with _ hset
    rw [hskip, hskip', hset]
  all_goals cases hsource

end Draft

/-! ### Compilation is faithful -/

/-- The invariant of arenas: what is found again is right, and every node stands for something. -/
structure Arena.Faithful (draft : Draft) (arena : Arena) : Prop where
  /-- The node that is found for an identity is what an expression of that identity became. -/
  compiled : ∀ identity source id, arena.compiled[(identity, source)]? = some id →
    ∃ around shape, draft.Reaches around.skip ⟨identity, shape⟩ ∧ draft.Surrounds around ∧
      around.source = source ∧
      Expr.CompilesTo arena.nodes draft.ruleNames around.skip ⟨identity, shape⟩ id
  /-- The node that is found for a rule calls it. -/
  calls : ∀ (rule : Nat) (id : NodeId), arena.calls[rule]? = some id →
    arena.nodes[id]? = some (.call rule)
  /-- Every node stands for something. -/
  covered : ∀ id < arena.nodes.size, ∃ skip expr, draft.Covers skip expr ∧
    Expr.CompilesTo arena.nodes draft.ruleNames skip expr id

theorem Arena.faithful_empty (draft : Draft) : ({} : Arena).Faithful draft := by
  refine ⟨fun identity source id hid ↦ ?_, fun rule id hid ↦ ?_, fun id hid ↦ ?_⟩
  · simp at hid
  · simp at hid
  · exact absurd hid (Nat.not_lt_zero id)

namespace Compile

variable {draft : Draft} {known : Array Node} {skip : Option CharSet} {identity : Nat}
  {shape : Shape}

/-- Adding the node of a shape over the nodes of its children. -/
theorem keeps_faithful_push {node : Node} {ids : List NodeId}
    (hcovers : draft.Covers skip ⟨identity, shape⟩)
    (hlowers : shape.Lowers draft.ruleNames skip ids node)
    (hchildren : List.Forall₂
      (fun child inner ↦ Expr.CompilesTo known draft.ruleNames child.1 child.2 inner)
      (shape.children skip) ids) :
    Keeps (Arena.Faithful draft) known (push node) fun id nodes ↦
      Expr.CompilesTo nodes draft.ruleNames skip ⟨identity, shape⟩ id ∧
        nodes[id]? = some node := by
  intro arena hfaithful hknown id after hrun
  cases hrun
  have hextends := extends_push arena.nodes node
  have hnode : (arena.nodes.push node)[arena.nodes.size]? = some node := by simp
  have hcompiles : Expr.CompilesTo (arena.nodes.push node) draft.ruleNames skip ⟨identity, shape⟩
      arena.nodes.size :=
    .of_lowers hnode hlowers (hchildren.imp fun _ _ hchild ↦ hchild.mono (hknown.trans hextends))
  refine ⟨⟨fun other source found hfound ↦ ?_, fun rule found hfound ↦ ?_, fun found hfound ↦ ?_⟩,
    hknown.trans hextends, hcompiles, hnode⟩
  · obtain ⟨around, form, hreaches, hsurrounds, hsource, hform⟩ :=
      hfaithful.compiled other source found hfound
    exact ⟨around, form, hreaches, hsurrounds, hsource, hform.mono hextends⟩
  · exact hextends _ _ (hfaithful.calls rule found hfound)
  · change found < (arena.nodes.push node).size at hfound
    rw [Array.size_push] at hfound
    rcases Nat.lt_succ_iff_lt_or_eq.mp hfound with hbefore | rfl
    · obtain ⟨other, expr, hexpr, hother⟩ := hfaithful.covered found hbefore
      exact ⟨other, expr, hexpr, hother.mono hextends⟩
    · exact ⟨skip, _, hcovers, hcompiles⟩

/-- Compiling the only child of a shape and adding the node of the shape. -/
theorem keeps_faithful_wrap {inside : Option CharSet} {child : Expr} {compiled : Compile NodeId}
    {wrap : NodeId → Node} (hreaches : draft.Reaches skip ⟨identity, shape⟩)
    (hcompiled : Keeps (Arena.Faithful draft) known compiled fun id nodes ↦
      child.CompilesTo nodes draft.ruleNames inside id)
    (hchildren : shape.children skip = [(inside, child)])
    (hlowers : ∀ id, shape.Lowers draft.ruleNames skip [id] (wrap id)) :
    Keeps (Arena.Faithful draft) known (compiled >>= fun id ↦ push (wrap id)) fun id nodes ↦
      Expr.CompilesTo nodes draft.ruleNames skip ⟨identity, shape⟩ id := by
  refine keeps_bind hcompiled fun id nodes _ hid ↦ ?_
  refine (keeps_faithful_push (.reaches hreaches) (hlowers id) ?_).imp fun _ _ hpost ↦ hpost.1
  rw [hchildren]
  exact .cons hid .nil

theorem keeps_faithful_compiled {around : Surrounding} {id : NodeId}
    (hreaches : draft.Reaches around.skip ⟨identity, shape⟩) (hsurrounds : draft.Surrounds around)
    (hcompiles : Expr.CompilesTo known draft.ruleNames around.skip ⟨identity, shape⟩ id) :
    Keeps (Arena.Faithful draft) known (modify fun arena ↦
      { arena with compiled := arena.compiled.insert (identity, around.source) id })
      fun _ _ ↦ True := by
  intro arena hfaithful hknown value after hrun
  cases hrun
  refine ⟨⟨fun other source found hfound ↦ ?_, hfaithful.calls, hfaithful.covered⟩, hknown,
    True.intro⟩
  change (arena.compiled.insert (identity, around.source) id)[(other, source)]? = some found
    at hfound
  rw [Std.HashMap.getElem?_insert] at hfound
  split at hfound
  next hkey =>
    obtain ⟨rfl, hsource⟩ := Prod.mk.inj (beq_iff_eq.mp hkey)
    cases hfound
    exact ⟨around, shape, hreaches, hsurrounds, hsource, hcompiles.mono hknown⟩
  next => exact hfaithful.compiled other source found hfound

/-- The use of a rule becomes the call node of the rule. -/
theorem keeps_faithful_call {name : String}
    (hcovers : draft.Covers skip ⟨identity, .rule name⟩) :
    Keeps (Arena.Faithful draft) known (call draft.ruleNames name) fun id nodes ↦
      Expr.CompilesTo nodes draft.ruleNames skip ⟨identity, .rule name⟩ id := by
  unfold call
  split
  next => exact keeps_throw _
  next rule hrule =>
    have hlowers : Shape.Lowers draft.ruleNames skip (.rule name) [] (.call rule) := .rule hrule
    refine keeps_get fun arena hfaithful _ ↦ ?_
    split
    next id hid =>
      have hnode := hfaithful.calls rule id hid
      exact keeps_pure id fun nodes hnodes ↦ .of_lowers (hnodes _ _ hnode) hlowers .nil
    next =>
      refine keeps_bind (keeps_faithful_push hcovers hlowers .nil) fun id nodes _ hid ↦ ?_
      have hinsert : Keeps (Arena.Faithful draft) nodes
          (modify fun arena ↦ { arena with calls := arena.calls.insert rule id })
          fun _ _ ↦ True := by
        intro arena hfaithful hknown value after hrun
        cases hrun
        refine ⟨⟨hfaithful.compiled, fun other found hfound ↦ ?_, hfaithful.covered⟩, hknown,
          True.intro⟩
        change (arena.calls.insert rule id)[other]? = some found at hfound
        rw [Std.HashMap.getElem?_insert] at hfound
        split at hfound
        next hkey =>
          cases hfound
          rw [← beq_iff_eq.mp hkey]
          exact hknown _ _ hid.2
        next => exact hfaithful.calls other found hfound
      refine keeps_bind hinsert fun _ later hlater _ ↦ ?_
      exact keeps_pure id fun last hlast ↦ hid.1.mono (hlater.trans hlast)

mutual

theorem keeps_faithful_expr (hcoherent : draft.Coherent) {around : Surrounding}
    (hsurrounds : draft.Surrounds around) (known : Array Node) :
    ∀ expression : Expr, draft.Reaches around.skip expression →
      Keeps (Arena.Faithful draft) known (expr draft.ruleNames around expression) fun id nodes ↦
        expression.CompilesTo nodes draft.ruleNames around.skip id
  | ⟨identity, shape⟩, hreaches => by
    rw [expr]
    refine keeps_get fun arena hfaithful _ ↦ ?_
    split
    next id hid =>
      obtain ⟨other, form, hform, hother, hsource, hcompiles⟩ := hfaithful.compiled _ _ id hid
      have hskip := Draft.Surrounds.skip_eq hcoherent hother hsurrounds hsource
      have hsame := hcoherent hform hreaches rfl
      rw [hsame, hskip] at hcompiles
      exact keeps_pure id fun nodes hnodes ↦ hcompiles.mono hnodes
    next =>
      refine keeps_bind (keeps_faithful_lower hcoherent hsurrounds arena.nodes shape hreaches)
        fun id nodes _ hid ↦ ?_
      refine keeps_bind (keeps_faithful_compiled hreaches hsurrounds hid) fun _ later hlater _ ↦ ?_
      exact keeps_pure id fun last hlast ↦ hid.mono (hlater.trans hlast)

theorem keeps_faithful_lower (hcoherent : draft.Coherent) {around : Surrounding}
    (hsurrounds : draft.Surrounds around) (known : Array Node) {identity : Nat} :
    ∀ shape : Shape, draft.Reaches around.skip ⟨identity, shape⟩ →
      Keeps (Arena.Faithful draft) known (lower draft.ruleNames around identity shape)
        fun id nodes ↦ Expr.CompilesTo nodes draft.ruleNames around.skip ⟨identity, shape⟩ id
  | .empty, hreaches => by
    rw [lower]
    exact (keeps_faithful_push (.reaches hreaches) .empty .nil).imp fun _ _ hpost ↦ hpost.1
  | .textEnd, hreaches => by
    rw [lower]
    exact (keeps_faithful_push (.reaches hreaches) .textEnd .nil).imp fun _ _ hpost ↦ hpost.1
  | .terminal terminal, hreaches => by
    rw [lower]
    refine keeps_bind (keeps_lift _ fun node hnode _ _ ↦ hnode) fun node nodes _ hnode ↦ ?_
    exact (keeps_faithful_push (.reaches hreaches) (.terminal hnode) .nil).imp
      fun _ _ hpost ↦ hpost.1
  | .regex engine pattern, hreaches => by
    rw [lower]
    refine keeps_bind (keeps_lift _ fun node hnode _ _ ↦ hnode) fun node nodes _ hnode ↦ ?_
    exact (keeps_faithful_push (.reaches hreaches) (.regex hnode) .nil).imp fun _ _ hpost ↦ hpost.1
  | .sequence parts commit, hreaches => by
    rw [lower]
    refine keeps_bind (keeps_faithful_exprs hcoherent hsurrounds known parts fun part hpart ↦
      hreaches.child (List.mem_map_of_mem hpart)) fun ids nodes _ hids ↦ ?_
    refine (keeps_faithful_push (.reaches hreaches) (.sequence parts commit ids)
      (List.forall₂_map_left_iff.mpr hids)).imp fun _ _ hpost ↦ hpost.1
  | .choice alternatives, hreaches => by
    rw [lower]
    refine keeps_bind (keeps_faithful_exprs hcoherent hsurrounds known alternatives fun part hpart ↦
      hreaches.child (List.mem_map_of_mem hpart)) fun ids nodes _ hids ↦ ?_
    refine (keeps_faithful_push (.reaches hreaches) (.choice alternatives ids)
      (List.forall₂_map_left_iff.mpr hids)).imp fun _ _ hpost ↦ hpost.1
  | .optional child default, hreaches => by
    rw [lower]
    exact keeps_faithful_wrap hreaches (keeps_faithful_expr hcoherent hsurrounds known child
      (hreaches.child List.mem_cons_self)) rfl fun id ↦ .optional child default id
  | .repetition child least most, hreaches => by
    rw [lower]
    refine keeps_bind (keeps_checkBounds "repetition" least most) fun _ nodes _ hbounds ↦ ?_
    exact keeps_faithful_wrap hreaches (keeps_faithful_expr hcoherent hsurrounds nodes child
      (hreaches.child List.mem_cons_self)) rfl fun id ↦ .repetition child least most id hbounds
  | .delimited item separator form, hreaches => by
    rw [lower]
    refine keeps_bind (keeps_checkBounds "delimited list" form.least form.most)
      fun _ nodes _ hbounds ↦ ?_
    refine keeps_bind (keeps_faithful_expr hcoherent hsurrounds nodes item
      (hreaches.child List.mem_cons_self)) fun first later _ hfirst ↦ ?_
    refine keeps_bind (keeps_faithful_expr hcoherent hsurrounds later separator
      (hreaches.child (List.mem_cons_of_mem _ List.mem_cons_self))) fun second last hlast hsecond ↦
        ?_
    exact (keeps_faithful_push (.reaches hreaches)
      (.delimited item separator form first second hbounds)
      (.cons (hfirst.mono hlast) (.cons hsecond .nil))).imp fun _ _ hpost ↦ hpost.1
  | .lookahead child negative, hreaches => by
    rw [lower]
    exact keeps_faithful_wrap hreaches (keeps_faithful_expr hcoherent hsurrounds known child
      (hreaches.child List.mem_cons_self)) rfl fun id ↦ .lookahead child negative id
  | .suppress child, hreaches => by
    rw [lower]
    exact keeps_faithful_wrap hreaches (keeps_faithful_expr hcoherent hsurrounds known child
      (hreaches.child List.mem_cons_self)) rfl fun id ↦ .suppress child id
  | .group child, hreaches => by
    rw [lower]
    exact keeps_faithful_wrap hreaches (keeps_faithful_expr hcoherent hsurrounds known child
      (hreaches.child List.mem_cons_self)) rfl fun id ↦ .group child id
  | .combine child joiner, hreaches => by
    rw [lower]
    exact keeps_faithful_wrap hreaches (keeps_faithful_expr hcoherent .bare known child
      (hreaches.child List.mem_cons_self)) rfl fun id ↦ .combine child joiner id
  | .rule name, hreaches => by
    rw [lower]
    exact keeps_faithful_call (.reaches hreaches)
  | .named child name accumulate, hreaches => by
    rw [lower]
    exact keeps_faithful_wrap hreaches (keeps_faithful_expr hcoherent hsurrounds known child
      (hreaches.child List.mem_cons_self)) rfl fun id ↦ .named child name accumulate id
  | .action child actions, hreaches => by
    rw [lower]
    exact keeps_faithful_wrap hreaches (keeps_faithful_expr hcoherent hsurrounds known child
      (hreaches.child List.mem_cons_self)) rfl fun id ↦ .action child actions id
  | .labeled child label, hreaches => by
    rw [lower]
    exact keeps_faithful_wrap hreaches (keeps_faithful_expr hcoherent hsurrounds known child
      (hreaches.child List.mem_cons_self)) rfl fun id ↦ .labeled child label id
  | .blanks child set, hreaches => by
    rw [lower]
    have hskip := Surrounding.skip_override identity set
    have hchild : draft.Reaches (Surrounding.override identity set).skip child := by
      rw [hskip]
      exact hreaches.child List.mem_cons_self
    refine (keeps_faithful_expr hcoherent (.override hreaches) known child hchild).imp
      fun id nodes hid ↦ .blanks ?_
    rwa [hskip] at hid

/-- Expressions become what they should, in order. -/
theorem keeps_faithful_exprs (hcoherent : draft.Coherent) {around : Surrounding}
    (hsurrounds : draft.Surrounds around) (known : Array Node) :
    ∀ expressions : List Expr,
      (∀ expression ∈ expressions, draft.Reaches around.skip expression) →
      Keeps (Arena.Faithful draft) known (exprs draft.ruleNames around expressions) fun ids nodes ↦
        List.Forall₂ (fun expression id ↦
          Expr.CompilesTo nodes draft.ruleNames around.skip expression id) expressions ids
  | [], _ => by
    rw [exprs]
    exact keeps_pure [] fun _ _ ↦ .nil
  | first :: rest, hreaches => by
    rw [exprs]
    refine keeps_bind (keeps_faithful_expr hcoherent hsurrounds known first
      (hreaches first List.mem_cons_self)) fun id nodes _ hid ↦ ?_
    refine keeps_bind (keeps_faithful_exprs hcoherent hsurrounds nodes rest fun other hother ↦
      hreaches other (List.mem_cons_of_mem _ hother)) fun ids later hlater hids ↦ ?_
    refine keeps_pure (id :: ids) fun last hlast ↦ .cons (hid.mono (hlater.trans hlast)) ?_
    exact hids.imp fun _ _ hother ↦ hother.mono hlast

end

end Compile

namespace Compile

theorem keeps_faithful_compileEntry {draft : Draft} (hcoherent : draft.Coherent)
    (known : Array Node) :
    Keeps (Arena.Faithful draft) known draft.compileEntry fun entry nodes ↦
      Option.Rel (fun point id ↦ ∃ expr, EntryPoint.Means point expr ∧
        Expr.CompilesTo nodes draft.ruleNames draft.config.skip expr id) draft.entry entry := by
  have hskip := Surrounding.skip_standard draft.config
  unfold Draft.compileEntry
  split
  next hentry =>
    rw [hentry]
    exact keeps_pure none fun _ _ ↦ .none
  next name hentry =>
    rw [hentry]
    refine keeps_bind (keeps_faithful_call (.entry hentry (.rule name 0))) fun id nodes _ hid ↦ ?_
    exact keeps_pure (some id) fun last hlast ↦ .some ⟨_, .rule name 0, hid.mono hlast⟩
  next expr hentry =>
    rw [hentry]
    refine keeps_bind (keeps_faithful_expr hcoherent .standard known expr (hskip ▸ .entry hentry))
      fun id nodes _ hid ↦ ?_
    exact keeps_pure (some id) fun last hlast ↦ .some ⟨expr, .expr expr, hskip ▸ hid.mono hlast⟩

/-- Rule bodies and entry become what they should. -/
theorem keeps_faithful_compileAll {draft : Draft} (hcoherent : draft.Coherent)
    (known : Array Node) :
    Keeps (Arena.Faithful draft) known draft.compileAll fun compiled nodes ↦
      List.Forall₂ (fun body id ↦ Expr.CompilesTo nodes draft.ruleNames draft.config.skip body id)
        (draft.rules.map Prod.snd) compiled.1 ∧
      Option.Rel (fun point id ↦ ∃ expr, EntryPoint.Means point expr ∧
        Expr.CompilesTo nodes draft.ruleNames draft.config.skip expr id)
          draft.entry compiled.2 := by
  have hskip := Surrounding.skip_standard draft.config
  unfold Draft.compileAll
  refine keeps_bind (keeps_faithful_exprs hcoherent .standard known _ fun body hbody ↦
    hskip ▸ .body hbody) fun bodies nodes _ hbodies ↦ ?_
  refine keeps_bind (keeps_faithful_compileEntry hcoherent nodes) fun entry later hlater hentry ↦ ?_
  refine keeps_pure (bodies, entry) fun last hlast ↦ ⟨?_, ?_⟩
  · rw [hskip] at hbodies
    exact hbodies.imp fun _ _ hbody ↦ hbody.mono (hlater.trans hlast)
  · generalize draft.entry = point at hentry
    cases hentry with
    | none => exact .none
    | some hpoint =>
      obtain ⟨expr, hmeans, hexpr⟩ := hpoint
      exact .some ⟨expr, hmeans, hexpr.mono hlast⟩

end Compile

/-! ### Compiled drafts -/

/-- A grammar is what a draft becomes. -/
structure Draft.LowersTo (draft : Draft) (grammar : Grammar) : Prop where
  /-- Rules keep their names. -/
  ruleNames : grammar.ruleNames = draft.ruleNames
  /-- The configuration is kept. -/
  config : grammar.config = draft.config
  /-- Rule bodies become nodes with the default of the grammar skipped around them. -/
  bodies : List.Forall₂ (fun body id ↦
    Expr.CompilesTo grammar.nodes draft.ruleNames draft.config.skip body id)
    (draft.rules.map Prod.snd) grammar.ruleBodies
  /-- So does the entry, and a rule as an entry becomes a call. -/
  entry : Option.Rel (fun point id ↦ ∃ expr, EntryPoint.Means point expr ∧
    Expr.CompilesTo grammar.nodes draft.ruleNames draft.config.skip expr id)
    draft.entry grammar.entry
  /-- Every node stands for something. -/
  covered : ∀ id < grammar.nodeCount, ∃ skip expr, draft.Covers skip expr ∧
    Expr.CompilesTo grammar.nodes draft.ruleNames skip expr id

/-- Whatever the entry means became the entry of the grammar. -/
theorem Draft.LowersTo.exists_entry {draft : Draft} {grammar : Grammar}
    (hlowers : draft.LowersTo grammar) {point : EntryPoint} {expr : Expr}
    (hpoint : draft.entry = some point) (hmeans : point.Means expr) :
    ∃ id, grammar.entry = some id ∧
      Expr.CompilesTo grammar.nodes draft.ruleNames draft.config.skip expr id := by
  have hentry := hlowers.entry
  rw [hpoint] at hentry
  generalize grammar.entry = start at hentry ⊢
  cases hentry with
  | @some _ id hexpr =>
    obtain ⟨other, hother, hid⟩ := hexpr
    refine ⟨id, rfl, ?_⟩
    cases hmeans with
    | expr expr =>
      cases hother
      exact hid
    | rule name identity =>
      cases hother
      exact hid.of_rule

/-- A draft in which identities belong to single expressions becomes what it should. -/
theorem Draft.lowersTo_of_compile {draft : Draft} {grammar : Grammar} (hcoherent : draft.Coherent)
    (hcompile : draft.compile = .ok grammar) : draft.LowersTo grammar := by
  obtain ⟨bodies, entry, arena, hall, rfl⟩ := Draft.compile_eq_ok hcompile
  obtain ⟨hfaithful, -, hbodies, hentry⟩ := Compile.keeps_faithful_compileAll hcoherent #[] {}
    (Arena.faithful_empty draft) (.refl _) (bodies, entry) arena hall
  exact ⟨rfl, rfl, hbodies, hentry, hfaithful.covered⟩

end Packrat
