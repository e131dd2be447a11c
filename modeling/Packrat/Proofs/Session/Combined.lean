import Packrat.Proofs.Grammar.Entries
import Packrat.Proofs.Matching.Items
import Packrat.Proofs.Session.Verbatim

/-!
# Combined results

Inside an expression that is combined nothing is skipped, whatever is skipped around it. If it keeps
the text that it matches, its one token is the text between the place after the characters skipped
in front of it and the end of the match (`Draft.combined_after`). This goes through all ways of
combining expressions, but not through the use of a rule: the body of a rule is one thing for all
its uses, with the default of the grammar skipped in it. So the same is asked of the bodies of the
rules to which the expression refers (`Draft.Refers`), and that nothing is skipped in them; where
something is, the token may be another text (`Draft.combined_ne_slice_fused`).
-/

set_option autoImplicit false
set_option relaxedAutoImplicit false

namespace Packrat

/-! ### What an expression holds -/

/-- An expression holds another one, with the given characters skipped around this. -/
inductive Expr.Holds (skip : Option CharSet) (expr : Expr) : Option CharSet → Expr → Prop
  | self : Holds skip expr skip expr
  | child {around : Option CharSet} {outer : Expr} {child : Option CharSet × Expr}
    (hholds : Holds skip expr around outer) (hchild : child ∈ outer.shape.children around) :
    Holds skip expr child.1 child.2

/-- The bodies of the rules to which an expression refers, directly or through other rules. -/
inductive Draft.Refers (draft : Draft) (expr : Expr) : Expr → Prop
  | direct {around : Option CharSet} {identity : Nat} {name : String} {body : Expr}
    (hholds : expr.Holds none around ⟨identity, .rule name⟩) (hbody : (name, body) ∈ draft.rules) :
    Refers draft expr body
  | further {around : Option CharSet} {identity : Nat} {name : String} {outer body : Expr}
    (hrefers : Refers draft expr outer)
    (hholds : outer.Holds draft.config.skip around ⟨identity, .rule name⟩)
    (hbody : (name, body) ∈ draft.rules) : Refers draft expr body

/-- Whether a shape gives all text that it takes or that its children give and no other. -/
def Shape.keepsText : Shape → Bool
  | .empty => true
  | .textEnd => true
  | .terminal form => form.keepsText
  | .regex _ _ => true
  | .sequence _ _ => true
  | .choice _ => true
  | .optional _ default => default.isNone
  | .repetition _ _ _ => true
  | .delimited _ _ form => form.keepSeparators
  | .lookahead _ _ => true
  | .suppress _ => false
  | .group _ => true
  | .combine _ joiner => joiner = ""
  | .rule _ => true
  | .named _ _ _ => true
  | .action _ _ => false
  | .labeled _ _ => true
  | .blanks _ _ => true

/-- Whether a shape skips characters itself. -/
def Shape.looks : Shape → Bool
  | .textEnd => true
  | .terminal _ => true
  | .regex _ _ => true
  | .combine _ _ => true
  | .action _ _ => true
  | .labeled _ _ => true
  | _ => false

/-- Nothing is skipped in an expression that has the given characters skipped around it: overrides
inside see to that, if there are such characters. -/
def Expr.Bare (skip : Option CharSet) (expr : Expr) : Prop :=
  ∀ ⦃around : Option CharSet⦄ ⦃inner : Expr⦄, expr.Holds skip around inner →
  inner.shape.looks = true → around = none

namespace Expr

variable {skip around : Option CharSet} {expr outer : Expr}

/-- What is inside the overrides of an expression that is held is held as well. -/
theorem Holds.innermost : ∀ {around : Option CharSet} {outer : Expr}, expr.Holds skip around outer →
    expr.Holds skip (outer.innermost around).1 (outer.innermost around).2
  | around, ⟨identity, shape⟩, hholds => by
    cases shape with
    | blanks child set =>
      rw [Expr.innermost]
      exact innermost (hholds.child List.mem_cons_self)
    | _ => exact hholds

/-- What an expression has throughout is had by all that it holds. -/
theorem Holds.throughout {property : Shape → Prop} (hholds : expr.Holds skip around outer)
    (hexpr : expr.Throughout property) : outer.Throughout property := by
  induction hholds with
  | self => exact hexpr
  | child hholds hchild ih => exact ih.child _ hchild

/-- Where nothing is skipped around an expression without overrides, nothing is skipped around what
it holds. -/
theorem Holds.around_eq_none (hholds : expr.Holds none around outer)
    (hplain : expr.Throughout fun shape ↦ shape.isOverride = false) : around = none := by
  induction hholds with
  | self => rfl
  | child hholds hchild ih =>
    subst ih
    exact Shape.skip_of_mem_children (hholds.throughout hplain).shape hchild

/-- What an expression holds is the expression itself, or one of those of which it is made holds
it. -/
theorem Holds.eq_or_child (hholds : expr.Holds skip around outer) :
    (around = skip ∧ outer = expr) ∨ ∃ child ∈ expr.shape.children skip,
      child.2.Holds child.1 around outer := by
  induction hholds with
  | self => exact Or.inl ⟨rfl, rfl⟩
  | child hholds hchild ih =>
    rcases ih with ⟨rfl, rfl⟩ | ⟨first, hfirst, hinside⟩
    · exact Or.inr ⟨_, hchild, .self⟩
    · exact Or.inr ⟨first, hfirst, hinside.child hchild⟩

/-- An expression without blanks skips nothing, whatever is skipped around it. -/
theorem bare_withoutBlanks (hplain : expr.Throughout fun shape ↦ shape.isOverride = false)
    (identity : Nat) (skip : Option CharSet) :
    (⟨identity, .blanks expr none⟩ : Expr).Bare skip := by
  intro around inner hholds hlooks
  rcases hholds.eq_or_child with ⟨-, rfl⟩ | ⟨child, hchild, hinside⟩
  · cases hlooks
  · rw [List.mem_singleton.mp hchild] at hinside
    exact hinside.around_eq_none hplain

end Expr

/-- A shape that keeps the text becomes a node that does. -/
theorem Shape.Lowers.keepsText {names : List String} {skip : Option CharSet}
    {shape : Shape} {ids : List NodeId} {node : Node} (hlowers : shape.Lowers names skip ids node)
    (hkeeps : shape.keepsText = true) :
    node.keepsText = true := by
  cases hlowers with
  | terminal hnode =>
    rcases Compile.terminalNode_cases hnode with rfl | rfl
    · rfl
    · exact hkeeps
  | regex hnode =>
    obtain ⟨program, rfl⟩ := Compile.regexNode_cases hnode
    rfl
  | _ => exact hkeeps

/-- The node of a shape skips nothing if the shape does not look for anything in the text itself. -/
theorem Shape.Lowers.skips_of_not_looks {names : List String} {skip : Option CharSet}
    {shape : Shape} {ids : List NodeId} {node : Node} (hlowers : shape.Lowers names skip ids node)
    (hlooks : shape.looks = false) :
    node.skips = none := by
  cases hlowers <;> first | rfl | exact nomatch hlooks

namespace Draft

variable {draft : Draft} {grammar : Grammar} {expr inner : Expr} {around : Option CharSet}
  {id other next : NodeId}

/-- An expression around which nothing is skipped involves another one: it holds it, or the body of
a rule does to which it refers. -/
inductive Involves (draft : Draft) (expr : Expr) (around : Option CharSet) (inner : Expr) : Prop
  | own (hholds : expr.Holds none around inner)
  | body {body : Expr} (hrefers : draft.Refers expr body)
      (hholds : body.Holds draft.config.skip around inner)

/-- What is inside the overrides of an expression that is involved is involved. -/
theorem Involves.innermost (hinvolves : draft.Involves expr around inner) :
    draft.Involves expr (inner.innermost around).1 (inner.innermost around).2 := by
  cases hinvolves with
  | own hholds => exact .own hholds.innermost
  | body hrefers hholds => exact .body hrefers hholds.innermost

/-- What an expression that is involved is made of is involved. -/
theorem Involves.child (hinvolves : draft.Involves expr around inner)
    {child : Option CharSet × Expr} (hchild : child ∈ inner.shape.children around) :
    draft.Involves expr child.1 child.2 := by
  cases hinvolves with
  | own hholds => exact .own (hholds.child hchild)
  | body hrefers hholds => exact .body hrefers (hholds.child hchild)

/-- An expression refers to the bodies of the rules that it involves. -/
theorem Involves.refers {identity : Nat} {name : String} {body : Expr}
    (hinvolves : draft.Involves expr around ⟨identity, .rule name⟩)
    (hbody : (name, body) ∈ draft.rules) :
    draft.Refers expr body := by
  cases hinvolves with
  | own hholds => exact .direct hholds hbody
  | body hrefers hholds => exact .further hrefers hholds hbody

/-- What the node of an expression that is involved uses is the node of one that is. -/
theorem Involves.exists_of_uses (hlowers : draft.LowersTo grammar)
    (hinvolves : draft.Involves expr around inner)
    (hid : inner.CompilesTo grammar.nodes draft.ruleNames around id)
    (huses : grammar.Uses id next) :
    ∃ around inner, draft.Involves expr around inner ∧
      inner.CompilesTo grammar.nodes draft.ruleNames around next := by
  have hinnermost := hinvolves.innermost
  obtain ⟨node, ids, hfound, hshape, hchildren⟩ := hid.lowers
  have hnode : grammar.node id = node := by rw [Grammar.node, hfound, Option.getD_some]
  generalize inner.innermost around = innermost at hinnermost hshape hchildren
  obtain ⟨around, ⟨identity, shape⟩⟩ := innermost
  by_cases hrule : ∃ name, shape = .rule name
  · obtain ⟨name, rfl⟩ := hrule
    cases hshape with
    | rule hnumber =>
      cases huses with
      | child hchild =>
        rw [hnode] at hchild
        exact absurd hchild List.not_mem_nil
      | body hcall =>
        obtain rfl := Node.call.inj (hnode.symm.trans hcall)
        obtain ⟨body, start, hbody, -, rfl, hstart⟩ := hlowers.exists_body hnumber
        exact ⟨_, body, .body (hinnermost.refers (mem_rules_of_body? hbody)) .self, hstart⟩
  · obtain ⟨hids, hcall⟩ := hshape.children_eq fun name hsame ↦ hrule ⟨name, hsame⟩
    cases huses with
    | child hchild =>
      rw [hnode, hids] at hchild
      obtain ⟨origin, hpair⟩ := exists_mem_zip_right hchildren.length_eq hchild
      exact ⟨origin.1, origin.2, hinnermost.child (List.of_mem_zip hpair).1,
        (List.forall₂_iff_zip.mp hchildren).2 hpair⟩
    | body hbody =>
      rw [← hnode, hbody] at hcall
      cases hcall

/-- All that the node of an expression uses, directly or through others, are nodes of expressions
that it involves. -/
theorem exists_involves_of_uses (hlowers : draft.LowersTo grammar)
    (hid : expr.CompilesTo grammar.nodes draft.ruleNames none id)
    (huses : Relation.ReflTransGen grammar.Uses id other) :
    ∃ around inner, draft.Involves expr around inner ∧
      inner.CompilesTo grammar.nodes draft.ruleNames around other := by
  induction huses with
  | refl => exact ⟨none, expr, .own .self, hid⟩
  | tail _ hstep ih =>
    obtain ⟨around, inner, hinvolves, hinner⟩ := ih
    exact hinvolves.exists_of_uses hlowers hinner hstep

/-- An expression around which nothing is skipped is tight: it keeps the text without overrides, and
the bodies of the rules to which it refers keep it as well and skip nothing. -/
structure Tight (draft : Draft) (expr : Expr) : Prop where
  /-- It keeps the text. -/
  keeps : expr.Throughout fun shape ↦ shape.keepsText = true
  /-- It has no overrides. -/
  plain : expr.Throughout fun shape ↦ shape.isOverride = false
  /-- Rules keep the text. -/
  rules : ∀ body, draft.Refers expr body → body.Throughout fun shape ↦ shape.keepsText = true
  /-- Nothing is skipped in rules. -/
  bare : ∀ body, draft.Refers expr body → body.Bare draft.config.skip

/-- All that a tight expression involves keeps the text. -/
theorem Tight.keepsText (htight : draft.Tight expr) (hinvolves : draft.Involves expr around inner) :
    inner.shape.keepsText = true := by
  cases hinvolves with
  | own hholds => exact (hholds.throughout htight.keeps).shape
  | body hrefers hholds => exact (hholds.throughout (htight.rules _ hrefers)).shape

/-- Nothing is skipped where what a tight expression involves looks at the text. -/
theorem Tight.around_eq_none (htight : draft.Tight expr)
    (hinvolves : draft.Involves expr around inner) (hlooks : inner.shape.looks = true) :
    around = none := by
  cases hinvolves with
  | own hholds => exact hholds.around_eq_none htight.plain
  | body hrefers hholds => exact htight.bare _ hrefers hholds hlooks

/-- A tight expression around which nothing is skipped becomes a tight node. -/
theorem Tight.node (htight : draft.Tight expr) (hlowers : draft.LowersTo grammar)
    (hid : expr.CompilesTo grammar.nodes draft.ruleNames none id) : grammar.Tight id := by
  have hnodes (other : NodeId) (huses : Relation.ReflTransGen grammar.Uses id other) :
      (grammar.node other).keepsText = true ∧ (grammar.node other).skips = none := by
    obtain ⟨around, inner, hinvolves, hother⟩ := exists_involves_of_uses hlowers hid huses
    obtain ⟨node, ids, hfound, hshape, -⟩ := hother.lowers
    rw [Grammar.node, hfound, Option.getD_some]
    refine ⟨hshape.keepsText (htight.keepsText hinvolves.innermost), ?_⟩
    cases hlooks : (inner.innermost around).2.shape.looks with
    | false => exact hshape.skips_of_not_looks hlooks
    | true =>
      rw [htight.around_eq_none hinvolves.innermost hlooks] at hshape
      exact hshape.skips
  exact ⟨fun other huses ↦ (hnodes other huses).1, fun other huses ↦ (hnodes other huses).2⟩

/-- Inside what is combined nothing is skipped. In the grammar of a draft, with whatever is skipped
by default, the match of a tight expression that is combined, whatever was asked of the session
before, ends ahead of the place after the characters that are skipped in front of it, and its
results are one token, the text in between. -/
theorem combined_after (hcoherent : draft.Coherent) (hbuild : draft.build = .ok grammar)
    (htight : draft.Tight expr) {identity : Nat} {skip : Option CharSet}
    (hid : (⟨identity, .combine expr ""⟩ : Expr).CompilesTo grammar.nodes grammar.ruleNames skip id)
    {text : Text} (history : List Request) {room offset : Nat} (hoffset : text.IsBoundary offset)
    {found : Match} (hfound : (grammar.evaluate text room id offset
      ((Session.start grammar text).after history).state).1 = .ok found) :
    text.Ahead (skipFrom skip text offset) found.stop ∧
      found.results = .ofToken (Terminal.stringToken
        (text.slice (skipFrom skip text offset) found.stop)) := by
  have hlowers := lowersTo_of_compile hcoherent (build_eq_ok_iff.mp hbuild).1
  have hending := Grammar.ending_of_session (hfound ▸ not_isLimited_ok found)
  rw [hlowers.ruleNames] at hid
  obtain ⟨node, ids, hnode, hshape, hchildren⟩ := hid.lowers
  have hfound' : grammar.node id = node := by rw [Grammar.node, hnode, Option.getD_some]
  cases hshape with
  | combine _ _ inner =>
    have hinner := (List.forall₂_cons.mp hchildren).1
    rw [hfound, Ending.ofOutcome_ok, Grammar.ending_eq, hfound'] at hending
    obtain ⟨middle, hmiddle, hlast⟩ := Ending.exists_of_bind_eq_ended hending
    obtain rfl := Ending.ended.inj hlast
    have hstart := (hoffset.ahead_skipFrom skip).boundary
    obtain ⟨hahead, hjoined⟩ := Grammar.fulfils_of_ending (grammar.maintains_tight text)
      hstart hmiddle
    refine ⟨hahead, ?_⟩
    rw [← hjoined (htight.node hlowers hinner)]
    rfl

end Draft

/-! ### Letters that are fused -/

/-- Two letters that are a rule and are combined. The rule may see to it that there are no blanks
between them. -/
def Draft.fused (tight : Bool) : Build Draft := do
  let letters ← (← Expr.literal "a").andThen (← Expr.literal "b")
  let body ← (if tight then letters.withoutBlanks else pure letters : Build Expr)
  let pair ← Expr.rule "pair"
  pure { rules := [("pair", body)], entry := some (.expr (← pair.combine)) }

def Grammar.fused (tight : Bool) : Grammar where
  nodes :=
    let skip := if tight then none else some CharSet.blanks
    #[.terminal (.literal "a" false) skip "Expected \"a\"",
      .terminal (.literal "b" false) skip "Expected \"b\"", .sequence [0, 1] none, .call 0,
      .combine 3 "" (some .blanks)]
  ruleNames := ["pair"]
  ruleBodies := [2]
  entry := some 4
  config := {}

namespace Draft

/-- Letters that are fused are drawn from a supply. -/
theorem coherent_fused (tight : Bool) (next : Nat) : (fused tight next).1.Coherent := by
  have hdraws : Build.Draws (fun _ ↦ False) (fused tight) Drawn := by
    refine Build.draws_bind (Build.draws_leaf fun _ ↦ rfl) fun first one _ hfirst ↦ ?_
    refine Build.draws_bind (Build.draws_leaf fun _ ↦ rfl) fun second two htwo hsecond ↦ ?_
    refine Build.draws_bind (Build.draws_andThen (htwo _ hfirst) hsecond)
      fun letters three _ hletters ↦ ?_
    have hbody : Build.Draws three (if tight then letters.withoutBlanks else pure letters)
        fun body known ↦
        known body := by
      cases tight with
      | true => exact Build.draws_around (fun _ ↦ rfl) hletters
      | false => exact Build.draws_pure _ hletters
    refine Build.draws_bind hbody fun body four _ hbody ↦ ?_
    refine Build.draws_bind (Build.draws_leaf fun _ ↦ rfl) fun pair five hfive hpair ↦ ?_
    refine Build.draws_bind (Build.draws_around (fun _ ↦ rfl) hpair) fun whole drawn hdrawn hwhole ↦
      Build.draws_pure _ ⟨fun own hown ↦ ?_, fun entry hentry ↦ ?_⟩
    · exact List.mem_singleton.mp hown ▸ hdrawn _ (hfive _ hbody)
    · obtain rfl := EntryPoint.expr.inj (Option.some.inj hentry)
      exact hwhole
  exact hdraws.coherent next

theorem build_fused_tight : (fused true 0).1.build = .ok (Grammar.fused true) := by
  cbv

theorem build_fused_loose : (fused false 0).1.build = .ok (Grammar.fused false) := by
  cbv

/-- The letters of the rule, between which there may be blanks. -/
def looseLetters : Expr :=
  ⟨2, .sequence [⟨0, .terminal (.literal "a" false)⟩, ⟨1, .terminal (.literal "b" false)⟩] none⟩

theorem keepsText_looseLetters : looseLetters.Throughout fun shape ↦ shape.keepsText = true := by
  simp [looseLetters, Expr.throughout_iff, Shape.children, Shape.keepsText, Terminal.keepsText]

theorem isPlain_looseLetters : looseLetters.Throughout fun shape ↦ shape.isOverride = false := by
  simp [looseLetters, Expr.throughout_iff, Shape.children, Shape.isOverride]

/-- The use of the rule refers to the letters without blanks alone. -/
theorem eq_of_refers_fused {body : Expr}
    (hrefers : (fused true 0).1.Refers ⟨4, .rule "pair"⟩ body) :
    body = ⟨3, .blanks looseLetters none⟩ := by
  cases hrefers with
  | direct _ hbody => exact (Prod.mk.inj (List.mem_singleton.mp hbody)).2
  | further _ _ hbody => exact (Prod.mk.inj (List.mem_singleton.mp hbody)).2

/-- Letters without blanks between them are tight. -/
theorem tight_fused : (fused true 0).1.Tight ⟨4, .rule "pair"⟩ where
  keeps := by simp [Expr.throughout_iff, Shape.children, Shape.keepsText]
  plain := by simp [Expr.throughout_iff, Shape.children, Shape.isOverride]
  rules body hrefers := by
    rw [eq_of_refers_fused hrefers, Expr.throughout_iff]
    refine ⟨rfl, fun child hchild ↦ ?_⟩
    rw [List.mem_singleton.mp hchild]
    exact keepsText_looseLetters
  bare body hrefers := by
    rw [eq_of_refers_fused hrefers]
    exact Expr.bare_withoutBlanks isPlain_looseLetters 3 _

/-- Letters without blanks between them are one token, after the blank in front of them. -/
theorem combined_after_fused :
    let grammar := Grammar.fused true
    let text := Text.ofChars [' ', 'a', 'b']
    ∃ identity skip id found, (fused true 0).1.Coherent ∧ (fused true 0).1.build = .ok grammar ∧
      (fused true 0).1.Tight ⟨4, .rule "pair"⟩ ∧
      (⟨identity, .combine ⟨4, .rule "pair"⟩ ""⟩ : Expr).CompilesTo grammar.nodes
      grammar.ruleNames skip id ∧ text.IsBoundary 0 ∧ skipFrom skip text 0 = 1 ∧
      (grammar.evaluate text 10 id 0 ((Session.start grammar text).after [.parse true]).state).1 =
      .ok found ∧ found.stop = 3 ∧ text.Ahead 1 found.stop ∧
      found.results = .ofToken (Terminal.stringToken (text.slice 1 found.stop)) := by
  intro grammar text
  have hlowers := lowersTo_of_compile (coherent_fused true 0)
    (build_eq_ok_iff.mp build_fused_tight).1
  obtain ⟨id, hentry, hid⟩ := hlowers.exists_entry rfl (.expr ⟨5, .combine ⟨4, .rule "pair"⟩ ""⟩)
  obtain rfl := Option.some.inj hentry
  rw [← hlowers.ruleNames] at hid
  have hfound :
      (grammar.evaluate text 10 4 0 ((Session.start grammar text).after [.parse true]).state).1 =
      .ok ⟨3, .ofToken (.str "ab")⟩ :=
    Grammar.evaluate_after_of_trace (by cbv) (not_isLimited_ok _) _
  have hskip : skipFrom (fused true 0).1.config.skip text 0 = 1 := by cbv
  have hcombined := combined_after (coherent_fused true 0) build_fused_tight
    tight_fused hid [.parse true] text.isBoundary_zero hfound
  rw [hskip] at hcombined
  exact ⟨5, _, 4, _, coherent_fused true 0, build_fused_tight, tight_fused, hid,
    text.isBoundary_zero, hskip, hfound,
    rfl, hcombined⟩

/-- The use of a rule leaves what is combined: letters that the rule stands for are found with a
blank between them, and their token is not the text. -/
theorem combined_ne_slice_fused :
    let grammar := Grammar.fused false
    let text := Text.ofChars ['a', ' ', 'b']
    (fused false 0).1.Coherent ∧ (fused false 0).1.build = .ok grammar ∧
      (fused false 0).1.rules = [("pair", looseLetters)] ∧
      (looseLetters.Throughout fun shape ↦ shape.keepsText = true) ∧
      ∃ identity skip id found,
        (⟨identity, .combine ⟨3, .rule "pair"⟩ ""⟩ : Expr).CompilesTo grammar.nodes
        grammar.ruleNames skip id ∧ text.IsBoundary 0 ∧
        (grammar.evaluate text 10 id 0 (Session.start grammar text).state).1 = .ok found ∧
        found.stop = 3 ∧ found.results = .ofToken (.str "ab") ∧
        found.results ≠ .ofToken (Terminal.stringToken
          (text.slice (skipFrom skip text 0) found.stop)) := by
  intro grammar text
  have hlowers := lowersTo_of_compile (coherent_fused false 0)
    (build_eq_ok_iff.mp build_fused_loose).1
  obtain ⟨id, hentry, hid⟩ := hlowers.exists_entry rfl (.expr ⟨4, .combine ⟨3, .rule "pair"⟩ ""⟩)
  obtain rfl := Option.some.inj hentry
  rw [← hlowers.ruleNames] at hid
  have hfound : (grammar.evaluate text 10 4 0 (Session.start grammar text).state).1 =
      .ok ⟨3, .ofToken (.str "ab")⟩ :=
    Grammar.evaluate_after_of_trace (by cbv) (not_isLimited_ok _) []
  refine ⟨coherent_fused false 0, build_fused_loose, rfl, keepsText_looseLetters, 4, _, 4, _, hid,
    text.isBoundary_zero, hfound, rfl, rfl, fun hsame ↦ ?_⟩
  have htoken : Token.str "ab" = .str "a b" :=
    (List.cons.inj (congrArg Results.tokens hsame)).1.trans (by cbv)
  exact absurd (Token.str.inj htoken) (by decide)

end Draft

end Packrat
