import Packrat.Proofs.Grammar.Compiling

/-!
# Copies of drafts

A copy of a draft differs from it in identities alone: what was one expression may have become
several that look alike, or the other way round. `Draft.anonymous` is what all copies have in
common. The grammar of a draft is also what this has become (`Draft.LowersTo.anonymous`), and
nothing is wrong with an expression if nothing is wrong with it anonymously
(`Expr.Sound.of_anonymous`).
-/

set_option autoImplicit false
set_option relaxedAutoImplicit false

namespace Packrat

/-! ### Expressions without identities -/

mutual

/-- An expression with all identities made equal. -/
def Expr.anonymous : Expr → Expr
  | ⟨_, shape⟩ => ⟨0, shape.anonymous⟩

/-- A shape with all identities made equal. -/
def Shape.anonymous : Shape → Shape
  | .empty => .empty
  | .textEnd => .textEnd
  | .terminal form => .terminal form
  | .regex engine pattern => .regex engine pattern
  | .sequence parts commit => .sequence (Expr.anonymousAll parts) commit
  | .choice alternatives => .choice (Expr.anonymousAll alternatives)
  | .optional child default => .optional child.anonymous default
  | .repetition child least most => .repetition child.anonymous least most
  | .delimited item separator form => .delimited item.anonymous separator.anonymous form
  | .lookahead child negative => .lookahead child.anonymous negative
  | .suppress child => .suppress child.anonymous
  | .group child => .group child.anonymous
  | .combine child joiner => .combine child.anonymous joiner
  | .rule name => .rule name
  | .named child name accumulate => .named child.anonymous name accumulate
  | .action child actions => .action child.anonymous actions
  | .labeled child label => .labeled child.anonymous label
  | .blanks child set => .blanks child.anonymous set

/-- Expressions with all identities made equal. -/
def Expr.anonymousAll : List Expr → List Expr
  | [] => []
  | first :: rest => first.anonymous :: Expr.anonymousAll rest

end

/-- An entry with all identities made equal. -/
def EntryPoint.anonymous : EntryPoint → EntryPoint
  | .rule name => .rule name
  | .expr body => .expr body.anonymous

def Draft.anonymous (draft : Draft) : Draft where
  rules := draft.rules.map fun rule ↦ (rule.1, rule.2.anonymous)
  entry := draft.entry.map EntryPoint.anonymous
  config := draft.config

@[simp] theorem Expr.shape_anonymous (expr : Expr) :
    expr.anonymous.shape = expr.shape.anonymous := by
  cases expr
  rfl

theorem Expr.anonymousAll_eq_map (expressions : List Expr) :
    anonymousAll expressions = expressions.map anonymous := by
  induction expressions with
  | nil => rfl
  | cons first rest ih => rw [anonymousAll, ih, List.map_cons]

mutual

@[simp] theorem Expr.display_anonymous : ∀ expr : Expr, expr.anonymous.display = expr.display
  | ⟨_, shape⟩ => by
    rw [Expr.anonymous, Expr.display, Expr.display]
    exact Shape.display_anonymous shape

@[simp] theorem Shape.display_anonymous : ∀ shape : Shape, shape.anonymous.display = shape.display
  | .sequence parts commit => by
    simp only [Shape.anonymous, Shape.display, displayParts_anonymousAll parts]
  | .choice alternatives => by
    simp only [Shape.anonymous, Shape.display, displayAll_anonymousAll alternatives]
  | .optional child _ => by simp only [Shape.anonymous, Shape.display, child.display_anonymous]
  | .repetition child least most => by
    cases most with
    | none =>
      match least with
      | 0 | 1 | least + 2 => simp only [Shape.anonymous, Shape.display, child.display_anonymous]
    | some most => simp only [Shape.anonymous, Shape.display, child.display_anonymous]
  | .delimited item separator _ => by
    simp only [Shape.anonymous, Shape.display, item.display_anonymous, separator.display_anonymous]
  | .lookahead child _ => by simp only [Shape.anonymous, Shape.display, child.display_anonymous]
  | .suppress child => by simp only [Shape.anonymous, Shape.display, child.display_anonymous]
  | .group child => by simp only [Shape.anonymous, Shape.display, child.display_anonymous]
  | .combine child _ => by simp only [Shape.anonymous, Shape.display, child.display_anonymous]
  | .named child _ _ => by simp only [Shape.anonymous, Shape.display, child.display_anonymous]
  | .action child _ => by simp only [Shape.anonymous, Shape.display, child.display_anonymous]
  | .blanks child _ => by simp only [Shape.anonymous, Shape.display, child.display_anonymous]
  | .labeled _ _ => rfl
  | .empty => rfl
  | .textEnd => rfl
  | .terminal _ => rfl
  | .regex _ _ => rfl
  | .rule _ => rfl

/-- Identities do not show in parts of sequences. -/
theorem displayParts_anonymousAll : ∀ (parts : List Expr) (commit : Option Nat) (index : Nat),
    displayParts commit index (Expr.anonymousAll parts) = displayParts commit index parts
  | [], _, _ => rfl
  | part :: rest, commit, index => by
    simp only [Expr.anonymousAll, displayParts, part.display_anonymous,
      displayParts_anonymousAll rest]

/-- Identities do not show in lists of expressions. -/
theorem displayAll_anonymousAll : ∀ expressions : List Expr,
    displayAll (Expr.anonymousAll expressions) = displayAll expressions
  | [] => rfl
  | first :: rest => by
    simp only [Expr.anonymousAll, displayAll, first.display_anonymous, displayAll_anonymousAll rest]

end

/-! ### Grammars of drafts without identities -/

theorem Shape.children_anonymous (shape : Shape) (skip : Option CharSet) :
    shape.anonymous.children skip =
      (shape.children skip).map fun child ↦ (child.1, child.2.anonymous) := by
  cases shape with
  | sequence parts commit =>
    simp [Shape.anonymous, children, Expr.anonymousAll_eq_map, Function.comp_def]
  | choice alternatives =>
    simp [Shape.anonymous, children, Expr.anonymousAll_eq_map, Function.comp_def]
  | _ => rfl

/-- An anonymous shape becomes the node that the shape becomes. -/
theorem Shape.Lowers.anonymous {names : List String} {skip : Option CharSet} {shape : Shape}
    {ids : List NodeId} {node : Node} (hlowers : shape.Lowers names skip ids node) :
    shape.anonymous.Lowers names skip ids node := by
  cases hlowers with
  | empty => exact .empty
  | textEnd => exact .textEnd
  | terminal hnode => exact .terminal hnode
  | regex hnode => exact .regex hnode
  | sequence parts commit ids => exact .sequence _ commit ids
  | choice alternatives ids => exact .choice _ ids
  | optional child default id => exact .optional _ default id
  | repetition child least most id hbounds =>
    rw [← (Shape.repetition child least most).display_anonymous]
    exact .repetition _ least most id hbounds
  | delimited item separator form first second hbounds =>
    rw [← (Shape.delimited item separator form).display_anonymous]
    exact .delimited _ _ form first second hbounds
  | lookahead child negative id =>
    rw [← child.display_anonymous]
    exact .lookahead _ negative id
  | suppress child id => exact .suppress _ id
  | group child id => exact .group _ id
  | combine child joiner id => exact .combine _ joiner id
  | rule hrule => exact .rule hrule
  | named child name accumulate id => exact .named _ name accumulate id
  | action child actions id => exact .action _ actions id
  | labeled child label id => exact .labeled _ label id

/-- An anonymous expression becomes what the expression becomes. -/
theorem Expr.CompilesTo.anonymous {nodes : Array Node} {names : List String} {skip : Option CharSet}
    {expr : Expr} {id : NodeId} (hcompiles : CompilesTo nodes names skip expr id) :
    CompilesTo nodes names skip expr.anonymous id := by
  induction hcompiles with
  | @node skip identity shape id node ids hnode hlowers hlength hchildren ih =>
    refine .node hnode hlowers.anonymous ?_ fun child inner hmem ↦ ?_
    · rw [shape.children_anonymous, List.length_map, hlength]
    · rw [shape.children_anonymous, List.zip_map_left] at hmem
      obtain ⟨⟨original, other⟩, horiginal, hsame⟩ := List.mem_map.mp hmem
      obtain ⟨rfl, rfl⟩ := Prod.mk.inj hsame
      exact ih original other horiginal
  | blanks _ ih => exact .blanks ih

namespace Draft

variable {draft : Draft} {grammar : Grammar} {skip : Option CharSet} {expr : Expr}

@[simp] theorem ruleNames_anonymous (draft : Draft) :
    draft.anonymous.ruleNames = draft.ruleNames := by
  simp [ruleNames, anonymous, Function.comp_def]

theorem bodies_anonymous (draft : Draft) : draft.anonymous.rules.map Prod.snd =
    (draft.rules.map Prod.snd).map Expr.anonymous := by
  simp [anonymous, Function.comp_def]

/-- What occurs in a draft occurs anonymously in the anonymous draft. -/
theorem Reaches.anonymous (hreaches : draft.Reaches skip expr) :
    draft.anonymous.Reaches skip expr.anonymous := by
  induction hreaches with
  | body hbody =>
    refine .body ?_
    rw [bodies_anonymous]
    exact List.mem_map_of_mem hbody
  | @entry expr hentry =>
    refine .entry ?_
    rw [Draft.anonymous, hentry]
    rfl
  | @child skip expr child _ hchild ih =>
    refine @Reaches.child _ _ _ (child.1, child.2.anonymous) ih ?_
    rw [expr.shape_anonymous, expr.shape.children_anonymous]
    exact List.mem_map.mpr ⟨child, hchild, rfl⟩

/-- What the nodes of a grammar stand for, they stand for anonymously. -/
theorem Covers.anonymous (hcovers : draft.Covers skip expr) :
    draft.anonymous.Covers skip expr.anonymous := by
  cases hcovers with
  | reaches hreaches => exact .reaches hreaches.anonymous
  | @entry point expr hentry hmeans =>
    have hpoint : draft.anonymous.entry = some point.anonymous := by
      rw [Draft.anonymous, hentry]
      rfl
    refine Covers.entry hpoint ?_
    cases hmeans with
    | expr expr => exact .expr _
    | rule name identity => exact .rule name 0

/-- The grammar of a draft is what the anonymous draft has become. -/
theorem LowersTo.anonymous (hlowers : draft.LowersTo grammar) :
    draft.anonymous.LowersTo grammar where
  ruleNames := hlowers.ruleNames.trans draft.ruleNames_anonymous.symm
  config := hlowers.config
  bodies := by
    rw [ruleNames_anonymous, bodies_anonymous, List.forall₂_map_left_iff]
    exact hlowers.bodies.imp fun _ _ hbody ↦ hbody.anonymous
  entry := by
    have hentry := hlowers.entry
    rw [ruleNames_anonymous]
    change Option.Rel _ (draft.entry.map EntryPoint.anonymous) grammar.entry
    generalize draft.entry = start, grammar.entry = id at hentry ⊢
    cases hentry with
    | none => exact .none
    | some hpoint =>
      obtain ⟨expr, hmeans, hexpr⟩ := hpoint
      refine .some ⟨expr.anonymous, ?_, hexpr.anonymous⟩
      cases hmeans with
      | expr expr => exact .expr _
      | rule name identity => exact .rule name 0
  covered := fun id hid ↦ by
    obtain ⟨skip, expr, hcovers, hexpr⟩ := hlowers.covered id hid
    rw [ruleNames_anonymous]
    exact ⟨skip, expr.anonymous, hcovers.anonymous, hexpr.anonymous⟩

end Draft

/-! ### Soundness -/

/-- Nothing is wrong with a shape if nothing is wrong with it anonymously. -/
theorem Shape.IsSound.of_anonymous {names : List String} {shape : Shape}
    (hsound : shape.anonymous.IsSound names) : shape.IsSound names := by
  cases shape with
  | _ => exact hsound

/-- Nothing is wrong with an expression if nothing is wrong with it anonymously. -/
theorem Expr.Sound.of_anonymous {names : List String} {expr : Expr}
    (hsound : expr.anonymous.Sound names) : expr.Sound names := by
  generalize hsame : expr.anonymous = copy at hsound
  induction hsound generalizing expr with
  | @mk _ shape hshape _ ih =>
    obtain ⟨identity, original⟩ := expr
    obtain ⟨-, rfl⟩ := Expr.mk.inj hsame
    refine .mk hshape.of_anonymous fun child hchild ↦ ?_
    refine ih (child.1, child.2.anonymous) ?_ rfl
    rw [original.children_anonymous]
    exact List.mem_map_of_mem hchild

end Packrat
