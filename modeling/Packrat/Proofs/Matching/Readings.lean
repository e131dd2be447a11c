import Packrat.Proofs.Grammar.Orders
import Packrat.Proofs.Matching.Accounts

/-!
# Nodes and readings

A node evaluates as the expression reads that became the node (`Draft.LowersTo.account_eq_reading`):
it ends alike and records the same failures. The case of a single shape is
`Shape.Lowers.matcher_eq`; the rest is an induction on the room, which compiled evaluation and
reading spend alike.
-/

set_option autoImplicit false
set_option relaxedAutoImplicit false

namespace Packrat

open MatchMonad

/-! ### One shape -/

section

variable {m : Type → Type} [MatchMonad m]
  (hinvoke : ∀ first second : Invocation, first.application = second.application →
    (invoke first : m Unit) = invoke second)

include hinvoke

/-- Where actions stand makes no difference where runs are not told apart by their places. -/
theorem runActions_eq (node other offset : Nat) (context : Context) (actions : List Action) :
    ∀ (index place : Nat) (results : Results),
      (Matcher.runActions node offset context index actions results : m Results) =
        Matcher.runActions other offset context place actions results := by
  induction actions with
  | nil => exact fun _ _ _ ↦ rfl
  | cons action rest ih =>
    intro index place results
    have hrun := hinvoke ⟨node, index, offset, action, context, results⟩
      ⟨other, place, offset, action, context, results⟩ rfl
    simp only [Matcher.runActions, hrun, ih (index + 1) (place + 1)]

/-- Which node has actions makes no difference where runs are not told apart by their places. -/
theorem acting_eq (text : Text) (skip : Option CharSet) (node other : Nat) (actions : List Action)
    (child : Matcher m) :
    Matcher.acting text skip node actions child = Matcher.acting text skip other actions child := by
  funext offset
  have hruns (context : Context) := runActions_eq hinvoke node other offset context actions 0 0
  simp only [Matcher.acting, hruns]

/-- The node of a shape evaluates as the shape reads, if its children evaluate as the children of
the shape read, and rules as their bodies, where runs of actions are not told apart by their
places. -/
theorem Shape.Lowers.matcher_eq {names : List String} {skip : Option CharSet} {shape : Shape}
    {ids : List NodeId} {node : Node} (hlowers : shape.Lowers names skip ids node)
    {grammar : Grammar} (text : Text) {call : NodeId → Matcher m}
    {read : Option CharSet → Expr → Matcher m} {rule : String → Matcher m}
    (hchildren : List.Forall₂ (fun child inner ↦ read child.1 child.2 = call inner)
      (shape.children skip) ids)
    (hrule : ∀ name number, names.idxOf? name = some number →
      rule name = call (grammar.ruleBody number)) (id identity : Nat) :
    node.matcher grammar text call id = shape.matcher text read rule skip identity := by
  cases hlowers with
  | empty => rfl
  | textEnd => rfl
  | @terminal terminal node hnode =>
    rw [Shape.matcher]
    unfold Compile.terminalNode at hnode
    split at hnode
    next hempty =>
      have hempty : terminal.IsEmptyLiteral := hempty
      cases hnode
      rw [if_pos hempty]
      rfl
    next hproper =>
      split at hnode
      · cases hnode
      · have hproper : ¬ terminal.IsEmptyLiteral := hproper
        cases hnode
        rw [if_neg hproper]
        rfl
  | @regex engine pattern node hnode =>
    unfold Compile.regexNode at hnode
    split at hnode
    next found hfound =>
      cases hnode
      have hread : (Shape.regex engine pattern).matcher text read rule skip identity =
          Matcher.scanned text skip ("Expected " ++ (Shape.regex engine pattern).display)
            (Matcher.scanRegex found) := by
        simp only [Shape.matcher, hfound]
      exact hread.symm
    next => cases hnode
  | sequence parts commit ids =>
    have hparts : parts.map (read skip) = ids.map call :=
      map_eq_map_of_forall₂ (List.forall₂_map_left_iff.mp hchildren)
    rw [Node.matcher, Shape.matcher, hparts]
  | choice alternatives ids =>
    have halternatives : alternatives.map (read skip) = ids.map call :=
      map_eq_map_of_forall₂ (List.forall₂_map_left_iff.mp hchildren)
    rw [Node.matcher, Shape.matcher, halternatives]
  | rule hnumber => exact (hrule _ _ hnumber).symm
  | delimited item separator form first second hbounds =>
    obtain ⟨hfirst, hrest⟩ := List.forall₂_cons.mp hchildren
    obtain ⟨hsecond, -⟩ := List.forall₂_cons.mp hrest
    rw [Node.matcher, Shape.matcher, hfirst, hsecond]
  | lookahead child negative id =>
    obtain ⟨hchild, -⟩ := List.forall₂_cons.mp hchildren
    cases negative with
    | false => rw [Node.matcher, Shape.matcher, hchild]
    | true => rw [Node.matcher, Shape.matcher, hchild]
  | action child actions id =>
    obtain ⟨hchild, -⟩ := List.forall₂_cons.mp hchildren
    rw [Node.matcher, Shape.matcher, hchild, acting_eq hinvoke text skip _ identity]
  | _ =>
    obtain ⟨hchild, -⟩ := List.forall₂_cons.mp hchildren
    rw [Node.matcher, Shape.matcher, hchild]

end

/-! ### Whole drafts -/

namespace Draft

variable {draft other : Draft} {grammar : Grammar}

section

variable {m : Type → Type} [MatchMonad m]

/-- A node of the grammar of a draft evaluates as the expression reads that became the node, in the
draft itself and in every draft in which its rules are bound, where runs of actions are not told
apart by their places. The induction is on the room. -/
theorem Within.evaluateWith_eq_reading
    (hinvoke : ∀ first second : Invocation, first.application = second.application →
      (invoke first : m Unit) = invoke second)
    (hwithin : draft.Within other) (hlowers : draft.LowersTo grammar) (text : Text) (room : Nat) :
    ∀ {skip : Option CharSet} {expr : Expr} {id : NodeId},
      expr.CompilesTo grammar.nodes draft.ruleNames skip id →
      (grammar.evaluateWith text (fun _ _ evaluation ↦ evaluation) room id : Matcher m) =
        other.reading text room skip expr := by
  induction room with
  | zero =>
    intro skip expr id _
    funext offset
    change (halt _ : m Match) = _
    rw [Draft.reading, hlowers.config, hwithin.config]
  | succ room ih =>
    intro skip expr id hcompiles
    obtain ⟨node, ids, hnode, hshape, hchildren⟩ := hcompiles.lowers
    have hfound : grammar.node id = node := by rw [Grammar.node, hnode, Option.getD_some]
    have hrule (name : String) (number : Nat)
        (hnumber : draft.ruleNames.idxOf? name = some number) :
        (other.readRule (other.reading text room) name : Matcher m) =
          grammar.evaluateWith text (fun _ _ evaluation ↦ evaluation) room
            (grammar.ruleBody number) := by
      obtain ⟨body, id, hbody, -, hid, hcompiled⟩ := hlowers.exists_body hnumber
      rw [← hwithin.config] at hcompiled
      rw [Draft.readRule, hwithin.body? name body hbody, hid]
      exact (ih hcompiled).symm
    have hmatcher := hshape.matcher_eq hinvoke text
      (hchildren.imp fun _ _ hchild ↦ (ih hchild).symm) hrule id (expr.innermost skip).2.identity
    funext offset
    change (grammar.node id).matcher grammar text
      (grammar.evaluateWith text (fun _ _ evaluation ↦ evaluation) room) id offset = _
    rw [hfound, hmatcher, Draft.reading]

end

/-- The account of a node of the grammar of a draft is what is read of the expression that became
the node, in the draft itself and in every draft in which its rules are bound. -/
theorem Within.account_eq_reading (hwithin : draft.Within other) (hlowers : draft.LowersTo grammar)
    (text : Text) (room : Nat) {skip : Option CharSet} {expr : Expr} {id : NodeId}
    (hcompiles : expr.CompilesTo grammar.nodes draft.ruleNames skip id) :
    grammar.account text room id = other.reading text room skip expr :=
  hwithin.evaluateWith_eq_reading (fun _ _ _ ↦ rfl) hlowers text room hcompiles

/-- A node evaluates as the expression reads that became the node. -/
theorem LowersTo.account_eq_reading (hlowers : draft.LowersTo grammar) (text : Text) (room : Nat)
    {skip : Option CharSet} {expr : Expr} {id : NodeId}
    (hcompiles : expr.CompilesTo grammar.nodes draft.ruleNames skip id) :
    grammar.account text room id = draft.reading text room skip expr :=
  (Within.refl draft).account_eq_reading hlowers text room hcompiles

end Draft

end Packrat
