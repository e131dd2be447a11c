import Packrat.Proofs.Grammar.Orders
import Packrat.Proofs.Grammar.Twins

/-!
# Drafts whose rules descend

A draft builds if nothing in it can match nothing and every rule has only rules of lower numbers at
its left edge (`Draft.exists_build_of_descending`). A shape consumes something if its children do
(`Shape.Consumes`), and where that holds throughout no node is nullable. Left edges can then be read
off expressions, by going to the first part of every sequence (`Expr.StartsBelow`).
-/

set_option autoImplicit false
set_option relaxedAutoImplicit false

namespace Packrat

/-! ### Nothing is nullable -/

/-- A shape matches something wherever its children do. -/
def Shape.Consumes : Shape → Prop
  | .terminal form => ¬ form.IsEmptyLiteral
  | .sequence parts _ => parts ≠ []
  | .repetition _ least _ => 0 < least
  | .delimited _ _ form => 0 < form.least
  | .empty => False
  | .textEnd => False
  | .regex _ _ => False
  | .optional _ _ => False
  | .lookahead _ _ => False
  | _ => True

/-- The node of a shape that consumes is not nullable by marks that its children and rules do not
have. -/
theorem Shape.Lowers.not_nullable {names : List String} {skip : Option CharSet} {shape : Shape}
    {ids : List NodeId} {node : Node} (hlowers : shape.Lowers names skip ids node)
    (hlength : (shape.children skip).length = ids.length) (hconsumes : shape.Consumes)
    {known : NodeId → Bool} {knownRule : Nat → Bool} (hknown : ∀ id, known id = false)
    (hrule : ∀ rule, knownRule rule = false) : node.nullable known knownRule = false := by
  cases hlowers with
  | empty => exact hconsumes.elim
  | textEnd => exact hconsumes.elim
  | regex hnode => exact hconsumes.elim
  | optional child default id => exact hconsumes.elim
  | lookahead child negative id => exact hconsumes.elim
  | @terminal form node hnode =>
    have hproper : ¬ (form = .literal "" true ∨ form = .literal "" false) := hconsumes
    rcases Compile.terminalNode_cases hnode with rfl | rfl
    · rw [Compile.terminalNode, if_neg hproper] at hnode
      split at hnode
      · cases hnode
      · cases hnode
    · rfl
  | sequence parts commit ids =>
    have hparts : parts ≠ [] := hconsumes
    cases ids with
    | nil => simp [children, hparts] at hlength
    | cons id rest => simp [Node.nullable, hknown]
  | choice alternatives ids => simp [Node.nullable, hknown]
  | repetition child least most id hbounds =>
    have hleast : 0 < least := hconsumes
    simp [Node.nullable, hknown, Nat.ne_of_gt hleast]
  | delimited item separator form first second hbounds =>
    have hleast : 0 < form.least := hconsumes
    simp [Node.nullable, hknown, Nat.ne_of_gt hleast]
  | rule hnumber => exact hrule _
  | _ => exact hknown _

/-- Inside overrides an expression has what it has throughout. -/
theorem Expr.Throughout.innermost {property : Shape → Prop} (skip : Option CharSet) :
    ∀ {expr : Expr}, expr.Throughout property → (expr.innermost skip).2.Throughout property
  | ⟨identity, shape⟩, hexpr => by
    cases shape with
    | blanks child set =>
      rw [Expr.innermost]
      exact innermost _ (hexpr.child none List.mem_cons_self)
    | _ => exact hexpr

/-- Where everything consumes, no node is marked. -/
theorem Draft.LowersTo.not_isMarked {draft : Draft} {grammar : Grammar}
    (hlowers : draft.LowersTo grammar)
    (hconsumes : ∀ skip expr, draft.Covers skip expr → expr.Throughout Shape.Consumes)
    (id : NodeId) :
    Grammar.isMarked grammar.nullable id = false := by
  refine Bool.eq_false_iff.mpr fun hmarked ↦ ?_
  refine Grammar.due_of_isMarked_nullable (fun _ ↦ False) ?_ hmarked
  intro marks hmarks id hid hnullable
  have hunmarked (other : NodeId) : Grammar.isMarked marks other = false :=
    Bool.eq_false_iff.mpr (hmarks other)
  obtain ⟨skip, expr, hcovers, hexpr⟩ := hlowers.covered id hid
  obtain ⟨node, ids, hnode, hshape, hchildren⟩ := hexpr.lowers
  have hnot := hshape.not_nullable hchildren.length_eq
    ((hconsumes skip expr hcovers).innermost skip).shape hunmarked fun rule ↦
      hunmarked (grammar.ruleBody rule)
  rw [Grammar.nullableBy, Grammar.node, hnode, Option.getD_some, hnot] at hnullable
  cases hnullable

/-! ### Left edges -/

/-- The children of a shape that are evaluated where the shape is, if all children consume. -/
def Shape.leading : Shape → List Expr
  | .sequence parts _ => parts.take 1
  | .delimited item _ _ => [item]
  | shape => (shape.children none).map Prod.snd

/-- All rules that an expression can use before anything is consumed have numbers below a bound. -/
inductive Expr.StartsBelow (names : List String) (bound : Nat) : Expr → Prop
  | mk {identity : Nat} {shape : Shape}
    (hrule : ∀ name number, shape = .rule name → names.idxOf? name = some number → number < bound)
    (hleading : ∀ child ∈ shape.leading, StartsBelow names bound child) :
    StartsBelow names bound ⟨identity, shape⟩

/-- With which rules an expression can start, in terms of its leading children. -/
theorem Expr.startsBelow_iff {names : List String} {bound identity : Nat} {shape : Shape} :
    (⟨identity, shape⟩ : Expr).StartsBelow names bound ↔
      (∀ name number, shape = .rule name → names.idxOf? name = some number → number < bound) ∧
        ∀ child ∈ shape.leading, child.StartsBelow names bound :=
  ⟨fun ⟨hrule, hleading⟩ ↦ ⟨hrule, hleading⟩, fun ⟨hrule, hleading⟩ ↦ .mk hrule hleading⟩

theorem Expr.startsBelow_rule {names : List String} {bound identity number : Nat} {name : String}
    (hnumber : names.idxOf? name = some number) (hless : number < bound) :
    (⟨identity, .rule name⟩ : Expr).StartsBelow names bound := by
  refine .mk ?_ fun _ hchild ↦ absurd hchild List.not_mem_nil
  rintro other found ⟨⟩ hfound
  exact Option.some.inj (hfound.symm.trans hnumber) ▸ hless

/-- Where no node is marked, what the node of a shape calls on the left became of a leading
child. -/
theorem Shape.Lowers.exists_leading {names : List String} {skip : Option CharSet} {shape : Shape}
    {ids : List NodeId} {node : Node} (hlowers : shape.Lowers names skip ids node)
    (hlength : (shape.children skip).length = ids.length) {grammar : Grammar} {marks : Array Bool}
    (hunmarked : ∀ id, Grammar.isMarked marks id = false) (hplain : node.isCall = false)
    {inner : NodeId} (hinner : inner ∈ grammar.leftChildren marks node) :
    ∃ child, (child, inner) ∈ (shape.children skip).zip ids ∧ child.2 ∈ shape.leading := by
  cases hlowers with
  | sequence parts commit ids =>
    cases ids with
    | nil => exact absurd hinner List.not_mem_nil
    | cons first rest =>
      cases parts with
      | nil => cases hlength
      | cons part others =>
        have hfirst : inner = first := by
          simpa [Grammar.leftChildren, Grammar.leadingParts, hunmarked] using hinner
        exact ⟨(skip, part), by simp [children, hfirst], by simp [leading]⟩
  | delimited item separator form first second hbounds =>
    have hfirst : inner = first := by
      simpa [Grammar.leftChildren, Grammar.leadingParts, hunmarked] using hinner
    exact ⟨(skip, item), by simp [children, hfirst], by simp [leading]⟩
  | choice alternatives ids =>
    obtain ⟨child, hpair⟩ := exists_mem_zip_right hlength hinner
    refine ⟨child, hpair, ?_⟩
    obtain ⟨alternative, halternative, rfl⟩ := List.mem_map.mp (List.of_mem_zip hpair).1
    simpa [leading, children] using halternative
  | rule hnumber => cases hplain
  | terminal hnode =>
    rcases Compile.terminalNode_cases hnode with rfl | rfl
    · exact absurd hinner List.not_mem_nil
    · exact absurd hinner List.not_mem_nil
  | regex hnode =>
    obtain ⟨_, rfl⟩ := Compile.regexNode_cases hnode
    exact absurd hinner List.not_mem_nil
  | empty => exact absurd hinner List.not_mem_nil
  | textEnd => exact absurd hinner List.not_mem_nil
  | _ =>
    rw [List.mem_singleton.mp hinner]
    exact ⟨_, List.mem_singleton_self _, List.mem_singleton_self _⟩

/-- Where no node is marked, the rules at the left edge of a node are those with which its
expression can start. -/
theorem Expr.CompilesTo.leftEdgesOf_lt {grammar : Grammar} {names : List String}
    {marks : Array Bool} (hformed : grammar.WellFormed)
    (hunmarked : ∀ id, Grammar.isMarked marks id = false) {bound : Nat} {skip : Option CharSet}
    {expr : Expr} {id : NodeId} (hcompiles : CompilesTo grammar.nodes names skip expr id) :
    expr.StartsBelow names bound → ∀ rule ∈ grammar.leftEdgesOf marks id, rule < bound := by
  induction hcompiles with
  | @node skip identity shape id node ids hnode hlowers hlength hchildren ih =>
    rintro ⟨hstart, hleading⟩ rule hrule
    have hid : id < grammar.nodeCount := (Array.getElem?_eq_some_iff.mp hnode).1
    have hfound : grammar.node id = node := by rw [Grammar.node, hnode, Option.getD_some]
    rw [Grammar.leftEdgesOf_eq hformed hid, hfound] at hrule
    by_cases hplain : node.isCall = false
    · obtain ⟨inner, hinner, hmem⟩ := (Grammar.mem_leftEdge grammar hplain).mp hrule
      obtain ⟨child, hpair, hchild⟩ := hlowers.exists_leading hlength hunmarked hplain hinner
      exact ih child inner hpair (hleading _ hchild) rule hmem
    · cases hlowers with
      | @rule name number hnumber =>
        have hsame : rule = number := by simpa [Grammar.leftEdge] using hrule
        exact hsame ▸ hstart name number rfl hnumber
      | terminal hnode =>
        rcases Compile.terminalNode_cases hnode with rfl | rfl
        · exact absurd rfl hplain
        · exact absurd rfl hplain
      | regex hnode =>
        obtain ⟨_, rfl⟩ := Compile.regexNode_cases hnode
        exact absurd rfl hplain
      | _ => exact absurd rfl hplain
  | blanks _ ih =>
    rintro ⟨-, hleading⟩
    exact ih (hleading _ List.mem_cons_self)

/-! ### Drafts that build -/

/-- A draft builds if its rules have different names and use only rules that are bound, everything
in it consumes something, and every rule starts with rules of lower numbers only. -/
theorem Draft.exists_build_of_descending {draft : Draft} (hcoherent : draft.Coherent)
    (hsomething : draft.entry.isSome = true ∨ draft.rules ≠ []) (hdistinct : draft.ruleNames.Nodup)
    (hsound : ∀ skip expr, draft.anonymous.Covers skip expr → expr.Sound draft.ruleNames)
    (hconsumes : ∀ skip expr, draft.anonymous.Covers skip expr → expr.Throughout Shape.Consumes)
    (hstarts : ∀ (rule : Nat) (body : Expr), (draft.anonymous.rules.map Prod.snd)[rule]? =
      some body → body.StartsBelow draft.ruleNames rule) :
    ∃ grammar, draft.build = .ok grammar ∧ draft.anonymous.LowersTo grammar := by
  obtain ⟨grammar, hcompile⟩ := Draft.exists_compile hsomething
    (duplicate?_eq_none_iff.mpr ⟨hdistinct, fun _ _ ↦ List.not_mem_nil⟩)
    (fun body hbody ↦ (hsound _ _ (Covers.reaches (.body hbody)).anonymous).of_anonymous)
    (fun point hpoint expr hmeans ↦
      (hsound _ _ (Covers.entry hpoint hmeans).anonymous).of_anonymous)
  have hlowers := (lowersTo_of_compile hcoherent hcompile).anonymous
  have hunmarked := hlowers.not_isMarked hconsumes
  refine ⟨grammar, build_eq_ok_iff.mpr ⟨hcompile, ?_, ?_⟩, hlowers⟩
  · rw [Grammar.nullableRepetition?_eq_none_iff]
    intro node hnode hstalls
    cases node with
    | repetition child least most what =>
      cases most with
      | none => exact absurd hstalls (Bool.eq_false_iff.mp (hunmarked child))
      | some most => exact hstalls
    | delimited item separator form what =>
      exact absurd hstalls.2.1 (Bool.eq_false_iff.mp (hunmarked item))
    | _ => exact hstalls
  · refine List.map_eq_nil_iff.mpr (CycleSearch.cyclesOf_eq_nil_of_lt fun rule next hnext ↦ ?_)
    by_cases hrule : rule < grammar.ruleBodies.length
    · have hbody := hlowers.bodies.length_eq ▸ hrule
      have hcompiles := hlowers.bodies.get hbody hrule
      rw [Grammar.getElem?_ruleEdges hrule, Grammar.ruleBody,
        List.getElem?_eq_getElem hrule] at hnext
      refine Expr.CompilesTo.leftEdgesOf_lt (wellFormed_of_compile hcompile) hunmarked hcompiles ?_
        next hnext
      rw [ruleNames_anonymous]
      exact hstarts rule _ (List.getElem?_eq_getElem hbody)
    · have hnone : (grammar.ruleEdges grammar.nullable)[rule]? = none := by
        rw [Grammar.ruleEdges, List.getElem?_map, List.getElem?_eq_none (Nat.le_of_not_lt hrule)]
        rfl
      rw [hnone] at hnext
      cases hnext

end Packrat
