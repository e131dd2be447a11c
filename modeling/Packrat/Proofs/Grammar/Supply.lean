import Packrat.Proofs.Grammar.Lowering

/-!
# Expressions drawn from a supply

Expressions get their identities from a supply. Those drawn so far form a pool: each has an identity
of its own, below the next one of the supply, and whatever they are made of was drawn before
(`Pool`). A computation that only draws expressions keeps this (`Build.Draws`). So identities belong
to single expressions in every draft that is put together from drawn expressions
(`Build.Draws.coherent`), and an operator table expands to drawn expressions
(`OperatorTable.draws_rules`).
-/

set_option autoImplicit false
set_option relaxedAutoImplicit false

namespace Packrat

/-! ### Pools -/

/-- The expressions drawn so far from a supply whose next identity is given. -/
structure Pool (next : Nat) (drawn : Expr → Prop) : Prop where
  /-- Identities are given out in order. -/
  identity_lt : ∀ expr, drawn expr → expr.identity < next
  /-- An identity is given to one expression. -/
  single : ∀ first second, drawn first → drawn second → first.identity = second.identity →
    first = second
  /-- Expressions are made of expressions drawn before. -/
  children : ∀ expr, drawn expr → ∀ skip, ∀ child ∈ expr.shape.children skip, drawn child.2

theorem pool_empty (next : Nat) : Pool next fun _ ↦ False :=
  ⟨fun _ hdrawn ↦ hdrawn.elim, fun _ _ hdrawn ↦ hdrawn.elim, fun _ hdrawn ↦ hdrawn.elim⟩

/-- All expressions from which a draft starts are drawn. -/
def Draft.Drawn (draft : Draft) (drawn : Expr → Prop) : Prop :=
  (∀ body ∈ draft.rules.map Prod.snd, drawn body) ∧
    ∀ expr, draft.entry = some (.expr expr) → drawn expr

/-- In a draft of drawn expressions an identity belongs to a single expression. -/
theorem Draft.Drawn.coherent {draft : Draft} {drawn : Expr → Prop} {next : Nat}
    (hdraft : draft.Drawn drawn) (hpool : Pool next drawn) : draft.Coherent := by
  have hreaches {skip : Option CharSet} {expr : Expr} (hexpr : draft.Reaches skip expr) :
      drawn expr := by
    induction hexpr with
    | body hbody => exact hdraft.1 _ hbody
    | entry hentry => exact hdraft.2 _ hentry
    | child _ hchild ih => exact hpool.children _ ih _ _ hchild
  intro skip other first second hfirst hsecond hsame
  exact hpool.single first second (hreaches hfirst) (hreaches hsecond) hsame

/-! ### Computations that draw -/

namespace Build

variable {α β : Type} {known : Expr → Prop}

/-- A computation draws expressions: the pool of those known only grows, and the result is as stated
of the grown pool. -/
def Draws (known : Expr → Prop) (computation : Build α) (post : α → (Expr → Prop) → Prop) : Prop :=
  ∀ next, Pool next known → ∃ drawn : Expr → Prop, (∀ expr, known expr → drawn expr) ∧
    Pool (computation next).2 drawn ∧ post (computation next).1 drawn

/-- A draft that is drawn from a supply is coherent. -/
theorem Draws.coherent {computation : Build Draft}
    (hdraws : Draws (fun _ ↦ False) computation Draft.Drawn) (next : Nat) :
    (computation next).1.Coherent := by
  obtain ⟨drawn, -, hpool, hdraft⟩ := hdraws next (pool_empty next)
  exact hdraft.coherent hpool

theorem draws_pure {post : α → (Expr → Prop) → Prop} (value : α) (hpost : post value known) :
    Draws known (pure value) post :=
  fun _ hpool ↦ ⟨known, fun _ hexpr ↦ hexpr, hpool, hpost⟩

theorem draws_bind {first : Build α} {next : α → Build β} {post : α → (Expr → Prop) → Prop}
    {goal : β → (Expr → Prop) → Prop} (hfirst : Draws known first post)
    (hnext : ∀ value drawn, (∀ expr, known expr → drawn expr) → post value drawn →
      Draws drawn (next value) goal) : Draws known (first >>= next) goal := by
  intro start hpool
  obtain ⟨middle, hknown, hmiddle, hpost⟩ := hfirst start hpool
  obtain ⟨drawn, hgrown, hafter, hgoal⟩ := hnext _ middle hknown hpost _ hmiddle
  exact ⟨drawn, fun expr hexpr ↦ hgrown expr (hknown expr hexpr), hafter, hgoal⟩

theorem draws_ofShape {shape : Shape} (hchildren : ∀ skip, ∀ child ∈ shape.children skip,
      known child.2) :
    Draws known (Expr.ofShape shape) fun expr drawn ↦ drawn expr := by
  intro next hpool
  have hdistinct (expr : Expr) (hexpr : known expr) : expr.identity ≠ next :=
    Nat.ne_of_lt (hpool.identity_lt expr hexpr)
  refine ⟨fun expr ↦ known expr ∨ expr = ⟨next, shape⟩, fun _ ↦ Or.inl, ⟨?_, ?_, ?_⟩, Or.inr rfl⟩
  · rintro expr (hexpr | rfl)
    · exact Nat.lt_succ_of_lt (hpool.identity_lt expr hexpr)
    · exact Nat.lt_succ_self next
  · rintro first second (hfirst | rfl) (hsecond | rfl) hsame
    · exact hpool.single first second hfirst hsecond hsame
    · exact absurd hsame (hdistinct first hfirst)
    · exact absurd hsame.symm (hdistinct second hsecond)
    · rfl
  · rintro expr (hexpr | rfl) skip child hchild
    · exact Or.inl (hpool.children expr hexpr skip child hchild)
    · exact Or.inl (hchildren skip child hchild)

theorem draws_around {shape : Shape} {inside : Option CharSet → Option CharSet} {child : Expr}
    (hshape : ∀ skip, shape.children skip = [(inside skip, child)]) (hchild : known child) :
    Draws known (Expr.ofShape shape) fun expr drawn ↦ drawn expr := by
  refine draws_ofShape fun skip other hother ↦ ?_
  rw [hshape] at hother
  exact List.mem_singleton.mp hother ▸ hchild

theorem draws_leaf {shape : Shape} (hshape : ∀ skip, shape.children skip = []) :
    Draws known (Expr.ofShape shape) fun expr drawn ↦ drawn expr := by
  refine draws_ofShape fun skip other hother ↦ ?_
  rw [hshape] at hother
  cases hother

theorem draws_sequence {parts : List Expr} (hparts : ∀ part ∈ parts, known part)
    (commit : Option Nat) :
    Draws known (Expr.ofShape (.sequence parts commit)) fun expr drawn ↦ drawn expr := by
  refine draws_ofShape fun skip child hchild ↦ ?_
  obtain ⟨part, hpart, rfl⟩ := List.mem_map.mp hchild
  exact hparts part hpart

/-- The parts of one expression and then another expression. -/
theorem draws_parts {first second : Expr} (hfirst : known first) (hsecond : known second)
    (commit : Option Nat) :
    Draws known (Expr.ofShape (.sequence (first.parts.1 ++ [second]) commit))
      fun expr drawn ↦ drawn expr := by
  intro next hpool
  refine draws_ofShape (fun skip child hchild ↦ ?_) next hpool
  obtain ⟨part, hpart, rfl⟩ := List.mem_map.mp hchild
  rcases List.mem_append.mp hpart with hbefore | hlast
  · obtain ⟨identity, shape⟩ := first
    cases shape with
    | sequence parts commit =>
      exact hpool.children _ hfirst skip (skip, part) (List.mem_map_of_mem hbefore)
    | _ => exact List.mem_singleton.mp hbefore ▸ hfirst
  · exact List.mem_singleton.mp hlast ▸ hsecond

theorem draws_andThen {first second : Expr} (hfirst : known first) (hsecond : known second) :
    Draws known (first.andThen second) fun expr drawn ↦ drawn expr :=
  draws_parts hfirst hsecond _

/-- One expression after another, with a commit point between them. -/
theorem draws_andCommit {first second : Expr} (hfirst : known first) (hsecond : known second) :
    Draws known (first.andCommit second) fun expr drawn ↦ drawn expr :=
  draws_parts hfirst hsecond _

theorem draws_orElse {first second : Expr} (hfirst : known first) (hsecond : known second) :
    Draws known (first.orElse second) fun expr drawn ↦ drawn expr := by
  intro next hpool
  refine draws_ofShape (fun skip child hchild ↦ ?_) next hpool
  obtain ⟨part, hpart, rfl⟩ := List.mem_map.mp hchild
  rcases List.mem_append.mp hpart with hbefore | hlast
  · obtain ⟨identity, shape⟩ := first
    cases shape with
    | choice alternatives =>
      exact hpool.children _ hfirst skip (skip, part) (List.mem_map_of_mem hbefore)
    | _ => exact List.mem_singleton.mp hbefore ▸ hfirst
  · exact List.mem_singleton.mp hlast ▸ hsecond

/-- Drawing expressions for the members of a list, in order. -/
theorem draws_mapM {items : List α} {draw : α → Build β} {post : β → (Expr → Prop) → Prop}
    (hmono : ∀ value known drawn, (∀ expr, known expr → drawn expr) → post value known →
      post value drawn)
    (hdraw : ∀ item ∈ items, ∀ known, Draws known (draw item) post) :
    Draws known (items.mapM draw) fun values drawn ↦ ∀ value ∈ values, post value drawn := by
  induction items generalizing known with
  | nil =>
    rw [List.mapM_nil]
    exact draws_pure [] fun _ hvalue ↦ absurd hvalue List.not_mem_nil
  | cons first rest ih =>
    rw [List.mapM_cons]
    refine draws_bind (hdraw first List.mem_cons_self known) fun value middle _ hvalue ↦ ?_
    refine draws_bind (ih fun item hitem ↦ hdraw item (List.mem_cons_of_mem _ hitem))
      fun values drawn hgrown hvalues ↦ draws_pure _ fun other hother ↦ ?_
    rcases List.mem_cons.mp hother with rfl | hlater
    · exact hmono _ _ _ hgrown hvalue
    · exact hvalues other hlater

/-- An expression with an action, which goes inside names. The induction is on the names. -/
theorem draws_act (action : Action) : ∀ {known : Expr → Prop} (expr : Expr), known expr →
    Draws known (expr.act action) fun expr drawn ↦ drawn expr
  | known, ⟨identity, shape⟩, hexpr => by
    intro next hpool
    have hchildren := hpool.children _ hexpr
    cases shape with
    | named child name accumulate =>
      have hchild : known child := hchildren none (none, child) List.mem_cons_self
      rw [Expr.act]
      exact draws_bind (draws_act action child hchild)
        (fun _ _ _ hinner ↦ draws_around (fun _ ↦ rfl) hinner) next hpool
    | action child actions =>
      have hchild : known child := hchildren none (none, child) List.mem_cons_self
      rw [Expr.act]
      exact draws_around (fun _ ↦ rfl) hchild next hpool
    | _ =>
      rw [Expr.act]
      · exact draws_around (fun _ ↦ rfl) hexpr next hpool
      all_goals simp

end Build

/-! ### Operator tables -/

namespace OperatorTable

open Build

variable {known : Expr → Prop}

/-- All expressions of a table are drawn. -/
structure Drawn (table : OperatorTable) (known : Expr → Prop) : Prop where
  /-- The operand. -/
  operand : known table.operand
  /-- The brackets. -/
  brackets : ∀ pair ∈ table.brackets, known pair.1 ∧ known pair.2
  /-- The operators. -/
  operators : ∀ level ∈ table.levels, known level.operator

theorem draws_application (level : OperatorLevel) {tighter this : Expr}
    (hoperator : known level.operator) (htighter : known tighter) (hthis : known this) :
    Draws known (application level tighter this) fun expr drawn ↦ drawn expr := by
  have hchain {next : Expr} (hnext : known next) :
      Draws known (do tighter.andThen (← (← level.operator.andThen next).oneOrMore))
        fun expr drawn ↦ drawn expr := by
    refine draws_bind (draws_andThen hoperator hnext) fun pair first hgrown hpair ↦ ?_
    refine draws_bind (draws_around (fun _ ↦ rfl) hpair) fun pairs second hmore hpairs ↦ ?_
    exact draws_andThen (hmore _ (hgrown _ htighter)) hpairs
  unfold application
  split
  · exact hchain htighter
  · exact hchain hthis
  · refine draws_bind (draws_andThen htighter hoperator) fun pair drawn hgrown hpair ↦ ?_
    exact draws_andThen hpair (hgrown _ htighter)
  · exact draws_andThen hoperator hthis
  · refine draws_bind (draws_around (fun _ ↦ rfl) hoperator) fun rounds drawn hgrown hrounds ↦ ?_
    exact draws_andThen (hgrown _ htighter) hrounds

theorem draws_levelBody (level : OperatorLevel) {tighter this : Expr}
    (hoperator : known level.operator) (htighter : known tighter) (hthis : known this) :
    Draws known (levelBody level tighter this) fun expr drawn ↦ drawn expr := by
  unfold levelBody
  refine draws_bind (draws_application level hoperator htighter hthis)
    fun use first hgrown huse ↦ ?_
  refine draws_bind (draws_around (fun _ ↦ rfl) huse) fun grouped second hmore hgrouped ↦ ?_
  have htighter' := hmore _ (hgrown _ htighter)
  cases level.action with
  | some action =>
    refine draws_bind (draws_act action grouped hgrouped) fun acted drawn hlast hacted ↦ ?_
    exact draws_orElse hacted (hlast _ htighter')
  | none => exact draws_orElse hgrouped htighter'

theorem draws_levelRules (name : String) (levels : List OperatorLevel) :
    ∀ (number : Nat) (last : String) {known : Expr → Prop},
      (∀ level ∈ levels, known level.operator) →
      Draws known (levelRules name number last levels) fun rules drawn ↦
        ∀ body ∈ rules.1.map Prod.snd, drawn body := by
  induction levels with
  | nil => exact fun _ _ _ _ ↦ draws_pure _ fun _ hbody ↦ absurd hbody List.not_mem_nil
  | cons level rest ih =>
    intro number last known hoperators
    rw [levelRules]
    refine draws_bind (draws_leaf fun _ ↦ rfl) fun tighter first hgrown htighter ↦ ?_
    refine draws_bind (draws_leaf fun _ ↦ rfl) fun this second hmore hthis ↦ ?_
    have hlater (other : OperatorLevel) (hother : other ∈ level :: rest) :=
      hmore _ (hgrown _ (hoperators other hother))
    refine draws_bind (draws_levelBody level (hlater level List.mem_cons_self) (hmore _ htighter)
      hthis) fun body third hkept hbody ↦ ?_
    refine draws_bind (ih _ _ fun other hother ↦
      hkept _ (hlater other (List.mem_cons_of_mem _ hother))) fun rules drawn hlast hrules ↦ ?_
    refine draws_pure _ fun other hother ↦ ?_
    rcases List.mem_cons.mp hother with rfl | hmem
    · exact hlast _ hbody
    · exact hrules other hmem

theorem draws_atom {table : OperatorTable} (htable : table.Drawn known) (name : String) :
    Draws known (table.atom name) fun expr drawn ↦ drawn expr := by
  unfold atom
  split
  next => exact draws_pure _ htable.operand
  next opening closing hbrackets =>
    obtain ⟨hopening, hclosing⟩ := htable.brackets _ hbrackets
    refine draws_bind (draws_leaf fun _ ↦ rfl) fun whole first hgrown hwhole ↦ ?_
    refine draws_bind (draws_andThen (hgrown _ hopening) hwhole)
      fun inside second hmore hinside ↦ ?_
    refine draws_bind (draws_andThen hinside (hmore _ (hgrown _ hclosing)))
      fun bracketed drawn hlast hbracketed ↦ ?_
    exact draws_orElse (hlast _ (hmore _ (hgrown _ htable.operand))) hbracketed

theorem draws_rules {table : OperatorTable} (htable : table.Drawn known) (name : String) :
    Draws known (table.rules name) fun rules drawn ↦ ∀ body ∈ rules.map Prod.snd, drawn body := by
  unfold rules
  refine draws_bind (draws_atom htable name) fun atom first hgrown hatom ↦ ?_
  refine draws_bind (draws_levelRules name table.levels 1 _ fun level hlevel ↦
    hgrown _ (htable.operators level hlevel)) fun levels second hmore hlevels ↦ ?_
  refine draws_bind (draws_leaf fun _ ↦ rfl)
    fun whole drawn hlast hwhole ↦ draws_pure _ fun body hbody ↦ ?_
  simp only [List.map_cons, List.map_append, List.mem_cons, List.mem_append, List.map_nil,
    List.not_mem_nil, or_false] at hbody
  rcases hbody with (rfl | hlevel) | rfl
  · exact hlast _ (hmore _ hatom)
  · exact hlast _ (hlevels body hlevel)
  · exact hwhole

end OperatorTable

theorem Draft.draws_operators {known : Expr → Prop} {draft : Draft} {table : OperatorTable}
    (hdraft : draft.Drawn known) (htable : table.Drawn known) (name : String) :
    Build.Draws known (draft.operators name table) Draft.Drawn := by
  unfold operators
  refine Build.draws_bind (OperatorTable.draws_rules htable name) fun rules drawn hgrown hrules ↦ ?_
  refine Build.draws_pure _ ⟨fun body hbody ↦ ?_, fun expr hentry ↦ hgrown _ (hdraft.2 expr hentry)⟩
  rw [List.map_append, List.mem_append] at hbody
  rcases hbody with hbefore | hlater
  · exact hgrown _ (hdraft.1 body hbefore)
  · exact hrules body hlater

end Packrat
