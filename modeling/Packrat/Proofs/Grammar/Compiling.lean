import Packrat.Proofs.Grammar.Lowering

/-!
# Which drafts compile

Compilation stops at a malformed terminal or pattern, at bounds that are the wrong way round and at
a rule that is not bound. An expression in which there is none of these is sound (`Expr.Sound`), and
compilation stops only at expressions that are not (`Compile.stopsFor_expr`): what was compiled
before cannot stop it. In turn everything that became a node was sound (`Expr.CompilesTo.sound`). So
a draft compiles if its rules have different names, its bodies and its entry are sound, and there is
something to parse from (`Draft.exists_compile`).

What is wrong with the rules together is only seen in the compiled grammar
(`GrammarError.IsSeenWhole`), so compilation stops with no such error.
-/

set_option autoImplicit false
set_option relaxedAutoImplicit false

namespace Packrat

/-! ### Sound expressions -/

/-- Nothing is wrong with a shape itself: its terminal and its pattern are well formed, its bounds
are not the wrong way round, its rule is bound. -/
def Shape.IsSound (names : List String) : Shape → Prop
  | .terminal form => form.IsEmptyLiteral ∨ Compile.fault? form = none
  | .regex engine pattern => (engine.compile? (Compile.anchored pattern)).isSome = true
  | .repetition _ least most => ∀ bound ∈ most, least ≤ bound
  | .delimited _ _ form => ∀ bound ∈ form.most, form.least ≤ bound
  | .rule name => name ∈ names
  | _ => True

/-- Nothing is wrong with an expression or with what it is made of. -/
abbrev Expr.Sound (names : List String) (expr : Expr) : Prop :=
  expr.Throughout (Shape.IsSound names)

theorem Shape.Lowers.isSound {names : List String} {skip : Option CharSet} {shape : Shape}
    {ids : List NodeId} {node : Node} (hlowers : shape.Lowers names skip ids node) :
    shape.IsSound names := by
  cases hlowers with
  | @terminal terminal node hnode =>
    unfold Compile.terminalNode at hnode
    split at hnode
    next hempty => exact Or.inl hempty
    next =>
      split at hnode
      · cases hnode
      next hfault => exact Or.inr hfault
  | @regex engine pattern node hnode =>
    unfold Compile.regexNode at hnode
    split at hnode
    next hfound =>
      rw [IsSound, hfound]
      rfl
    next => cases hnode
  | repetition child least most id hbounds => exact hbounds
  | delimited item separator form first second hbounds => exact hbounds
  | rule hrule => exact List.mem_of_getElem (List.idxOf?_eq_some_iff.mp hrule).2.1
  | _ => exact True.intro

theorem Expr.CompilesTo.sound {nodes : Array Node} {names : List String} {skip : Option CharSet}
    {expr : Expr} {id : NodeId} (hcompiles : CompilesTo nodes names skip expr id) :
    expr.Sound names := by
  induction hcompiles with
  | @node skip identity shape id node ids hnode hlowers hlength hchildren ih =>
    refine .mk hlowers.isSound fun child hchild ↦ ?_
    have hmem : child.2 ∈ (shape.children skip).map Prod.snd :=
      shape.map_snd_children none skip ▸ List.mem_map_of_mem hchild
    obtain ⟨again, hagain, hsame⟩ := List.mem_map.mp hmem
    obtain ⟨inner, hinner⟩ := exists_mem_zip hlength hagain
    exact hsame ▸ ih again inner hinner
  | blanks _ ih =>
    refine .mk True.intro fun child hchild ↦ ?_
    rw [List.mem_singleton.mp hchild]
    exact ih

/-! ### Computations that stop -/

/-- An error that is only seen in the compiled grammar: an idle repetition or a circle of rules. -/
def GrammarError.IsSeenWhole : GrammarError → Prop
  | .leftRecursion _ => True
  | .nullableRepetition _ => True
  | _ => False

namespace Compile

variable {α β : Type} {reason : Prop}

/-- A computation never stops with an error. -/
def Succeeds (computation : Compile α) : Prop := ∀ arena, ∃ result, computation arena = .ok result

/-- A computation stops for one reason only, and with no error that is only seen in the compiled
grammar. -/
def StopsFor (reason : Prop) (computation : Compile α) : Prop :=
  ∀ arena error, computation arena = .error error → reason ∧ ¬ error.IsSeenWhole

/-- The reason may be put in other words. -/
theorem StopsFor.imp {other : Prop} {computation : Compile α} (hstops : StopsFor reason computation)
    (himp : reason → other) : StopsFor other computation :=
  fun arena error hrun ↦ (hstops arena error hrun).imp_left himp

theorem StopsFor.succeeds {computation : Compile α} (hstops : StopsFor reason computation)
    (hnone : ¬ reason) :
    Succeeds computation := by
  intro arena
  cases hrun : computation arena with
  | ok result => exact ⟨result, rfl⟩
  | error error => exact absurd (hstops arena error hrun).1 hnone

/-- A computation that succeeds stops for no reason. -/
theorem Succeeds.stopsFor {computation : Compile α} (hsucceeds : Succeeds computation) :
    StopsFor reason computation := by
  intro arena error hrun
  obtain ⟨result, hresult⟩ := hsucceeds arena
  cases hresult.symm.trans hrun

theorem stopsFor_pure (value : α) : StopsFor reason (pure value) :=
  Succeeds.stopsFor fun _ ↦ ⟨_, rfl⟩

theorem stopsFor_push (node : Node) : StopsFor reason (push node) :=
  Succeeds.stopsFor fun _ ↦ ⟨_, rfl⟩

theorem stopsFor_modify (change : Arena → Arena) : StopsFor reason (modify change) :=
  Succeeds.stopsFor fun _ ↦ ⟨_, rfl⟩

theorem stopsFor_throw {error : GrammarError} (hreason : reason) (hearly : ¬ error.IsSeenWhole) :
    StopsFor reason (throw error : Compile α) := by
  intro arena _ hrun
  cases hrun
  exact ⟨hreason, hearly⟩

theorem stopsFor_bind {first : Compile α} {next : α → Compile β} (hfirst : StopsFor reason first)
    (hnext : ∀ value, StopsFor reason (next value)) : StopsFor reason (first >>= next) := by
  intro arena error hrun
  change (first arena >>= fun result ↦ next result.1 result.2) = .error error at hrun
  cases hresult : first arena with
  | error found =>
    rw [hresult] at hrun
    cases hrun
    exact hfirst arena _ hresult
  | ok result =>
    rw [hresult] at hrun
    exact hnext result.1 result.2 error hrun

theorem stopsFor_get {next : Arena → Compile β} (hnext : ∀ arena, StopsFor reason (next arena)) :
    StopsFor reason (get >>= next) :=
  stopsFor_bind (Succeeds.stopsFor fun _ ↦ ⟨_, rfl⟩) hnext

/-- A computation that does not look at the arena. -/
theorem stopsFor_lift {outcome : Except GrammarError α}
    (houtcome : ∀ error, outcome = .error error → reason ∧ ¬ error.IsSeenWhole) :
    StopsFor reason (liftM outcome) := by
  intro arena error hrun
  cases outcome with
  | error found =>
    cases hrun
    exact houtcome _ rfl
  | ok value => cases hrun

theorem stopsFor_wrap {child : Compile NodeId} {wrap : NodeId → Node}
    (hchild : StopsFor reason child) :
    StopsFor reason (child >>= fun id ↦ push (wrap id)) :=
  stopsFor_bind hchild fun id ↦ stopsFor_push (wrap id)

/-- Bounds are refused if they are the wrong way round. -/
theorem stopsFor_checkBounds (what : String) (least : Nat) (most : Option Nat) :
    StopsFor (¬ ∀ bound ∈ most, least ≤ bound) (checkBounds what least most) := by
  unfold checkBounds
  split
  next hrefused =>
    refine stopsFor_throw (fun hbounds ↦ ?_) id
    cases most with
    | none => cases hrefused
    | some bound => exact Nat.not_lt.mpr (hbounds bound rfl) (of_decide_eq_true hrefused)
  next => exact stopsFor_pure ()

/-- A terminal is refused if something is wrong with it. -/
theorem stopsFor_terminalNode (names : List String) (terminal : Terminal) (skip : Option CharSet)
    (expected : String) :
    StopsFor (¬ (Shape.terminal terminal).IsSound names)
      (liftM (terminalNode terminal skip expected)) := by
  refine stopsFor_lift fun error herror ↦ ?_
  unfold terminalNode at herror
  split at herror
  · cases herror
  next hproper =>
    split at herror
    next hfault =>
      cases herror
      refine ⟨fun hsound ↦ ?_, id⟩
      rw [hsound.resolve_left hproper] at hfault
      cases hfault
    next => cases herror

/-- A pattern is refused if it is no regular expression. -/
theorem stopsFor_regexNode (names : List String) (engine : RegexEngine) (pattern : String)
    (skip : Option CharSet) (expected : String) :
    StopsFor (¬ (Shape.regex engine pattern).IsSound names)
      (liftM (regexNode engine pattern skip expected)) := by
  refine stopsFor_lift fun error herror ↦ ?_
  unfold regexNode at herror
  split at herror
  next => cases herror
  next hnone =>
    cases herror
    refine ⟨fun hsound ↦ ?_, id⟩
    rw [Shape.IsSound, hnone] at hsound
    cases hsound

/-- The use of a rule is refused if the rule is not bound. -/
theorem stopsFor_call (names : List String) (name : String) :
    StopsFor (name ∉ names) (call names name) := by
  unfold call
  split
  next hnone => exact stopsFor_throw (List.idxOf?_eq_none_iff.mp hnone) id
  next =>
    refine stopsFor_get fun arena ↦ ?_
    split
    · exact stopsFor_pure _
    · refine stopsFor_bind (stopsFor_push _) fun id ↦ ?_
      exact stopsFor_bind (stopsFor_modify _) fun _ ↦ stopsFor_pure id

/-- What stops a child stops what is made of it. -/
theorem StopsFor.child {computation : Compile α} {names : List String} {identity : Nat}
    {shape : Shape} {skip : Option CharSet} {inner : Expr}
    (hstops : StopsFor (¬ inner.Sound names) computation)
    (hchild : (skip, inner) ∈ shape.children none) :
    StopsFor (¬ Expr.Sound names ⟨identity, shape⟩) computation :=
  hstops.imp (mt fun hsound ↦ hsound.child none hchild)

mutual

/-- Compiling stops only if an expression is not sound. -/
theorem stopsFor_expr (names : List String) (around : Surrounding) :
    ∀ expression : Expr, StopsFor (¬ expression.Sound names) (expr names around expression)
  | ⟨identity, shape⟩ => by
    rw [expr]
    refine stopsFor_get fun arena ↦ ?_
    split
    · exact stopsFor_pure _
    · refine stopsFor_bind (stopsFor_lower names around identity shape) fun id ↦ ?_
      exact stopsFor_bind (stopsFor_modify _) fun _ ↦ stopsFor_pure id

/-- Compiling a shape stops only if its expression is not sound. -/
theorem stopsFor_lower (names : List String) (around : Surrounding) (identity : Nat) :
    ∀ shape : Shape, StopsFor (¬ Expr.Sound names ⟨identity, shape⟩)
      (lower names around identity shape)
  | .empty => by
    rw [lower]
    exact stopsFor_push _
  | .textEnd => by
    rw [lower]
    exact stopsFor_push _
  | .terminal terminal => by
    rw [lower]
    refine stopsFor_bind ((stopsFor_terminalNode names terminal _ _).imp (mt fun hsound ↦ ?_))
      fun node ↦ stopsFor_push node
    exact hsound.shape
  | .regex engine pattern => by
    rw [lower]
    refine stopsFor_bind ((stopsFor_regexNode names engine pattern _ _).imp (mt fun hsound ↦ ?_))
      fun node ↦ stopsFor_push node
    exact hsound.shape
  | .sequence parts commit => by
    rw [lower]
    refine stopsFor_bind ((stopsFor_exprs names around parts).imp (mt fun hsound part hpart ↦ ?_))
      fun ids ↦ stopsFor_push _
    exact hsound.child none (List.mem_map_of_mem hpart)
  | .choice alternatives => by
    rw [lower]
    refine stopsFor_bind ((stopsFor_exprs names around alternatives).imp
      (mt fun hsound part hpart ↦ ?_)) fun ids ↦ stopsFor_push _
    exact hsound.child none (List.mem_map_of_mem hpart)
  | .optional child default => by
    rw [lower]
    exact stopsFor_wrap ((stopsFor_expr names around child).child List.mem_cons_self)
  | .repetition child least most => by
    rw [lower]
    refine stopsFor_bind ((stopsFor_checkBounds _ least most).imp (mt fun hsound ↦ hsound.shape))
      fun _ ↦ ?_
    exact stopsFor_wrap ((stopsFor_expr names around child).child List.mem_cons_self)
  | .delimited item separator form => by
    rw [lower]
    refine stopsFor_bind ((stopsFor_checkBounds _ _ _).imp (mt fun hsound ↦ hsound.shape))
      fun _ ↦ ?_
    refine stopsFor_bind ((stopsFor_expr names around item).child List.mem_cons_self) fun first ↦ ?_
    exact stopsFor_wrap
      ((stopsFor_expr names around separator).child (List.mem_cons_of_mem _ List.mem_cons_self))
  | .lookahead child negative => by
    rw [lower]
    exact stopsFor_wrap ((stopsFor_expr names around child).child List.mem_cons_self)
  | .suppress child => by
    rw [lower]
    exact stopsFor_wrap ((stopsFor_expr names around child).child List.mem_cons_self)
  | .group child => by
    rw [lower]
    exact stopsFor_wrap ((stopsFor_expr names around child).child List.mem_cons_self)
  | .combine child joiner => by
    rw [lower]
    exact stopsFor_wrap ((stopsFor_expr names .bare child).child List.mem_cons_self)
  | .rule name => by
    rw [lower]
    exact (stopsFor_call names name).imp (mt fun hsound ↦ hsound.shape)
  | .named child name accumulate => by
    rw [lower]
    exact stopsFor_wrap ((stopsFor_expr names around child).child List.mem_cons_self)
  | .action child actions => by
    rw [lower]
    exact stopsFor_wrap ((stopsFor_expr names around child).child List.mem_cons_self)
  | .labeled child label => by
    rw [lower]
    exact stopsFor_wrap ((stopsFor_expr names around child).child List.mem_cons_self)
  | .blanks child set => by
    rw [lower]
    exact (stopsFor_expr names (.override identity set) child).child List.mem_cons_self

/-- Compiling several expressions stops only if one of them is not sound. -/
theorem stopsFor_exprs (names : List String) (around : Surrounding) :
    ∀ expressions : List Expr,
      StopsFor (¬ ∀ expression ∈ expressions, expression.Sound names)
        (exprs names around expressions)
  | [] => by
    rw [exprs]
    exact stopsFor_pure []
  | first :: rest => by
    rw [exprs]
    refine stopsFor_bind ((stopsFor_expr names around first).imp (mt fun hall ↦ ?_)) fun id ↦ ?_
    · exact hall first List.mem_cons_self
    refine stopsFor_bind ((stopsFor_exprs names around rest).imp (mt fun hall other hother ↦ ?_))
      fun ids ↦ stopsFor_pure _
    exact hall other (List.mem_cons_of_mem _ hother)

end

end Compile

/-! ### Drafts that compile -/

/-- The expressions for which an entry stands are sound. -/
def EntryPoint.IsSound (names : List String) (point : EntryPoint) : Prop :=
  ∀ expr, point.Means expr → expr.Sound names

namespace Draft

variable {draft : Draft}

/-- Compiling the entry of a draft stops only if it is not sound. -/
theorem stopsFor_compileEntry (draft : Draft) :
    Compile.StopsFor (¬ ∀ point ∈ draft.entry, point.IsSound draft.ruleNames)
      draft.compileEntry := by
  unfold compileEntry
  split
  next => exact Compile.stopsFor_pure none
  next name hname =>
    refine Compile.stopsFor_bind ((Compile.stopsFor_call _ name).imp (mt fun hentry ↦ ?_))
      fun id ↦ Compile.stopsFor_pure _
    exact (hentry _ hname _ (.rule name 0)).shape
  next expr hexpr =>
    refine Compile.stopsFor_bind ((Compile.stopsFor_expr _ _ expr).imp (mt fun hentry ↦ ?_))
      fun id ↦ Compile.stopsFor_pure _
    exact hentry _ hexpr _ (.expr expr)

/-- Compiling the bodies and the entry of a draft stops only if one of them is not sound. -/
theorem stopsFor_compileAll (draft : Draft) :
    Compile.StopsFor (¬ ((∀ body ∈ draft.rules.map Prod.snd, body.Sound draft.ruleNames) ∧
      ∀ point ∈ draft.entry, point.IsSound draft.ruleNames)) draft.compileAll :=
  Compile.stopsFor_bind ((Compile.stopsFor_exprs _ _ _).imp (mt And.left)) fun _ ↦
    Compile.stopsFor_bind ((stopsFor_compileEntry draft).imp (mt And.right)) fun _ ↦
    Compile.stopsFor_pure _

/-- A draft compiles if its rules have different names, nothing is wrong with its bodies and its
entry, and there is something to parse from. -/
theorem exists_compile (hsomething : draft.entry.isSome = true ∨ draft.rules ≠ [])
    (hdistinct : duplicate? [] draft.ruleNames = none)
    (hbodies : ∀ body ∈ draft.rules.map Prod.snd, body.Sound draft.ruleNames)
    (hentry : ∀ point ∈ draft.entry, point.IsSound draft.ruleNames) :
    ∃ grammar, draft.compile = .ok grammar := by
  have hall := (stopsFor_compileAll draft).succeeds (not_not_intro ⟨hbodies, hentry⟩)
  obtain ⟨⟨⟨bodies, entry⟩, arena⟩, hresult⟩ := hall {}
  exact ⟨_, compile_eq_ok_iff.mpr ⟨hsomething, hdistinct, bodies, entry, arena, hresult, rfl⟩⟩

/-- A draft that does not compile is not refused for what is only seen in the compiled grammar. -/
theorem not_isSeenWhole_of_compile {error : GrammarError}
    (hcompile : draft.compile = .error error) :
    ¬ error.IsSeenWhole := by
  unfold compile at hcompile
  by_cases hempty : (draft.entry.isNone && draft.rules.isEmpty) = true
  · simp only [hempty] at hcompile
    cases hcompile
    exact id
  · simp only [hempty] at hcompile
    cases hduplicate : duplicate? [] draft.ruleNames with
    | some name =>
      rw [hduplicate] at hcompile
      cases hcompile
      exact id
    | none =>
      rw [hduplicate] at hcompile
      change (draft.compileAll {} >>= fun result ↦ _) = _ at hcompile
      cases hall : draft.compileAll {} with
      | error found =>
        rw [hall] at hcompile
        cases hcompile
        exact (stopsFor_compileAll draft {} _ hall).2
      | ok result =>
        rw [hall] at hcompile
        cases hcompile

end Draft

end Packrat
