import Packrat.Proofs.Grammar.Building
import Packrat.Proofs.Terminal.Prefixes

/-!
# Arenas

Children are compiled before the nodes that use them, so in the arena of a grammar they come before
them. Nothing that compilation does breaks this order (`Compile.keeps_expr`): nodes are only added
at the end (`Extends`), and what is found again was added earlier. `Compile.Keeps` says of a
computation that it keeps an invariant of the arena and leaves the nodes where they are, together
with what is known of its value and of the nodes.

Every grammar that is compiled is well formed (`Draft.wellFormed_of_compile`): its nodes fit where
they are, and rule bodies and entry are nodes of the arena.
-/

set_option autoImplicit false
set_option relaxedAutoImplicit false

namespace Packrat

/-! ### Computations that add nodes -/

/-- An arena of nodes goes on from another one: nodes stay where they are. -/
def Extends (known nodes : Array Node) : Prop :=
  ∀ (id : NodeId) (node : Node), known[id]? = some node → nodes[id]? = some node

theorem Extends.refl (nodes : Array Node) : Extends nodes nodes := fun _ _ hnode ↦ hnode

theorem Extends.trans {first second third : Array Node} (hfirst : Extends first second)
    (hsecond : Extends second third) : Extends first third :=
  fun id node hnode ↦ hsecond id node (hfirst id node hnode)

theorem extends_push (nodes : Array Node) (node : Node) : Extends nodes (nodes.push node) := by
  intro id other hother
  have hlt : id < nodes.size := (Array.getElem?_eq_some_iff.mp hother).1
  rw [Array.getElem?_push, if_neg (Nat.ne_of_lt hlt)]
  exact hother

/-- An arena that goes on from another one has no fewer nodes. -/
theorem Extends.size_le {known nodes : Array Node} (hextends : Extends known nodes) :
    known.size ≤ nodes.size := by
  refine Nat.le_of_not_lt fun hless ↦ ?_
  have hnode := hextends nodes.size _ (Array.getElem?_eq_getElem hless)
  exact Nat.lt_irrefl _ (Array.getElem?_eq_some_iff.mp hnode).1

/-- Nodes of an arena are nodes of every arena that goes on from it. -/
theorem Extends.lt_size {known nodes : Array Node} (hextends : Extends known nodes) {id : NodeId}
    (hid : id < known.size) : id < nodes.size :=
  Nat.lt_of_lt_of_le hid hextends.size_le

namespace Compile

section

variable {α β : Type} {invariant : Arena → Prop} {known : Array Node}

/-- A computation that starts with at least some nodes keeps an invariant of the arena, leaves all
nodes where they are, and gives a value of which something is known together with the nodes. -/
def Keeps (invariant : Arena → Prop) (known : Array Node) (computation : Compile α)
    (post : α → Array Node → Prop) : Prop :=
  ∀ arena : Arena, invariant arena → Extends known arena.nodes →
    ∀ value after, computation arena = .ok (value, after) →
      invariant after ∧ Extends known after.nodes ∧ post value after.nodes

/-- Less may be said of the value. -/
theorem Keeps.imp {computation : Compile α} {post weak : α → Array Node → Prop}
    (hkeeps : Keeps invariant known computation post)
    (himp : ∀ value nodes, post value nodes → weak value nodes) :
    Keeps invariant known computation weak := by
  intro arena hinvariant hknown value after hrun
  obtain ⟨hafter, hgrown, hpost⟩ := hkeeps arena hinvariant hknown value after hrun
  exact ⟨hafter, hgrown, himp value _ hpost⟩

theorem keeps_pure {post : α → Array Node → Prop} (value : α)
    (hpost : ∀ nodes, Extends known nodes → post value nodes) :
    Keeps invariant known (pure value) post := by
  intro arena hinvariant hknown found after hrun
  cases hrun
  exact ⟨hinvariant, hknown, hpost _ hknown⟩

theorem keeps_throw {post : α → Array Node → Prop} (error : GrammarError) :
    Keeps invariant known (throw error) post :=
  fun _ _ _ _ _ hrun ↦ nomatch hrun

/-- One computation after another; the second starts with the nodes that the first left. -/
theorem keeps_bind {first : Compile α} {next : α → Compile β} {post : α → Array Node → Prop}
    {goal : β → Array Node → Prop} (hfirst : Keeps invariant known first post)
    (hnext : ∀ value nodes, Extends known nodes → post value nodes →
      Keeps invariant nodes (next value) goal) :
    Keeps invariant known (first >>= next) goal := by
  intro arena hinvariant hknown value after hrun
  change (first arena >>= fun result ↦ next result.1 result.2) = .ok (value, after) at hrun
  cases hresult : first arena with
  | error error =>
    rw [hresult] at hrun
    cases hrun
  | ok result =>
    obtain ⟨found, middle⟩ := result
    rw [hresult] at hrun
    obtain ⟨hmiddle, hgrown, hpost⟩ := hfirst arena hinvariant hknown found middle hresult
    obtain ⟨hafter, hmore, hgoal⟩ :=
      hnext found middle.nodes hgrown hpost middle hmiddle (.refl _) value after hrun
    exact ⟨hafter, hgrown.trans hmore, hgoal⟩

/-- A computation that looks at the arena. -/
theorem keeps_get {next : Arena → Compile β} {goal : β → Array Node → Prop}
    (hnext : ∀ arena : Arena, invariant arena → Extends known arena.nodes →
      Keeps invariant arena.nodes (next arena) goal) :
    Keeps invariant known (get >>= next) goal := by
  intro arena hinvariant hknown value after hrun
  obtain ⟨hafter, hmore, hgoal⟩ :=
    hnext arena hinvariant hknown arena hinvariant (.refl _) value after hrun
  exact ⟨hafter, hknown.trans hmore, hgoal⟩

/-- A computation that does not look at the arena. -/
theorem keeps_lift {post : α → Array Node → Prop} (outcome : Except GrammarError α)
    (hpost : ∀ value, outcome = .ok value → ∀ nodes, Extends known nodes → post value nodes) :
    Keeps invariant known (liftM outcome) post := by
  intro arena hinvariant hknown value after hrun
  cases outcome with
  | error error => cases hrun
  | ok found =>
    cases hrun
    exact ⟨hinvariant, hknown, hpost value rfl _ hknown⟩

/-- Bounds that are accepted are not the wrong way round. -/
theorem keeps_checkBounds (what : String) (least : Nat) (most : Option Nat) :
    Keeps invariant known (checkBounds what least most) fun _ _ ↦
      ∀ bound ∈ most, least ≤ bound := by
  unfold checkBounds
  split
  next => exact keeps_throw _
  next hbounds =>
    refine keeps_pure () fun _ _ bound hbound ↦ ?_
    rw [Option.mem_def] at hbound
    simpa [hbound] using hbounds

end

end Compile

/-! ### Nodes in their places -/

/-- What a node says of itself is in order: the rule that it calls exists, its terminal takes
something, its bounds are not the wrong way round. -/
def Node.IsSound (ruleCount : Nat) : Node → Prop
  | .call rule => rule < ruleCount
  | .terminal form _ _ => form.IsSound
  | .repetition _ least most _ => ∀ bound ∈ most, least ≤ bound
  | _ => True

/-- A node is sound, and its children come before a position. -/
structure Node.Fits (ruleCount position : Nat) (node : Node) : Prop where
  /-- The children come before the position. -/
  children : ∀ child ∈ node.children, child < position
  /-- The node is sound. -/
  sound : node.IsSound ruleCount

theorem Node.Fits.mono {ruleCount position later : Nat} {node : Node}
    (hfits : node.Fits ruleCount position) (hle : position ≤ later) : node.Fits ruleCount later :=
  ⟨fun child hchild ↦ Nat.lt_of_lt_of_le (hfits.children child hchild) hle, hfits.sound⟩

/-- The invariant of arenas: every node fits where it is, and what is found again is there. -/
structure Arena.Ordered (ruleCount : Nat) (arena : Arena) : Prop where
  /-- Every node fits at its position. -/
  fits : ∀ (id : NodeId) (node : Node), arena.nodes[id]? = some node → node.Fits ruleCount id
  /-- The nodes of expressions are in the arena. -/
  compiled : ∀ (key : Nat × SkipSource) (id : NodeId), arena.compiled[key]? = some id →
    id < arena.nodes.size
  /-- The call nodes of rules are in the arena. -/
  calls : ∀ (rule : Nat) (id : NodeId), arena.calls[rule]? = some id → id < arena.nodes.size

theorem Arena.ordered_empty (ruleCount : Nat) : ({} : Arena).Ordered ruleCount := by
  refine ⟨fun id node hnode ↦ ?_, fun key id hid ↦ ?_, fun rule id hid ↦ ?_⟩
  · simp at hnode
  · simp at hid
  · simp at hid

namespace Compile

variable {ruleCount : Nat} {known : Array Node}

theorem keeps_push {node : Node} (hfits : node.Fits ruleCount known.size) :
    Keeps (Arena.Ordered ruleCount) known (push node) fun id nodes ↦ id < nodes.size := by
  intro arena hordered hknown id after hrun
  cases hrun
  have hsize : (arena.nodes.push node).size = arena.nodes.size + 1 := Array.size_push node
  refine ⟨⟨fun other found hfound ↦ ?_, fun key other hother ↦ ?_, fun rule other hother ↦ ?_⟩,
    hknown.trans (extends_push _ _), ?_⟩
  · change (arena.nodes.push node)[other]? = some found at hfound
    rw [Array.getElem?_push] at hfound
    split at hfound
    next heq =>
      cases hfound
      exact heq ▸ hfits.mono hknown.size_le
    next => exact hordered.fits other found hfound
  · have hlt := hordered.compiled key other hother
    exact hsize ▸ Nat.lt_succ_of_lt hlt
  · have hlt := hordered.calls rule other hother
    exact hsize ▸ Nat.lt_succ_of_lt hlt
  · change arena.nodes.size < (arena.nodes.push node).size
    exact hsize ▸ Nat.lt_succ_self _

/-- A node without children fits anywhere if it is sound. -/
theorem fits_leaf {position : Nat} {node : Node} (hchildren : node.children = [])
    (hsound : node.IsSound ruleCount) : node.Fits ruleCount position :=
  ⟨fun _ hchild ↦ absurd (hchildren ▸ hchild) List.not_mem_nil, hsound⟩

/-- Compiling a child and adding a sound node around it. -/
theorem keeps_wrap {child : Compile NodeId} {wrap : NodeId → Node}
    (hchild : Keeps (Arena.Ordered ruleCount) known child fun id nodes ↦ id < nodes.size)
    (hwrap : ∀ id, (wrap id).children = [id] ∧ (wrap id).IsSound ruleCount) :
    Keeps (Arena.Ordered ruleCount) known (child >>= fun id ↦ push (wrap id))
      fun id nodes ↦ id < nodes.size := by
  refine keeps_bind hchild fun id nodes _ hid ↦ keeps_push ⟨fun other hother ↦ ?_, (hwrap id).2⟩
  rw [(hwrap id).1] at hother
  exact List.mem_singleton.mp hother ▸ hid

theorem keeps_insert_compiled {key : Nat × SkipSource} {id : NodeId} (hid : id < known.size) :
    Keeps (Arena.Ordered ruleCount) known (modify fun arena ↦
      { arena with compiled := arena.compiled.insert key id }) fun _ _ ↦ True := by
  intro arena hordered hknown value after hrun
  cases hrun
  refine ⟨⟨hordered.fits, fun other found hfound ↦ ?_, hordered.calls⟩, hknown, True.intro⟩
  change (arena.compiled.insert key id)[other]? = some found at hfound
  rw [Std.HashMap.getElem?_insert] at hfound
  split at hfound
  · cases hfound
    exact hknown.lt_size hid
  · exact hordered.compiled other found hfound

theorem keeps_insert_calls {rule : Nat} {id : NodeId} (hid : id < known.size) :
    Keeps (Arena.Ordered ruleCount) known (modify fun arena ↦
      { arena with calls := arena.calls.insert rule id }) fun _ _ ↦ True := by
  intro arena hordered hknown value after hrun
  cases hrun
  refine ⟨⟨hordered.fits, hordered.compiled, fun other found hfound ↦ ?_⟩, hknown, True.intro⟩
  change (arena.calls.insert rule id)[other]? = some found at hfound
  rw [Std.HashMap.getElem?_insert] at hfound
  split at hfound
  · cases hfound
    exact hknown.lt_size hid
  · exact hordered.calls other found hfound

/-! ### Parts of compilation -/

theorem fits_terminalNode {position : Nat} {terminal : Terminal} {skip : Option CharSet}
    {expected : String} {node : Node} (hnode : terminalNode terminal skip expected = .ok node) :
    node.Fits ruleCount position := by
  unfold terminalNode at hnode
  split at hnode
  next =>
    cases hnode
    exact fits_leaf rfl True.intro
  next hliteral =>
    split at hnode
    next => cases hnode
    next hfault =>
      cases hnode
      rw [not_or] at hliteral
      exact fits_leaf rfl ⟨hliteral.1, hliteral.2, hfault⟩

/-- The node of a regular expression fits anywhere. -/
theorem fits_regexNode {position : Nat} {engine : RegexEngine} {pattern : String}
    {skip : Option CharSet} {expected : String} {node : Node}
    (hnode : regexNode engine pattern skip expected = .ok node) :
    node.Fits ruleCount position := by
  unfold regexNode at hnode
  split at hnode
  · cases hnode
    exact fits_leaf rfl True.intro
  · cases hnode

theorem keeps_call (names : List String) (name : String) (known : Array Node) :
    Keeps (Arena.Ordered names.length) known (call names name) fun id nodes ↦ id < nodes.size := by
  unfold call
  split
  next => exact keeps_throw _
  next rule hrule =>
    refine keeps_get fun arena hordered _ ↦ ?_
    split
    next id hid =>
      have hlt := hordered.calls rule id hid
      exact keeps_pure id fun nodes hnodes ↦ hnodes.lt_size hlt
    next =>
      have hfits : (Node.call rule).Fits names.length arena.nodes.size :=
        fits_leaf rfl (List.idxOf?_eq_some_iff.mp hrule).1
      refine keeps_bind (keeps_push hfits) fun id nodes _ hid ↦ ?_
      refine keeps_bind (keeps_insert_calls hid) fun _ later hlater _ ↦ ?_
      exact keeps_pure id fun last hlast ↦ (hlater.trans hlast).lt_size hid

mutual

/-- Compiling an expression keeps the order and gives a node of the arena. -/
theorem keeps_expr (names : List String) (around : Surrounding) (known : Array Node) :
    ∀ expression : Expr, Keeps (Arena.Ordered names.length) known (expr names around expression)
      fun id nodes ↦ id < nodes.size
  | ⟨identity, shape⟩ => by
    rw [expr]
    refine keeps_get fun arena hordered _ ↦ ?_
    split
    next id hid =>
      have hlt := hordered.compiled _ id hid
      exact keeps_pure id fun nodes hnodes ↦ hnodes.lt_size hlt
    next =>
      refine keeps_bind (keeps_lower names around identity arena.nodes shape)
        fun id nodes _ hid ↦ ?_
      refine keeps_bind (keeps_insert_compiled hid) fun _ later hlater _ ↦ ?_
      exact keeps_pure id fun last hlast ↦ (hlater.trans hlast).lt_size hid

/-- Compiling a shape keeps the order and gives a node of the arena. -/
theorem keeps_lower (names : List String) (around : Surrounding) (identity : Nat)
    (known : Array Node) : ∀ shape : Shape,
      Keeps (Arena.Ordered names.length) known (lower names around identity shape)
        fun id nodes ↦ id < nodes.size
  | .empty => by
    rw [lower]
    exact keeps_push (fits_leaf rfl True.intro)
  | .textEnd => by
    rw [lower]
    exact keeps_push (fits_leaf rfl True.intro)
  | .terminal terminal => by
    rw [lower]
    refine keeps_bind (keeps_lift _ fun node hnode _ _ ↦ hnode) fun node nodes _ hnode ↦ ?_
    exact keeps_push (fits_terminalNode hnode)
  | .regex engine pattern => by
    rw [lower]
    refine keeps_bind (keeps_lift _ fun node hnode _ _ ↦ hnode) fun node nodes _ hnode ↦ ?_
    exact keeps_push (fits_regexNode hnode)
  | .sequence parts commit => by
    rw [lower]
    refine keeps_bind (keeps_exprs names around known parts) fun ids nodes _ hids ↦ ?_
    exact keeps_push ⟨hids.2, True.intro⟩
  | .choice alternatives => by
    rw [lower]
    refine keeps_bind (keeps_exprs names around known alternatives) fun ids nodes _ hids ↦ ?_
    exact keeps_push ⟨hids.2, True.intro⟩
  | .optional child default => by
    rw [lower]
    exact keeps_wrap (keeps_expr names around known child) fun _ ↦ ⟨rfl, True.intro⟩
  | .repetition child lowest most => by
    rw [lower]
    refine keeps_bind (keeps_checkBounds "repetition" lowest most) fun _ nodes _ hbounds ↦ ?_
    exact keeps_wrap (keeps_expr names around nodes child) fun _ ↦ ⟨rfl, hbounds⟩
  | .delimited item separator form => by
    rw [lower]
    refine keeps_bind (keeps_checkBounds "delimited list" form.least form.most)
      fun _ nodes _ _ ↦ ?_
    refine keeps_bind (keeps_expr names around nodes item) fun first later _ hfirst ↦ ?_
    refine keeps_bind (keeps_expr names around later separator) fun second last hlast hsecond ↦ ?_
    refine keeps_push ⟨fun child hchild ↦ ?_, True.intro⟩
    rcases List.mem_cons.mp hchild with rfl | hother
    · exact hlast.lt_size hfirst
    · exact List.mem_singleton.mp hother ▸ hsecond
  | .lookahead child negative => by
    rw [lower]
    exact keeps_wrap (keeps_expr names around known child) fun _ ↦ ⟨rfl, True.intro⟩
  | .suppress child => by
    rw [lower]
    exact keeps_wrap (keeps_expr names around known child) fun _ ↦ ⟨rfl, True.intro⟩
  | .group child => by
    rw [lower]
    exact keeps_wrap (keeps_expr names around known child) fun _ ↦ ⟨rfl, True.intro⟩
  | .combine child joiner => by
    rw [lower]
    exact keeps_wrap (keeps_expr names .bare known child) fun _ ↦ ⟨rfl, True.intro⟩
  | .rule name => by
    rw [lower]
    exact keeps_call names name known
  | .named child name accumulate => by
    rw [lower]
    exact keeps_wrap (keeps_expr names around known child) fun _ ↦ ⟨rfl, True.intro⟩
  | .action child actions => by
    rw [lower]
    exact keeps_wrap (keeps_expr names around known child) fun _ ↦ ⟨rfl, True.intro⟩
  | .labeled child label => by
    rw [lower]
    exact keeps_wrap (keeps_expr names around known child) fun _ ↦ ⟨rfl, True.intro⟩
  | .blanks child set => by
    rw [lower]
    exact keeps_expr names (.override identity set) known child

/-- Compiling expressions keeps the order and gives as many nodes of the arena. -/
theorem keeps_exprs (names : List String) (around : Surrounding) (known : Array Node) :
    ∀ expressions : List Expr,
      Keeps (Arena.Ordered names.length) known (exprs names around expressions)
        fun ids nodes ↦ ids.length = expressions.length ∧ ∀ id ∈ ids, id < nodes.size
  | [] => by
    rw [exprs]
    exact keeps_pure [] fun _ _ ↦ ⟨rfl, fun _ hid ↦ nomatch hid⟩
  | first :: rest => by
    rw [exprs]
    refine keeps_bind (keeps_expr names around known first) fun id nodes _ hid ↦ ?_
    refine keeps_bind (keeps_exprs names around nodes rest) fun ids later hlater hids ↦ ?_
    refine keeps_pure (id :: ids) fun last hlast ↦ ⟨by simp [hids.1], fun other hother ↦ ?_⟩
    rcases List.mem_cons.mp hother with rfl | hmore
    · exact (hlater.trans hlast).lt_size hid
    · exact hlast.lt_size (hids.2 other hmore)

end

/-- Compiling the entry keeps the order and gives a node of the arena. -/
theorem keeps_compileEntry (draft : Draft) (known : Array Node) :
    Keeps (Arena.Ordered draft.ruleNames.length) known draft.compileEntry
      fun entry nodes ↦ ∀ id ∈ entry, id < nodes.size := by
  unfold Draft.compileEntry
  split
  · exact keeps_pure none fun _ _ _ hid ↦ nomatch hid
  · refine keeps_bind (keeps_call _ _ known) fun id nodes _ hid ↦ ?_
    refine keeps_pure (some id) fun last hlast other hother ↦ ?_
    cases hother
    exact hlast.lt_size hid
  · refine keeps_bind (keeps_expr _ _ known _) fun id nodes _ hid ↦ ?_
    refine keeps_pure (some id) fun last hlast other hother ↦ ?_
    cases hother
    exact hlast.lt_size hid

/-- Compiling a draft keeps the order and gives nodes of the arena. -/
theorem keeps_compileAll (draft : Draft) (known : Array Node) :
    Keeps (Arena.Ordered draft.ruleNames.length) known draft.compileAll fun compiled nodes ↦
      compiled.1.length = draft.ruleNames.length ∧ (∀ id ∈ compiled.1, id < nodes.size) ∧
        ∀ id ∈ compiled.2, id < nodes.size := by
  unfold Draft.compileAll
  refine keeps_bind (keeps_exprs _ _ known _) fun bodies nodes _ hbodies ↦ ?_
  refine keeps_bind (keeps_compileEntry draft nodes) fun entry later hlater hentry ↦ ?_
  refine keeps_pure (bodies, entry) fun last hlast ↦ ⟨?_, fun id hid ↦ ?_, fun id hid ↦ ?_⟩
  · rw [hbodies.1, List.length_map, Draft.ruleNames, List.length_map]
  · exact (hlater.trans hlast).lt_size (hbodies.2 id hid)
  · exact hlast.lt_size (hentry id hid)

end Compile

/-! ### Compiled grammars -/

/-- The nodes of a grammar fit where they are, and rule bodies and entry are among them. -/
structure Grammar.WellFormed (grammar : Grammar) : Prop where
  /-- Every node fits at its position. -/
  fits : ∀ id < grammar.nodeCount, (grammar.node id).Fits grammar.ruleBodies.length id
  /-- Rule bodies are nodes. -/
  bodies : ∀ id ∈ grammar.ruleBodies, id < grammar.nodeCount
  /-- The entry is a node. -/
  entry : ∀ id ∈ grammar.entry, id < grammar.nodeCount

theorem Grammar.WellFormed.ruleBody_lt {grammar : Grammar} (hformed : grammar.WellFormed)
    {rule : Nat} (hrule : rule < grammar.ruleBodies.length) :
    grammar.ruleBody rule < grammar.nodeCount := by
  rw [ruleBody, List.getElem?_eq_getElem hrule]
  exact hformed.bodies _ (List.getElem_mem hrule)

/-- The checks and computations of which compilation is made. -/
theorem Draft.compile_eq_ok_iff {draft : Draft} {grammar : Grammar} :
    draft.compile = .ok grammar ↔
      (draft.entry.isSome = true ∨ draft.rules ≠ []) ∧ Draft.duplicate? [] draft.ruleNames = none ∧
        ∃ bodies entry arena, draft.compileAll {} = .ok ((bodies, entry), arena) ∧
          grammar = { nodes := arena.nodes, ruleNames := draft.ruleNames, ruleBodies := bodies,
                      entry := entry, config := draft.config } := by
  unfold Draft.compile
  by_cases hempty : (draft.entry.isNone && draft.rules.isEmpty) = true
  · have hnothing : ¬ (draft.entry.isSome = true ∨ draft.rules ≠ []) := by
      simpa [Option.isNone_iff_eq_none, not_or] using hempty
    simp only [hempty, hnothing, false_and, iff_false]
    exact fun hcompile ↦ nomatch hcompile
  · have hsomething : draft.entry.isSome = true ∨ draft.rules ≠ [] := by
      cases hentry : draft.entry with
      | some point => exact Or.inl rfl
      | none =>
        refine Or.inr fun hrules ↦ hempty ?_
        rw [hentry, hrules]
        rfl
    simp only [hempty, hsomething, true_and]
    cases hduplicate : Draft.duplicate? [] draft.ruleNames with
    | some name => exact ⟨fun hcompile ↦ (nomatch hcompile), fun hother ↦ nomatch hother.1⟩
    | none =>
      change ((draft.compileAll {} >>= fun result ↦ _) = _) ↔ _
      cases hall : draft.compileAll {} with
      | error error =>
        exact ⟨fun hcompile ↦ (nomatch hcompile), fun ⟨_, _, _, _, hother, _⟩ ↦ nomatch hother⟩
      | ok result =>
        constructor
        · intro hcompile
          cases hcompile
          exact ⟨rfl, result.1.1, result.1.2, result.2, rfl, rfl⟩
        · rintro ⟨-, bodies, entry, arena, hother, rfl⟩
          cases hother
          rfl

theorem Draft.compile_eq_ok {draft : Draft} {grammar : Grammar}
    (hcompile : draft.compile = .ok grammar) :
    ∃ bodies entry arena, draft.compileAll {} = .ok ((bodies, entry), arena) ∧
      grammar = { nodes := arena.nodes, ruleNames := draft.ruleNames, ruleBodies := bodies,
                  entry := entry, config := draft.config } :=
  (Draft.compile_eq_ok_iff.mp hcompile).2.2

/-- A draft that compiles gives a well-formed grammar. -/
theorem Draft.wellFormed_of_compile {draft : Draft} {grammar : Grammar}
    (hcompile : draft.compile = .ok grammar) : grammar.WellFormed := by
  obtain ⟨bodies, entry, arena, hall, rfl⟩ := Draft.compile_eq_ok hcompile
  obtain ⟨hordered, -, hlength, hbodies, hentry⟩ := Compile.keeps_compileAll draft #[] {}
    (Arena.ordered_empty _) (.refl _) (bodies, entry) arena hall
  refine ⟨fun id hid ↦ ?_, hbodies, hentry⟩
  have hnode : arena.nodes[id]? = some arena.nodes[id] := Array.getElem?_eq_getElem hid
  have hfits := hordered.fits id _ hnode
  rw [← hlength] at hfits
  rw [Grammar.node, hnode]
  exact hfits

end Packrat
