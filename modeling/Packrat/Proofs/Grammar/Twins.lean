import Packrat.Proofs.Grammar.Building
import Packrat.Proofs.Grammar.Copies
import Packrat.Proofs.Grammar.LeftCalls
import Packrat.Proofs.Grammar.Nullability
import Packrat.Proofs.Grammar.Orders

/-!
# Grammars of one draft

A draft may become different grammars, since it is left open which expressions share a node, and one
that binds the same rules in another order becomes yet another one. Nodes of two such grammars are
twins if they stand for the same expression. Twins have twins for children, and every node has a
twin (`Draft.Reorders.exists_twin`). So twins are marked as nullable alike and call twins on the
left, and either grammar is refused when the other one is.

A copy of a draft and the draft itself share their anonymous draft, so a copy builds when the draft
does (`Draft.exists_build_of_anonymous_eq`), and so does a draft with the same rules in another
order (`Draft.Reorders.exists_build`).
-/

set_option autoImplicit false
set_option relaxedAutoImplicit false

namespace Packrat

/-! ### Nodes of one shape -/

namespace Compile

/-- The node of a terminal is empty or the terminal. -/
theorem terminalNode_cases {terminal : Terminal} {skip : Option CharSet} {expected : String}
    {node : Node} (hnode : terminalNode terminal skip expected = .ok node) :
    node = .empty ∨ node = .terminal terminal skip expected := by
  unfold terminalNode at hnode
  split at hnode
  · exact Or.inl (Except.ok.inj hnode).symm
  · split at hnode
    · cases hnode
    · exact Or.inr (Except.ok.inj hnode).symm

theorem regexNode_cases {engine : RegexEngine} {pattern : String} {skip : Option CharSet}
    {expected : String} {node : Node} (hnode : regexNode engine pattern skip expected = .ok node) :
    ∃ regex, node = .regex regex skip expected := by
  unfold regexNode at hnode
  split at hnode
  · exact ⟨_, (Except.ok.inj hnode).symm⟩
  · cases hnode

end Compile

section

variable {ids twins : List NodeId}

/-- What is true of all of some nodes is true of all their twins. -/
theorem all_of_forall₂ {known known' : NodeId → Bool}
    (hknown : List.Forall₂ (fun id twin ↦ known id = true → known' twin = true) ids twins)
    (hall : ids.all known = true) : twins.all known' = true := by
  induction hknown with
  | nil => rfl
  | cons hfirst _ ih =>
    rw [List.all_cons, Bool.and_eq_true] at hall ⊢
    exact ⟨hfirst hall.1, ih hall.2⟩

/-- What is true of some of several nodes is true of some of their twins. -/
theorem any_of_forall₂ {known known' : NodeId → Bool}
    (hknown : List.Forall₂ (fun id twin ↦ known id = true → known' twin = true) ids twins)
    (hany : ids.any known = true) : twins.any known' = true := by
  induction hknown with
  | nil => exact hany
  | cons hfirst _ ih =>
    rw [List.any_cons, Bool.or_eq_true] at hany ⊢
    exact hany.imp hfirst ih

/-- The leading parts of sequences are related like the parts, if these are marked alike. -/
theorem Grammar.forall₂_leadingParts {marks marks' : Array Bool} {related : NodeId → NodeId → Prop}
    (hsame : List.Forall₂ (fun id twin ↦ related id twin ∧ isMarked marks id = isMarked marks' twin)
      ids twins) : List.Forall₂ related (leadingParts marks ids) (leadingParts marks' twins) := by
  induction hsame with
  | nil => exact .nil
  | cons hfirst _ ih =>
    rw [leadingParts, leadingParts, ← hfirst.2]
    refine .cons hfirst.1 ?_
    split
    · exact ih
    · exact .nil

end

namespace Shape.Lowers

variable {names others : List String} {skip : Option CharSet} {shape : Shape}
  {ids twins : List NodeId} {node twin : Node}

/-- A node of a shape can match nothing by some marks if another one can by marks that its children
have too. -/
theorem nullable_of_nullable (hnode : shape.Lowers names skip ids node)
    (htwin : shape.Lowers others skip twins twin) {known known' : NodeId → Bool}
    {knownRule knownRule' : Nat → Bool}
    (hknown : List.Forall₂ (fun id other ↦ known id = true → known' other = true) ids twins)
    (hrule : ∀ name rule other, names.idxOf? name = some rule → others.idxOf? name = some other →
      knownRule rule = true → knownRule' other = true)
    (hnullable : node.nullable known knownRule = true) :
    twin.nullable known' knownRule' = true := by
  cases hnode with
  | empty =>
    cases htwin
    rfl
  | textEnd =>
    cases htwin
    rfl
  | terminal hnode =>
    cases htwin with
    | terminal htwin =>
      obtain rfl := Except.ok.inj (hnode.symm.trans htwin)
      rcases Compile.terminalNode_cases hnode with rfl | rfl
      · rfl
      · exact hnullable
  | regex hnode =>
    cases htwin with
    | regex htwin =>
      obtain rfl := Except.ok.inj (hnode.symm.trans htwin)
      obtain ⟨_, rfl⟩ := Compile.regexNode_cases hnode
      exact hnullable
  | sequence parts commit =>
    cases htwin
    exact all_of_forall₂ hknown hnullable
  | choice alternatives =>
    cases htwin
    exact any_of_forall₂ hknown hnullable
  | optional child default id =>
    cases htwin
    rfl
  | repetition child least most id =>
    cases htwin
    rw [Node.nullable, Bool.or_eq_true] at hnullable ⊢
    exact hnullable.imp_right (List.forall₂_cons.mp hknown).1
  | delimited item separator form first second =>
    cases htwin
    rw [Node.nullable, Bool.or_eq_true] at hnullable ⊢
    exact hnullable.imp_right (List.forall₂_cons.mp hknown).1
  | lookahead child negative id =>
    cases htwin
    rfl
  | rule hnumber =>
    cases htwin with
    | rule hsame => exact hrule _ _ _ hnumber hsame hnullable
  | _ =>
    cases htwin
    exact (List.forall₂_cons.mp hknown).1 hnullable

/-- Nodes of one shape call related nodes on the left if their children are related and marked
alike, and so are the bodies of rules. -/
theorem forall₂_leftChildren (hnode : shape.Lowers names skip ids node)
    (htwin : shape.Lowers others skip twins twin) {first second : Grammar}
    {marks marks' : Array Bool} {related : NodeId → NodeId → Prop}
    (hsame : List.Forall₂ (fun id other ↦ related id other ∧
      Grammar.isMarked marks id = Grammar.isMarked marks' other) ids twins)
    (hrule : ∀ name rule other, names.idxOf? name = some rule → others.idxOf? name = some other →
      related (first.ruleBody rule) (second.ruleBody other)) :
    List.Forall₂ related (first.leftChildren marks node) (second.leftChildren marks' twin) := by
  have hrelated := hsame.imp fun _ _ hboth ↦ hboth.1
  cases hnode with
  | terminal hnode =>
    cases htwin with
    | terminal htwin =>
      obtain rfl := Except.ok.inj (hnode.symm.trans htwin)
      rcases Compile.terminalNode_cases hnode with rfl | rfl
      · exact .nil
      · exact .nil
  | regex hnode =>
    cases htwin with
    | regex htwin =>
      obtain rfl := Except.ok.inj (hnode.symm.trans htwin)
      obtain ⟨_, rfl⟩ := Compile.regexNode_cases hnode
      exact .nil
  | sequence parts commit =>
    cases htwin
    exact Grammar.forall₂_leadingParts hsame
  | delimited item separator form first second =>
    cases htwin
    exact Grammar.forall₂_leadingParts hsame
  | rule hnumber =>
    cases htwin with
    | rule hother => exact .cons (hrule _ _ _ hnumber hother) .nil
  | _ =>
    cases htwin
    exact hrelated

/-- A node of a shape repeats without end what can match nothing if another one does whose children
are marked alike. -/
theorem stalls_of_stalls (hnode : shape.Lowers names skip ids node)
    (htwin : shape.Lowers others skip twins twin) {marks marks' : Array Bool}
    (hmarks : List.Forall₂ (fun id other ↦
      Grammar.isMarked marks id = Grammar.isMarked marks' other) ids twins)
    (hstalls : node.Stalls marks) : twin.Stalls marks' := by
  cases hnode with
  | repetition child least most id =>
    cases htwin
    have hchild := (List.forall₂_cons.mp hmarks).1
    cases most with
    | none => exact hchild.symm.trans hstalls
    | some most => exact hstalls
  | delimited item separator form first second =>
    cases htwin
    obtain ⟨hfirst, hrest⟩ := List.forall₂_cons.mp hmarks
    have hsecond := (List.forall₂_cons.mp hrest).1
    exact ⟨hstalls.1, hfirst ▸ hstalls.2.1, hsecond ▸ hstalls.2.2⟩
  | terminal hnode =>
    rcases Compile.terminalNode_cases hnode with rfl | rfl
    · exact hstalls.elim
    · exact hstalls.elim
  | regex hnode =>
    obtain ⟨_, rfl⟩ := Compile.regexNode_cases hnode
    exact hstalls.elim
  | _ => exact hstalls.elim

end Shape.Lowers

/-! ### Twins -/

/-- Nodes of two grammars, whose rules have their own names each, stand for the same expression with
the same characters skipped around it. -/
def Twins (names others : List String) (first second : Array Node) (id twin : NodeId) : Prop :=
  ∃ skip expr, Expr.CompilesTo first names skip expr id ∧
  Expr.CompilesTo second others skip expr twin

namespace Twins

variable {names others : List String} {first second : Array Node} {id twin : NodeId}

theorem symm (htwins : Twins names others first second id twin) :
    Twins others names second first twin id :=
  let ⟨skip, expr, hfirst, hsecond⟩ := htwins
  ⟨skip, expr, hsecond, hfirst⟩

/-- What the same expressions become are twins, one by one. -/
theorem forall₂_of_children {children : List (Option CharSet × Expr)} {ids twins : List NodeId}
    (hids : List.Forall₂ (fun child inner ↦ Expr.CompilesTo first names child.1 child.2 inner)
      children ids)
    (htwins : List.Forall₂ (fun child inner ↦ Expr.CompilesTo second others child.1 child.2 inner)
      children twins) : List.Forall₂ (Twins names others first second) ids twins := by
  induction hids generalizing twins with
  | nil =>
    cases htwins
    exact .nil
  | cons hchild _ ih =>
    cases htwins with
    | cons htwin hrest => exact .cons ⟨_, _, hchild, htwin⟩ (ih hrest)

theorem lowers (htwins : Twins names others first second id twin) :
    ∃ skip shape node other ids twins, first[id]? = some node ∧ second[twin]? = some other ∧
      Shape.Lowers names skip shape ids node ∧ Shape.Lowers others skip shape twins other ∧
      List.Forall₂ (Twins names others first second) ids twins := by
  obtain ⟨skip, expr, hfirst, hsecond⟩ := htwins
  obtain ⟨node, ids, hnode, hlowers, hids⟩ := hfirst.lowers
  obtain ⟨other, twins, hother, hlowers', htwins⟩ := hsecond.lowers
  exact ⟨_, _, node, other, ids, twins, hnode, hother, hlowers, hlowers',
    forall₂_of_children hids htwins⟩

end Twins

/-- The rules of one name have twins as bodies in two grammars. -/
def RuleTwins (names others : List String) (first second : Grammar) : Prop :=
  ∀ name rule same, names.idxOf? name = some rule → others.idxOf? name = some same →
    Twins names others first.nodes second.nodes (first.ruleBody rule) (second.ruleBody same)

namespace RuleTwins

variable {names others : List String} {first second : Grammar} {id twin : NodeId}

theorem symm (hrules : RuleTwins names others first second) : RuleTwins others names second first :=
  fun name rule same hrule hsame ↦ (hrules name same rule hsame hrule).symm

variable (hrules : RuleTwins names others first second)
  (htwins : Twins names others first.nodes second.nodes id twin)

include hrules htwins

/-- Twins of nodes that can match nothing can match nothing. A node is due a mark if all its twins
are marked. -/
theorem isMarked_of_isMarked (hmarked : Grammar.isMarked first.nullable id = true) :
    Grammar.isMarked second.nullable twin = true := by
  refine Grammar.due_of_isMarked_nullable (fun id ↦ ∀ twin,
    Twins names others first.nodes second.nodes id twin →
      Grammar.isMarked second.nullable twin = true) ?_ hmarked twin htwins
  intro marks hmarks id _ hnullable twin htwins
  obtain ⟨skip, shape, node, double, ids, twins, hnode, hdouble, hlowers, hlowers', hchildren⟩ :=
    htwins.lowers
  have hinside := (Array.getElem?_eq_some_iff.mp hdouble).1
  refine Grammar.isMarked_nullable hinside ?_
  rw [Grammar.nullableBy, Grammar.node, hnode] at hnullable
  rw [Grammar.nullableBy, Grammar.node, hdouble]
  refine hlowers.nullable_of_nullable hlowers' (hchildren.imp fun child other hpair hmarked ↦
    hmarks child hmarked other hpair) (fun name rule same hrule hother hmarked ↦ ?_) hnullable
  exact hmarks _ hmarked _ (hrules name rule same hrule hother)

theorem isMarked_eq : Grammar.isMarked first.nullable id =
    Grammar.isMarked second.nullable twin := by
  rw [Bool.eq_iff_iff]
  exact ⟨hrules.isMarked_of_isMarked htwins, hrules.symm.isMarked_of_isMarked htwins.symm⟩

/-- Left calls from the twin of a node end if they end from the node: twins call twins on the
left. -/
theorem acc_leftCalls (hacc : Acc (first.LeftCalls first.nullable) id) :
    Acc (second.LeftCalls second.nullable) twin := by
  induction hacc generalizing twin with
  | intro id _ ih =>
    obtain ⟨skip, shape, node, double, ids, twins, hnode, hdouble, hlowers, hlowers', hchildren⟩ :=
      htwins.lowers
    have hmarks := hchildren.imp fun _ _ hpair ↦ And.intro hpair (hrules.isMarked_eq hpair)
    have hcalls : List.Forall₂ (Twins names others first.nodes second.nodes)
        (first.leftChildren first.nullable node) (second.leftChildren second.nullable double) :=
      hlowers.forall₂_leftChildren hlowers' hmarks hrules
    refine Acc.intro twin fun child hchild ↦ ?_
    rw [Grammar.LeftCalls, Grammar.node, hdouble] at hchild
    obtain ⟨origin, hpair⟩ := exists_mem_zip_right hcalls.length_eq hchild
    refine ih origin ?_ ((List.forall₂_iff_zip.mp hcalls).2 hpair)
    rw [Grammar.LeftCalls, Grammar.node, hnode]
    exact (List.of_mem_zip hpair).1

/-- A repetition that is refused has a twin that is refused. -/
theorem stalls_of_stalls (hstalls : (first.node id).Stalls first.nullable) :
    (second.node twin).Stalls second.nullable := by
  obtain ⟨skip, shape, node, double, ids, twins, hnode, hdouble, hlowers, hlowers', hchildren⟩ :=
    htwins.lowers
  rw [Grammar.node, hnode] at hstalls
  rw [Grammar.node, hdouble]
  exact hlowers.stalls_of_stalls hlowers' (hchildren.imp fun _ _ hpair ↦ hrules.isMarked_eq hpair)
    hstalls

end RuleTwins

namespace Draft

variable {draft other : Draft} {first second : Grammar} {id twin : NodeId}

theorem LowersTo.exists_node (hlowers : draft.LowersTo first) {skip : Option CharSet} {expr : Expr}
    (hcovers : draft.Covers skip expr) :
    ∃ id, Expr.CompilesTo first.nodes draft.ruleNames skip expr id := by
  cases hcovers with
  | reaches hreaches =>
    induction hreaches with
    | body hbody =>
      obtain ⟨id, hpair⟩ := exists_mem_zip hlowers.bodies.length_eq hbody
      exact ⟨id, (List.forall₂_iff_zip.mp hlowers.bodies).2 hpair⟩
    | entry hpoint =>
      obtain ⟨id, -, hid⟩ := hlowers.exists_entry hpoint (.expr _)
      exact ⟨id, hid⟩
    | child _ hchild ih => exact ih.choose_spec.exists_child hchild
  | entry hpoint hmeans =>
    obtain ⟨id, -, hid⟩ := hlowers.exists_entry hpoint hmeans
    exact ⟨id, hid⟩

/-- The rules of one name have twins as bodies, if the rules of the one draft are bound in the
other. -/
theorem Within.ruleTwins (hwithin : draft.Within other) (hfirst : draft.LowersTo first)
    (hsecond : other.LowersTo second) : RuleTwins draft.ruleNames other.ruleNames first second := by
  intro name rule same hrule hother
  obtain ⟨body, id, hbody, -, rfl, hid⟩ := hfirst.exists_body hrule
  obtain ⟨copy, twin, hcopy, -, rfl, htwin⟩ := hsecond.exists_body hother
  rw [hwithin.body? name body hbody] at hcopy
  obtain rfl := Option.some.inj hcopy
  rw [hwithin.config] at htwin
  exact ⟨draft.config.skip, body, hid, htwin⟩

namespace Reorders

variable (hsame : draft.Reorders other) (hfirst : draft.LowersTo first)
  (hsecond : other.LowersTo second)

include hsame hfirst hsecond

/-- Every node has a twin in the grammar of every draft with the same rules. -/
theorem exists_twin (htwin : twin < second.nodeCount) :
    ∃ id, Twins draft.ruleNames other.ruleNames first.nodes second.nodes id twin := by
  obtain ⟨skip, expr, hcovers, hexpr⟩ := hsecond.covered twin htwin
  obtain ⟨id, hid⟩ := hfirst.exists_node (hsame.symm.covers hcovers)
  exact ⟨id, skip, expr, hid, hexpr⟩

/-- The rules that are found under one name have twins as bodies, or there is no such rule in either
grammar. -/
theorem twins_findRule (name : String) :
    Option.Rel (Twins draft.ruleNames other.ruleNames first.nodes second.nodes)
      (first.findRule? name) (second.findRule? name) := by
  by_cases hname : name ∈ draft.ruleNames
  · obtain ⟨rule, hrule⟩ := Option.isSome_iff_exists.mp (List.isSome_idxOf?.mpr hname)
    obtain ⟨same, hother⟩ := Option.isSome_iff_exists.mp
      (List.isSome_idxOf?.mpr (hsame.mem_ruleNames.mpr hname))
    have htwins := hsame.within.ruleTwins hfirst hsecond name rule same hrule hother
    obtain ⟨-, id, -, hid, rfl, -⟩ := hfirst.exists_body hrule
    obtain ⟨-, twin, -, htwin, rfl, -⟩ := hsecond.exists_body hother
    rw [hid, htwin]
    exact .some htwins
  · have hother : name ∉ other.ruleNames := fun hmem ↦ hname (hsame.mem_ruleNames.mp hmem)
    rw [Grammar.findRule?, Grammar.findRule?, hfirst.ruleNames, hsecond.ruleNames,
      List.idxOf?_eq_none_iff.mpr hname, List.idxOf?_eq_none_iff.mpr hother]
    exact .none

/-- The entries are twins, or there is none in either grammar. -/
theorem twins_entry :
    Option.Rel (Twins draft.ruleNames other.ruleNames first.nodes second.nodes) first.entry
      second.entry := by
  cases hpoint : draft.entry with
  | none =>
    have hentry := hfirst.entry
    have hother := hsecond.entry
    rw [hsame.entry] at hother
    rw [hpoint] at hentry hother
    generalize first.entry = start, second.entry = start' at hentry hother
    cases hentry
    cases hother
    exact .none
  | some point =>
    obtain ⟨expr, hmeans⟩ := point.exists_means
    obtain ⟨id, hid, hexpr⟩ := hfirst.exists_entry hpoint hmeans
    obtain ⟨twin, htwin, hexpr'⟩ := hsecond.exists_entry (hsame.entry.trans hpoint) hmeans
    rw [hsame.config] at hexpr'
    rw [hid, htwin]
    exact .some ⟨_, expr, hexpr, hexpr'⟩

/-- Where there is no circle of rules in one grammar, there is none in the other. -/
theorem leftRecursion_eq_nil (hformed : first.WellFormed) (hformed' : second.WellFormed)
    (hcycles : first.leftRecursion first.nullable = []) :
    second.leftRecursion second.nullable = [] := by
  refine Grammar.leftRecursion_eq_nil_of_acc hformed' fun twin htwin ↦ ?_
  obtain ⟨id, htwins⟩ := hsame.exists_twin hfirst hsecond htwin
  obtain ⟨skip, shape, node, double, ids, twins, hnode, -⟩ := htwins.lowers
  have hid : id < first.nodeCount := (Array.getElem?_eq_some_iff.mp hnode).1
  exact (hsame.within.ruleTwins hfirst hsecond).acc_leftCalls htwins
    (Grammar.acc_leftCalls hformed hcycles hid)

/-- A repetition that is refused in one grammar has a twin that is refused in the other one. -/
theorem nullableRepetition?_eq_none
    (hrounds : first.nullableRepetition? first.nullable = none) :
    second.nullableRepetition? second.nullable = none := by
  rw [Grammar.nullableRepetition?_eq_none_iff] at hrounds ⊢
  intro double hmem hstalls
  obtain ⟨twin, htwin, rfl⟩ := List.getElem_of_mem hmem
  have hinside : twin < second.nodes.size := by simpa using htwin
  obtain ⟨id, htwins⟩ := hsame.exists_twin hfirst hsecond hinside
  have hfound : second.nodes.toList[twin] = second.node twin := by
    rw [Grammar.node, Array.getElem?_eq_getElem hinside]
    rfl
  rw [hfound] at hstalls
  have hrefused := (hsame.within.ruleTwins hfirst hsecond).symm.stalls_of_stalls htwins.symm hstalls
  obtain ⟨skip, shape, node, -, -, -, hnode, -⟩ := htwins.lowers
  exact hrounds _ (Grammar.node_mem (Array.getElem?_eq_some_iff.mp hnode).1) hrefused

end Reorders

end Draft

/-! ### Copies and other orders build -/

/-- The bodies that are found in an anonymous draft are anonymous. -/
theorem Draft.body?_anonymous (draft : Draft) (name : String) :
    draft.anonymous.body? name = (draft.body? name).map Expr.anonymous := by
  rw [body?, body?, ruleNames_anonymous, bodies_anonymous, Option.map_bind]
  simp only [List.getElem?_map, Function.comp_def]

/-- Drafts with the same rules have the same rules anonymously. -/
theorem Draft.Reorders.anonymous {draft other : Draft} (hsame : draft.Reorders other) :
    draft.anonymous.Reorders other.anonymous where
  body? := fun name ↦ by rw [body?_anonymous, body?_anonymous, hsame.body?]
  bodies := fun body ↦ by
    rw [bodies_anonymous, bodies_anonymous, List.mem_map, List.mem_map]
    simp only [hsame.bodies]
  entry := congrArg (Option.map EntryPoint.anonymous) hsame.entry
  config := hsame.config

/-- A copy of a draft, with its rules in the same order or in another one, builds when the draft
does. -/
theorem Draft.Reorders.exists_build {draft copy : Draft} {grammar : Grammar}
    (hsame : draft.anonymous.Reorders copy.anonymous) (hcoherent : draft.Coherent)
    (hcopy : copy.Coherent) (hdistinct : copy.ruleNames.Nodup)
    (hbuild : draft.build = .ok grammar) :
    ∃ other, copy.build = .ok other ∧ draft.anonymous.LowersTo grammar ∧
      copy.anonymous.LowersTo other := by
  obtain ⟨hcompile, hrounds, hcycles⟩ := Draft.build_eq_ok_iff.mp hbuild
  have hlowers := (Draft.lowersTo_of_compile hcoherent hcompile).anonymous
  have hsound {skip : Option CharSet} {expr : Expr} (hcovers : copy.Covers skip expr) :
      expr.Sound copy.ruleNames := by
    obtain ⟨id, hid⟩ := hlowers.exists_node (hsame.symm.covers hcovers.anonymous)
    rw [← copy.ruleNames_anonymous]
    exact (hsame.sound hid.sound).of_anonymous
  have hstart : copy.entry.isSome = true ∨ copy.rules ≠ [] := by
    refine (Draft.compile_eq_ok_iff.mp hcompile).1.imp (fun hentry ↦ ?_)
      fun hrules hnone ↦ hrules ?_
    · have hpoints := congrArg Option.isSome hsame.entry
      simpa [Draft.anonymous, hentry] using hpoints
    · refine List.eq_nil_iff_forall_not_mem.mpr fun rule hrule ↦ ?_
      have hbody : rule.2.anonymous ∈ draft.anonymous.rules.map Prod.snd := by
        rw [draft.bodies_anonymous]
        exact List.mem_map_of_mem (List.mem_map_of_mem hrule)
      have hother := (hsame.bodies _).mpr hbody
      rw [copy.bodies_anonymous, hnone] at hother
      exact List.not_mem_nil hother
  obtain ⟨other, hother⟩ := Draft.exists_compile hstart
    (Draft.duplicate?_eq_none_iff.mpr ⟨hdistinct, fun _ _ ↦ List.not_mem_nil⟩)
    (fun body hbody ↦ hsound (.reaches (.body hbody)))
    (fun point hpoint expr hmeans ↦ hsound (.entry hpoint hmeans))
  have htwin := (Draft.lowersTo_of_compile hcopy hother).anonymous
  refine ⟨other, Draft.build_eq_ok_iff.mpr ⟨hother, ?_, ?_⟩, hlowers, htwin⟩
  · exact hsame.nullableRepetition?_eq_none hlowers htwin hrounds
  · exact hsame.leftRecursion_eq_nil hlowers htwin (Draft.wellFormed_of_compile hcompile)
      (Draft.wellFormed_of_compile hother) hcycles

/-- The names of the rules of a draft that builds are different. -/
theorem Draft.nodup_of_build {draft : Draft} {grammar : Grammar}
    (hbuild : draft.build = .ok grammar) :
    draft.ruleNames.Nodup :=
  (Draft.duplicate?_eq_none_iff.mp
    (Draft.compile_eq_ok_iff.mp (Draft.build_eq_ok_iff.mp hbuild).1).2.1).1

/-- A copy of a draft builds when the draft does. -/
theorem Draft.exists_build_of_anonymous_eq {draft copy : Draft} {grammar : Grammar}
    (hcoherent : draft.Coherent) (hcopy : copy.Coherent) (hsame : copy.anonymous = draft.anonymous)
    (hbuild : draft.build = .ok grammar) :
    ∃ other, copy.build = .ok other ∧ draft.anonymous.LowersTo grammar ∧
      draft.anonymous.LowersTo other := by
  have hreorders : draft.anonymous.Reorders copy.anonymous := hsame ▸ .refl _
  have hdistinct : copy.ruleNames.Nodup := by
    rw [← copy.ruleNames_anonymous, hsame, draft.ruleNames_anonymous]
    exact nodup_of_build hbuild
  obtain ⟨other, hother, hfirst, hsecond⟩ := hreorders.exists_build hcoherent hcopy hdistinct hbuild
  exact ⟨other, hother, hfirst, hsame ▸ hsecond⟩

end Packrat
