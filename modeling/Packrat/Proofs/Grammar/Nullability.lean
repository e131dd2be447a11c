import Packrat.Grammar.Nullable

/-!
# The marks of nullable nodes

Sweeps only add marks, so a sweep that adds none finds every node marked that can match nothing by
the marks themselves. The marks found in the end are therefore closed under the rules of nullability
(`Grammar.isMarked_nullable`): what is not marked is not nullable given the marks of the others.

An unbounded repetition of an accepted grammar repeats something that is not marked
(`Grammar.not_isMarked_of_repetition`), and in an unbounded list items or separators are not marked
(`Grammar.not_isMarked_of_delimited`).
-/

set_option autoImplicit false
set_option relaxedAutoImplicit false

namespace Packrat

namespace Grammar

variable (grammar : Grammar) (marks : Array Bool)

/-! ### Sweeps that add no mark -/

/-- Marking a node adds a mark unless it leaves everything as it was. -/
theorem markNode_eq_or_count_lt (id : NodeId) :
    grammar.markNode marks id = marks ∨
      marks.count true < (grammar.markNode marks id).count true := by
  unfold markNode
  split
  · unfold Array.setIfInBounds
    split
    next hinside =>
      cases hmark : marks[id] with
      | true =>
        refine Or.inl ?_
        rw [← hmark, Array.set_getElem_self]
      | false =>
        refine Or.inr ?_
        rw [Array.count_set hinside, hmark]
        simp
    next => exact Or.inl rfl
  · exact Or.inl rfl

theorem count_le_count_markNode (id : NodeId) :
    marks.count true ≤ (grammar.markNode marks id).count true := by
  rcases grammar.markNode_eq_or_count_lt marks id with hsame | hmore
  · exact Nat.le_of_eq (congrArg (Array.count true) hsame.symm)
  · exact Nat.le_of_lt hmore

theorem count_le_count_foldl (ids : List NodeId) :
    marks.count true ≤ (ids.foldl grammar.markNode marks).count true := by
  induction ids generalizing marks with
  | nil => exact Nat.le_refl _
  | cons id rest ih =>
    exact Nat.le_trans (grammar.count_le_count_markNode marks id) (ih _)

/-- When several nodes are marked and no mark is added, none of them needs one. -/
theorem markNode_eq_of_count_le {ids : List NodeId}
    (hcount : (ids.foldl grammar.markNode marks).count true ≤ marks.count true) :
    ∀ id ∈ ids, grammar.markNode marks id = marks := by
  induction ids with
  | nil => exact fun _ hmem ↦ nomatch hmem
  | cons first rest ih =>
    change ((rest.foldl grammar.markNode (grammar.markNode marks first)).count true) ≤ _ at hcount
    have hfirst : grammar.markNode marks first = marks := by
      refine (grammar.markNode_eq_or_count_lt marks first).resolve_right fun hmore ↦ ?_
      have hrest := grammar.count_le_count_foldl (grammar.markNode marks first) rest
      omega
    rw [hfirst] at hcount
    intro id hmem
    rcases List.mem_cons.mp hmem with rfl | hlater
    · exact hfirst
    · exact ih hcount id hlater

/-! ### The marks found in the end -/

/-- Sweeping until nothing is added keeps the number of nodes. -/
theorem size_saturate : (grammar.saturate marks).size = marks.size := by
  induction marks using saturate.induct grammar with
  | case1 marks hmore ih => rw [saturate, if_pos hmore, ih, size_sweep]
  | case2 marks hdone => rw [saturate, if_neg hdone]

/-- The marks found in the end are not changed by a further sweep. -/
theorem count_sweep_saturate_le :
    (grammar.sweep (grammar.saturate marks)).count true ≤ (grammar.saturate marks).count true := by
  induction marks using saturate.induct grammar with
  | case1 marks hmore ih => rwa [saturate, if_pos hmore]
  | case2 marks hdone =>
    rw [saturate, if_neg hdone]
    exact Nat.le_of_not_lt hdone

variable {grammar}

/-- A node that can match nothing by the marks found in the end is marked. -/
theorem isMarked_nullable {id : NodeId} (hid : id < grammar.nodes.size)
    (hnullable : grammar.nullableBy grammar.nullable id = true) :
    isMarked grammar.nullable id = true := by
  have hsize : grammar.nullable.size = grammar.nodes.size := by
    rw [nullable, size_saturate, Array.size_replicate]
  have hsame := grammar.markNode_eq_of_count_le grammar.nullable
    (grammar.count_sweep_saturate_le _) id (List.mem_range.mpr hid)
  rw [markNode, if_pos hnullable] at hsame
  rw [isMarked, ← hsame, Array.getElem?_setIfInBounds_self_of_lt (hsize ▸ hid)]
  rfl

/-- A node that is not marked cannot match nothing by the marks found in the end. -/
theorem not_nullable_of_not_isMarked {id : NodeId} (hid : id < grammar.nodes.size)
    (hunmarked : isMarked grammar.nullable id = false) :
    (grammar.node id).nullable (isMarked grammar.nullable)
      (fun rule ↦ isMarked grammar.nullable (grammar.ruleBody rule)) = false := by
  refine Bool.eq_false_iff.mpr fun hnullable ↦ ?_
  rw [isMarked_nullable hid hnullable] at hunmarked
  cases hunmarked

/-- Where a mark is only put on a node that is due one whenever all marked nodes are, all marked
nodes are in the end. The induction is along the sweeps. -/
theorem due_of_isMarked_nullable (due : NodeId → Prop)
    (hdue : ∀ marks : Array Bool, (∀ id, isMarked marks id = true → due id) →
      ∀ id < grammar.nodes.size, grammar.nullableBy marks id = true → due id) {id : NodeId}
    (hmarked : isMarked grammar.nullable id = true) : due id := by
  have hmark (marks : Array Bool) (hmarks : ∀ id, isMarked marks id = true → due id)
      (place : NodeId) (hplace : place < grammar.nodes.size) :
      ∀ id, isMarked (grammar.markNode marks place) id = true → due id := by
    intro id hid
    unfold markNode at hid
    split at hid
    next hnullable =>
      by_cases hsame : place = id
      · exact hsame ▸ hdue marks hmarks place hplace hnullable
      · rw [isMarked, Array.getElem?_setIfInBounds_ne hsame] at hid
        exact hmarks id hid
    next => exact hmarks id hid
  have hsweep (marks : Array Bool) (hmarks : ∀ id, isMarked marks id = true → due id) :
      ∀ id, isMarked (grammar.sweep marks) id = true → due id := by
    have hplaces : ∀ place ∈ List.range grammar.nodes.size, place < grammar.nodes.size :=
      fun _ hmem ↦ List.mem_range.mp hmem
    unfold sweep
    generalize List.range grammar.nodes.size = places at hplaces
    induction places generalizing marks with
    | nil => exact hmarks
    | cons place rest ih =>
      refine ih _ (hmark marks hmarks place (hplaces place List.mem_cons_self)) ?_
      exact fun other hother ↦ hplaces other (List.mem_cons_of_mem _ hother)
  have hsaturate (marks : Array Bool) (hmarks : ∀ id, isMarked marks id = true → due id) :
      ∀ id, isMarked (grammar.saturate marks) id = true → due id := by
    induction marks using saturate.induct grammar with
    | case1 marks hmore ih =>
      rw [saturate, if_pos hmore]
      exact ih (hsweep marks hmarks)
    | case2 marks hdone =>
      rw [saturate, if_neg hdone]
      exact hmarks
  refine hsaturate _ (fun other hother ↦ ?_) id hmarked
  rw [isMarked, Array.getElem?_replicate] at hother
  split at hother <;> cases hother

/-- A node that can match nothing can do so when more of its children, or the rule that it calls,
are known to. -/
theorem nullable_mono {node : Node} {known more : NodeId → Bool} {knownRule moreRules : Nat → Bool}
    (hknown : ∀ child ∈ node.children, known child = true → more child = true)
    (hrules : ∀ rule, node = .call rule → knownRule rule = true → moreRules rule = true)
    (hnullable : node.nullable known knownRule = true) : node.nullable more moreRules = true := by
  cases node with
  | sequence parts commit =>
    exact List.all_eq_true.mpr fun part hpart ↦ hknown part hpart
      (List.all_eq_true.mp hnullable part hpart)
  | choice alternatives =>
    obtain ⟨part, hpart, hmarked⟩ := List.any_eq_true.mp hnullable
    exact List.any_eq_true.mpr ⟨part, hpart, hknown part hpart hmarked⟩
  | repetition child least most what =>
    exact Bool.or_eq_true_iff.mpr
      ((Bool.or_eq_true_iff.mp hnullable).imp_right (hknown child List.mem_cons_self))
  | delimited item separator form what =>
    exact Bool.or_eq_true_iff.mpr
      ((Bool.or_eq_true_iff.mp hnullable).imp_right (hknown item List.mem_cons_self))
  | call rule => exact hrules rule rfl hnullable
  | suppress child => exact hknown child List.mem_cons_self hnullable
  | group child => exact hknown child List.mem_cons_self hnullable
  | combine child joiner skip => exact hknown child List.mem_cons_self hnullable
  | named child name accumulate => exact hknown child List.mem_cons_self hnullable
  | action child actions skip => exact hknown child List.mem_cons_self hnullable
  | labeled child skip expected => exact hknown child List.mem_cons_self hnullable
  | _ => exact hnullable

/-- A node is marked in the end just if it can match nothing by the marks found in the end. -/
theorem isMarked_nullable_iff {id : NodeId} (hid : id < grammar.nodes.size) :
    isMarked grammar.nullable id = true ↔ grammar.nullableBy grammar.nullable id = true := by
  refine ⟨fun hmarked ↦ ?_, isMarked_nullable hid⟩
  refine (due_of_isMarked_nullable (fun id ↦ grammar.nullableBy grammar.nullable id = true ∧
    isMarked grammar.nullable id = true) (fun marks hmarks id hid hnullable ↦ ?_) hmarked).1
  have hdue := nullable_mono (fun other _ hother ↦ (hmarks other hother).2)
    (fun rule _ hrule ↦ (hmarks _ hrule).2) hnullable
  exact ⟨hdue, isMarked_nullable hid hdue⟩

/-! ### What is refused -/

end Grammar

/-- A node can go round without end and without consuming anything. -/
def Node.Stalls (marks : Array Bool) : Node → Prop
  | .repetition child _ none _ => Grammar.isMarked marks child = true
  | .delimited item separator form _ =>
    form.most = none ∧ Grammar.isMarked marks item = true ∧ Grammar.isMarked marks separator = true
  | _ => False

/-- A node that stalls does so when more of its children are marked. -/
theorem Node.Stalls.mono {marks more : Array Bool} {node : Node} (hstalls : node.Stalls marks)
    (hmore : ∀ child ∈ node.children, Grammar.isMarked marks child = true →
      Grammar.isMarked more child = true) :
    node.Stalls more := by
  cases node with
  | repetition child least most what =>
    cases most with
    | none => exact hmore child List.mem_cons_self hstalls
    | some bound => exact hstalls
  | delimited item separator form what =>
    obtain ⟨hunbounded, hitem, hseparator⟩ := hstalls
    exact ⟨hunbounded, hmore item List.mem_cons_self hitem,
      hmore separator (List.mem_cons_of_mem _ List.mem_cons_self) hseparator⟩
  | _ => exact hstalls

namespace Grammar

variable {grammar : Grammar}

/-- The node at a position inside the arena is one of its nodes. -/
theorem node_mem {id : NodeId} (hid : id < grammar.nodes.size) :
    grammar.node id ∈ grammar.nodes.toList := by
  rw [node, Array.getElem?_eq_getElem hid]
  exact Array.getElem_mem_toList hid

theorem exists_node_of_mem {node : Node} (hnode : node ∈ grammar.nodes.toList) :
    ∃ id < grammar.nodes.size, grammar.node id = node := by
  obtain ⟨id, hid, rfl⟩ := Array.getElem_of_mem (Array.mem_toList_iff.mp hnode)
  refine ⟨id, hid, ?_⟩
  rw [Grammar.node, Array.getElem?_eq_getElem hid]
  rfl

/-- What stands at a position is one of the nodes, or it is empty, since the position is beyond
them. -/
theorem node_mem_or_eq_empty (grammar : Grammar) (id : NodeId) :
    grammar.node id ∈ grammar.nodes.toList ∨ grammar.node id = .empty := by
  by_cases hid : id < grammar.nodes.size
  · exact Or.inl (node_mem hid)
  · refine Or.inr ?_
    rw [node, Array.getElem?_eq_none (Nat.le_of_not_lt hid)]
    rfl

/-- No node of a grammar without a refused repetition stalls. -/
theorem nullableRepetition?_eq_none_iff {marks : Array Bool} :
    grammar.nullableRepetition? marks = none ↔
      ∀ node ∈ grammar.nodes.toList, ¬ node.Stalls marks := by
  rw [nullableRepetition?, List.findSome?_eq_none_iff]
  refine forall₂_congr fun node _ ↦ ?_
  cases node with
  | repetition child least most what =>
    cases most with
    | none => simp [Node.Stalls]
    | some most => simp [Node.Stalls]
  | delimited item separator form what => simp [Node.Stalls, and_assoc]
  | _ => simp [Node.Stalls]

/-- An unbounded repetition that is not refused repeats something that is not marked. -/
theorem not_isMarked_of_repetition {marks : Array Bool}
    (hrounds : grammar.nullableRepetition? marks = none) {child : NodeId} {least : Nat}
    {what : String} (hnode : Node.repetition child least none what ∈ grammar.nodes.toList) :
    isMarked marks child = false :=
  Bool.eq_false_iff.mpr (nullableRepetition?_eq_none_iff.mp hrounds _ hnode)

/-- In an unbounded list that is not refused the items or the separators are not marked. -/
theorem not_isMarked_of_delimited {marks : Array Bool}
    (hrounds : grammar.nullableRepetition? marks = none) {item separator : NodeId} {form : ListForm}
    {what : String} (hnode : Node.delimited item separator form what ∈ grammar.nodes.toList)
    (hunbounded : form.most = none) :
    isMarked marks item = false ∨ isMarked marks separator = false := by
  have hnone := nullableRepetition?_eq_none_iff.mp hrounds _ hnode
  rw [← Bool.not_eq_true, ← Bool.not_eq_true, ← Decidable.not_and_iff_not_or_not]
  exact fun hboth ↦ hnone ⟨hunbounded, hboth⟩

end Grammar

end Packrat
