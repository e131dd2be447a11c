import Mathlib.Logic.Relation
import Packrat.Proofs.Grammar.Arena
import Packrat.Proofs.Grammar.Circles

/-!
# Left calls

A node calls another one on the left when it can evaluate it at its own offset. The rules that stand
at the left edge of a node are those that it reaches by left calls without going through another
rule (`Grammar.AtLeftEdge`, `Grammar.mem_leftEdgesOf_iff`). Within the arena left calls go
backwards, and from rule to rule they follow left edges; so there is no circle of rules just where
all sequences of left calls end (`Grammar.acc_leftCalls`, `Grammar.leftRecursion_eq_nil_of_acc`).

Left calls then have a rank: a number below the number of nodes that gets smaller with every left
call (`Grammar.leftRank`). It counts the nodes that are reached by left calls.
-/

set_option autoImplicit false
set_option relaxedAutoImplicit false

namespace Packrat

/-! ### Tables filled in order -/

section

variable {α β : Type} (entry : Array β → α → β)

/-- Filling a table keeps the entries that are there. -/
theorem getElem?_foldl_push_of_lt (items : List α) {table : Array β} {place : Nat}
    (hplace : place < table.size) :
    (items.foldl (fun table item ↦ table.push (entry table item)) table)[place]? =
      table[place]? := by
  induction items generalizing table with
  | nil => rfl
  | cons first rest ih =>
    rw [List.foldl_cons, ih (by rw [Array.size_push]; omega), Array.getElem?_push_lt hplace,
      Array.getElem?_eq_getElem hplace]

/-- Each entry of a table is made from the entries before it. -/
theorem getElem?_foldl_push {items : List α} :
    ∀ {table : Array β} {place : Nat} {item : α}, items[place]? = some item →
      ∃ before : Array β,
        (∀ earlier < table.size + place, before[earlier]? =
          (items.foldl (fun table item ↦ table.push (entry table item)) table)[earlier]?) ∧
        (items.foldl (fun table item ↦ table.push (entry table item)) table)[table.size + place]? =
          some (entry before item) := by
  induction items with
  | nil => exact fun hitem ↦ nomatch hitem
  | cons first rest ih =>
    intro table place item hitem
    cases place with
    | zero =>
      cases hitem
      refine ⟨table, fun earlier hearlier ↦ ?_, ?_⟩
      · exact (getElem?_foldl_push_of_lt entry (first :: rest) hearlier).symm
      · rw [List.foldl_cons, Nat.add_zero,
          getElem?_foldl_push_of_lt entry rest (by rw [Array.size_push]; omega),
          Array.getElem?_push_size]
    | succ place =>
      obtain ⟨before, hbefore, hplace⟩ :=
        @ih (table.push (entry table first)) place item hitem
      rw [Array.size_push, show table.size + 1 + place = table.size + (place + 1) by omega]
        at hbefore hplace
      exact ⟨before, hbefore, hplace⟩

end

namespace Grammar

/-! ### What is called on the left -/

/-- A node uses its children, and a call the body of its rule. -/
inductive Uses (grammar : Grammar) (id : NodeId) : NodeId → Prop
  | child {child : NodeId} (hchild : child ∈ (grammar.node id).children) : Uses grammar id child
  | body {rule : Nat} (hcall : grammar.node id = .call rule) :
      Uses grammar id (grammar.ruleBody rule)

/-- The parts of a sequence up to the first that is not marked. -/
def leadingParts (marks : Array Bool) : List NodeId → List NodeId
  | [] => []
  | part :: rest => part :: if isMarked marks part then leadingParts marks rest else []

/-- The nodes that a node can evaluate at its own offset. -/
def leftChildren (grammar : Grammar) (marks : Array Bool) : Node → List NodeId
  | .call rule => [grammar.ruleBody rule]
  | .sequence parts _ => leadingParts marks parts
  | .delimited item separator _ _ => leadingParts marks [item, separator]
  | node => node.children

/-- A node can evaluate another one at its own offset. -/
def LeftCalls (grammar : Grammar) (marks : Array Bool) (child id : NodeId) : Prop :=
  child ∈ grammar.leftChildren marks (grammar.node id)

/-- A rule is called at the left edge of a node: the node is a call of the rule, or it evaluates at
its own offset a node at whose left edge the rule is called. -/
inductive AtLeftEdge (grammar : Grammar) (marks : Array Bool) (rule : Nat) : NodeId → Prop
  | call {id : NodeId} (hcall : grammar.node id = .call rule) : AtLeftEdge grammar marks rule id
  | inside {child id : NodeId} (hplain : (grammar.node id).isCall = false)
      (hchild : grammar.LeftCalls marks child id) (hedge : AtLeftEdge grammar marks rule child) :
      AtLeftEdge grammar marks rule id

theorem leadingParts_subset (marks : Array Bool) (parts : List NodeId) :
    leadingParts marks parts ⊆ parts := by
  induction parts with
  | nil => exact List.Subset.refl []
  | cons part rest ih =>
    rw [leadingParts]
    split
    · exact List.cons_subset_cons part ih
    · exact List.cons_subset_cons part (List.nil_subset rest)

/-- What a node other than a call evaluates at its own offset is among its children. -/
theorem mem_children_of_mem_leftChildren {grammar : Grammar} {marks : Array Bool} {node : Node}
    {child : NodeId} (hplain : node.isCall = false)
    (hchild : child ∈ grammar.leftChildren marks node) : child ∈ node.children := by
  cases node with
  | call rule => cases hplain
  | sequence parts commit => exact leadingParts_subset marks parts hchild
  | delimited item separator form what => exact leadingParts_subset marks _ hchild
  | _ => exact hchild

/-- What a node of the arena calls on the left is a node of the arena. -/
theorem LeftCalls.lt_nodeCount {grammar : Grammar} {marks : Array Bool} {child id : NodeId}
    (hchild : grammar.LeftCalls marks child id) (hformed : grammar.WellFormed)
    (hid : id < grammar.nodeCount) :
    child < grammar.nodeCount := by
  have hfits := hformed.fits id hid
  by_cases hplain : (grammar.node id).isCall = false
  · exact Nat.lt_trans (hfits.children child (mem_children_of_mem_leftChildren hplain hchild)) hid
  · cases hnode : grammar.node id with
    | call rule =>
      rw [LeftCalls, hnode] at hchild
      rw [List.mem_singleton.mp hchild]
      rw [hnode] at hfits
      exact hformed.ruleBody_lt hfits.sound
    | _ => exact absurd (by rw [hnode]; rfl) hplain

/-! ### Rules at left edges -/

/-- A list to which rules are added holds these rules and those that it held. -/
theorem mem_addRules {edge more : List Nat} {rule : Nat} :
    rule ∈ addRules edge more ↔ rule ∈ edge ∨ rule ∈ more := by
  induction more generalizing edge with
  | nil => simp [addRules]
  | cons first rest ih =>
    change rule ∈ addRules (if first ∈ edge then edge else edge ++ [first]) rest ↔ _
    rw [ih]
    split
    next hthere =>
      refine ⟨fun hor ↦ hor.imp_right (List.mem_cons_of_mem _), fun hor ↦ ?_⟩
      rcases hor with hheld | hmem
      · exact Or.inl hheld
      · rcases List.mem_cons.mp hmem with rfl | hlater
        · exact Or.inl hthere
        · exact Or.inr hlater
    next => simp only [List.mem_append, List.mem_cons, List.not_mem_nil, or_false, or_assoc]

/-- The left edge of a sequence holds those of its leading parts. -/
theorem mem_sequenceEdge {marks : Array Bool} {edges : NodeId → List Nat} {parts : List NodeId} :
    ∀ {edge : List Nat} {rule : Nat}, rule ∈ sequenceEdge marks edges edge parts ↔
      rule ∈ edge ∨ ∃ part ∈ leadingParts marks parts, rule ∈ edges part := by
  induction parts with
  | nil => simp [sequenceEdge, leadingParts]
  | cons first rest ih =>
    intro edge rule
    rw [sequenceEdge, leadingParts]
    by_cases hmarked : isMarked marks first = true
    · simp [hmarked, ih, mem_addRules, or_assoc]
    · simp [hmarked, mem_addRules]

/-- The left edge of several nodes holds those of each of them. -/
theorem mem_foldl_addRules {lists : List (List Nat)} :
    ∀ {edge : List Nat} {rule : Nat}, rule ∈ lists.foldl addRules edge ↔
      rule ∈ edge ∨ ∃ list ∈ lists, rule ∈ list := by
  induction lists with
  | nil => simp
  | cons first rest ih => simp [ih, mem_addRules, or_assoc]

/-- The left edge of a node that is no call holds those of the nodes that it calls on the left. -/
theorem mem_leftEdge (grammar : Grammar) {marks : Array Bool} {edges : NodeId → List Nat}
    {node : Node} {rule : Nat} (hplain : node.isCall = false) :
    rule ∈ leftEdge marks edges node ↔ ∃ child ∈ grammar.leftChildren marks node,
      rule ∈ edges child := by
  cases node with
  | call rule => cases hplain
  | sequence parts commit => simp [leftEdge, leftChildren, mem_sequenceEdge]
  | delimited item separator form what => simp [leftEdge, leftChildren, mem_sequenceEdge]
  | _ => simp [leftEdge, leftChildren, mem_foldl_addRules]

/-- The left edge of a sequence depends on those of its parts. -/
theorem sequenceEdge_congr {marks : Array Bool} {edges others : NodeId → List Nat}
    {parts : List NodeId} (hsame : ∀ part ∈ parts, edges part = others part) :
    ∀ edge : List Nat,
      sequenceEdge marks edges edge parts = sequenceEdge marks others edge parts := by
  induction parts with
  | nil => exact fun _ ↦ rfl
  | cons first rest ih =>
    intro edge
    have hrest := ih fun part hpart ↦ hsame part (List.mem_cons_of_mem _ hpart)
    rw [sequenceEdge, sequenceEdge, hsame first List.mem_cons_self]
    simp only [hrest]

/-- The left edge of a node depends on those of its children. -/
theorem leftEdge_congr {marks : Array Bool} {edges others : NodeId → List Nat} {node : Node}
    (hsame : ∀ child ∈ node.children, edges child = others child) :
    leftEdge marks edges node = leftEdge marks others node := by
  cases node with
  | call rule => rfl
  | sequence parts commit => exact sequenceEdge_congr hsame []
  | delimited item separator form what => exact sequenceEdge_congr hsame []
  | _ => exact congrArg (List.foldl addRules []) (List.map_congr_left hsame)

/-! ### Left calls end -/

/-- The rules at the left edge of the node at a position. -/
def leftEdgesOf (grammar : Grammar) (marks : Array Bool) (id : NodeId) : List Nat :=
  (grammar.leftEdges marks)[id]?.getD []

variable {grammar : Grammar} {marks : Array Bool} {id child : NodeId}

/-- The left edge of a node is made from those of its children. -/
theorem leftEdgesOf_eq (hformed : grammar.WellFormed) (hid : id < grammar.nodeCount) :
    grammar.leftEdgesOf marks id =
      leftEdge marks (grammar.leftEdgesOf marks) (grammar.node id) := by
  have hnode : grammar.nodes.toList[id]? = some (grammar.node id) := by
    rw [node, Array.getElem?_toList, Array.getElem?_eq_getElem hid]
    rfl
  obtain ⟨before, hbefore, hedge⟩ := @getElem?_foldl_push _ _
    (fun edges node ↦ leftEdge marks (fun child ↦ edges[child]?.getD []) node)
    grammar.nodes.toList #[] id (grammar.node id) hnode
  rw [Array.foldl_toList, Array.size_empty, Nat.zero_add] at hedge
  have hwhole : grammar.leftEdgesOf marks id =
      leftEdge marks (fun child ↦ before[child]?.getD []) (grammar.node id) :=
    congrArg (Option.getD · []) hedge
  rw [hwhole]
  refine leftEdge_congr fun child hchild ↦ ?_
  have hlt := (hformed.fits id hid).children child hchild
  have hbelow : child < (#[] : Array (List Nat)).size + id := by
    rw [Array.size_empty, Nat.zero_add]
    exact hlt
  rw [hbefore child hbelow, Array.foldl_toList]
  rfl

/-- The rules at the left edge of a node are those called there. The induction is on the position of
the node: a node that is no call goes back to its children. -/
theorem mem_leftEdgesOf_iff (hformed : grammar.WellFormed) {rule : Nat} :
    ∀ id < grammar.nodeCount, rule ∈ grammar.leftEdgesOf marks id ↔
      grammar.AtLeftEdge marks rule id := by
  intro id
  induction id using Nat.strong_induction_on with
  | _ id ih =>
    intro hid
    rw [leftEdgesOf_eq hformed hid]
    by_cases hplain : (grammar.node id).isCall = false
    · have hchildren (child : NodeId) (hchild : grammar.LeftCalls marks child id) :
          rule ∈ grammar.leftEdgesOf marks child ↔ grammar.AtLeftEdge marks rule child := by
        have hlt := (hformed.fits id hid).children child
          (mem_children_of_mem_leftChildren hplain hchild)
        exact ih child hlt (Nat.lt_trans hlt hid)
      rw [mem_leftEdge grammar hplain]
      constructor
      · rintro ⟨child, hchild, hedge⟩
        exact .inside hplain hchild ((hchildren child hchild).mp hedge)
      · rintro (hcall | ⟨-, hchild, hedge⟩)
        · rw [hcall] at hplain
          cases hplain
        · exact ⟨_, hchild, (hchildren _ hchild).mpr hedge⟩
    · cases hnode : grammar.node id with
      | call other =>
        rw [leftEdge, List.mem_singleton]
        constructor
        · rintro rfl
          exact .call hnode
        · rintro (hcall | ⟨hother, -, -⟩)
          · rw [hnode] at hcall
            cases hcall
            rfl
          · exact absurd hother hplain
      | _ => exact absurd (by rw [hnode]; rfl) hplain

/-- The left edge of a node holds those of the nodes that it calls on the left, unless the node is a
call. -/
theorem leftEdgesOf_subset (hformed : grammar.WellFormed) (hid : id < grammar.nodeCount)
    (hplain : (grammar.node id).isCall = false) (hchild : grammar.LeftCalls marks child id) :
    grammar.leftEdgesOf marks child ⊆ grammar.leftEdgesOf marks id := by
  intro rule hrule
  rw [leftEdgesOf_eq hformed hid]
  exact (mem_leftEdge grammar hplain).mpr ⟨child, hchild, hrule⟩

/-- Left calls from a node end if they end from the rules at its left edge. The induction is on the
position of the node: a left call that is no rule call goes backwards. -/
theorem acc_leftCalls_of_leftEdgesOf (hformed : grammar.WellFormed) :
    ∀ id < grammar.nodeCount,
      (∀ rule ∈ grammar.leftEdgesOf marks id, rule < grammar.ruleBodies.length →
        Acc (grammar.LeftCalls marks) (grammar.ruleBody rule)) →
      Acc (grammar.LeftCalls marks) id := by
  intro id
  induction id using Nat.strong_induction_on with
  | _ id ih =>
    intro hid hrules
    have hfits := hformed.fits id hid
    refine Acc.intro id fun child hchild ↦ ?_
    by_cases hplain : (grammar.node id).isCall = false
    · have hlt := hfits.children child (mem_children_of_mem_leftChildren hplain hchild)
      refine ih child hlt (Nat.lt_trans hlt hid) fun rule hrule ↦ hrules rule ?_
      exact leftEdgesOf_subset hformed hid hplain hchild hrule
    · cases hnode : grammar.node id with
      | call rule =>
        rw [LeftCalls, hnode] at hchild
        rw [List.mem_singleton.mp hchild]
        refine hrules rule ?_ (by simpa [hnode, Node.IsSound] using hfits.sound)
        rw [leftEdgesOf_eq hformed hid, hnode]
        exact List.mem_singleton_self rule
      | _ => exact absurd (by rw [hnode]; rfl) hplain

/-- The left edge of a rule is that of its body. -/
theorem getElem?_ruleEdges {rule : Nat} (hrule : rule < grammar.ruleBodies.length) :
    (grammar.ruleEdges marks)[rule]?.getD [] = grammar.leftEdgesOf marks
      (grammar.ruleBody rule) := by
  rw [ruleEdges, List.getElem?_map, ruleBody, List.getElem?_eq_getElem hrule]
  rfl

/-- Where there is no circle of rules, all sequences of left calls end. -/
theorem acc_leftCalls (hformed : grammar.WellFormed) (hcycles : grammar.leftRecursion marks = [])
    (hid : id < grammar.nodeCount) : Acc (grammar.LeftCalls marks) id := by
  have hsearch : CycleSearch.cyclesOf (grammar.ruleEdges marks) = [] :=
    List.map_eq_nil_iff.mp hcycles
  have hbodies (rule : Nat) (hrule : rule < grammar.ruleBodies.length) :
      Acc (grammar.LeftCalls marks) (grammar.ruleBody rule) := by
    have hacc := CycleSearch.acc_of_cyclesOf_eq_nil hsearch rule
    induction hacc with
    | intro rule _ ih =>
      refine acc_leftCalls_of_leftEdgesOf hformed _ (hformed.ruleBody_lt hrule)
        fun next hnext hinside ↦ ?_
      refine ih next ?_ hinside
      rw [CycleSearch.Follows, getElem?_ruleEdges hrule]
      exact hnext
  exact acc_leftCalls_of_leftEdgesOf hformed id hid fun rule _ hrule ↦ hbodies rule hrule

/-- The body of a rule called at the left edge of a node is reached from it by left calls. -/
theorem AtLeftEdge.transGen {rule : Nat} (hedge : grammar.AtLeftEdge marks rule id) :
    Relation.TransGen (grammar.LeftCalls marks) (grammar.ruleBody rule) id := by
  induction hedge with
  | call hcall =>
    refine Relation.TransGen.single ?_
    rw [LeftCalls, hcall]
    exact List.mem_singleton_self _
  | inside hplain hchild _ ih => exact ih.tail hchild

/-- Where all sequences of left calls end, there is no circle of rules. -/
theorem leftRecursion_eq_nil_of_acc (hformed : grammar.WellFormed)
    (hacc : ∀ id < grammar.nodeCount, Acc (grammar.LeftCalls marks) id) :
    grammar.leftRecursion marks = [] := by
  have hlength : (grammar.ruleEdges marks).length = grammar.ruleBodies.length := List.length_map _
  have hrules (rule : Nat) : Acc (CycleSearch.Follows (grammar.ruleEdges marks)) rule := by
    by_cases hrule : rule < grammar.ruleBodies.length
    · have hbody := (hacc _ (hformed.ruleBody_lt hrule)).transGen
      generalize hsame : grammar.ruleBody rule = id at hbody
      induction hbody generalizing rule with
      | intro id _ ih =>
        subst hsame
        refine Acc.intro rule fun next hnext ↦ ?_
        rw [CycleSearch.Follows, getElem?_ruleEdges hrule] at hnext
        have hcalls := ((mem_leftEdgesOf_iff hformed _ (hformed.ruleBody_lt hrule)).mp
          hnext).transGen
        by_cases hinside : next < grammar.ruleBodies.length
        · exact ih _ hcalls next hinside rfl
        · exact CycleSearch.acc_of_length_le (hlength ▸ Nat.le_of_not_lt hinside)
    · exact CycleSearch.acc_of_length_le (hlength ▸ Nat.le_of_not_lt hrule)
  exact List.map_eq_nil_iff.mpr (CycleSearch.cyclesOf_eq_nil_of_acc hrules)

/-! ### Ranks -/

open Classical in
/-- The number of nodes that are reached from a node by left calls. -/
noncomputable def leftRank (grammar : Grammar) (marks : Array Bool) (id : NodeId) : Nat :=
  ((Finset.range grammar.nodeCount).filter fun other ↦
    Relation.TransGen (grammar.LeftCalls marks) other id).card

/-- A node from which left calls end does not reach itself, so its rank is below the number of
nodes. -/
theorem leftRank_lt_nodeCount (hid : id < grammar.nodeCount)
    (hacc : Acc (grammar.LeftCalls marks) id) : grammar.leftRank marks id < grammar.nodeCount := by
  classical
  have hself := not_rel_self_of_acc hacc.transGen
  have hsubset : ((Finset.range grammar.nodeCount).filter fun other ↦
      Relation.TransGen (grammar.LeftCalls marks) other id) ⊂ Finset.range grammar.nodeCount := by
    refine Finset.filter_ssubset.mpr ⟨id, Finset.mem_range.mpr hid, hself⟩
  have hcard := Finset.card_lt_card hsubset
  rwa [Finset.card_range] at hcard

theorem leftRank_lt_leftRank (hchild : child < grammar.nodeCount)
    (hacc : Acc (grammar.LeftCalls marks) child) (hcall : grammar.LeftCalls marks child id) :
    grammar.leftRank marks child < grammar.leftRank marks id := by
  classical
  refine Finset.card_lt_card (Finset.ssubset_iff_of_subset ?_ |>.mpr ⟨child, ?_, ?_⟩)
  · intro other hother
    rw [Finset.mem_filter] at hother ⊢
    exact ⟨hother.1, hother.2.tail hcall⟩
  · exact Finset.mem_filter.mpr ⟨Finset.mem_range.mpr hchild, Relation.TransGen.single hcall⟩
  · intro hself
    exact not_rel_self_of_acc hacc.transGen (Finset.mem_filter.mp hself).2

end Grammar

end Packrat
