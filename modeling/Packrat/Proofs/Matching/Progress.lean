import Packrat.Proofs.Grammar.LeftCalls
import Packrat.Proofs.Grammar.Nullability
import Packrat.Proofs.Matching.Correspondence

/-!
# Progress

A match of a node ends inside the text and not before it starts, and if the node is not marked as
nullable it ends strictly after it starts (`Grammar.EndsAfter`). While a node is evaluated at an
offset it asks for nodes further on, and at its own offset only for those that it calls on the left.
Both are stated as one contract (`Grammar.progress`).

The main statement is that every node of an accepted grammar meets the demands of this contract
(`Grammar.demands_progress`). It has one case for each way of combining expressions; the sequence
goes through its parts with the invariant `leadingParts`, and the two loops have an invariant each.
No loop needs an error of the contract, so one that goes round always advances; the only error is
that the scan of a terminal never ends.
-/

set_option autoImplicit false
set_option relaxedAutoImplicit false

namespace Packrat

/-! ### Accepted grammars -/

/-- What is known of a grammar that builds. -/
structure Grammar.Accepted (grammar : Grammar) : Prop where
  /-- The nodes fit where they are. -/
  formed : grammar.WellFormed
  /-- No unbounded repetition can go round without consuming anything. -/
  rounds : grammar.nullableRepetition? grammar.nullable = none
  /-- No rules call one another in a circle. -/
  circles : grammar.leftRecursion grammar.nullable = []

theorem Draft.accepted_of_build {draft : Draft} {grammar : Grammar}
    (hbuild : draft.build = .ok grammar) : grammar.Accepted := by
  obtain ⟨hcompile, hrounds, hcircles⟩ := Draft.build_eq_ok_iff.mp hbuild
  exact ⟨Draft.wellFormed_of_compile hcompile, hrounds, hcircles⟩

/-- The regular expressions of a grammar take nothing only where they match the empty text. -/
def Grammar.HasHonestRegexes (grammar : Grammar) : Prop :=
  ∀ regex skip expected, Node.regex regex skip expected ∈ grammar.nodes.toList →
    regex.IsHonest

namespace Grammar

/-! ### The contract -/

/-- An offset lies between another one and the end of the text. -/
def Within (text : Text) (offset place : Nat) : Prop :=
  offset ≤ place ∧ place ≤ max offset text.size

/-- A match of a node from an offset may end at another one: it does not end before it starts, and
not where it starts unless the node is marked as nullable. -/
def EndsAfter (grammar : Grammar) (text : Text) (id : NodeId) (offset stop : Nat) : Prop :=
  Within text offset stop ∧ (isMarked grammar.nullable id = false → offset < stop)

/-- What is known of the evaluations that a node at an offset asks for: they start further on, or
the node calls them on the left. -/
def progress (grammar : Grammar) (text : Text) (id : NodeId) (offset : Nat) : Contract where
  May child place := child < grammar.nodeCount ∧ Within text offset place ∧
    (place = offset → grammar.LeftCalls grammar.nullable child id)
  Ends child place stop := grammar.EndsAfter text child place stop
  Allows error := error = .endless

theorem within_refl (text : Text) (offset : Nat) : Within text offset offset :=
  ⟨Nat.le_refl offset, Nat.le_max_left offset text.size⟩

theorem within_skipFrom (skip : Option CharSet) (text : Text) (offset : Nat) :
    Within text offset (skipFrom skip text offset) :=
  ⟨le_skipFrom skip text offset, skipFrom_le skip text offset⟩

theorem Within.trans {text : Text} {offset middle stop : Nat} (hfirst : Within text offset middle)
    (hsecond : Within text middle stop) : Within text offset stop := by
  unfold Within at hfirst hsecond ⊢
  omega

/-- A round that ends further on advances inside the text. -/
theorem Within.advances {text : Text} {offset stop : Nat} (hwithin : Within text offset stop)
    (hlt : offset < stop) : Matcher.Advances text offset stop := by
  refine ⟨hlt, ?_⟩
  unfold Within at hwithin
  omega

variable {grammar : Grammar} {text : Text} {id child : NodeId} {offset place : Nat}

/-- A node that can match nothing by its own rule may end anywhere within the text. -/
theorem endsAfter_of_nullable (hid : id < grammar.nodeCount)
    (hnullable : (grammar.node id).nullable (isMarked grammar.nullable)
      (fun rule ↦ isMarked grammar.nullable (grammar.ruleBody rule)) = true)
    {stop : Nat} (hwithin : Within text offset stop) : grammar.EndsAfter text id offset stop := by
  refine ⟨hwithin, fun hunmarked ↦ ?_⟩
  rw [not_nullable_of_not_isMarked hid hunmarked] at hnullable
  cases hnullable

/-- A node that is nullable when its child is ends where its child does. -/
theorem endsAfter_of_child (hid : id < grammar.nodeCount)
    (hnullable : (grammar.node id).nullable (isMarked grammar.nullable)
      (fun rule ↦ isMarked grammar.nullable (grammar.ruleBody rule)) =
        isMarked grammar.nullable child)
    (hwithin : Within text offset place) {stop : Nat}
    (hends : grammar.EndsAfter text child place stop) : grammar.EndsAfter text id offset stop := by
  refine ⟨hwithin.trans hends.1, fun hunmarked ↦ ?_⟩
  rw [not_nullable_of_not_isMarked hid hunmarked] at hnullable
  exact Nat.lt_of_le_of_lt hwithin.1 (hends.2 hnullable.symm)

/-- A node with one child, which it calls on the left, may ask for it. -/
theorem may_progress_of_sole (haccepted : grammar.Accepted) (hid : id < grammar.nodeCount)
    (hone : (grammar.node id).children = [child])
    (hleft : grammar.leftChildren grammar.nullable (grammar.node id) = [child])
    (hwithin : Within text offset place) : (grammar.progress text id offset).May child place := by
  have hchild : child ∈ (grammar.node id).children := hone ▸ List.mem_singleton_self child
  refine ⟨Nat.lt_trans ((haccepted.formed.fits id hid).children child hchild) hid, hwithin,
    fun _ ↦ ?_⟩
  rw [LeftCalls, hleft]
  exact List.mem_singleton_self child

/-- A node that does what its one child does ends where the child ends. -/
theorem runs_progress_of_sole (haccepted : grammar.Accepted) (hid : id < grammar.nodeCount)
    (hone : (grammar.node id).children = [child])
    (hleft : grammar.leftChildren grammar.nullable (grammar.node id) = [child])
    (hnullable : (grammar.node id).nullable (isMarked grammar.nullable)
      (fun rule ↦ isMarked grammar.nullable (grammar.ruleBody rule)) =
        isMarked grammar.nullable child) (hwithin : Within text offset place) :
    (grammar.progress text id offset).Runs child place (grammar.EndsAfter text id offset) :=
  ⟨may_progress_of_sole haccepted hid hone hleft hwithin,
    fun _ hends ↦ endsAfter_of_child hid hnullable hwithin hends⟩

/-- A call ends where the body of the rule ends. -/
theorem runs_progress_of_call (haccepted : grammar.Accepted) (hid : id < grammar.nodeCount)
    {rule : Nat} (hnode : grammar.node id = .call rule) :
    (grammar.progress text id offset).Runs (grammar.ruleBody rule) offset
      (grammar.EndsAfter text id offset) := by
  have hfits := haccepted.formed.fits id hid
  rw [hnode] at hfits
  have hwithin := within_refl text offset
  refine ⟨⟨haccepted.formed.ruleBody_lt hfits.sound, hwithin, fun _ ↦ ?_⟩,
    fun _ hends ↦ endsAfter_of_child hid ?_ hwithin hends⟩
  · rw [LeftCalls, hnode]
    exact List.mem_singleton_self _
  · rw [hnode]
    rfl

/-- A choice ends where one of its alternatives ends. -/
theorem runs_progress_of_choice (haccepted : grammar.Accepted) (hid : id < grammar.nodeCount)
    {alternatives : List NodeId} (hnode : grammar.node id = .choice alternatives)
    (hchild : child ∈ alternatives) :
    (grammar.progress text id offset).Runs child offset (grammar.EndsAfter text id offset) := by
  have hfits := haccepted.formed.fits id hid
  rw [hnode] at hfits
  refine ⟨⟨Nat.lt_trans (hfits.children child hchild) hid, within_refl text offset, fun _ ↦ ?_⟩,
    fun stop hends ↦ ⟨hends.1, fun hunmarked ↦ hends.2 ?_⟩⟩
  · rw [LeftCalls, hnode]
    exact hchild
  · have hnullable := not_nullable_of_not_isMarked hid hunmarked
    simp only [hnode, Node.nullable, List.any_eq_false, Bool.not_eq_true] at hnullable
    exact hnullable child hchild

/-! ### Sequences -/

/-- The parts of a sequence run one after another, as long as those at the offset of the sequence
are leading parts. Where all parts so far are at the offset of the sequence, one of the others is
not marked if the sequence is not. -/
theorem runsAll_progress {parts : List NodeId} (hparts : ∀ part ∈ parts, part < grammar.nodeCount) :
    ∀ place, Within text offset place →
      (place = offset → (∀ part ∈ leadingParts grammar.nullable parts,
          grammar.LeftCalls grammar.nullable part id) ∧
        (isMarked grammar.nullable id = false → parts.all (isMarked grammar.nullable) = false)) →
      (grammar.progress text id offset).RunsAll (grammar.EndsAfter text id offset) parts place := by
  induction parts with
  | nil =>
    intro place hwithin hleading
    refine ⟨hwithin, fun hunmarked ↦ ?_⟩
    refine Nat.lt_of_le_of_ne hwithin.1 fun heq ↦ ?_
    exact absurd ((hleading heq.symm).2 hunmarked) (by simp)
  | cons part rest ih =>
    intro place hwithin hleading
    refine ⟨⟨hparts part List.mem_cons_self, hwithin,
      fun heq ↦ (hleading heq).1 part List.mem_cons_self⟩, fun stop hends ↦ ?_⟩
    refine ih (fun other hother ↦ hparts other (List.mem_cons_of_mem _ hother)) stop
      (hwithin.trans hends.1) fun hstop ↦ ?_
    -- The part ended where it started, so it is marked and the next part is a leading one.
    have hplace : place = offset := Nat.le_antisymm (hstop ▸ hends.1.1) hwithin.1
    have hmarked : isMarked grammar.nullable part = true := by
      by_contra hunmarked
      have hlt := hends.2 (Bool.eq_false_iff.mpr hunmarked)
      omega
    obtain ⟨hcalls, hstrict⟩ := hleading hplace
    refine ⟨fun other hother ↦ hcalls other ?_, fun hunmarked ↦ ?_⟩
    · rw [leadingParts, hmarked, if_pos rfl]
      exact List.mem_cons_of_mem _ hother
    · simpa [hmarked] using hstrict hunmarked

/-! ### Loops -/

/-- The rounds of a repetition stay within the text, and leave the offset where they started after
the first of them unless what is repeated is marked. -/
theorem roundInvariant_progress (haccepted : grammar.Accepted) (hid : id < grammar.nodeCount)
    {least : Nat} {most : Option Nat} {what : String}
    (hnode : grammar.node id = .repetition child least most what) :
    (grammar.progress text id offset).RoundInvariant text child least most what
      (grammar.EndsAfter text id offset) fun count place ↦ Within text offset place ∧
        (isMarked grammar.nullable child = false → 0 < count → offset < place) := by
  have hfits := haccepted.formed.fits id hid
  rw [hnode] at hfits
  refine ⟨fun count place hholds ↦ ⟨⟨?_, hholds.1, fun _ ↦ ?_⟩, fun stop hends ↦ ⟨⟨?_, ?_⟩, ?_⟩⟩,
    fun count place hholds henough ↦ ⟨hholds.1, fun hunmarked ↦ ?_⟩⟩
  · exact Nat.lt_trans (hfits.children child (List.mem_singleton_self child)) hid
  · rw [LeftCalls, hnode]
    exact List.mem_singleton_self child
  · exact hholds.1.trans hends.1
  · exact fun hunmarked _ ↦ Nat.lt_of_le_of_lt hholds.1.1 (hends.2 hunmarked)
  · rintro rfl hstuck
    have hmem : Node.repetition child least none what ∈ grammar.nodes.toList :=
      hnode ▸ node_mem hid
    exact absurd (hends.1.advances (hends.2 (not_isMarked_of_repetition haccepted.rounds hmem)))
      hstuck
  · have hnullable := not_nullable_of_not_isMarked hid hunmarked
    simp only [hnode, Node.nullable, Bool.or_eq_false_iff, beq_eq_false_iff_ne] at hnullable
    refine hholds.2 hnullable.2 ?_
    rcases henough with hle | ⟨bound, hbound, hle⟩
    · omega
    · have hleast : least ≤ bound := hfits.sound bound hbound
      omega

/-- The items of a list stay within the text, and leave the offset where they started unless items
are marked. -/
theorem itemInvariant_progress (haccepted : grammar.Accepted) (hid : id < grammar.nodeCount)
    {item separator : NodeId} {form : ListForm} {what : String}
    (hnode : grammar.node id = .delimited item separator form what) :
    (grammar.progress text id offset).ItemInvariant text item separator form what
      (grammar.EndsAfter text id offset) fun place ↦ Within text offset place ∧
        (isMarked grammar.nullable item = false → offset < place) := by
  have hfits := haccepted.formed.fits id hid
  rw [hnode] at hfits
  have hitem : item < grammar.nodeCount :=
    Nat.lt_trans (hfits.children item List.mem_cons_self) hid
  have hseparator : separator < grammar.nodeCount :=
    Nat.lt_trans (hfits.children separator (List.mem_cons_of_mem _ List.mem_cons_self)) hid
  have hleave (place : Nat) (hholds : Within text offset place ∧
      (isMarked grammar.nullable item = false → offset < place)) :
      grammar.EndsAfter text id offset place := by
    refine ⟨hholds.1, fun hunmarked ↦ hholds.2 ?_⟩
    have hnullable := not_nullable_of_not_isMarked hid hunmarked
    simp only [hnode, Node.nullable, Bool.or_eq_false_iff] at hnullable
    exact hnullable.2
  refine ⟨fun place hholds ↦ ?_, hleave⟩
  have hcalls : place = offset → isMarked grammar.nullable item = true := by
    rintro rfl
    by_contra hunmarked
    exact Nat.lt_irrefl _ (hholds.2 (Bool.eq_false_iff.mpr hunmarked))
  refine ⟨⟨hseparator, hholds.1, fun heq ↦ ?_⟩, fun middle hmiddle ↦ ⟨fun _ ↦ hleave middle ?_,
    ⟨hitem, hholds.1.trans hmiddle.1, fun _ ↦ ?_⟩, fun stop hstop ↦ ⟨⟨?_, fun hunmarked ↦ ?_⟩, ?_⟩⟩⟩
  · rw [LeftCalls, hnode]
    simp [leftChildren, leadingParts, hcalls heq]
  · exact ⟨hholds.1.trans hmiddle.1,
      fun hunmarked ↦ Nat.lt_of_lt_of_le (hholds.2 hunmarked) hmiddle.1.1⟩
  · rw [LeftCalls, hnode]
    exact List.mem_cons_self
  · exact (hholds.1.trans hmiddle.1).trans hstop.1
  · have hlt := hholds.2 hunmarked
    exact Nat.lt_of_lt_of_le hlt (Nat.le_trans hmiddle.1.1 hstop.1.1)
  · intro hunbounded hstuck
    have hmem : Node.delimited item separator form what ∈ grammar.nodes.toList :=
      hnode ▸ node_mem hid
    have hlt : place < stop := by
      rcases not_isMarked_of_delimited haccepted.rounds hmem hunbounded with hloose | hloose
      · exact Nat.lt_of_le_of_lt hmiddle.1.1 (hstop.2 hloose)
      · exact Nat.lt_of_lt_of_le (hmiddle.2 hloose) hstop.1.1
    exact absurd ((hmiddle.1.trans hstop.1).advances hlt) hstuck

/-! ### Nodes -/

/-- Terminals stay within the text and take something. -/
theorem endsAfter_of_taken (hid : id < grammar.nodeCount) {skip : Option CharSet}
    {taken : List Char} (hinitial : taken <+: text.rest (skipFrom skip text offset))
    (htaken : (grammar.node id).nullable (isMarked grammar.nullable)
      (fun rule ↦ isMarked grammar.nullable (grammar.ruleBody rule)) = false → taken ≠ []) :
    grammar.EndsAfter text id offset (skipFrom skip text offset + byteLength taken) := by
  have hskip := within_skipFrom skip text offset
  refine ⟨hskip.trans ⟨Nat.le_add_right _ _, text.add_byteLength_le hinitial⟩, fun hunmarked ↦ ?_⟩
  have hpositive := byteLength_pos (htaken (not_nullable_of_not_isMarked hid hunmarked))
  have hle := hskip.1
  omega

/-- Every node of an accepted grammar meets the demands of progress. -/
theorem demands_progress (haccepted : grammar.Accepted) (hhonest : grammar.HasHonestRegexes)
    (hid : id < grammar.nodeCount) :
    (grammar.node id).Demands grammar text (grammar.progress text id offset) offset
      (grammar.EndsAfter text id offset) := by
  have hfits := haccepted.formed.fits id hid
  have hrefl := within_refl text offset
  have hloose {stop : Nat} (hwithin : Within text offset stop)
      (hnullable : (grammar.node id).nullable (isMarked grammar.nullable)
        (fun rule ↦ isMarked grammar.nullable (grammar.ruleBody rule)) = true) :=
    endsAfter_of_nullable hid hnullable hwithin
  cases hnode : grammar.node id with
  | empty => exact hloose hrefl (by rw [hnode]; rfl)
  | textEnd skip =>
    exact fun _ ↦ hloose (within_skipFrom skip text offset) (by rw [hnode]; rfl)
  | terminal form skip expected =>
    refine ⟨fun taken token hscan ↦ ?_, fun _ ↦ rfl⟩
    obtain ⟨hinitial, htaken⟩ := Terminal.scan_eq_found hscan
    rw [hnode] at hfits
    exact endsAfter_of_taken hid hinitial fun _ ↦ htaken hfits.sound
  | regex program skip expected =>
    refine ⟨fun taken token hscan ↦ ?_, fun _ ↦ rfl⟩
    obtain ⟨hinitial, htaken⟩ := CompiledRegex.scanRegex_eq_found hscan
    refine endsAfter_of_taken hid hinitial fun hnullable ↦ htaken ?_ ?_
    · exact hhonest program skip expected (hnode ▸ node_mem hid)
    · simpa [hnode, Node.nullable] using hnullable
  | sequence parts commit =>
    rw [hnode] at hfits
    refine runsAll_progress (fun part hpart ↦ Nat.lt_trans (hfits.children part hpart) hid) offset
      hrefl fun _ ↦ ⟨fun part hpart ↦ ?_, fun hunmarked ↦ ?_⟩
    · rw [LeftCalls, hnode]
      exact hpart
    · have hnullable := not_nullable_of_not_isMarked hid hunmarked
      rw [hnode] at hnullable
      exact hnullable
  | choice alternatives =>
    exact fun child hchild ↦ runs_progress_of_choice haccepted hid hnode hchild
  | optional child default =>
    refine ⟨hloose hrefl (by rw [hnode]; rfl), ?_, fun stop hends ↦ ?_⟩
    · exact may_progress_of_sole haccepted hid (by rw [hnode]; rfl) (by rw [hnode]; rfl) hrefl
    · exact hloose hends.1 (by rw [hnode]; rfl)
  | repetition child least most what =>
    exact ⟨_, ⟨hrefl, fun _ hpositive ↦ absurd hpositive (Nat.lt_irrefl 0)⟩,
      roundInvariant_progress haccepted hid hnode⟩
  | delimited item separator form what =>
    rw [hnode] at hfits
    refine ⟨fun hleast ↦ hloose hrefl (by simp [hnode, Node.nullable, hleast]), _,
      ⟨⟨Nat.lt_trans (hfits.children item List.mem_cons_self) hid, hrefl, fun _ ↦ ?_⟩,
        fun stop hends ↦ hends⟩, itemInvariant_progress haccepted hid hnode⟩
    rw [LeftCalls, hnode]
    exact List.mem_cons_self
  | lookahead child negative unwanted =>
    refine ⟨hloose hrefl (by rw [hnode]; rfl), ?_⟩
    exact may_progress_of_sole haccepted hid (by rw [hnode]; rfl) (by rw [hnode]; rfl) hrefl
  | call rule => exact runs_progress_of_call haccepted hid hnode
  | combine child joiner skip =>
    exact runs_progress_of_sole haccepted hid (by rw [hnode]; rfl) (by rw [hnode]; rfl)
      (by rw [hnode]; rfl) (within_skipFrom skip text offset)
  | suppress child | group child | named child name accumulate | action child actions skip
  | labeled child skip expected =>
    exact runs_progress_of_sole haccepted hid (by rw [hnode]; rfl) (by rw [hnode]; rfl)
      (by rw [hnode]; rfl) hrefl

end Grammar

end Packrat
