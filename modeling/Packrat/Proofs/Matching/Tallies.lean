import Mathlib.Data.Finset.Prod
import Packrat.Proofs.Matching.Maintenance
import Packrat.Proofs.Matching.Outcomes

/-!
# What an engine that remembers everything counts

An engine that remembers the outcomes of all nodes and has room for them evaluates no node twice at
one offset. While it evaluates it has counted one evaluation for every outcome that it remembers and
one for every evaluation that it stands inside of (`EngineState.Tallied`). It forgets nothing, and
it remembers no more than there are nodes and offsets.

This rests on an evaluation never being asked for inside itself. An evaluation that is not stopped
by a limit on the depth needs more room than those that it asks for (`Grammar.RestsOn`), so one that
asks for itself is stopped by every limit (`Grammar.limited_of_restsOn_self`). The main statement is
`Grammar.registers_evaluate`: an evaluation that does not end with an error registers its outcome
and keeps the tally.
-/

set_option autoImplicit false
set_option relaxedAutoImplicit false

namespace Packrat

open MatchMonad

/-! ### Memories that grow -/

namespace Memo

/-- Everything that a memory held earlier is still held. -/
def Extends (memo earlier : Memo) : Prop :=
  ∀ id offset found, earlier.find? id offset = some found → memo.find? id offset = some found

/-- A memory is an earlier one with one outcome more. -/
structure Learns (memo earlier : Memo) (id : NodeId) (offset : Nat) (found : Remembered) :
    Prop where
  /-- There is one outcome more. -/
  size : memo.size = earlier.size + 1
  /-- The new outcome is found at its place, and the others where they were. -/
  find : ∀ other place, memo.find? other place =
    if (other, place) = (id, offset) then some found else earlier.find? other place

/-- The outcomes of a memory are those of certain nodes at certain offsets. -/
structure Covers (memo : Memo) (kept : Finset (NodeId × Nat)) : Prop where
  /-- There are as many outcomes as pairs. -/
  size : memo.size = kept.card
  /-- Something is found for the pairs, and for no others. -/
  mem : ∀ id offset, (id, offset) ∈ kept ↔ memo.find? id offset ≠ none

variable {memo earlier middle : Memo} {id : NodeId} {offset : Nat} {found : Remembered}
  {kept : Finset (NodeId × Nat)}

theorem Extends.refl (memo : Memo) : memo.Extends memo := fun _ _ _ hfind ↦ hfind

theorem Extends.trans (hlater : memo.Extends middle) (hearlier : middle.Extends earlier) :
    memo.Extends earlier :=
  fun id offset found hfind ↦ hlater id offset found (hearlier id offset found hfind)

/-- Pinning an outcome where there was none adds it. -/
theorem learns_pin (hnone : memo.find? id offset = none) (found : Remembered) :
    (memo.pin id offset found).Learns memo id offset found := by
  constructor
  · have hfresh := not_mem_pinned_of_find? hnone
    simp only [size, pin, Std.HashMap.size_insert, hfresh, if_false]
    omega
  · intro other place
    simp only [find?, pin, Std.HashMap.getElem?_insert, beq_iff_eq, eq_comm (a := (id, offset))]
    split <;> rfl

/-- Storing an outcome where there was none adds it. -/
theorem learns_store (hnone : memo.find? id offset = none) (found : Remembered) :
    (memo.store id offset found).Learns memo id offset found := by
  simp only [find?, Option.or_eq_none_iff] at hnone
  constructor
  · have hfresh : (id, offset) ∉ memo.entries := by
      simpa using hnone.2
    simp only [size, store, Std.HashMap.size_insert, hfresh, if_false]
    omega
  · intro other place
    simp only [find?, store, Std.HashMap.getElem?_insert, beq_iff_eq, eq_comm (a := (id, offset))]
    split
    next heq =>
      rw [heq, hnone.1, Option.none_or]
    next => rfl

/-- A memory that learned something where there was nothing holds what it held. -/
theorem Learns.extends (hlearns : memo.Learns earlier id offset found)
    (hnone : earlier.find? id offset = none) : memo.Extends earlier := by
  intro other place entry hfind
  rw [hlearns.find]
  split
  next heq =>
    obtain ⟨rfl, rfl⟩ := Prod.mk.inj heq
    rw [hnone] at hfind
    cases hfind
  next => exact hfind

theorem Learns.find_self (hlearns : memo.Learns earlier id offset found) :
    memo.find? id offset = some found := by
  rw [hlearns.find, if_pos rfl]

theorem Covers.learns (hcovers : earlier.Covers kept)
    (hlearns : memo.Learns earlier id offset found) (hfresh : (id, offset) ∉ kept) :
    memo.Covers (insert (id, offset) kept) := by
  constructor
  · rw [hlearns.size, hcovers.size, Finset.card_insert_of_notMem hfresh]
  · intro other place
    rw [Finset.mem_insert, hlearns.find, hcovers.mem]
    split <;> simp [*]

end Memo

/-! ### What evaluations rest on -/

namespace Grammar

variable {grammar : Grammar} {text : Text} {outer middle inner : NodeId × Nat}

/-- With every room with which one evaluation is not stopped, another one is not stopped with
less. -/
def RestsOn (grammar : Grammar) (text : Text) (outer inner : NodeId × Nat) : Prop :=
  ∀ room, ¬ (grammar.trace text room outer.1 outer.2).Limited →
    ∃ less < room, ¬ (grammar.trace text less inner.1 inner.2).Limited

/-- What an evaluation rests on may rest on something else. -/
theorem RestsOn.trans (houter : grammar.RestsOn text outer middle)
    (hinner : grammar.RestsOn text middle inner) : grammar.RestsOn text outer inner := by
  intro room hroom
  obtain ⟨less, hless, hmiddle⟩ := houter room hroom
  obtain ⟨least, hleast, hreached⟩ := hinner less hmiddle
  exact ⟨least, hleast.trans hless, hreached⟩

/-- An evaluation that rests on itself is stopped whatever its room is. The induction is on the
room. -/
theorem limited_of_restsOn_self (hself : grammar.RestsOn text inner inner) (room : Nat) :
    (grammar.trace text room inner.1 inner.2).Limited := by
  induction room using Nat.strong_induction_on with
  | _ room ih =>
    by_contra hroom
    obtain ⟨less, hless, hreached⟩ := hself room hroom
    exact hreached (ih less hless)

/-- The pairs of a node and an offset inside a text. -/
def places (grammar : Grammar) (text : Text) : Finset (NodeId × Nat) :=
  Finset.range grammar.nodeCount ×ˢ Finset.range (text.size + 1)

/-- There are as many pairs as nodes times offsets. -/
theorem card_places (grammar : Grammar) (text : Text) :
    (grammar.places text).card = grammar.nodeCount * (text.size + 1) := by
  rw [places, Finset.card_product, Finset.card_range, Finset.card_range]

end Grammar

/-! ### The tally -/

/-- The tally of an engine while some evaluations are pending. It remembers outcomes of other pairs
than those, forgot nothing, and looked up in vain and evaluated one pair for each outcome that it
remembers and for each pending evaluation. -/
structure EngineState.Tallied (grammar : Grammar) (text : Text) (pending : Finset (NodeId × Nat))
    (state : EngineState) : Prop where
  /-- What is remembered belongs to pairs that are not pending, all of them inside the text. -/
  kept : ∃ kept, state.memo.Covers kept ∧ Disjoint kept pending ∧
    kept ∪ pending ⊆ grammar.places text
  /-- The outcomes that were looked up in vain. -/
  misses : state.counters.misses = state.memo.size + pending.card
  /-- The evaluations of nodes. -/
  evaluations : state.counters.evaluations = state.counters.misses
  /-- Nothing was forgotten. -/
  evictions : state.counters.evictions = 0

namespace EngineState

variable {grammar : Grammar} {text : Text} {pending : Finset (NodeId × Nat)}
  {state other : EngineState} {id : NodeId} {offset : Nat}

/-- Only what is remembered and counted matters, and hits do not count. -/
theorem Tallied.of_eq (htallied : state.Tallied grammar text pending)
    (hmemo : other.memo = state.memo)
    (hcounters : other.counters = { state.counters with hits := other.counters.hits }) :
    other.Tallied grammar text pending := by
  constructor
  · rw [hmemo]
    exact htallied.kept
  · rw [hcounters, hmemo]
    exact htallied.misses
  · rw [hcounters]
    exact htallied.evaluations
  · rw [hcounters]
    exact htallied.evictions

/-- The outcomes remembered and the pending evaluations are at most the pairs inside the text. -/
theorem Tallied.size_add_card_le (htallied : state.Tallied grammar text pending) :
    state.memo.size + pending.card ≤ grammar.nodeCount * (text.size + 1) := by
  obtain ⟨kept, hcovers, hdisjoint, hinside⟩ := htallied.kept
  rw [hcovers.size, ← Finset.card_union_of_disjoint hdisjoint, ← Grammar.card_places]
  exact Finset.card_le_card hinside

/-- Nothing is remembered of a pending evaluation. -/
theorem Tallied.find?_eq_none (htallied : state.Tallied grammar text pending)
    (hpending : (id, offset) ∈ pending) : state.memo.find? id offset = none := by
  obtain ⟨kept, hcovers, hdisjoint, -⟩ := htallied.kept
  by_contra hfind
  exact Finset.disjoint_left.mp hdisjoint ((hcovers.mem id offset).mpr hfind) hpending

/-- An evaluation that begins where nothing is remembered becomes pending. -/
theorem Tallied.begin (htallied : state.Tallied grammar text pending)
    (hplace : (id, offset) ∈ grammar.places text) (hnone : state.memo.find? id offset = none)
    (hfresh : (id, offset) ∉ pending) (furthest : Option Failure) :
    ({ state with
      furthest := furthest
      counters := { state.counters with
        misses := state.counters.misses + 1
        evaluations := state.counters.evaluations + 1 } } : EngineState).Tallied grammar text
      (insert (id, offset) pending) := by
  obtain ⟨kept, hcovers, hdisjoint, hinside⟩ := htallied.kept
  refine ⟨⟨kept, hcovers, ?_, ?_⟩, ?_, ?_, htallied.evictions⟩
  · rw [Finset.disjoint_insert_right]
    exact ⟨fun hmem ↦ (hcovers.mem id offset).mp hmem hnone, hdisjoint⟩
  · rw [Finset.union_insert, Finset.insert_subset_iff]
    exact ⟨hplace, hinside⟩
  · change state.counters.misses + 1 = state.memo.size + _
    rw [Finset.card_insert_of_notMem hfresh, htallied.misses, Nat.add_assoc]
  · exact congrArg (· + 1) htallied.evaluations

/-- Remembering an outcome where there is room forgets nothing and counts nothing. -/
theorem learns_remember {capacity : Nat} (hnone : state.memo.find? id offset = none)
    (hroom : state.memo.isFull capacity = false) (pinned : Bool) (found : Remembered) :
    (state.remember capacity pinned id offset found).memo.Learns state.memo id offset found ∧
      (state.remember capacity pinned id offset found).counters = state.counters := by
  unfold remember
  split
  · exact ⟨Memo.learns_pin hnone found, rfl⟩
  · rw [if_neg (by rw [hroom]; exact Bool.false_ne_true)]
    exact ⟨Memo.learns_store hnone found, rfl⟩

/-- Remembering the outcome of a pending evaluation ends it. -/
theorem Tallied.remember {capacity : Nat}
    (hcapacity : grammar.nodeCount * (text.size + 1) ≤ capacity) (hfresh : (id, offset) ∉ pending)
    (htallied : state.Tallied grammar text (insert (id, offset) pending)) (pinned : Bool)
    (found : Remembered) :
    let after := state.remember capacity pinned id offset found
    after.Tallied grammar text pending ∧ after.memo.Extends state.memo ∧
      after.memo.find? id offset = some found := by
  have hnone := htallied.find?_eq_none (Finset.mem_insert_self _ _)
  have hroom : state.memo.isFull capacity = false := by
    have hle := htallied.size_add_card_le
    rw [Finset.card_insert_of_notMem hfresh] at hle
    have hlt : state.memo.entries.size < capacity := by
      simp only [Memo.size] at hle
      omega
    simpa [Memo.isFull] using hlt
  obtain ⟨hlearns, hcounters⟩ := learns_remember hnone hroom pinned found
  refine ⟨⟨?_, ?_, ?_, ?_⟩, hlearns.extends hnone, hlearns.find_self⟩
  · obtain ⟨kept, hcovers, hdisjoint, hinside⟩ := htallied.kept
    rw [Finset.disjoint_insert_right] at hdisjoint
    refine ⟨insert (id, offset) kept, hcovers.learns hlearns hdisjoint.1, ?_, ?_⟩
    · rw [Finset.disjoint_insert_left]
      exact ⟨hfresh, hdisjoint.2⟩
    · rwa [Finset.insert_union, ← Finset.union_insert]
  · rw [hcounters, htallied.misses, hlearns.size, Finset.card_insert_of_notMem hfresh]
    omega
  · rw [hcounters]
    exact htallied.evaluations
  · rw [hcounters]
    exact htallied.evictions

@[simp] theorem counters_recordAll (failure : Option Failure) :
    (state.recordAll failure).counters = state.counters := by
  cases failure <;> rfl

end EngineState

/-! ### Evaluations that keep the tally -/

variable {α : Type} {grammar : Grammar} {text : Text} {pending : Finset (NodeId × Nat)}
  {state : EngineState} {id : NodeId} {offset : Nat}

/-- Unless an evaluation ended with an error, it kept the tally and what was remembered. -/
def Tallies (grammar : Grammar) (text : Text) (pending : Finset (NodeId × Nat))
    (state : EngineState) (result : Except Halt α × EngineState) : Prop :=
  Settled result.1 → result.2.Tallied grammar text pending ∧ result.2.memo.Extends state.memo

/-- An evaluation that leaves the state as it was keeps the tally. -/
theorem tallies_constant (htallied : state.Tallied grammar text pending) (outcome : Except Halt α) :
    Tallies grammar text pending state (outcome, state) :=
  fun _ ↦ ⟨htallied, .refl _⟩

/-- The tally of an evaluation does not depend on its outcome, as long as it is no error, and on
what was recorded and noted. -/
theorem Tallies.of_eq {β : Type} {first : Except Halt α × EngineState}
    {second : Except Halt β × EngineState} (htallies : Tallies grammar text pending state first)
    (hsettled : Settled second.1 → Settled first.1) (hmemo : second.2.memo = first.2.memo)
    (hcounters : second.2.counters = first.2.counters) :
    Tallies grammar text pending state second := by
  intro hsecond
  obtain ⟨htallied, hextends⟩ := htallies (hsettled hsecond)
  refine ⟨htallied.of_eq hmemo ?_, ?_⟩
  · rw [hcounters]
  · rw [hmemo]
    exact hextends

/-- One evaluation after another keeps the tally if both do. -/
theorem Tallies.trans {β : Type} {middle : EngineState} {value : α}
    {result : Except Halt β × EngineState}
    (hfirst : Tallies grammar text pending state ((.ok value : Except Halt α), middle))
    (hnext : middle.Tallied grammar text pending → Tallies grammar text pending middle result) :
    Tallies grammar text pending state result := by
  intro hsettled
  obtain ⟨hmiddle, hbefore⟩ := hfirst fun _ herror ↦ nomatch herror
  obtain ⟨hafter, hextends⟩ := hnext hmiddle hsettled
  exact ⟨hafter, hextends.trans hbefore⟩

/-- The operations keep the tally. Of the deepening it is known that it is not stopped with certain
rooms. The same is then known of all parts of the evaluation that happen, since the engine is
faithful. -/
def tallying (grammar : Grammar) (text : Text) (room : Nat) (pending : Finset (NodeId × Nat))
    (live : Nat → Prop) : Correspondence Engine Deepening where
  Holds engine deepening property := Faithful grammar text room engine deepening property ∧
    ∀ state : EngineState, state.Sound grammar text → state.Tallied grammar text pending →
      (∀ enough, live enough → ¬ (deepening.trace enough).Limited) →
        Tallies grammar text pending state (engine state)
  Allows _ := True
  holds_mono hholds himp := ⟨(faithfulness grammar text room).holds_mono hholds.1 himp, hholds.2⟩
  holds_pure value hvalue := ⟨(faithfulness grammar text room).holds_pure value hvalue,
    fun _ _ htallied _ ↦ tallies_constant htallied _⟩
  holds_bind {α β first second next next' property goal} hfirst hnext := by
    refine ⟨(faithfulness grammar text room).holds_bind hfirst.1 fun value hvalue ↦
      (hnext value hvalue).1, fun state hsound htallied hlive ↦ ?_⟩
    obtain ⟨hmiddle, hagrees, hvalue⟩ := hfirst.1 state hsound
    have htallies := hfirst.2 state hsound htallied fun enough hreached hlimited ↦
      hlive enough hreached (hlimited.bind _)
    match hrun : first state with
    | (.error halt, after) =>
      rw [hrun] at htallies
      rw [Engine.bind_of_error hrun]
      refine htallies.of_eq (fun hsettled error herror ↦ ?_) rfl rfl
      cases herror
      exact hsettled error rfl
    | (.ok value, middle) =>
      rw [hrun] at hmiddle hagrees hvalue htallies
      rw [Engine.bind_of_ok hrun]
      refine htallies.trans fun hkept ↦ (hnext value (hvalue value rfl)).2 middle hmiddle hkept ?_
      intro enough hreached hlimited
      obtain ⟨other, hother, hreproduces⟩ :=
        hagrees.resolve_left fun hstopped ↦ not_isLimited_ok value hstopped.1
      have hwhole := hlive enough hreached
      have hpart : ¬ (second.trace enough).Limited := fun hstopped ↦ hwhole (hstopped.bind _)
      have houtcome : (second.trace enough).outcome = .ok value := by
        rw [second.trace_unique hpart hother]
        exact hreproduces.outcome.symm
      refine hwhole ?_
      change (second.trace enough >>= fun value ↦ (next' value).trace enough).Limited
      rw [Trace.bind_of_ok houtcome]
      exact hlimited
  holds_failure failure := ⟨(faithfulness grammar text room).holds_failure failure,
    fun _ _ htallied _ ↦ tallies_constant htallied _⟩
  holds_error error hallowed := ⟨(faithfulness grammar text room).holds_error error hallowed,
    fun _ _ htallied _ ↦ tallies_constant htallied _⟩
  holds_attempt {α first second property} hholds := by
    refine ⟨(faithfulness grammar text room).holds_attempt hholds.1,
      fun state hsound htallied hlive ↦ ?_⟩
    have htallies := hholds.2 state hsound htallied fun enough hreached hlimited ↦
      hlive enough hreached hlimited.attempt
    match hrun : first state with
    | (.ok value, after) =>
      rw [hrun] at htallies
      rw [Engine.attempt_of_ok hrun]
      exact htallies.of_eq (fun _ _ herror ↦ nomatch herror) rfl rfl
    | (.error (.failure failure), after) =>
      rw [hrun] at htallies
      rw [Engine.attempt_of_failure hrun]
      exact htallies.of_eq (fun _ _ herror ↦ nomatch herror) rfl rfl
    | (.error (.error error), after) =>
      rw [Engine.attempt_of_error hrun]
      exact fun hsettled ↦ absurd rfl (hsettled error)
  holds_record failure := ⟨(faithfulness grammar text room).holds_record failure,
    fun _ _ htallied _ _ ↦ ⟨htallied.of_eq rfl rfl, .refl _⟩⟩
  holds_shield hholds := ⟨(faithfulness grammar text room).holds_shield hholds.1,
    fun state hsound htallied hlive ↦
      (hholds.2 state hsound htallied hlive).of_eq (fun hsettled ↦ hsettled) rfl rfl⟩

/-- Actions leave what is remembered and what is counted as it was. -/
theorem memo_runActions (id : NodeId) (offset : Nat) (context : Context) (actions : List Action) :
    ∀ (index : Nat) (results : Results) (state : EngineState),
      let result :=
        (Matcher.runActions id offset context index actions results : Engine Results) state
      result.2.memo = state.memo ∧ result.2.counters = state.counters := by
  induction actions with
  | nil => exact fun _ _ _ ↦ ⟨rfl, rfl⟩
  | cons action rest ih =>
    intro index results state
    have hinvoke (invocation : Invocation) : (invoke invocation : Engine Unit) state =
        (.ok (), { state with invocations := state.invocations.push invocation }) := rfl
    simp only [Matcher.runActions]
    rw [Engine.bind_of_ok (hinvoke _)]
    obtain ⟨verdict, fatal⟩ := action.apply context results
    cases verdict with
    | keep => exact ih (index + 1) results _
    | replace changed => exact ih (index + 1) changed _
    | reject message => exact ⟨rfl, rfl⟩

/-- What a node with actions does after its child has matched leaves what is remembered and what is
counted as it was. -/
theorem memo_actOn (text : Text) (skip : Option CharSet) (id : NodeId) (actions : List Action)
    (offset : Nat) (found : Match) (state : EngineState) :
    let result := (actOn text skip id actions offset found : Engine Match) state
    result.2.memo = state.memo ∧ result.2.counters = state.counters := by
  intro result
  obtain ⟨hmemo, hcounters⟩ := memo_runActions id offset
    ⟨text, min (skipFrom skip text offset) found.stop, found.stop⟩ actions 0 found.results state
  match hrun : (Matcher.runActions id offset ⟨text, min (skipFrom skip text offset) found.stop,
      found.stop⟩ 0 actions found.results : Engine Results) state with
  | (.ok results, after) =>
    rw [hrun] at hmemo hcounters
    have hresult : result = (.ok ⟨found.stop, results⟩, after) := Engine.bind_of_ok hrun _
    rw [hresult]
    exact ⟨hmemo, hcounters⟩
  | (.error halt, after) =>
    rw [hrun] at hmemo hcounters
    have hresult : result = (.error halt, after) := Engine.bind_of_error hrun _
    rw [hresult]
    exact ⟨hmemo, hcounters⟩

/-! ### Nodes -/

namespace Grammar

/-- What may be asked for are nodes at boundaries of the text, and they end at boundaries. -/
def bounded (grammar : Grammar) (text : Text) : Contract where
  May child place := child < grammar.nodeCount ∧ text.IsBoundary place
  Ends _ _ stop := text.IsBoundary stop
  Allows _ := True

theorem runsAll_bounded {parts : List NodeId} (hparts : ∀ part ∈ parts, part < grammar.nodeCount) :
    ∀ place, text.IsBoundary place → (grammar.bounded text).RunsAll
      text.IsBoundary parts place := by
  induction parts with
  | nil => exact fun _ hplace ↦ hplace
  | cons part rest ih =>
    exact fun place hplace ↦ ⟨⟨hparts part List.mem_cons_self, hplace⟩, fun stop hstop ↦
      ih (fun other hother ↦ hparts other (List.mem_cons_of_mem _ hother)) stop hstop⟩

/-- A node of a well-formed grammar at a boundary asks for nodes at boundaries only. -/
theorem demands_bounded (hformed : grammar.WellFormed) (hid : id < grammar.nodeCount)
    (hoffset : text.IsBoundary offset) :
    (grammar.node id).Demands grammar text (grammar.bounded text) offset text.IsBoundary := by
  have hfits := hformed.fits id hid
  have hskip (skip : Option CharSet) := hoffset.ahead_skipFrom skip
  have hchild (child : NodeId) (hmem : child ∈ (grammar.node id).children) :
      child < grammar.nodeCount :=
    (hfits.children child hmem).trans hid
  have hrun (child : NodeId) (hmem : child ∈ (grammar.node id).children) {place : Nat}
      (hplace : text.IsBoundary place) :
      (grammar.bounded text).Runs child place text.IsBoundary :=
    ⟨⟨hchild child hmem, hplace⟩, fun _ hstop ↦ hstop⟩
  cases hnode : grammar.node id with
  | empty => exact hoffset
  | textEnd skip => exact fun _ ↦ (hskip skip).boundary
  | terminal form skip expected =>
    exact ⟨fun taken token hscan ↦
      ((hskip skip).boundary.ahead_add (Terminal.scan_eq_found hscan).1).boundary,
      fun _ ↦ True.intro⟩
  | regex program skip expected =>
    exact ⟨fun taken token hscan ↦
      ((hskip skip).boundary.ahead_add (CompiledRegex.scanRegex_eq_found hscan).1).boundary,
      fun _ ↦ True.intro⟩
  | sequence parts commit =>
    rw [hnode] at hchild
    exact runsAll_bounded hchild offset hoffset
  | choice alternatives =>
    rw [hnode] at hrun
    exact fun child hmem ↦ hrun child hmem hoffset
  | optional child default =>
    rw [hnode] at hrun
    exact ⟨hoffset, hrun child (List.mem_singleton_self child) hoffset⟩
  | repetition child least most what =>
    rw [hnode] at hchild
    have hmay := hchild child (List.mem_singleton_self child)
    exact ⟨fun _ place ↦ text.IsBoundary place, hoffset,
      ⟨fun _ place hplace ↦ ⟨⟨hmay, hplace⟩, fun stop hstop ↦ ⟨hstop, fun _ _ ↦ True.intro⟩⟩,
        fun _ _ hplace _ ↦ hplace⟩⟩
  | delimited item separator form what =>
    rw [hnode] at hchild
    have hitem := hchild item List.mem_cons_self
    have hseparator := hchild separator (List.mem_cons_of_mem _ List.mem_cons_self)
    exact ⟨fun _ ↦ hoffset, text.IsBoundary, ⟨⟨hitem, hoffset⟩, fun _ hstop ↦ hstop⟩,
      ⟨fun place hplace ↦ ⟨⟨hseparator, hplace⟩, fun middle hmiddle ↦ ⟨fun _ ↦ hmiddle,
        ⟨hitem, hmiddle⟩, fun stop hstop ↦ ⟨hstop, fun _ _ ↦ True.intro⟩⟩⟩,
        fun _ hplace ↦ hplace⟩⟩
  | lookahead child negative unwanted =>
    rw [hnode] at hchild
    exact ⟨hoffset, hchild child (List.mem_singleton_self child), hoffset⟩
  | call rule =>
    rw [hnode] at hfits
    exact ⟨⟨hformed.ruleBody_lt hfits.sound, hoffset⟩, fun _ hstop ↦ hstop⟩
  | combine child joiner skip =>
    rw [hnode] at hrun
    exact hrun child (List.mem_singleton_self child) (hskip skip).boundary
  | suppress child | group child | named child name accumulate | action child actions skip
  | labeled child skip expected =>
    rw [hnode] at hrun
    exact hrun child (List.mem_singleton_self child) hoffset

/-- Evaluations at boundaries end with what the grammar maintains. -/
theorem ended_evaluate {promise : NodeId → Nat → Match → Prop}
    (hmaintains : grammar.Maintains text promise) (hvalid : state.Valid grammar text)
    (hoffset : text.IsBoundary offset) (room : Nat) :
    Ended (text.Fulfils promise id offset) (text.Ahead offset)
      (grammar.evaluate text room id offset state).1 := by
  rcases (grammar.answers_evaluate hvalid room id offset).2 with ⟨hlimited, -⟩ | ⟨enough, -, hsame⟩
  · match houtcome : (grammar.evaluate text room id offset state).1 with
    | .ok found => simp [houtcome] at hlimited
    | .error (.failure failure) => simp [houtcome] at hlimited
    | .error (.error error) => exact True.intro
  · rw [← hsame]
    exact (grammar.holds_trace hmaintains enough id offset hoffset).1

end Grammar

/-! ### Around nodes -/

/-- What the engine keeps while it evaluates a node: the tally, what is remembered, and that the
outcome is remembered in the end. -/
structure Registers (grammar : Grammar) (text : Text) (pending : Finset (NodeId × Nat))
    (state : EngineState) (id : NodeId) (offset : Nat) (outcome : Except Halt Match)
    (after : EngineState) : Prop where
  /-- The tally is kept. -/
  tallied : after.Tallied grammar text pending
  /-- What was remembered still is. -/
  grown : after.memo.Extends state.memo
  /-- The outcome is remembered. -/
  find : ∃ found, after.memo.find? id offset = some found ∧
    found.outcome.mapError .failure = outcome

/-- An outcome that is found is registered already. -/
theorem registers_replay {found : Remembered} (htallied : state.Tallied grammar text pending)
    (hfind : state.memo.find? id offset = some found) :
    Registers grammar text pending state id offset (Engine.replay found state).1
      (Engine.replay found state).2 := by
  have hmemo : (Engine.replay found state).2.memo = state.memo := EngineState.memo_recordAll _
  constructor
  · refine htallied.of_eq hmemo ?_
    rw [Engine.replay, EngineState.counters_recordAll]
  · rw [hmemo]
    exact .refl _
  · rw [hmemo]
    exact ⟨found, hfind, rfl⟩

/-- An outcome that is learned is registered, if its evaluation keeps the tally while it is
pending. -/
theorem registers_learn {capacity : Nat}
    (hcapacity : grammar.nodeCount * (text.size + 1) ≤ capacity) (pinned : Bool)
    {evaluation : Engine Match} (htallied : state.Tallied grammar text pending)
    (hplace : (id, offset) ∈ grammar.places text) (hnone : state.memo.find? id offset = none)
    (hfresh : (id, offset) ∉ pending)
    (hevaluation : ∀ begun : EngineState, begun.memo = state.memo →
      begun.invocations = state.invocations →
      begun.Tallied grammar text (insert (id, offset) pending) →
        Tallies grammar text (insert (id, offset) pending) begun (evaluation begun)) :
    let result := Engine.learn capacity pinned id offset (Engine.counted evaluation) state
    Settled result.1 → Registers grammar text pending state id offset result.1 result.2 := by
  have hbegun := htallied.begin hplace hnone hfresh none
  have htallies := hevaluation { state with
    furthest := none
    counters := { state.counters with
      misses := state.counters.misses + 1
      evaluations := state.counters.evaluations + 1 } } rfl rfl hbegun
  simp only [Engine.learn, Engine.counted]
  revert htallies
  generalize evaluation _ = result
  obtain ⟨outcome, after⟩ := result
  intro htallies hsettled
  obtain ⟨hpending, hbefore⟩ := htallies hsettled
  have hheld : ({ after with furthest := state.furthest } : EngineState).Tallied grammar text
      (insert (id, offset) pending) := hpending.of_eq rfl rfl
  have hregisters (stored : Except Failure Match)
      (hstored : stored.mapError Halt.failure = outcome) :
      Registers grammar text pending state id offset outcome
        ((({ after with furthest := state.furthest } : EngineState).remember
          capacity pinned id offset ⟨stored, after.furthest⟩).recordAll after.furthest) := by
    obtain ⟨hended, hextends, hfind⟩ :=
      hheld.remember hcapacity hfresh pinned ⟨stored, after.furthest⟩
    constructor
    · refine hended.of_eq (EngineState.memo_recordAll _) ?_
      rw [EngineState.counters_recordAll]
    · rw [EngineState.memo_recordAll]
      exact hextends.trans hbefore
    · rw [EngineState.memo_recordAll]
      exact ⟨_, hfind, hstored⟩
  cases outcome with
  | ok found => exact hregisters (.ok found) rfl
  | error halt =>
    cases halt with
    | failure failure => exact hregisters (.error failure) rfl
    | error error => exact absurd rfl (hsettled error)

namespace Grammar

/-- All outcomes are remembered, and there is room for one of each node at each offset of a text. -/
structure RemembersAll (grammar : Grammar) (text : Text) : Prop where
  /-- Outcomes are remembered. -/
  packrat : grammar.config.packrat = true
  /-- Those of all nodes are. -/
  scope : grammar.config.memoScope = .all
  /-- There is room for all of them. -/
  capacity : grammar.nodeCount * (text.size + 1) ≤ grammar.config.maxMemoSize

/-- Where all outcomes are remembered, every node is looked up before it is evaluated. -/
theorem RemembersAll.evaluate_succ (hall : grammar.RemembersAll text) (room : Nat) (id : NodeId)
    (offset : Nat) :
    grammar.evaluate text (room + 1) id offset =
      Engine.memoized grammar.config.maxMemoSize (grammar.node id).isAction id offset
        (Engine.counted ((grammar.node id).matcher grammar text (grammar.evaluate text room) id
          offset)) := by
  have hremembers : grammar.remembers (grammar.node id) = true := by
    simp [remembers, hall.packrat, hall.scope]
  change grammar.layer id offset _ = _
  rw [layer, if_pos hremembers]
  rfl

/-- A node keeps the tally if the evaluations that it rests on do. -/
theorem tallies_matcher (hformed : grammar.WellFormed) (hpackrat : grammar.config.packrat = true)
    (hid : id < grammar.nodeCount) (hoffset : text.IsBoundary offset) {room : Nat}
    (hchildren : ∀ child place, child < grammar.nodeCount → text.IsBoundary place →
      grammar.RestsOn text (id, offset) (child, place) →
        ∀ state : EngineState, state.Sound grammar text → state.Tallied grammar text pending →
          Tallies grammar text pending state (grammar.evaluate text room child place state))
    (hsound : state.Sound grammar text) (htallied : state.Tallied grammar text pending) :
    Tallies grammar text pending state
      ((grammar.node id).matcher grammar text (grammar.evaluate text room) id offset state) := by
  have hfaithful (child place : Nat) :
      Faithful grammar text room (grammar.evaluate text room child place)
        (grammar.deepening text child place) fun _ ↦ True :=
    grammar.faithful_evaluate hpackrat room child place
  -- A child is not stopped with a room with which the node is not stopped with one more.
  have hrests (child place : Nat) (hlive : ∀ enough,
      ¬ (grammar.trace text (enough + 1) id offset).Limited →
        ¬ (grammar.trace text enough child place).Limited) :
      grammar.RestsOn text (id, offset) (child, place) := by
    intro more hmore
    cases more with
    | zero => exact absurd (grammar.limited_trace_zero text id offset) hmore
    | succ enough => exact ⟨enough, Nat.lt_succ_self enough, hlive enough hmore⟩
  by_cases hplain : (grammar.node id).isAction = false
  · have hmeets : (tallying grammar text room pending
        fun enough ↦ ¬ (grammar.trace text (enough + 1) id offset).Limited).Meets
          (grammar.bounded text) (grammar.evaluate text room) (grammar.deepening text) := by
      refine ⟨fun child place hmay ↦ ⟨fun other hother ↦ ?_, fun other hother hkept hlive ↦ ?_⟩,
        fun _ _ ↦ True.intro⟩
      · obtain ⟨hafter, hagrees, -⟩ := hfaithful child place other hother
        refine ⟨hafter, hagrees, fun found hfound ↦ ?_⟩
        have hended : Ended (text.Fulfils Promise.nothing child place) (text.Ahead place)
            (grammar.evaluate text room child place other).1 :=
          ended_evaluate (grammar.maintains_nothing text) (fun _ ↦ hother) hmay.2 room
        rw [hfound] at hended
        exact hended.1.boundary
      · exact hchildren child place hmay.1 hmay.2 (hrests child place hlive) other hother hkept
    refine (hmeets.holds_matcher hplain (demands_bounded hformed hid hoffset)).2 state
      hsound htallied fun enough hreached ↦ ?_
    rw [grammar.trace_matcher_deepening]
    exact hreached
  · cases hnode : grammar.node id with
    | action child actions skip =>
      have hfits := (hformed.fits id hid).children
      rw [hnode] at hfits
      have hchild : child < grammar.nodeCount :=
        (hfits child (List.mem_singleton_self child)).trans hid
      have htallies := hchildren child offset hchild hoffset (hrests child offset
        fun enough hreached hlimited ↦ hreached (by
          rw [grammar.trace_succ_action text hnode]
          exact hlimited.bind _)) state hsound htallied
      rw [grammar.matcher_action]
      match hrun : grammar.evaluate text room child offset state with
      | (.error halt, after) =>
        rw [hrun] at htallies
        rw [Engine.bind_of_error hrun]
        exact htallies
      | (.ok found, middle) =>
        rw [hrun] at htallies
        rw [Engine.bind_of_ok hrun]
        refine htallies.trans fun hmiddle _ ↦ ?_
        obtain ⟨hmemo, hcounters⟩ := memo_actOn text skip id actions offset found middle
        refine ⟨hmiddle.of_eq hmemo (by rw [hcounters]), ?_⟩
        rw [hmemo]
        exact .refl _
    | _ => exact absurd (by rw [hnode]; rfl) hplain

/-- An evaluation that does not end with an error registers its outcome. The induction is on the
room. The pending evaluations all rest on the one that begins, so if it is one of them it is
stopped. -/
theorem registers_evaluate (hformed : grammar.WellFormed) (hall : grammar.RemembersAll text)
    (room : Nat) :
    ∀ (id : NodeId) (offset : Nat) (pending : Finset (NodeId × Nat)) (state : EngineState),
      id < grammar.nodeCount → text.IsBoundary offset → state.Sound grammar text →
      state.Tallied grammar text pending →
      (∀ outer ∈ pending, grammar.RestsOn text outer (id, offset)) →
      let result := grammar.evaluate text room id offset state
      Settled result.1 → Registers grammar text pending state id offset result.1 result.2 := by
  induction room with
  | zero => exact fun _ _ _ _ _ _ _ _ _ hsettled ↦ absurd rfl (hsettled _)
  | succ room ih =>
    intro id offset pending state hid hoffset hsound htallied hpending result hsettled
    have hplace : (id, offset) ∈ grammar.places text := by
      rw [places, Finset.mem_product, Finset.mem_range, Finset.mem_range]
      exact ⟨hid, Nat.lt_succ_of_le hoffset.le_size⟩
    have hresult := congrFun (hall.evaluate_succ room id offset) state
    change result = _ at hresult
    unfold Engine.memoized at hresult
    cases hfind : state.memo.find? id offset with
    | some found =>
      rw [hresult, hfind]
      exact registers_replay htallied hfind
    | none =>
      by_cases hopen : (id, offset) ∈ pending
      · obtain ⟨-, hagrees, -⟩ := grammar.faithful_evaluate hall.packrat
          (room + 1) id offset state hsound
        have hlimited (enough : Nat) := limited_of_restsOn_self (hpending _ hopen) enough
        rcases hagrees with ⟨hstopped, -⟩ | ⟨enough, hreached, -⟩
        · exact absurd hstopped hsettled.not_isLimited
        · exact absurd (hlimited enough) hreached
      · rw [hfind] at hresult
        rw [hresult] at hsettled ⊢
        refine registers_learn hall.capacity _ htallied hplace hfind hopen ?_ hsettled
        intro begun hmemo hruns hbegun
        refine tallies_matcher hformed hall.packrat hid hoffset ?_ (hsound.of_eq hmemo hruns) hbegun
        intro child place hchild hboundary hrests other hother hkept hended
        have hregisters := ih child place _ other hchild hboundary hother hkept
          (fun outer houter ↦ ?_) hended
        · exact ⟨hregisters.tallied, hregisters.grown⟩
        · rcases Finset.mem_insert.mp houter with rfl | hbefore
          · exact hrests
          · exact (hpending outer hbefore).trans hrests

end Grammar

end Packrat
