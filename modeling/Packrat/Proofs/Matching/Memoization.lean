import Packrat.Proofs.Matching.Memory

/-!
# What the engine does around a node

Before it evaluates a node the engine looks the outcome up, and afterwards it remembers it. Both
keep the invariant and agree with the traces of the node (`agrees_replay`, `Concludes.learn`). For a
node with actions this needs that none of them ran before: had one run at this offset, the outcome
would be pinned and would have been found.

The main statement is `Grammar.faithful_evaluate`.
-/

set_option autoImplicit false
set_option relaxedAutoImplicit false

namespace Packrat

open MatchMonad

variable {grammar : Grammar} {text : Text} {state : EngineState} {id : NodeId} {offset : Nat}

/-! ### Remembering keeps the invariant -/

/-- What is remembered stays right when more actions have run. -/
theorem Remembered.Records.mono {found : Remembered} {runs more : List Invocation}
    {trace : Trace Match} (hrecords : found.Records runs trace)
    (hsubset : ∀ site ∈ sites runs, site ∈ sites more) : found.Records more trace :=
  ⟨hrecords.unlimited, hrecords.outcome, hrecords.furthest,
    fun site hsite ↦ hsubset site (hrecords.noted site hsite)⟩

/-- Pinning what a trace says keeps the invariant, and ends the evaluation of the actions that were
running at this place. -/
theorem EngineState.SoundUpTo.sound_pin {pending : Option (NodeId × Nat)} {found : Remembered}
    (hsound : state.SoundUpTo grammar text pending)
    (hpending : pending = none ∨ pending = some (id, offset))
    (hrecords : ∃ room,
      found.Records state.invocations.toList (grammar.trace text room id offset)) :
    ({ state with memo := state.memo.pin id offset found } : EngineState).Sound grammar text := by
  refine ⟨fun other place entry hfind ↦ ?_, fun run hrun ↦ ?_, hsound.once⟩
  · rcases Memo.find?_pin hfind with ⟨⟨rfl, rfl⟩, rfl⟩ | hbefore
    · exact hrecords
    · exact hsound.entries other place entry hbefore
  · refine Or.inr (Std.HashMap.mem_insert.mpr ?_)
    rcases hsound.pinned run hrun with hopen | hkept
    · rcases hpending with rfl | rfl
      · cases hopen
      · exact Or.inl (beq_of_eq (Option.some.inj hopen))
    · exact Or.inr hkept

/-- Storing what a trace says keeps the invariant. -/
theorem EngineState.sound_store {found : Remembered} (hsound : state.Sound grammar text)
    (hrecords : ∃ room,
      found.Records state.invocations.toList (grammar.trace text room id offset)) :
    ({ state with memo := state.memo.store id offset found } : EngineState).Sound grammar text := by
  refine ⟨fun other place entry hfind ↦ ?_, hsound.pinned, hsound.once⟩
  rcases Memo.find?_store hfind with ⟨⟨rfl, rfl⟩, rfl⟩ | hbefore
  · exact hrecords
  · exact hsound.entries other place entry hbefore

theorem EngineState.sound_forget (hsound : state.Sound grammar text) :
    ({ state with memo := state.memo.forget } : EngineState).Sound grammar text :=
  ⟨fun other place entry hfind ↦ hsound.entries other place entry (Memo.find?_forget hfind),
    hsound.pinned, hsound.once⟩

@[simp] theorem EngineState.furthest_remember (capacity : Nat) (pinned : Bool)
    (found : Remembered) :
    (state.remember capacity pinned id offset found).furthest = state.furthest := by
  unfold remember
  split_ifs <;> rfl

@[simp] theorem EngineState.invocations_remember (capacity : Nat) (pinned : Bool)
    (found : Remembered) :
    (state.remember capacity pinned id offset found).invocations = state.invocations := by
  unfold remember
  split_ifs <;> rfl

/-- Remembering what a trace says keeps the invariant, whatever is forgotten for it. -/
theorem EngineState.SoundUpTo.sound_remember {pending : Option (NodeId × Nat)} {found : Remembered}
    {pinned : Bool} (capacity : Nat) (hsound : state.SoundUpTo grammar text pending)
    (hpending : pending = none ∨ (pinned = true ∧ pending = some (id, offset)))
    (hrecords : ∃ room,
      found.Records state.invocations.toList (grammar.trace text room id offset)) :
    (state.remember capacity pinned id offset found).Sound grammar text := by
  unfold remember
  split
  next =>
    exact hsound.sound_pin (hpending.imp_right fun hpinned ↦ hpinned.2) hrecords
  next hloose =>
    have hnone : pending = none := hpending.resolve_right fun hpinned ↦ hloose hpinned.1
    subst hnone
    split
    next =>
      exact (EngineState.sound_store (EngineState.sound_forget hsound) hrecords).of_eq rfl rfl
    next => exact EngineState.sound_store hsound hrecords

/-- Recording the furthest failure of some events has the effect of all of them. -/
theorem EngineState.furthest_recordAll (events : List Event) :
    (state.recordAll (furthestAfter none events)).furthest =
      furthestAfter state.furthest events := by
  rw [furthestAfter_eq state.furthest events]
  cases furthestAfter none events <;> rfl

@[simp] theorem EngineState.memo_recordAll (failure : Option Failure) :
    (state.recordAll failure).memo = state.memo := by
  cases failure <;> rfl

@[simp] theorem EngineState.invocations_recordAll (failure : Option Failure) :
    (state.recordAll failure).invocations = state.invocations := by
  cases failure <;> rfl

/-! ### Looking up and learning -/

/-- An outcome that is found agrees with the traces. -/
theorem agrees_replay {found : Remembered} (hsound : state.Sound grammar text)
    (hfind : state.memo.find? id offset = some found) (room : Nat) :
    (Engine.replay found state).2.Sound grammar text ∧
      Agrees room state (Engine.replay found state) (grammar.deepening text id offset) := by
  obtain ⟨enough, hrecords⟩ := hsound.entries id offset found hfind
  refine ⟨hsound.of_eq (EngineState.memo_recordAll _) (EngineState.invocations_recordAll _),
    Or.inr ⟨enough, hrecords.unlimited, hrecords.outcome.symm, ?_, ?_⟩⟩
  · change (EngineState.recordAll _ found.furthest).furthest = _
    rw [← hrecords.furthest]
    exact EngineState.furthest_recordAll _
  · change (EngineState.recordAll _ found.furthest).invocations.toList = _
    rw [EngineState.invocations_recordAll]
    exact (runsAfter_of_subset hrecords.noted).symm

/-- How the evaluation of a node at an offset ends: it agrees with the traces, and the invariant
holds, but for the actions of the node that have run and are not pinned yet. -/
structure Concludes (grammar : Grammar) (text : Text) (room : Nat) (id : NodeId) (offset : Nat)
    (state : EngineState) (result : Except Halt Match × EngineState) : Prop where
  /-- The result agrees with the traces. -/
  agrees : Agrees room state result (grammar.deepening text id offset)
  /-- The invariant holds, up to actions of the node. -/
  sound : ∃ pending, result.2.SoundUpTo grammar text pending ∧
    (pending = none ∨ ((grammar.node id).isAction = true ∧ Settled result.1 ∧
      pending = some (id, offset)))

/-- A result that is no error and agrees with the traces can be remembered. -/
theorem Agrees.records {room : Nat} (outcome : Except Failure Match) {after : EngineState}
    (hagrees : Agrees room state (outcome.mapError .failure, after)
      (grammar.deepening text id offset))
    (hfresh : state.furthest = none) : ∃ enough,
      (⟨outcome, after.furthest⟩ : Remembered).Records after.invocations.toList
        (grammar.trace text enough id offset) := by
  have hunlimited : ¬ IsLimited (outcome.mapError Halt.failure) := by
    cases outcome with
    | ok found => exact not_isLimited_ok found
    | error failure => exact not_isLimited_failure failure
  obtain ⟨enough, hreached, houtcome, hfurthest, hruns⟩ :=
    hagrees.resolve_left fun hlimited ↦ hunlimited hlimited.1
  refine ⟨enough, hreached, houtcome.symm, ?_, fun site hsite ↦ ?_⟩
  · rw [hfresh] at hfurthest
    exact hfurthest.symm
  · change after.invocations.toList = _ at hruns
    rw [hruns]
    exact mem_sites_runsAfter.mpr (Or.inr hsite)

/-- An evaluation that starts without a furthest failure agrees with the traces also where there was
one, when it is recorded afterwards what it reached. -/
theorem Agrees.recordAll {room : Nat} {fresh after final : EngineState}
    {outcome : Except Halt Match} {deepening : Deepening Match}
    (hagrees : Agrees room fresh (outcome, after) deepening) (hfresh : fresh.furthest = none)
    (hbefore : fresh.invocations = state.invocations)
    (hheld : final.furthest = state.furthest) (hafter : final.invocations = after.invocations) :
    Agrees room state (outcome, final.recordAll after.furthest) deepening := by
  refine hagrees.imp_right fun ⟨enough, hunlimited, houtcome, hfurthest, hruns⟩ ↦
    ⟨enough, hunlimited, houtcome, ?_, ?_⟩
  · change after.furthest = _ at hfurthest
    change (final.recordAll after.furthest).furthest = _
    rw [hfurthest, hfresh, EngineState.furthest_recordAll, hheld]
  · change (final.recordAll after.furthest).invocations.toList = _
    rw [EngineState.invocations_recordAll, hafter, ← hbefore]
    exact hruns

/-- Learning an outcome agrees with the traces and keeps the invariant. -/
theorem Concludes.learn {room : Nat} (capacity : Nat) {evaluation : Engine Match}
    (hconcludes : ∀ fresh : EngineState, fresh.memo = state.memo →
      fresh.invocations = state.invocations →
      Concludes grammar text room id offset fresh (evaluation fresh)) :
    let result := Engine.learn capacity (grammar.node id).isAction id offset evaluation state
    result.2.Sound grammar text ∧
      Agrees room state result (grammar.deepening text id offset) := by
  obtain ⟨hagrees, pending, hsound, hpending⟩ := hconcludes
    { state with
      furthest := none
      counters := { state.counters with misses := state.counters.misses + 1 } } rfl rfl
  simp only [Engine.learn]
  revert hagrees hsound hpending
  generalize evaluation _ = result
  intro hagrees hsound hpending
  obtain ⟨outcome, after⟩ := result
  have hrestored : ({ after with furthest := state.furthest } : EngineState).SoundUpTo grammar text
      pending := hsound.of_eq rfl rfl
  match outcome with
  | .ok found =>
    refine ⟨?_, hagrees.recordAll rfl rfl (by simp) (by simp)⟩
    refine EngineState.SoundUpTo.of_eq ?_ (EngineState.memo_recordAll _)
      (EngineState.invocations_recordAll _)
    exact hrestored.sound_remember capacity (hpending.imp_right fun ⟨h, _, h'⟩ ↦ ⟨h, h'⟩)
      (Agrees.records (.ok found) hagrees rfl)
  | .error (.failure failure) =>
    refine ⟨?_, hagrees.recordAll rfl rfl (by simp) (by simp)⟩
    refine EngineState.SoundUpTo.of_eq ?_ (EngineState.memo_recordAll _)
      (EngineState.invocations_recordAll _)
    exact hrestored.sound_remember capacity (hpending.imp_right fun ⟨h, _, h'⟩ ↦ ⟨h, h'⟩)
      (Agrees.records (.error failure) hagrees rfl)
  | .error (.error error) =>
    have hnone : pending = none := hpending.resolve_right fun ⟨_, hsettled, _⟩ ↦ hsettled error rfl
    subst hnone
    refine ⟨hrestored.of_eq (EngineState.memo_recordAll _) (EngineState.invocations_recordAll _),
      ?_⟩
    exact hagrees.recordAll rfl rfl rfl rfl

/-! ### Nodes -/

/-- Agreement with the traces does not depend on what is remembered and counted before. -/
theorem Agrees.of_eq {α : Type} {room : Nat} {other : EngineState}
    {result : Except Halt α × EngineState} {deepening : Deepening α}
    (hagrees : Agrees room state result deepening) (hfurthest : other.furthest = state.furthest)
    (hruns : other.invocations = state.invocations) : Agrees room other result deepening :=
  hagrees.imp_right fun ⟨enough, hunlimited, hreproduces⟩ ↦
    ⟨enough, hunlimited, hreproduces.outcome, hfurthest ▸ hreproduces.furthest,
      hruns ▸ hreproduces.runs⟩

/-- What agrees with the matcher of a node, read for deepenings, agrees with the traces of the node
when there is room for one evaluation more. -/
theorem Agrees.succ {room : Nat} {result : Except Halt Match × EngineState}
    (hagrees : Agrees room state result
      ((grammar.node id).matcher grammar text (grammar.deepening text) id offset)) :
    Agrees (room + 1) state result (grammar.deepening text id offset) := by
  rcases hagrees with ⟨hlimited, hstopped⟩ | ⟨enough, hunlimited, hreproduces⟩
  · rw [grammar.trace_matcher_deepening] at hstopped
    exact Or.inl ⟨hlimited, hstopped⟩
  · rw [grammar.trace_matcher_deepening] at hunlimited hreproduces
    exact Or.inr ⟨enough + 1, hunlimited, hreproduces⟩

/-- What a node with actions does after its child has matched is done by the engine as its trace
says. -/
theorem performs_actOn (skip : Option CharSet) (actions : List Action) (found : Match) :
    Performs (actOn text skip id actions offset found) (actOn text skip id actions offset found)
      fun _ ↦ True :=
  performance.holds_bind
    (Concord.holds_runActions performs_invoke id offset _ actions 0 found.results)
    fun _ _ ↦ performance.holds_pure _ True.intro

/-- Where nothing is remembered of a node, none of its actions ran. -/
theorem EngineState.SoundUpTo.not_mem_sites (hsound : state.Sound grammar text)
    (hnone : state.memo.find? id offset = none) (place : Nat) :
    (id, place, offset) ∉ sites state.invocations.toList := by
  intro hmem
  obtain ⟨run, hrun, hsite⟩ := List.mem_map.mp hmem
  simp only [Invocation.site, Prod.mk.injEq] at hsite
  obtain ⟨rfl, rfl, rfl⟩ := hsite
  rcases hsound.pinned run hrun with hopen | hkept
  · cases hopen
  · exact Memo.not_mem_pinned_of_find? hnone hkept

/-- Running the actions of a node where none of them ran keeps the invariant, but for these actions
themselves. -/
theorem EngineState.SoundUpTo.after {trace : Trace Match} {index : Nat}
    (hsound : state.Sound grammar text) (hruns : RunsFrom id offset index trace)
    (hfresh : ∀ site ∈ sites (runsOf trace.events), site ∉ sites state.invocations.toList)
    (counters : Counters) :
    (state.after trace.events counters).SoundUpTo grammar text (some (id, offset)) := by
  have hlist : (state.after trace.events counters).invocations.toList =
      state.invocations.toList ++ runsOf trace.events := by
    simp [EngineState.after]
  refine ⟨fun other place found hfind ↦ ?_, fun run hrun ↦ ?_, ?_⟩
  · obtain ⟨room, hrecords⟩ := hsound.entries other place found hfind
    refine ⟨room, hrecords.mono fun site hsite ↦ ?_⟩
    rw [hlist, sites_append]
    exact List.mem_append_left _ hsite
  · rw [hlist, List.mem_append] at hrun
    rcases hrun with hbefore | hown
    · exact Or.inr ((hsound.pinned run hbefore).resolve_left fun hopen ↦ nomatch hopen)
    · obtain ⟨place, hsite, -⟩ := hruns.places _ (List.mem_map_of_mem hown)
      simp only [Invocation.site, Prod.mk.injEq] at hsite
      exact Or.inl (by rw [hsite.1, hsite.2.2])
  · rw [hlist, ← runsAfter_of_fresh hruns.nodup hfresh]
    exact nodup_runsAfter hsound.once _

/-- The actions of a node of which nothing is remembered are fresh when its child has matched: an
earlier run would be pinned, and the child runs none of them at the same offset. -/
theorem not_mem_sites_of_child {room index : Nat} {child : NodeId} {actions : List Action}
    {skip : Option CharSet} (hnode : grammar.node id = .action child actions skip)
    (hsound : state.Sound grammar text) (hnone : state.memo.find? id offset = none)
    (hunlimited : ¬ (grammar.trace text room child offset).Limited) {trace : Trace Match}
    (hruns : RunsFrom id offset index trace) :
    ∀ site ∈ sites (runsOf trace.events),
      site ∉ sites (runsAfter state.invocations.toList
        (runsOf (grammar.trace text room child offset).events)) := by
  intro site hsite hmem
  obtain ⟨place, rfl, -⟩ := hruns.places site hsite
  rw [mem_sites_runsAfter] at hmem
  rcases hmem with hearlier | hinside
  · exact hsound.not_mem_sites hnone place hearlier
  · obtain ⟨run, hrun, hplace⟩ := List.mem_map.mp hinside
    simp only [Invocation.site, Prod.mk.injEq] at hplace
    exact grammar.node_ne_of_mem_runsOf_child text hnode hunlimited hrun ⟨hplace.1, hplace.2.2⟩

/-- A node with actions of which nothing is remembered evaluates as its traces say. -/
theorem concludes_action {room : Nat} {child : NodeId} {actions : List Action}
    {skip : Option CharSet} (hnode : grammar.node id = .action child actions skip)
    (hchild : Faithful grammar text room (grammar.evaluate text room child offset)
      (grammar.deepening text child offset) fun _ ↦ True)
    (hsound : state.Sound grammar text) (hnone : state.memo.find? id offset = none) :
    Concludes grammar text (room + 1) id offset state
      ((grammar.node id).matcher grammar text (grammar.evaluate text room) id offset state) := by
  obtain ⟨hmiddle, hagrees, -⟩ := hchild state hsound
  have hdeepening : (grammar.node id).matcher grammar text (grammar.deepening text) id offset =
      grammar.deepening text child offset >>= actOn text skip id actions offset := by
    rw [hnode, grammar.matcher_action]
  have hengine : (grammar.node id).matcher grammar text (grammar.evaluate text room) id offset =
      grammar.evaluate text room child offset >>= actOn text skip id actions offset := by
    rw [hnode, grammar.matcher_action]
  rw [hengine]
  match hrun : grammar.evaluate text room child offset state with
  | (.error halt, after) =>
    rw [hrun] at hmiddle hagrees
    rw [Engine.bind_of_error hrun]
    refine ⟨Agrees.succ ?_, none, hmiddle, Or.inl rfl⟩
    rw [hdeepening]
    exact hagrees.bind_error _
  | (.ok found, middle) =>
    rw [hrun] at hmiddle hagrees
    rw [Engine.bind_of_ok hrun]
    obtain ⟨enough, hunlimited, hreproduces⟩ :=
      hagrees.resolve_left fun hlimited ↦ not_isLimited_ok found hlimited.1
    have houtcome : (grammar.trace text enough child offset).outcome = .ok found :=
      hreproduces.outcome.symm
    have hfurthest : middle.furthest =
        furthestAfter state.furthest (grammar.trace text enough child offset).events :=
      hreproduces.furthest
    have hbefore : middle.invocations.toList =
        runsAfter state.invocations.toList
          (runsOf (grammar.trace text enough child offset).events) := hreproduces.runs
    obtain ⟨counters, hacted⟩ := (performs_actOn skip actions found).1 middle
    have hruns := runsFrom_actOn text skip id actions offset found
    have hfresh : ∀ site ∈ sites (runsOf
        (actOn text skip id actions offset found : Trace Match).events),
        site ∉ sites middle.invocations.toList := by
      rw [hbefore]
      exact not_mem_sites_of_child hnode hsound hnone hunlimited hruns
    rw [hacted]
    refine ⟨?_, some (id, offset), hmiddle.after hruns hfresh counters,
      Or.inr ⟨by rw [hnode]; rfl, hruns.settled, rfl⟩⟩
    have htrace : grammar.trace text (enough + 1) id offset =
        ⟨(actOn text skip id actions offset found : Trace Match).outcome,
          (grammar.trace text enough child offset).events ++
            (actOn text skip id actions offset found : Trace Match).events⟩ := by
      rw [grammar.trace_succ_action text hnode]
      exact Trace.bind_of_ok houtcome _
    refine Or.inr ⟨enough + 1, ?_, ?_⟩
    · change ¬ (grammar.trace text (enough + 1) id offset).Limited
      rw [htrace]
      exact hruns.settled.not_isLimited
    · change Reproduces state _ (grammar.trace text (enough + 1) id offset)
      rw [htrace]
      refine ⟨rfl, ?_, ?_⟩
      · rw [furthestAfter_append, ← hfurthest]
        rfl
      · rw [runsOf_append, runsAfter_append, ← hbefore, runsAfter_of_fresh hruns.nodup hfresh]
        simp [EngineState.after]

/-- A node of which nothing is remembered evaluates as its traces say, if its children do. -/
theorem concludes_matcher {room : Nat}
    (hchildren : ∀ id offset, Faithful grammar text room (grammar.evaluate text room id offset)
      (grammar.deepening text id offset) fun _ ↦ True)
    (hsound : state.Sound grammar text)
    (hnone : (grammar.node id).isAction = true → state.memo.find? id offset = none) :
    Concludes grammar text (room + 1) id offset state
      ((grammar.node id).matcher grammar text (grammar.evaluate text room) id offset state) := by
  by_cases hplain : (grammar.node id).isAction = false
  · have hmeets : (faithfulness grammar text room).Meets .trivial (grammar.evaluate text room)
        (grammar.deepening text) := ⟨fun id offset _ ↦ hchildren id offset, fun _ _ ↦ True.intro⟩
    obtain ⟨hafter, hagrees, -⟩ :=
      hmeets.holds_matcher hplain (Node.demands_trivial grammar text offset _) state hsound
    exact ⟨hagrees.succ, none, hafter, Or.inl rfl⟩
  · rw [Bool.not_eq_false] at hplain
    cases hnode : grammar.node id with
    | action child actions skip =>
      rw [← hnode]
      exact concludes_action hnode (hchildren child offset) hsound (hnone hplain)
    | _ => simp [hnode, Node.isAction] at hplain

/-- Counting an evaluation changes nothing else. -/
theorem concludes_counted {room : Nat} {evaluation : Engine Match}
    (hconcludes : ∀ counted : EngineState, counted.memo = state.memo →
      counted.furthest = state.furthest → counted.invocations = state.invocations →
      Concludes grammar text room id offset counted (evaluation counted)) :
    Concludes grammar text room id offset state (Engine.counted evaluation state) := by
  obtain ⟨hagrees, hsound⟩ := hconcludes
    { state with
      counters := { state.counters with evaluations := state.counters.evaluations + 1 } } rfl rfl
        rfl
  exact ⟨hagrees.of_eq rfl rfl, hsound⟩

namespace Grammar

/-- An engine that remembers evaluates every node as its traces say, in every state that keeps the
invariant. The induction is on the room, which is what children have less of. -/
theorem faithful_evaluate (hpackrat : grammar.config.packrat = true) (room : Nat) :
    ∀ (id : NodeId) (offset : Nat),
      Faithful grammar text room (grammar.evaluate text room id offset)
        (grammar.deepening text id offset) fun _ ↦ True := by
  induction room with
  | zero => exact fun id offset state hsound ↦
      ⟨hsound, Or.inl ⟨True.intro, True.intro⟩, fun _ _ ↦ True.intro⟩
  | succ room ih =>
    intro id offset state hsound
    have hlayer : grammar.evaluate text (room + 1) id offset = grammar.layer id offset
        ((grammar.node id).matcher grammar text (grammar.evaluate text room) id offset) := rfl
    rw [hlayer, layer]
    by_cases hremembers : grammar.remembers (grammar.node id) = true
    · simp only [hremembers, if_true, Engine.memoized]
      cases hfind : state.memo.find? id offset with
      | some found =>
        obtain ⟨hafter, hagrees⟩ := agrees_replay hsound hfind (room + 1)
        exact ⟨hafter, hagrees, fun _ _ ↦ True.intro⟩
      | none =>
        obtain ⟨hafter, hagrees⟩ := Concludes.learn grammar.config.maxMemoSize
          fun fresh hmemo hruns ↦ concludes_counted fun counted hagain _ hstill ↦
            concludes_matcher ih (hsound.of_eq (hagain.trans hmemo) (hstill.trans hruns))
              fun _ ↦ by rw [hagain, hmemo, hfind]
        exact ⟨hafter, hagrees, fun _ _ ↦ True.intro⟩
    · have hplain : (grammar.node id).isAction = false := by
        simp only [remembers, hpackrat, Bool.true_and, Bool.or_eq_true, not_or] at hremembers
        exact Bool.eq_false_iff.mpr hremembers.2
      simp only [hremembers]
      have hconcludes : Concludes grammar text (room + 1) id offset state (Engine.counted
          ((grammar.node id).matcher grammar text (grammar.evaluate text room) id offset) state) :=
        concludes_counted fun _ hmemo _ hruns ↦
          concludes_matcher ih (hsound.of_eq hmemo hruns) fun haction ↦
            absurd haction (by rw [hplain]; exact Bool.false_ne_true)
      obtain ⟨hagrees, pending, hafter, hpending⟩ := hconcludes
      have hnone : pending = none := hpending.resolve_right fun haction ↦
        Bool.false_ne_true (hplain ▸ haction.1)
      subst hnone
      exact ⟨hafter, hagrees, fun _ _ ↦ True.intro⟩

end Grammar

end Packrat
