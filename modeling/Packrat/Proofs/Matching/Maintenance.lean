import Packrat.Proofs.Matching.Assurance
import Packrat.Proofs.Matching.Memoization
import Packrat.Proofs.Matching.Visits
import Packrat.Proofs.Text.Places

/-!
# What grammars maintain

A property of matches, which may depend on the node and on the offset where it was evaluated, is
maintained by a grammar if every node gives it to its own matches provided that its children do
(`Grammar.Maintains`). Evaluations then give it to all matches, and these end ahead of where they
started, as do the failures: in traces (`Grammar.holds_trace`) and in the engine, where what is
remembered and what is noted has it as well (`Grammar.holds_evaluateLogged`,
`Grammar.kept_evaluate`).
-/

set_option autoImplicit false
set_option relaxedAutoImplicit false

namespace Packrat

open MatchMonad

variable {grammar : Grammar} {text : Text} {promise : NodeId → Nat → Match → Prop} {offset : Nat}
  {goal : Match → Prop}

/-! ### Demands -/

/-- A property that matches of nodes at offsets have is had by a match that ends ahead. -/
def Text.Fulfils (text : Text) (promise : NodeId → Nat → Match → Prop) (id : NodeId) (offset : Nat)
    (found : Match) : Prop :=
  text.Ahead offset found.stop ∧ promise id offset found

/-- What is taken of the text after skipped characters has a property. -/
def Text.Takes (text : Text) (skip : Option CharSet) (offset : Nat) (goal : Match → Prop)
    (scan : Option Char → List Char → Scan (List Char × Token)) : Prop :=
  ∀ taken token, scan (text.before? (skipFrom skip text offset))
    (text.rest (skipFrom skip text offset)) = .found (taken, token) →
      goal ⟨skipFrom skip text offset + byteLength taken, .ofToken token⟩

/-- A property of what was matched so far from an offset is kept by one more match of a node. -/
def Text.Continues (text : Text) (promise : NodeId → Nat → Match → Prop) (offset : Nat)
    (goal : Match → Prop) (child : NodeId) : Prop :=
  ∀ done next, text.Ahead offset done.stop → goal done → text.Fulfils promise child done.stop next →
    goal (done.append next)

/-- What the matches of a node at an offset need to have a property, given what those of its
children say. -/
def Node.Maintains (grammar : Grammar) (text : Text) (promise : NodeId → Nat → Match → Prop)
    (offset : Nat) (goal : Match → Prop) : Node → Prop
  | .empty => goal (.nothing offset)
  | .textEnd skip =>
    skipFrom skip text offset = text.size → goal (.nothing (skipFrom skip text offset))
  | .terminal form skip _ => text.Takes skip offset goal form.scan
  | .regex program skip _ => text.Takes skip offset goal (Matcher.scanRegex program)
  | .sequence parts _ =>
    goal (.nothing offset) ∧ ∀ part ∈ parts, text.Continues promise offset goal part
  | .choice alternatives =>
    ∀ alternative ∈ alternatives, ∀ found, text.Fulfils promise alternative offset found →
    goal found
  | .optional child default =>
    goal ⟨offset, (default.map Results.ofToken).getD .empty⟩ ∧
      ∀ found, text.Fulfils promise child offset found → goal found
  | .repetition child _ _ _ =>
    goal (.nothing offset) ∧ text.Continues promise offset goal child
  | .delimited item separator form _ =>
    goal (.nothing offset) ∧ (∀ found, text.Fulfils promise item offset found → goal found) ∧
      ∀ done between, text.Ahead offset done.stop → goal done →
        text.Fulfils promise separator done.stop between →
          goal (Matcher.withTrailing form done between) ∧
          ∀ next, text.Fulfils promise item between.stop next →
            goal (Matcher.withItem form done between next)
  | .lookahead _ _ _ => goal (.nothing offset)
  | .suppress child =>
    ∀ found, text.Fulfils promise child offset found → goal { found with results := .empty }
  | .group child =>
    ∀ found, text.Fulfils promise child offset found →
      goal { found with results := .ofToken found.results.toGroup }
  | .combine child joiner skip =>
    ∀ found, text.Fulfils promise child (skipFrom skip text offset) found →
      goal { found with
        results := .ofToken (Terminal.stringToken (found.results.joined joiner.toList)) }
  | .call rule => ∀ found, text.Fulfils promise (grammar.ruleBody rule) offset found → goal found
  | .named child name accumulate =>
    ∀ found, text.Fulfils promise child offset found →
      goal { found with results := found.results.setName name accumulate }
  | .action child actions skip =>
    (∀ found, text.Fulfils promise child offset found → goal found) ∧
      ∀ action ∈ actions, ∀ stop results changed fatal, goal ⟨stop, results⟩ →
        action.apply ⟨text, min (skipFrom skip text offset) stop, stop⟩ results =
          (.replace changed, fatal) → goal ⟨stop, changed⟩
  | .labeled child _ _ => ∀ found, text.Fulfils promise child offset found → goal found

/-- Every node of a grammar gives a property to its matches from boundaries, given that its children
do. -/
def Grammar.Maintains (grammar : Grammar) (text : Text) (promise : NodeId → Nat → Match → Prop) :
    Prop :=
  ∀ id offset, text.IsBoundary offset →
    (grammar.node id).Maintains grammar text promise offset (promise id offset)

/-- The promise that says nothing. -/
def Promise.nothing : NodeId → Nat → Match → Prop := fun _ _ _ ↦ True

/-- Every grammar maintains the promise that says nothing. -/
theorem Grammar.maintains_nothing (grammar : Grammar) (text : Text) :
    grammar.Maintains text Promise.nothing := by
  intro id offset _
  match grammar.node id with
  | .sequence _ _ => exact ⟨True.intro, fun _ _ _ _ _ _ _ ↦ True.intro⟩
  | .repetition _ _ _ _ => exact ⟨True.intro, fun _ _ _ _ _ ↦ True.intro⟩
  | .delimited _ _ _ _ =>
    exact ⟨True.intro, fun _ _ ↦ True.intro, fun _ _ _ _ _ ↦ ⟨True.intro, fun _ _ ↦ True.intro⟩⟩
  | .optional _ _ => exact ⟨True.intro, fun _ _ ↦ True.intro⟩
  | .action _ _ _ => exact ⟨fun _ _ ↦ True.intro, fun _ _ _ _ _ _ _ _ ↦ True.intro⟩
  | .choice _ => exact fun _ _ _ _ ↦ True.intro
  | .terminal _ _ _ | .regex _ _ _ => exact fun _ _ _ ↦ True.intro
  | .textEnd _ | .suppress _ | .group _ | .combine _ _ _ | .call _ | .named _ _ _
  | .labeled _ _ _ => simp [Node.Maintains, Promise.nothing]
  | .empty | .lookahead _ _ _ => exact True.intro

/-- A run of an action is in range: its node was evaluated at a boundary, and what it sees of the
text starts and ends ahead of that. -/
structure Invocation.InRange (text : Text) (run : Invocation) : Prop where
  /-- The node was evaluated at a boundary. -/
  boundary : text.IsBoundary run.offset
  /-- What the action sees starts ahead. -/
  start : text.Ahead run.offset run.context.start
  /-- It ends ahead of its start. -/
  stop : text.Ahead run.context.start run.context.stop

/-! ### Nodes -/

section

variable {m : Type → Type} [MatchMonad m] (A : Assurance m)

theorem Assurance.holds_takes (hoffset : text.IsBoundary offset) {skip : Option CharSet}
    {expected : String} {scan : Option Char → List Char → Scan (List Char × Token)}
    (hinitial : ∀ before chars taken token, scan before chars = .found (taken, token) →
      taken <+: chars)
    (htakes : text.Takes skip offset goal scan) :
    A.Holds (Matcher.scanned text skip expected scan offset : m Match)
      (fun found ↦ text.Ahead offset found.stop ∧ goal found) (text.Ahead offset) := by
  have hskip := hoffset.ahead_skipFrom skip
  refine A.holds_scanned expected (fun taken token hscan ↦ ⟨?_, htakes taken token hscan⟩) hskip
  exact hskip.trans (hskip.boundary.ahead_add (hinitial _ _ _ _ hscan))

variable {call : NodeId → Matcher m}

theorem Assurance.holds_continues {child : NodeId}
    (hcall : ∀ child place, text.IsBoundary place →
      A.Holds (call child place) (text.Fulfils promise child place) (text.Ahead place))
    (hcontinues : text.Continues promise offset goal child) (done : Match)
    (hdone : text.Ahead offset done.stop ∧ goal done) :
    A.Holds (call child done.stop)
      (fun next ↦ text.Ahead offset (done.append next).stop ∧ goal (done.append next))
      (text.Ahead offset) := by
  obtain ⟨hahead, hgoal⟩ := hdone
  refine A.holds_mono (hcall child done.stop hahead.boundary) (fun next hnext ↦ ?_)
    fun _ hplace ↦ hahead.trans hplace
  exact ⟨hahead.trans hnext.1, hcontinues done next hahead hgoal hnext⟩

theorem Assurance.holds_items {item separator : NodeId} {form : ListForm} (what : String)
    (hcall : ∀ child place, text.IsBoundary place →
      A.Holds (call child place) (text.Fulfils promise child place) (text.Ahead place))
    (hround : ∀ done between, text.Ahead offset done.stop → goal done →
      text.Fulfils promise separator done.stop between →
        goal (Matcher.withTrailing form done between) ∧
        ∀ next, text.Fulfils promise item between.stop next →
          goal (Matcher.withItem form done between next))
    (first : Match) (hfirst : text.Ahead offset first.stop ∧ goal first) :
    A.Holds (Matcher.delimitedFrom text (call item) (call separator) form what 1 first)
      (fun found ↦ text.Ahead offset found.stop ∧ goal found) (text.Ahead offset) := by
  refine A.holds_delimitedFrom (fun _ hdone ↦ hdone.1) ?_ _ 1 first rfl hfirst
  rintro done ⟨hahead, hgoal⟩
  refine A.holds_mono (hcall separator done.stop hahead.boundary) (fun between hbetween ↦ ?_)
    fun _ hplace ↦ hahead.trans hplace
  obtain ⟨htrailing, hitem⟩ := hround done between hahead hgoal hbetween
  have hmiddle := hahead.trans hbetween.1
  constructor
  · refine ⟨?_, htrailing⟩
    unfold Matcher.withTrailing
    split_ifs
    · exact hmiddle
    · exact hmiddle
    · exact hahead
  · refine A.holds_mono (hcall item between.stop hmiddle.boundary) (fun next hnext ↦ ?_)
      fun _ hplace ↦ hmiddle.trans hplace
    exact ⟨hmiddle.trans hnext.1, hitem next hnext⟩

theorem Assurance.holds_child {child : NodeId} {property : Match → Prop}
    (hcall : ∀ child place, text.IsBoundary place →
      A.Holds (call child place) (text.Fulfils promise child place) (text.Ahead place))
    (hoffset : text.IsBoundary offset)
    (himp : ∀ found, text.Fulfils promise child offset found → property found) :
    A.Holds (call child offset) (fun found ↦ text.Ahead offset found.stop ∧ property found)
      (text.Ahead offset) :=
  A.holds_mono (hcall child offset hoffset) (fun found hfound ↦ ⟨hfound.1, himp found hfound⟩)
    fun _ hplace ↦ hplace

/-- A child at a place ahead of its node, with its results changed. -/
theorem Assurance.holds_changed {child : NodeId} {place : Nat}
    (hcall : ∀ child place, text.IsBoundary place →
      A.Holds (call child place) (text.Fulfils promise child place) (text.Ahead place))
    (hplace : text.Ahead offset place) (f : Results → Results)
    (himp : ∀ found, text.Fulfils promise child place found →
      goal { found with results := f found.results }) :
    A.Holds (Matcher.mapResults f (call child) place)
      (fun found ↦ text.Ahead offset found.stop ∧ goal found) (text.Ahead offset) := by
  apply A.holds_mapResults
  refine A.holds_mono (hcall child place hplace.boundary) (fun found hfound ↦ ?_)
    fun _ hfar ↦ hplace.trans hfar
  exact ⟨hplace.trans hfound.1, himp found hfound⟩

/-- The matches of a node at a boundary have a property, if the node meets what it needs for it. -/
theorem Assurance.holds_matcher (hadmits : ∀ run : Invocation, run.InRange text → A.Admits run)
    (hcall : ∀ child place, text.IsBoundary place →
      A.Holds (call child place) (text.Fulfils promise child place) (text.Ahead place))
    (hoffset : text.IsBoundary offset) (id : NodeId) {node : Node}
    (hnode : node.Maintains grammar text promise offset goal) :
    A.Holds (node.matcher grammar text call id offset)
      (fun found ↦ text.Ahead offset found.stop ∧ goal found) (text.Ahead offset) := by
  have hself := hoffset.ahead_self
  have hchild {child : NodeId} {property : Match → Prop}
      (himp : ∀ found, text.Fulfils promise child offset found → property found) :=
    A.holds_child hcall hoffset himp
  cases node with
  | empty => exact A.holds_pure _ ⟨hself, hnode⟩
  | textEnd skip =>
    have hskip := hoffset.ahead_skipFrom skip
    exact A.holds_textEnd (fun hend ↦ ⟨hskip, hnode hend⟩) hskip
  | terminal form skip expected =>
    exact A.holds_takes hoffset (fun _ _ _ _ hscan ↦ (Terminal.scan_eq_found hscan).1) hnode
  | regex program skip expected =>
    exact A.holds_takes hoffset (fun _ _ _ _ hscan ↦ (CompiledRegex.scanRegex_eq_found hscan).1)
      hnode
  | sequence parts commit =>
    refine A.holds_sequenceFrom (fun part hpart done hdone ↦ ?_) 0 _ ⟨hself, hnode.1⟩
    obtain ⟨child, hmem, rfl⟩ := List.mem_map.mp hpart
    exact A.holds_continues hcall (hnode.2 child hmem) done hdone
  | choice alternatives =>
    refine A.holds_choiceFrom hself (fun alternative halternative ↦ ?_) none
      fun _ hnone ↦ nomatch hnone
    obtain ⟨child, hmem, rfl⟩ := List.mem_map.mp halternative
    exact hchild (hnode child hmem)
  | optional child default => exact A.holds_optional ⟨hself, hnode.1⟩ (hchild hnode.2)
  | repetition child least most what =>
    exact A.holds_repetitionFrom (A.holds_continues hcall hnode.2) _ 0 _ rfl ⟨hself, hnode.1⟩
  | delimited item separator form what =>
    obtain ⟨hnothing, hfirst, hround⟩ := hnode
    have hmore (first : Match) (hholds : text.Ahead offset first.stop ∧ goal first) :=
      A.holds_items what hcall hround first hholds
    simp only [Node.matcher, Matcher.delimited]
    split
    · refine A.holds_bind (A.holds_backtrack (hchild hfirst)) fun result hresult ↦ ?_
      cases result with
      | ok first => exact hmore first hresult
      | error failure => exact A.holds_pure _ ⟨hself, hnothing⟩
    · exact A.holds_bind (hchild hfirst) hmore
  | lookahead child negative unwanted =>
    have hany : A.Holds (call child offset) (fun found ↦ text.Ahead offset found.stop ∧ True)
        (text.Ahead offset) := hchild fun _ _ ↦ True.intro
    cases negative with
    | false => exact A.holds_bind hany fun _ _ ↦ A.holds_pure _ ⟨hself, hnode⟩
    | true => exact A.holds_notFollowedBy ⟨hself, hnode⟩ hself hany
  | suppress child =>
    simp only [Node.matcher, Matcher.suppress]
    exact A.holds_changed hcall hself _ hnode
  | group child =>
    simp only [Node.matcher, Matcher.group]
    exact A.holds_changed hcall hself _ hnode
  | combine child joiner skip =>
    simp only [Node.matcher, Matcher.combine]
    exact A.holds_changed hcall (hoffset.ahead_skipFrom skip) _ hnode
  | call rule => exact hchild hnode
  | named child name accumulate =>
    simp only [Node.matcher, Matcher.named]
    exact A.holds_changed hcall hself _ hnode
  | action child actions skip =>
    refine A.holds_bind (hchild hnode.1) fun found hfound ↦ ?_
    have hstart := (hoffset.ahead_skipFrom skip).min hfound.1
    have hruns : A.Holds (Matcher.runActions id offset
          ⟨text, min (skipFrom skip text offset) found.stop, found.stop⟩ 0 actions found.results)
        (fun results ↦ goal ⟨found.stop, results⟩) (text.Ahead offset) := by
      refine A.holds_runActions (fun index action results ↦ hadmits _ ?_) hstart ?_ 0 _ hfound.2
      · exact ⟨hoffset, hstart, hfound.1.boundary.ahead (Nat.min_le_right _ _)⟩
      · exact fun action haction ↦ hnode.2 action haction found.stop
    exact A.holds_bind hruns fun results hresults ↦ A.holds_pure _ ⟨hfound.1, hresults⟩
  | labeled child skip expected => exact A.holds_labeled (hchild hnode)

end

/-! ### Traces -/

/-- A value has a property, or a failure is at an offset with another property; errors may be
any. -/
def Ended {α : Type} (property : α → Prop) (place : Nat → Prop) : Except Halt α → Prop
  | .ok value => property value
  | .error (.failure failure) => place failure.offset
  | .error (.error _) => True

/-- Weaker properties may be claimed. -/
theorem Ended.mono {α : Type} {outcome : Except Halt α} {strong weak : α → Prop}
    {near far : Nat → Prop} (hended : Ended strong near outcome)
    (himp : ∀ value, strong value → weak value) (hplace : ∀ offset, near offset → far offset) :
    Ended weak far outcome := by
  match outcome with
  | .ok value => exact himp value hended
  | .error (.failure failure) => exact hplace failure.offset hended
  | .error (.error error) => exact True.intro

/-- A failure that is recorded is at an offset with a property; a run of an action is in range. -/
def Event.InRange (text : Text) (place : Nat → Prop) : Event → Prop
  | .failed failure => place failure.offset
  | .invoked run => run.InRange text

/-- Traces end with values that have a property and with failures at offsets that have another, and
so do the failures that are recorded on the way. -/
def Trace.ranging (text : Text) : Assurance Trace where
  Holds trace property place := Ended property place trace.outcome ∧
    ∀ event ∈ trace.events, event.InRange text place
  Admits run := run.InRange text
  holds_mono hholds himp hplace := by
    refine ⟨hholds.1.mono himp hplace, fun event hevent ↦ ?_⟩
    match event with
    | .failed failure => exact hplace _ (hholds.2 _ hevent)
    | .invoked run => exact hholds.2 _ hevent
  holds_pure value hvalue := ⟨hvalue, fun _ hmem ↦ nomatch hmem⟩
  holds_bind {α β first next property goal place} hfirst hnext := by
    obtain ⟨hended, hevents⟩ := hfirst
    change Ended goal place (andThen first next).outcome ∧
      ∀ event ∈ (andThen first next).events, event.InRange text place
    unfold andThen
    match houtcome : first.outcome with
    | .ok value =>
      rw [houtcome] at hended
      obtain ⟨hrest, hmore⟩ := hnext value hended
      refine ⟨hrest, fun event hevent ↦ ?_⟩
      exact (List.mem_append.mp hevent).elim (hevents event) (hmore event)
    | .error (.failure failure) =>
      rw [houtcome] at hended
      exact ⟨hended, hevents⟩
    | .error (.error error) => exact ⟨True.intro, hevents⟩
  holds_failure failure hplace := ⟨hplace, fun _ hmem ↦ nomatch hmem⟩
  holds_error error := ⟨True.intro, fun _ hmem ↦ nomatch hmem⟩
  holds_attempt {α evaluation property place} hholds := by
    obtain ⟨hended, hevents⟩ := hholds
    simp only [attempt]
    match houtcome : evaluation.outcome with
    | .ok value =>
      rw [houtcome] at hended
      exact ⟨hended, hevents⟩
    | .error (.failure failure) =>
      rw [houtcome] at hended
      exact ⟨hended, hevents⟩
    | .error (.error error) => exact ⟨True.intro, hevents⟩
  holds_record failure hplace := by
    refine ⟨True.intro, fun event hevent ↦ ?_⟩
    rw [List.mem_singleton.mp hevent]
    exact hplace
  holds_shield hholds := ⟨hholds.1, fun event hevent ↦ hholds.2 event (List.mem_filter.mp hevent).1⟩
  holds_invoke run hadmits := by
    refine ⟨True.intro, fun event hevent ↦ ?_⟩
    rw [List.mem_singleton.mp hevent]
    exact hadmits

/-- The traces of a grammar give what it maintains. The induction is on the room. -/
theorem Grammar.holds_trace (hmaintains : grammar.Maintains text promise) (room : Nat) :
    ∀ (id : NodeId) (offset : Nat), text.IsBoundary offset →
      (Trace.ranging text).Holds (grammar.trace text room id offset)
        (text.Fulfils promise id offset) (text.Ahead offset) := by
  induction room with
  | zero => exact fun _ _ _ ↦ (Trace.ranging text).holds_error _
  | succ room ih =>
    intro id offset hoffset
    exact (Trace.ranging text).holds_matcher (fun _ hadmits ↦ hadmits) ih hoffset id
      (hmaintains id offset hoffset)

/-! ### The engine -/

/-- An outcome that is remembered gives a promise, and the failures are ahead. -/
structure Remembered.Fulfils (text : Text) (promise : NodeId → Nat → Match → Prop) (id : NodeId)
    (offset : Nat) (found : Remembered) : Prop where
  /-- It is remembered at a boundary. -/
  boundary : text.IsBoundary offset
  /-- The outcome gives the promise. -/
  outcome : Attempted (text.Fulfils promise id offset) (text.Ahead offset) found.outcome
  /-- The furthest failure is ahead. -/
  furthest : ∀ failure ∈ found.furthest, text.Ahead offset failure.offset

/-- All that is remembered gives a promise, and all runs of actions are in range. -/
structure EngineState.Fulfils (text : Text) (promise : NodeId → Nat → Match → Prop)
    (state : EngineState) : Prop where
  /-- What is remembered gives the promise. -/
  remembered : ∀ id offset found, state.memo.find? id offset = some found →
    found.Fulfils text promise id offset
  /-- The runs of actions are in range. -/
  invocations : ∀ run ∈ state.invocations.toList, run.InRange text

/-- Evaluations begin at boundaries and end with what gives a promise. -/
def Visit.Fulfils (text : Text) (promise : NodeId → Nat → Match → Prop) : Visit → Prop
  | .begun _ offset => text.IsBoundary offset
  | .ended id offset outcome => Ended (text.Fulfils promise id offset) (text.Ahead offset) outcome
  | .halted _ => True

/-- The promise is given by what was noted, what is remembered and what an evaluation ended with,
and what it recorded is in place. -/
structure Kept (text : Text) (promise : NodeId → Nat → Match → Prop)
    {α : Type} (property : α → Prop) (place : Nat → Prop) (state : EngineState) (log : List Visit)
    (result : Except Halt α × EngineState) : Prop where
  /-- What was noted gives the promise. -/
  log : ∀ visit ∈ log, visit.Fulfils text promise
  /-- What is remembered gives the promise. -/
  after : result.2.Fulfils text promise
  /-- How the evaluation ended. -/
  outcome : Ended property place result.1
  /-- The furthest failure was held before or is in place. -/
  furthest : ∀ failure ∈ result.2.furthest, failure ∈ state.furthest ∨ place failure.offset

namespace EngineState.Fulfils

variable {state other : EngineState}

/-- Only what is remembered and the runs of actions matter. -/
theorem of_eq (hfulfils : state.Fulfils text promise) (hmemo : other.memo = state.memo)
    (hruns : other.invocations = state.invocations) : other.Fulfils text promise := by
  constructor
  · rw [hmemo]
    exact hfulfils.remembered
  · rw [hruns]
    exact hfulfils.invocations

/-- An outcome that gives the promise may be remembered, whatever is forgotten for it. -/
theorem remember (hfulfils : state.Fulfils text promise) {found : Remembered} {id : NodeId}
    (hfound : found.Fulfils text promise id offset) (capacity : Nat) (pinned : Bool) :
    (state.remember capacity pinned id offset found).Fulfils text promise := by
  refine ⟨fun other place entry hentry ↦ ?_, by simpa using hfulfils.invocations⟩
  unfold EngineState.remember at hentry
  split_ifs at hentry
  · rcases Memo.find?_pin hentry with ⟨⟨rfl, rfl⟩, rfl⟩ | hbefore
    · exact hfound
    · exact hfulfils.remembered other place entry hbefore
  · rcases Memo.find?_store hentry with ⟨⟨rfl, rfl⟩, rfl⟩ | hbefore
    · exact hfound
    · exact hfulfils.remembered other place entry (Memo.find?_forget hbefore)
  · rcases Memo.find?_store hentry with ⟨⟨rfl, rfl⟩, rfl⟩ | hbefore
    · exact hfound
    · exact hfulfils.remembered other place entry hbefore

end EngineState.Fulfils

/-- Of a failure that is held and another one, the one that is kept is one of them. -/
theorem Failure.mem_further {held : Option Failure} {failure kept : Failure}
    (hkept : kept ∈ Failure.further held failure) : kept ∈ held ∨ kept = failure := by
  unfold further at hkept
  split at hkept
  · exact Or.inr (Option.some.inj hkept).symm
  · split at hkept
    · exact Or.inr (Option.some.inj hkept).symm
    · exact Or.inl hkept

/-- Logged evaluations keep what fulfils a promise. -/
def Logged.keeping (text : Text) (promise : NodeId → Nat → Match → Prop) : Assurance Logged where
  Holds evaluation property place := ∀ state : EngineState, state.Fulfils text promise →
    Kept text promise property place state (evaluation.log state) (evaluation.plain state)
  Admits run := run.InRange text
  holds_mono hholds himp hplace := fun state hstate ↦
    ⟨(hholds state hstate).log, (hholds state hstate).after,
      (hholds state hstate).outcome.mono himp hplace,
      fun failure hfailure ↦ ((hholds state hstate).furthest failure hfailure).imp_right (hplace _)⟩
  holds_pure value hvalue := fun state hstate ↦
    ⟨fun _ hmem ↦ (nomatch hmem), hstate, hvalue, fun _ hfailure ↦ Or.inl hfailure⟩
  holds_bind {α β first next property goal place} hfirst hnext := by
    intro state hstate
    obtain ⟨hlog, hmiddle, hended, hfurthest⟩ := hfirst state hstate
    match hrun : first.plain state with
    | (.ok value, middle) =>
      rw [hrun] at hmiddle hended hfurthest
      obtain ⟨hplain, hboth⟩ := Logged.bind_of_ok hrun next
      obtain ⟨hmore, hafter, hgoal, hfurther⟩ := hnext value hended middle hmiddle
      rw [hplain, hboth]
      refine ⟨fun visit hvisit ↦ ?_, hafter, hgoal, fun failure hfailure ↦ ?_⟩
      · exact (List.mem_append.mp hvisit).elim (hlog visit) (hmore visit)
      · exact (hfurther failure hfailure).elim (hfurthest failure) Or.inr
    | (.error reason, after) =>
      rw [hrun] at hmiddle hended hfurthest
      obtain ⟨hplain, hlast⟩ := Logged.bind_of_error hrun next
      rw [hplain, hlast]
      refine ⟨hlog, hmiddle, ?_, hfurthest⟩
      match reason with
      | .failure failure => exact hended
      | .error error => exact True.intro
  holds_failure failure hplace := fun state hstate ↦
    ⟨fun visit hvisit ↦ List.mem_singleton.mp hvisit ▸ True.intro, hstate, hplace,
      fun _ hfailure ↦ Or.inl hfailure⟩
  holds_error error := fun state hstate ↦
    ⟨fun visit hvisit ↦ List.mem_singleton.mp hvisit ▸ True.intro, hstate, True.intro,
      fun _ hfailure ↦ Or.inl hfailure⟩
  holds_attempt {α evaluation property place} hholds := by
    intro state hstate
    obtain ⟨hlog, hafter, hended, hfurthest⟩ := hholds state hstate
    match hrun : evaluation.plain state with
    | (.ok value, after) =>
      rw [hrun] at hafter hended hfurthest
      rw [Logged.attempt_of_ok hrun]
      exact ⟨hlog, hafter, hended, hfurthest⟩
    | (.error (.failure failure), after) =>
      rw [hrun] at hafter hended hfurthest
      rw [Logged.attempt_of_failure hrun]
      exact ⟨hlog, hafter, hended, hfurthest⟩
    | (.error (.error error), after) =>
      rw [hrun] at hafter hfurthest
      rw [Logged.attempt_of_error hrun]
      exact ⟨hlog, hafter, True.intro, hfurthest⟩
  holds_record failure hplace := fun state hstate ↦ by
    refine ⟨fun _ hmem ↦ (nomatch hmem), hstate.of_eq rfl rfl, True.intro, fun kept hkept ↦ ?_⟩
    rcases Failure.mem_further hkept with hheld | rfl
    · exact Or.inl hheld
    · exact Or.inr hplace
  holds_shield hholds := fun state hstate ↦
    ⟨(hholds state hstate).log, (hholds state hstate).after.of_eq rfl rfl,
      (hholds state hstate).outcome, fun _ hfailure ↦ Or.inl hfailure⟩
  holds_invoke run hadmits := fun state hstate ↦ by
    refine ⟨fun _ hmem ↦ (nomatch hmem), ⟨hstate.remembered, fun other hother ↦ ?_⟩, True.intro,
      fun _ hfailure ↦ Or.inl hfailure⟩
    have hpushed : other ∈ state.invocations.toList ++ [run] := by
      rw [← Array.toList_push]
      exact hother
    rcases List.mem_append.mp hpushed with hbefore | hlast
    · exact hstate.invocations other hbefore
    · rw [List.mem_singleton.mp hlast]
      exact hadmits

/-! ### Around nodes -/

/-- The furthest failure after recording that of an evaluation is that or the one held before. -/
theorem EngineState.mem_furthest_recordAll {state : EngineState} {reached : Option Failure}
    {failure : Failure} (hfailure : failure ∈ (state.recordAll reached).furthest) :
    failure ∈ state.furthest ∨ failure ∈ reached := by
  match reached with
  | none => exact Or.inl hfailure
  | some other => exact (Failure.mem_further hfailure).imp_right fun heq ↦ congrArg some heq.symm

variable {id : NodeId} {state : EngineState}

/-- An outcome that is remembered is kept when it is given again. -/
theorem kept_replay {found : Remembered} (hstate : state.Fulfils text promise)
    (hfound : found.Fulfils text promise id offset) :
    Kept text promise (text.Fulfils promise id offset) (text.Ahead offset) state []
      (Engine.replay found state) := by
  refine ⟨fun _ hmem ↦ (nomatch hmem),
    hstate.of_eq (EngineState.memo_recordAll _) (EngineState.invocations_recordAll _), ?_,
    fun failure hfailure ↦ ?_⟩
  · have houtcome := hfound.outcome
    unfold Engine.replay
    match hended : found.outcome with
    | .ok value =>
      rw [hended] at houtcome
      exact houtcome
    | .error failure =>
      rw [hended] at houtcome
      exact houtcome
  · exact (EngineState.mem_furthest_recordAll hfailure).imp_right (hfound.furthest failure)

theorem kept_learn {evaluation : Engine Match}
    (hstate : state.Fulfils text promise) (hoffset : text.IsBoundary offset)
    (hkept : ∀ fresh : EngineState, fresh.Fulfils text promise →
      Kept text promise (text.Fulfils promise id offset) (text.Ahead offset) fresh []
        (evaluation fresh)) (capacity : Nat) (pinned : Bool) :
    Kept text promise (text.Fulfils promise id offset) (text.Ahead offset) state []
      (Engine.learn capacity pinned id offset evaluation state) := by
  obtain ⟨-, hafter, hended, hfurthest⟩ := hkept
    { state with
      furthest := none
      counters := { state.counters with misses := state.counters.misses + 1 } }
        (hstate.of_eq rfl rfl)
  simp only [Engine.learn]
  revert hafter hended hfurthest
  generalize evaluation _ = result
  obtain ⟨outcome, after⟩ := result
  intro hafter hended hfurthest
  have hreached (failure : Failure) (hfailure : failure ∈ after.furthest) :
      text.Ahead offset failure.offset :=
    (hfurthest failure hfailure).resolve_left (Option.not_mem_none failure)
  have hheld : ({ after with furthest := state.furthest } : EngineState).Fulfils text promise :=
    hafter.of_eq rfl rfl
  have hfinal {final : EngineState} (hfulfils : final.Fulfils text promise)
      (hsame : final.furthest = state.furthest) :
      Kept text promise (text.Fulfils promise id offset) (text.Ahead offset) state []
        (outcome, final.recordAll after.furthest) := by
    refine ⟨List.forall_mem_nil _,
      hfulfils.of_eq (EngineState.memo_recordAll _) (EngineState.invocations_recordAll _), hended,
      fun failure hfailure ↦ ?_⟩
    rw [← hsame]
    exact (EngineState.mem_furthest_recordAll hfailure).imp_right (hreached failure)
  cases outcome with
  | ok value =>
    have hfound : Remembered.Fulfils text promise id offset ⟨.ok value, after.furthest⟩ :=
      ⟨hoffset, hended, hreached⟩
    exact hfinal (hheld.remember hfound capacity pinned) (by simp)
  | error halt =>
    cases halt with
    | failure failure =>
      have hfound : Remembered.Fulfils text promise id offset ⟨.error failure, after.furthest⟩ :=
        ⟨hoffset, hended, hreached⟩
      exact hfinal (hheld.remember hfound capacity pinned) (by simp)
    | error error => exact hfinal hheld rfl

namespace Grammar

/-- What the engine does around a node keeps what fulfils a promise, if the evaluation of the node
does. -/
theorem kept_loggedLayer (grammar : Grammar) (hoffset : text.IsBoundary offset)
    {evaluation : Logged Match}
    (hholds : (Logged.keeping text promise).Holds evaluation (text.Fulfils promise id offset)
      (text.Ahead offset)) :
    (Logged.keeping text promise).Holds (grammar.loggedLayer id offset evaluation)
      (text.Fulfils promise id offset) (text.Ahead offset) := by
  intro state hstate
  have hcounted (fresh : EngineState) (hfresh : fresh.Fulfils text promise) :
      Kept text promise (text.Fulfils promise id offset) (text.Ahead offset) fresh []
        (Engine.counted evaluation.plain fresh) := by
    obtain ⟨-, hafter, hended, hfurthest⟩ := hholds
      { fresh with
        counters := { fresh.counters with evaluations := fresh.counters.evaluations + 1 } }
      (hfresh.of_eq rfl rfl)
    exact ⟨List.forall_mem_nil _, hafter, hended, hfurthest⟩
  have hlayer : Kept text promise (text.Fulfils promise id offset) (text.Ahead offset) state []
      (grammar.layer id offset evaluation.plain state) := by
    by_cases hremembers : grammar.remembers (grammar.node id) = true
    · rw [layer, if_pos hremembers]
      unfold Engine.memoized
      split
      next found hfind => exact kept_replay hstate (hstate.remembered id offset found hfind)
      next => exact kept_learn hstate hoffset hcounted _ _
    · rw [layer, if_neg hremembers]
      exact hcounted state hstate
  refine ⟨fun visit hvisit ↦ ?_, hlayer.after, hlayer.outcome, hlayer.furthest⟩
  rcases List.mem_cons.mp hvisit with rfl | hvisit
  · exact hoffset
  · rcases List.mem_append.mp hvisit with hinside | hlast
    · cases hopening : grammar.opening? id offset state with
      | none =>
        rw [hopening] at hinside
        exact absurd hinside List.not_mem_nil
      | some inner =>
        rw [hopening] at hinside
        have hinner : inner.Fulfils text promise := by
          unfold opening? at hopening
          simp only at hopening
          split_ifs at hopening
          · split at hopening
            · cases hopening
            · rw [← Option.some.inj hopening]
              exact hstate.of_eq rfl rfl
          · rw [← Option.some.inj hopening]
            exact hstate.of_eq rfl rfl
        exact (hholds inner hinner).log visit hinside
    · rw [List.mem_singleton.mp hlast]
      exact hlayer.outcome

/-- Logged evaluations keep what fulfils a promise that the grammar maintains. The induction is on
the room. -/
theorem holds_evaluateLogged (hmaintains : grammar.Maintains text promise) (room : Nat) :
    ∀ (id : NodeId) (offset : Nat), text.IsBoundary offset →
      (Logged.keeping text promise).Holds (grammar.evaluateLogged text room id offset)
        (text.Fulfils promise id offset) (text.Ahead offset) := by
  induction room with
  | zero => exact fun _ _ _ ↦ (Logged.keeping text promise).holds_error _
  | succ room ih =>
    intro id offset hoffset
    exact grammar.kept_loggedLayer hoffset ((Logged.keeping text promise).holds_matcher
      (fun _ hadmits ↦ hadmits) ih hoffset id (hmaintains id offset hoffset))

/-- Evaluations by the engine keep what fulfils a promise that the grammar maintains. -/
theorem kept_evaluate (hmaintains : grammar.Maintains text promise) (room : Nat)
    (hoffset : text.IsBoundary offset) (hstate : state.Fulfils text promise) :
    Kept text promise (text.Fulfils promise id offset) (text.Ahead offset) state
      ((grammar.evaluateLogged text room id offset).log state)
      (grammar.evaluate text room id offset state) := by
  have hkept := grammar.holds_evaluateLogged hmaintains room id offset hoffset state hstate
  rwa [plain_evaluateLogged] at hkept

end Grammar

end Packrat
