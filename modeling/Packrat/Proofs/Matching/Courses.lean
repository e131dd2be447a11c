import Packrat.Proofs.Matching.Agreement

/-!
# Courses of evaluations

The course of an evaluation says how it ends, which failures it records and which actions it applies
to what, in order; it does not say to which nodes these actions belong. This is what is left of a
trace when runs lose their places (`Grammar.course_trace`), and all that can be told of an
evaluation from outside. So expressions have courses by themselves: a node takes the course of the
expression that became the node, in whatever grammar it is (`Draft.Within.course_eq`). An evaluation
that the limit on the depth stops takes no course.

Nodes that take one course cannot be told apart (`Grammar.Alike`): the engine comes to the same
outcome, keeps the same furthest failure and applies the same actions to the same, whatever it
remembers (`Grammar.alike_of_course`).
-/

set_option autoImplicit false
set_option relaxedAutoImplicit false

namespace Packrat

open MatchMonad

variable {α β : Type}

/-- What can be told of an evaluation. -/
inductive Course (α : Type) where
  /-- It is stopped by the limit on the depth. -/
  | stopped
  /-- It has an outcome, before which it records failures and applies actions. -/
  | reached (outcome : Except Halt α) (failures : List Failure) (applications : List Application)

namespace Course

/-- A course after failures and applications of actions. -/
def after (failures : List Failure) (applications : List Application) : Course α → Course α
  | stopped => stopped
  | reached outcome more others => reached outcome (failures ++ more) (applications ++ others)

/-- One evaluation after another; a halt ends it. -/
def andThen (first : Course α) (next : α → Course β) : Course β :=
  match first with
  | stopped => stopped
  | reached (.ok value) failures applications => (next value).after failures applications
  | reached (.error halt) failures applications => reached (.error halt) failures applications

instance : MatchMonad Course where
  pure value := reached (.ok value) [] []
  bind := andThen
  halt
    | .error (.recursionLimit _ _) => stopped
    | reason => reached (.error reason) [] []
  attempt
    | stopped => stopped
    | reached (.ok value) failures applications => reached (.ok (.ok value)) failures applications
    | reached (.error (.failure failure)) failures applications =>
      reached (.ok (.error failure)) failures applications
    | reached (.error (.error error)) failures applications =>
      reached (.error (.error error)) failures applications
  record failure := reached (.ok ()) [failure] []
  shield
    | stopped => stopped
    | reached outcome _ applications => reached outcome [] applications
  invoke invocation := reached (.ok ()) [] [invocation.application]

/-! ### The operations of courses -/

variable {failures more : List Failure} {applications others : List Application}
  {value : α} {reason : Halt} {failure : Failure} {error : ParseError}

@[simp] theorem after_nil (course : Course α) : course.after [] [] = course := by
  cases course <;> rfl

/-- Failures and applications before a course may be put there in two steps. -/
theorem after_after (course : Course α) :
    (course.after more others).after failures applications =
      course.after (failures ++ more) (applications ++ others) := by
  cases course <;> simp [after]

@[simp] theorem stopped_bind (next : α → Course β) : (stopped >>= next) = .stopped := rfl

@[simp] theorem ok_bind (next : α → Course β) :
    (reached (.ok value) failures applications >>= next) =
      (next value).after failures applications := rfl

@[simp] theorem error_bind (next : α → Course β) :
    (reached (.error reason) failures applications >>= next) =
      reached (.error reason) failures applications := rfl

/-- What comes before an evaluation comes before what follows it. -/
theorem after_bind (course : Course α) (next : α → Course β) :
    (course.after failures applications >>= next) =
      (course >>= next).after failures applications := by
  match course with
  | stopped => rfl
  | reached (.ok value) more others => exact (after_after (next value)).symm
  | reached (.error halt) more others => rfl

instance : LawfulMonad Course := LawfulMonad.mk' Course
  (fun course ↦ match course with
    | stopped => rfl
    | reached (.ok _) failures applications => by
      change reached (.ok _) (failures ++ []) (applications ++ []) = _
      rw [List.append_nil, List.append_nil]
      rfl
    | reached (.error _) _ _ => rfl)
  (fun value next ↦ after_nil (next value))
  (fun course next last ↦ match course with
    | stopped => rfl
    | reached (.ok value) _ _ => after_bind (next value) last
    | reached (.error _) _ _ => rfl)

@[simp] theorem backtrack_stopped : backtrack (stopped : Course α) = .stopped := rfl

/-- A value stays what it is when there is a way back. -/
@[simp] theorem backtrack_ok :
    backtrack (reached (.ok value) failures applications) =
      reached (.ok (.ok value)) failures applications := by
  change reached _ (failures ++ []) (applications ++ []) = _
  rw [List.append_nil, List.append_nil]

@[simp] theorem backtrack_error :
    backtrack (reached (.error (.error error)) failures applications : Course α) =
      reached (.error (.error error)) failures applications := rfl

/-- Ordinary failures become values, and fatal ones stay what they are. -/
@[simp] theorem backtrack_failure :
    backtrack (reached (.error (.failure failure)) failures applications : Course α) =
      if failure.fatal then reached (.error (.failure failure)) failures applications
      else reached (.ok (.error failure)) failures applications := by
  change (if failure.fatal then _ else _ : Course (Except Failure α)).after
    failures applications = _
  split_ifs
  · change reached _ (failures ++ []) (applications ++ []) = _
    rw [List.append_nil, List.append_nil]
  · change reached _ (failures ++ []) (applications ++ []) = _
    rw [List.append_nil, List.append_nil]

/-- What comes before an evaluation comes before an attempt at it. -/
theorem backtrack_after (course : Course α) :
    backtrack (course.after failures applications) =
      (backtrack course).after failures applications := by
  match course with
  | stopped => rfl
  | reached (.ok value) more others => rw [after, backtrack_ok, backtrack_ok, after]
  | reached (.error (.error error)) more others => rfl
  | reached (.error (.failure failure)) more others =>
    rw [after, backtrack_failure, backtrack_failure]
    split_ifs <;> rfl

end Course

/-! ### Courses of traces -/

namespace Trace

def course (trace : Trace α) : Course α :=
  if IsLimited trace.outcome then .stopped
  else .reached trace.outcome trace.failures ((runsOf trace.events).map Invocation.application)

theorem course_of_limited {trace : Trace α} (hlimited : trace.Limited) : trace.course = .stopped :=
  if_pos hlimited

theorem course_of_not_limited {trace : Trace α} (hreached : ¬ trace.Limited) : trace.course =
    .reached trace.outcome trace.failures ((runsOf trace.events).map Invocation.application) :=
  if_neg hreached

/-- A trace was stopped just if it takes no course. -/
theorem course_eq_stopped_iff {trace : Trace α} : trace.course = .stopped ↔ trace.Limited := by
  refine ⟨fun hstopped ↦ ?_, course_of_limited⟩
  by_contra hreached
  rw [course_of_not_limited hreached] at hstopped
  cases hstopped

theorem course_append (outcome : Except Halt α) (before events : List Event) :
    (⟨outcome, before ++ events⟩ : Trace α).course =
      (⟨outcome, events⟩ : Trace α).course.after (before.filterMap Event.failure?)
        ((runsOf before).map Invocation.application) := by
  unfold course
  split_ifs
  · rfl
  · simp only [Course.after, failures, List.filterMap_append, runsOf_append, List.map_append]

/-- A trace with less room takes no course, or the same as with more. -/
theorem Refines.course {trace other : Trace α} {property : α → Prop}
    (hrefines : trace.Refines other property) :
    trace.course = .stopped ∨ trace.course = other.course :=
  hrefines.imp course_of_limited fun hsame ↦ congrArg Trace.course hsame.1

end Trace

/-- The operations keep traces with their courses. -/
def charting : Correspondence Trace Course where
  Holds trace course property := trace.course = course ∧ trace.Gives property
  Allows _ := True
  holds_mono hholds himp := ⟨hholds.1, hholds.2.mono himp⟩
  holds_pure value hvalue := ⟨rfl, Trace.gives_pure value hvalue⟩
  holds_bind {α β first second next next' property goal} hfirst hnext := by
    obtain ⟨rfl, hgives⟩ := hfirst
    refine ⟨?_, hgives.bind fun value hvalue ↦ (hnext value hvalue).2⟩
    by_cases hlimited : first.Limited
    · rw [Trace.course_of_limited hlimited, Trace.course_of_limited (hlimited.bind next)]
      rfl
    rw [Trace.course_of_not_limited hlimited]
    cases houtcome : first.outcome with
    | error halt =>
      have hreached : ¬ IsLimited (.error halt : Except Halt β) := by
        rw [Trace.Limited, houtcome] at hlimited
        exact mt (isLimited_error_iff halt).mpr hlimited
      rw [Trace.bind_of_error houtcome, Course.error_bind]
      exact Trace.course_of_not_limited hreached
    | ok value =>
      rw [Trace.bind_of_ok houtcome, Course.ok_bind, ← (hnext value (hgives value houtcome)).1]
      exact Trace.course_append _ _ _
  holds_failure failure := ⟨rfl, Trace.gives_halt _ _⟩
  holds_error error _ := by
    refine ⟨?_, Trace.gives_halt _ _⟩
    cases error <;> rfl
  holds_attempt {α first second property} hholds := by
    obtain ⟨rfl, hgives⟩ := hholds
    refine ⟨?_, hgives.attempt⟩
    by_cases hlimited : first.Limited
    · rw [Trace.course_of_limited hlimited, Trace.course_of_limited hlimited.attempt]
      rfl
    rw [Trace.course_of_not_limited hlimited]
    match houtcome : first.outcome with
    | .ok value =>
      rw [Trace.attempt_of_ok houtcome]
      rfl
    | .error (.failure failure) =>
      rw [Trace.attempt_of_failure houtcome]
      rfl
    | .error (.error error) =>
      rw [Trace.Limited, houtcome] at hlimited
      rw [Trace.attempt_of_error houtcome]
      exact Trace.course_of_not_limited (mt (isLimited_error_iff _).mpr hlimited)
  holds_record failure := ⟨rfl, fun _ _ ↦ True.intro⟩
  holds_shield {α first second property} hholds := by
    obtain ⟨rfl, hgives⟩ := hholds
    refine ⟨?_, hgives⟩
    by_cases hlimited : first.Limited
    · have hshielded : (shield first).Limited := hlimited
      rw [Trace.course_of_limited hlimited, Trace.course_of_limited hshielded]
      rfl
    · have hshielded : ¬ (shield first).Limited := hlimited
      have hevents : (shield first).events = first.events.filter
          fun event ↦ event.failure?.isNone := rfl
      rw [Trace.course_of_not_limited hlimited, Trace.course_of_not_limited hshielded,
        Trace.failures, hevents, filterMap_failure?_filter, runsOf_filter]
      rfl

/-- A run of an action is told as what it applies to what. -/
theorem charting_invoke (invocation : Invocation) :
    charting.Holds (invoke invocation) (invoke invocation) fun _ ↦ True :=
  ⟨rfl, fun _ _ ↦ True.intro⟩

/-! ### Courses of nodes -/

namespace Grammar

variable {grammar : Grammar} {text : Text}

def course (grammar : Grammar) (text : Text) (room : Nat) (id : NodeId) (offset : Nat) :
    Course Match :=
  grammar.evaluateWith text (fun _ _ evaluation ↦ evaluation) room id offset

/-- The course of a node is the course of its trace. The induction is on the room. -/
theorem course_trace (room : Nat) : ∀ (id : NodeId) (offset : Nat),
    (grammar.trace text room id offset).course = grammar.course text room id offset := by
  induction room with
  | zero => exact fun _ _ ↦ rfl
  | succ room ih =>
    intro id offset
    have hmeets : charting.Meets .trivial (grammar.trace text room) (grammar.course text room) :=
      ⟨fun id offset _ ↦ ⟨ih id offset, fun _ _ ↦ True.intro⟩, fun _ _ ↦ True.intro⟩
    exact (hmeets.holds_matcher_of_invoke charting_invoke
      (Node.demands_trivial grammar text offset (grammar.node id))).1

end Grammar

/-- The course of an expression of a draft at an offset, with the given characters skipped around
it. -/
def Draft.course (draft : Draft) (text : Text) (room : Nat) (skip : Option CharSet) (expr : Expr) :
    Matcher Course :=
  draft.reading text room skip expr

/-- A node takes the course of the expression that became the node, in the draft itself and in every
draft in which its rules are bound. -/
theorem Draft.Within.course_eq {draft other : Draft} {grammar : Grammar}
    (hwithin : draft.Within other) (hlowers : draft.LowersTo grammar) (text : Text) (room : Nat)
    {skip : Option CharSet} {expr : Expr} {id : NodeId}
    (hcompiles : expr.CompilesTo grammar.nodes draft.ruleNames skip id) :
    grammar.course text room id = other.course text room skip expr :=
  hwithin.evaluateWith_eq_reading (fun _ _ hsame ↦ congrArg (Course.reached _ _ [·]) hsame)
    hlowers text room hcompiles

/-! ### Evaluations that take one course -/

/-- What actions have been applied to what so far. -/
def EngineState.applications (state : EngineState) : List Application :=
  state.invocations.toList.map Invocation.application

/-- Two evaluations, each from a state of its own, come to the same: the outcome is the same, the
furthest failure is if it was before, and if nothing was applied before, the same actions are
applied to the same. -/
structure Indistinct (state other : EngineState) (result twin : Except Halt Match × EngineState) :
    Prop where
  /-- They end alike. -/
  outcome : result.1 = twin.1
  /-- The furthest failure after them is the same, if it was the same before. -/
  furthest : state.furthest = other.furthest → result.2.furthest = twin.2.furthest
  /-- An action is applied to something in the one just if it is in the other. -/
  applied : state.applications = [] → other.applications = [] →
    ∀ application, application ∈ result.2.applications ↔ application ∈ twin.2.applications

/-- Evaluations of two nodes of two grammars at an offset cannot be told apart, but for the limit on
the depth. -/
structure Grammar.Alike (first second : Grammar) (text : Text) (id twin : NodeId) (offset : Nat) :
    Prop where
  /-- They come to the same, whatever the engine remembers and whatever room it is given, unless it
  stops one of them. -/
  indistinct : ∀ {state other : EngineState}, state.Valid first text → other.Valid second text →
    ∀ room more : Nat, ¬ IsLimited (first.evaluate text room id offset state).1 →
      ¬ IsLimited (second.evaluate text more twin offset other).1 →
      Indistinct state other (first.evaluate text room id offset state)
        (second.evaluate text more twin offset other)
  /-- Where nothing is remembered, the same actions are applied to the same in the same order. -/
  inOrder : first.config.packrat = false → second.config.packrat = false →
    ∀ (state other : EngineState) (room more : Nat),
      ¬ IsLimited (first.evaluate text room id offset state).1 →
      ¬ IsLimited (second.evaluate text more twin offset other).1 →
      state.applications = other.applications →
        (first.evaluate text room id offset state).2.applications =
        (second.evaluate text more twin offset other).2.applications
  /-- If a greater limit lets the one end, it lets the other one end as well. -/
  neverEnds : first.NeverEnds text id offset ↔ second.NeverEnds text twin offset

namespace Grammar

variable {grammar first second : Grammar} {text : Text} {id twin : NodeId} {offset : Nat}

/-- Without memory an evaluation that is not stopped does what its trace says. -/
theorem performed_of_not_packrat (hplain : grammar.config.packrat = false)
    {state : EngineState} {room : Nat}
    (hreached : ¬ IsLimited (grammar.evaluate text room id offset state).1) :
    ¬ (grammar.trace text room id offset).Limited ∧
      (grammar.evaluate text room id offset state).1 = (grammar.trace text room id offset).outcome ∧
      (grammar.evaluate text room id offset state).2.furthest =
        furthestAfter state.furthest (grammar.trace text room id offset).events ∧
      (grammar.evaluate text room id offset state).2.invocations.toList =
        state.invocations.toList ++ runsOf (grammar.trace text room id offset).events := by
  obtain ⟨counters, hrun⟩ := (performs_evaluate hplain text room id offset).1 state
  rw [hrun] at hreached ⊢
  refine ⟨hreached, rfl, rfl, ?_⟩
  simp [EngineState.after]

/-- An evaluation that is not stopped has the outcome of a trace and the furthest failure after its
events, and if nothing was applied before, what is applied is what is applied in the trace. -/
theorem exists_told_trace {state : EngineState} (hvalid : state.Valid grammar text) {room : Nat}
    (hreached : ¬ IsLimited (grammar.evaluate text room id offset state).1) :
    ∃ enough, ¬ (grammar.trace text enough id offset).Limited ∧
      (grammar.evaluate text room id offset state).1 =
        (grammar.trace text enough id offset).outcome ∧
      (grammar.evaluate text room id offset state).2.furthest =
        furthestAfter state.furthest (grammar.trace text enough id offset).events ∧
      (state.applications = [] → ∀ application,
        application ∈ (grammar.evaluate text room id offset state).2.applications ↔
          application ∈ (runsOf (grammar.trace text enough id offset).events).map
            Invocation.application) := by
  by_cases hpackrat : grammar.config.packrat = true
  · obtain ⟨-, hagrees, -⟩ := grammar.faithful_evaluate hpackrat room id offset
      state (hvalid hpackrat)
    obtain ⟨enough, hunlimited, houtcome, hfurthest, hruns⟩ :=
      hagrees.resolve_left fun hstopped ↦ hreached hstopped.1
    refine ⟨enough, hunlimited, houtcome, hfurthest, fun hnone application ↦ ?_⟩
    have hfirst : firstRuns (runsOf (grammar.trace text enough id offset).events) =
        (grammar.evaluate text room id offset state).2.invocations.toList := by
      rw [hruns, List.map_eq_nil_iff.mp hnone]
      rfl
    have hsame (run : Invocation) :
        run ∈ firstRuns (runsOf (grammar.trace text enough id offset).events) ↔
        run ∈ runsOf (grammar.trace text enough id offset).events :=
      mem_firstRuns_iff fun run hrun other hother ↦ grammar.eq_of_site_eq text hrun hother
    simp only [EngineState.applications, ← hfirst, List.mem_map, hsame]
  · obtain ⟨hunlimited, houtcome, hfurthest, hruns⟩ :=
      performed_of_not_packrat (Bool.eq_false_iff.mpr hpackrat) hreached
    refine ⟨room, hunlimited, houtcome, hfurthest, fun hnone application ↦ ?_⟩
    rw [EngineState.applications, hruns, List.map_eq_nil_iff.mp hnone, List.nil_append]

/-- Evaluations of two nodes cannot be told apart if with some room the second one takes no course
or that of the first one, and the first one takes no course or that of the second one with one level
of room more. -/
theorem alike_of_course
    (hlower : ∀ room, second.course text room twin offset = .stopped ∨
      second.course text room twin offset = first.course text room id offset)
    (hupper : ∀ room, first.course text room id offset = .stopped ∨
      first.course text room id offset = second.course text (room + 1) twin offset) :
    first.Alike second text id twin offset := by
  have hsame {enough more : Nat} (hone : ¬ (first.trace text enough id offset).Limited)
      (htwo : ¬ (second.trace text more twin offset).Limited) :
      (first.trace text enough id offset).outcome = (second.trace text more twin offset).outcome ∧
        (first.trace text enough id offset).failures =
        (second.trace text more twin offset).failures ∧
          (runsOf (first.trace text enough id offset).events).map Invocation.application =
          (runsOf (second.trace text more twin offset).events).map Invocation.application := by
    have hcourse := hupper (max enough more)
    rw [← course_trace, ← course_trace, first.trace_eq_of_le text
      (Nat.le_max_left enough more) hone, second.trace_eq_of_le text
      (Nat.le_succ_of_le (Nat.le_max_right enough more)) htwo, Trace.course_of_not_limited hone,
      Trace.course_of_not_limited htwo] at hcourse
    exact Course.reached.inj (hcourse.resolve_left nofun)
  refine ⟨fun {state other} hstate hother room more hreached hreached' ↦ ?_,
    fun hplain hplain' state other room more hreached hreached' hbefore ↦ ?_, ?_⟩
  · obtain ⟨enough, hone, houtcome, hfurthest, happlied⟩ := exists_told_trace hstate hreached
    obtain ⟨enough', htwo, houtcome', hfurthest', happlied'⟩ := exists_told_trace hother hreached'
    obtain ⟨hends, hfailures, hruns⟩ := hsame hone htwo
    refine ⟨houtcome.trans (hends.trans houtcome'.symm), fun hbefore ↦ ?_,
      fun hnone hnone' application ↦ ?_⟩
    · rw [hfurthest, hfurthest', hbefore]
      exact congrArg (List.foldl Failure.further other.furthest) hfailures
    · rw [happlied hnone, happlied' hnone', hruns]
  · obtain ⟨hone, -, -, hafter⟩ := performed_of_not_packrat hplain hreached
    obtain ⟨htwo, -, -, hafter'⟩ := performed_of_not_packrat hplain' hreached'
    rw [EngineState.applications, EngineState.applications, hafter, hafter', List.map_append,
      List.map_append, (hsame hone htwo).2.2]
    exact congrArg (· ++ _) hbefore
  · constructor
    · intro hnever room
      rcases hlower room with hstopped | hcourse
      · rwa [← course_trace, Trace.course_eq_stopped_iff] at hstopped
      · rw [← course_trace, ← course_trace, Trace.course_of_limited (hnever room)] at hcourse
        exact Trace.course_eq_stopped_iff.mp hcourse
    · intro hnever room
      rcases hupper room with hstopped | hcourse
      · rwa [← course_trace, Trace.course_eq_stopped_iff] at hstopped
      · rw [← course_trace, ← course_trace, Trace.course_of_limited (hnever (room + 1))] at hcourse
        exact Trace.course_eq_stopped_iff.mp hcourse

end Grammar

end Packrat
