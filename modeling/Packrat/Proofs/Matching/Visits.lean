import Packrat.Proofs.Matching.Uncached

/-!
# Evaluations that keep a log

A logged evaluation does what the engine does and notes on the way where the evaluation of a node
begins, where it ends and with which outcome, and where something halts. The log changes nothing:
without it a logged evaluation is the plain one (`Grammar.plain_evaluateLogged`). An outcome that is
found in the memory is noted like one that was computed, with nothing between its beginning and its
end.

A halt is final if callers may not go back over it: a fatal failure, or an error. The main statement
is that nothing comes after a final halt. Once one is noted, whatever is noted later is the same
halt again, on its way through the evaluations that were open, and it is the outcome of the whole
(`Grammar.orderly_evaluateLogged`).
-/

set_option autoImplicit false
set_option relaxedAutoImplicit false

namespace Packrat

open MatchMonad

variable {α β : Type}

/-- Something that is noted in a log. -/
inductive Visit where
  /-- The evaluation of a node at an offset begins. -/
  | begun (id : NodeId) (offset : Nat)
  /-- The evaluation of a node at an offset ends. -/
  | ended (id : NodeId) (offset : Nat) (outcome : Except Halt Match)
  /-- Something halts. -/
  | halted (reason : Halt)

/-- Evaluations by the engine that keep a log. -/
def Logged (α : Type) := EngineState → (Except Halt α × EngineState) × List Visit

namespace Logged

def plain (evaluation : Logged α) : Engine α := fun state ↦ (evaluation state).1

/-- What is noted of an evaluation from a state. -/
def log (evaluation : Logged α) (state : EngineState) : List Visit := (evaluation state).2

/-- An evaluation with a log that depends on the state. -/
def noting (evaluation : Engine α) (log : EngineState → List Visit) : Logged α := fun state ↦
  (evaluation state, log state)

/-- Changes an evaluation and keeps its log. -/
def changing (change : Engine α → Engine β) (evaluation : Logged α) : Logged β := fun state ↦
  let found := evaluation state
  (change (fun _ ↦ found.1) state, found.2)

/-- One evaluation after another, with their logs one after the other. -/
def andThen (first : Logged α) (next : α → Logged β) : Logged β := fun state ↦
  let found := first state
  match found.1 with
  | (.ok value, middle) =>
    let rest := next value middle
    (rest.1, found.2 ++ rest.2)
  | (.error reason, after) => ((.error reason, after), found.2)

instance : MatchMonad Logged where
  pure value := noting (pure value) fun _ ↦ []
  bind := andThen
  halt reason := noting (halt reason) fun _ ↦ [.halted reason]
  attempt := changing attempt
  record failure := noting (record failure) fun _ ↦ []
  shield := changing shield
  invoke invocation := noting (invoke invocation) fun _ ↦ []

@[simp] theorem plain_noting (evaluation : Engine α) (log : EngineState → List Visit) :
    (noting evaluation log).plain = evaluation := rfl

@[simp] theorem log_noting (evaluation : Engine α) (log : EngineState → List Visit)
    (state : EngineState) : (noting evaluation log).log state = log state := rfl

theorem bind_of_ok {first : Logged α} {value : α} {state middle : EngineState}
    (hrun : first.plain state = (.ok value, middle)) (next : α → Logged β) :
    (first >>= next).plain state = (next value).plain middle ∧
      (first >>= next).log state = first.log state ++ (next value).log middle := by
  have hfirst : (first state).1 = (.ok value, middle) := hrun
  change (andThen first next state).1 = _ ∧ (andThen first next state).2 = _
  simp only [andThen, hfirst]
  exact ⟨rfl, rfl⟩

theorem bind_of_error {first : Logged α} {reason : Halt} {state after : EngineState}
    (hrun : first.plain state = (.error reason, after)) (next : α → Logged β) :
    (first >>= next).plain state = (.error reason, after) ∧
      (first >>= next).log state = first.log state := by
  have hfirst : (first state).1 = (.error reason, after) := hrun
  change (andThen first next state).1 = _ ∧ (andThen first next state).2 = _
  simp only [andThen, hfirst]
  exact ⟨True.intro, rfl⟩

theorem plain_bind (first : Logged α) (next : α → Logged β) :
    (first >>= next).plain = (first.plain >>= fun value ↦ (next value).plain) := by
  funext state
  match hrun : first.plain state with
  | (.ok value, middle) => rw [(bind_of_ok hrun next).1, Engine.bind_of_ok hrun]
  | (.error reason, after) => rw [(bind_of_error hrun next).1, Engine.bind_of_error hrun]

theorem attempt_of_ok {evaluation : Logged α} {value : α} {state after : EngineState}
    (hrun : evaluation.plain state = (.ok value, after)) :
    (attempt evaluation).plain state = (.ok (.ok value), after) :=
  Engine.attempt_of_ok hrun

theorem attempt_of_failure {evaluation : Logged α} {failure : Failure} {state after : EngineState}
    (hrun : evaluation.plain state = (.error (.failure failure), after)) :
    (attempt evaluation).plain state = (.ok (.error failure), after) :=
  Engine.attempt_of_failure hrun

theorem attempt_of_error {evaluation : Logged α} {error : ParseError} {state after : EngineState}
    (hrun : evaluation.plain state = (.error (.error error), after)) :
    (attempt evaluation).plain state = (.error (.error error), after) :=
  Engine.attempt_of_error hrun

end Logged

/-! ### Logs around nodes -/

namespace Grammar

/-- The state in which the engine evaluates a node at an offset, unless it remembers the outcome. -/
def opening? (grammar : Grammar) (id : NodeId) (offset : Nat) (state : EngineState) :
    Option EngineState :=
  let counters := state.counters
  if grammar.remembers (grammar.node id) then
    match state.memo.find? id offset with
    | some _ => none
    | none =>
      some { state with
        furthest := none
        counters := { counters with
          misses := counters.misses + 1, evaluations := counters.evaluations + 1 } }
  else some { state with counters := { counters with evaluations := counters.evaluations + 1 } }

/-- What the engine does around every node, and what it notes. -/
def loggedLayer (grammar : Grammar) (id : NodeId) (offset : Nat) (evaluation : Logged Match) :
    Logged Match := fun state ↦
  let found := grammar.layer id offset evaluation.plain state
  (found, .begun id offset ::
    ((grammar.opening? id offset state).elim [] evaluation.log ++ [.ended id offset found.1]))

/-- Evaluates a node at an offset with the engine and keeps a log. -/
def evaluateLogged (grammar : Grammar) (text : Text) (room : Nat) (id : NodeId) (offset : Nat) :
    Logged Match :=
  grammar.evaluateWith text grammar.loggedLayer room id offset

variable {grammar : Grammar} {id : NodeId} {offset : Nat}

/-- An outcome that is not remembered is the one of the evaluation of the node. -/
theorem outcome_layer {evaluation : Engine Match} {state inner : EngineState}
    (hopening : grammar.opening? id offset state = some inner) :
    (grammar.layer id offset evaluation state).1 = (evaluation inner).1 := by
  by_cases hremembers : grammar.remembers (grammar.node id) = true
  · rw [opening?, if_pos hremembers] at hopening
    rw [layer, if_pos hremembers]
    cases hfind : state.memo.find? id offset with
    | some found =>
      rw [hfind] at hopening
      cases hopening
    | none =>
      rw [hfind] at hopening
      cases hopening
      simp only [Engine.memoized, hfind, Engine.learn, Engine.counted]
  · rw [opening?, if_neg hremembers] at hopening
    rw [layer, if_neg hremembers]
    cases hopening
    rfl

end Grammar

/-! ### The log changes nothing -/

/-- The operations keep a logged evaluation the same as a plain one. -/
def erasure : Correspondence Logged Engine where
  Holds logged plain property := logged.plain = plain ∧
    ∀ state value, (plain state).1 = .ok value → property value
  Allows _ := True
  holds_mono hholds himp := ⟨hholds.1, fun state value hok ↦ himp value (hholds.2 state value hok)⟩
  holds_pure value hvalue := ⟨rfl, fun _ _ hok ↦ Except.ok.inj hok ▸ hvalue⟩
  holds_bind {α β first second next next' property goal} hfirst hnext := by
    obtain ⟨rfl, hvalue⟩ := hfirst
    have hrest (state : EngineState) :
        (first >>= next).plain state = (first.plain >>= next') state := by
      rw [Logged.plain_bind]
      match hrun : first.plain state with
      | (.error reason, after) => rw [Engine.bind_of_error hrun, Engine.bind_of_error hrun]
      | (.ok value, middle) =>
        rw [Engine.bind_of_ok hrun, Engine.bind_of_ok hrun,
          (hnext value (hvalue state value (by rw [hrun]))).1]
    refine ⟨funext hrest, fun state result hok ↦ ?_⟩
    match hrun : first.plain state with
    | (.error reason, after) =>
      rw [Engine.bind_of_error hrun] at hok
      cases hok
    | (.ok value, middle) =>
      rw [Engine.bind_of_ok hrun] at hok
      exact (hnext value (hvalue state value (by rw [hrun]))).2 middle result hok
  holds_failure failure := ⟨rfl, fun _ _ hok ↦ nomatch hok⟩
  holds_error error _ := ⟨rfl, fun _ _ hok ↦ nomatch hok⟩
  holds_attempt {α first second property} hholds := by
    obtain ⟨rfl, hvalue⟩ := hholds
    refine ⟨rfl, ?_⟩
    rintro state result hok value rfl
    match hrun : first.plain state with
    | (.ok other, after) =>
      rw [Engine.attempt_of_ok hrun] at hok
      cases hok
      exact hvalue state value (by rw [hrun])
    | (.error (.failure failure), after) =>
      rw [Engine.attempt_of_failure hrun] at hok
      cases hok
    | (.error (.error error), after) =>
      rw [Engine.attempt_of_error hrun] at hok
      cases hok
  holds_record failure := ⟨rfl, fun _ _ _ ↦ True.intro⟩
  holds_shield hholds := ⟨congrArg shield hholds.1, fun state value hok ↦ hholds.2 state value hok⟩

namespace Grammar

variable {grammar : Grammar} {text : Text}

/-- Without its log a logged evaluation is the plain one. The induction is on the room. -/
theorem plain_evaluateLogged (room : Nat) : ∀ (id : NodeId) (offset : Nat),
    (grammar.evaluateLogged text room id offset).plain = grammar.evaluate text room id offset := by
  induction room with
  | zero => exact fun _ _ ↦ rfl
  | succ room ih =>
    intro id offset
    have hmeets : erasure.Meets .trivial (grammar.evaluateLogged text room)
        (grammar.evaluate text room) :=
      ⟨fun id offset _ ↦ ⟨ih id offset, fun _ _ _ ↦ True.intro⟩, fun _ _ ↦ True.intro⟩
    have hnode : erasure.Holds
        ((grammar.node id).matcher grammar text (grammar.evaluateLogged text room) id offset)
        ((grammar.node id).matcher grammar text (grammar.evaluate text room) id offset)
        fun _ ↦ True :=
      hmeets.holds_matcher_of_invoke (fun _ ↦ ⟨rfl, fun _ _ _ ↦ True.intro⟩)
        (Node.demands_trivial grammar text offset (grammar.node id))
    exact congrArg (grammar.layer id offset) hnode.1

end Grammar

/-! ### Final halts -/

/-- Callers may not go back over a halt. -/
def Halt.IsFinal : Halt → Prop
  | .failure reason => reason.fatal = true
  | .error _ => True

/-- A final halt is noted: something halts with it, or the evaluation of a node ends with it. -/
def Visit.Stops (halt : Halt) : Visit → Prop
  | .begun _ _ => False
  | .ended _ _ outcome => outcome = .error halt ∧ halt.IsFinal
  | .halted reason => reason = halt ∧ halt.IsFinal

theorem Visit.Stops.isFinal {visit : Visit} {halt : Halt} (hstops : visit.Stops halt) :
    halt.IsFinal := by
  cases visit with
  | begun id offset => exact hstops.elim
  | ended id offset outcome => exact hstops.2
  | halted reason => exact hstops.2

/-- In a log of an evaluation with some outcome nothing comes after a final halt but the same halt,
which is the outcome. -/
def Orderly (outcome : Except Halt α) : List Visit → Prop
  | [] => True
  | visit :: rest =>
    (∀ halt, visit.Stops halt → outcome = .error halt ∧ ∀ later ∈ rest, later.Stops halt) ∧
      Orderly outcome rest

/-- No final halt is noted in a log. -/
def Calm (log : List Visit) : Prop := ∀ visit ∈ log, ∀ halt, ¬ visit.Stops halt

/-- A final halt in an orderly log is the outcome, and nothing else comes after it. -/
theorem Orderly.stops {outcome : Except Halt α} {before after : List Visit} {visit : Visit}
    (horderly : Orderly outcome (before ++ visit :: after)) {halt : Halt}
    (hstops : visit.Stops halt) :
    outcome = .error halt ∧ ∀ later ∈ after, later.Stops halt := by
  induction before with
  | nil => exact horderly.1 halt hstops
  | cons first rest ih => exact ih horderly.2

/-- An orderly log notes no final halt but the outcome. -/
theorem Orderly.eq_of_stops {outcome : Except Halt α} {log : List Visit}
    (horderly : Orderly outcome log) {visit : Visit} (hvisit : visit ∈ log) {halt : Halt}
    (hstops : visit.Stops halt) : outcome = .error halt := by
  obtain ⟨before, after, rfl⟩ := List.append_of_mem hvisit
  exact (horderly.stops hstops).1

/-- The log of an evaluation that does not end with a final halt notes none. -/
theorem Orderly.calm {outcome : Except Halt α} {log : List Visit} (horderly : Orderly outcome log)
    (hgoes : ∀ halt, outcome = .error halt → ¬ halt.IsFinal) : Calm log := by
  intro visit hvisit halt hstops
  exact hgoes halt (horderly.eq_of_stops hvisit hstops) hstops.isFinal

/-- An orderly log after one without final halts. -/
theorem Orderly.of_calm_append {outcome : Except Halt α} {first second : List Visit}
    (hfirst : Calm first) (hsecond : Orderly outcome second) :
    Orderly outcome (first ++ second) := by
  induction first with
  | nil => exact hsecond
  | cons visit rest ih =>
    refine ⟨fun halt hstops ↦ absurd hstops (hfirst visit List.mem_cons_self halt), ?_⟩
    exact ih fun other hother ↦ hfirst other (List.mem_cons_of_mem _ hother)

/-- A log stays orderly when something is noted at its end, if that is the halt that was noted
before. -/
theorem Orderly.concat {outcome : Except Halt α} {log : List Visit} (horderly : Orderly outcome log)
    {last : Visit}
    (hlast : ∀ halt, last.Stops halt → outcome = .error halt)
    (hagain : ∀ visit ∈ log, ∀ halt, visit.Stops halt → last.Stops halt) :
    Orderly outcome (log ++ [last]) := by
  induction log with
  | nil => exact ⟨fun halt hstops ↦ ⟨hlast halt hstops, fun _ hmem ↦ nomatch hmem⟩, True.intro⟩
  | cons visit rest ih =>
    refine ⟨fun halt hstops ↦ ?_, ih horderly.2 fun other hother ↦ ?_⟩
    · obtain ⟨houtcome, hlater⟩ := horderly.1 halt hstops
      refine ⟨houtcome, fun later hmem ↦ ?_⟩
      rcases List.mem_append.mp hmem with hbefore | hend
      · exact hlater later hbefore
      · rw [List.mem_singleton.mp hend]
        exact hagain visit List.mem_cons_self halt hstops
    · exact hagain other (List.mem_cons_of_mem _ hother)

theorem orderly_halted (reason : Halt) :
    Orderly (.error reason : Except Halt α) [.halted reason] :=
  ⟨fun _ hstops ↦ ⟨congrArg Except.error hstops.1, fun _ hmem ↦ nomatch hmem⟩, True.intro⟩

/-- Whether a log is orderly depends on the halt alone with which an evaluation ends. -/
theorem Orderly.of_halt {reason : Halt} {log : List Visit}
    (horderly : Orderly (.error reason : Except Halt α) log) :
    Orderly (.error reason : Except Halt β) log := by
  induction log with
  | nil => exact True.intro
  | cons visit rest ih =>
    refine ⟨fun halt hstops ↦ ?_, ih horderly.2⟩
    obtain ⟨heq, hlater⟩ := horderly.1 halt hstops
    exact ⟨congrArg Except.error (Except.error.inj heq), hlater⟩

/-- The halt with which an evaluation ended may be noted once more. -/
theorem Orderly.concat_halted {reason : Halt} {log : List Visit}
    (horderly : Orderly (.error reason : Except Halt α) log) :
    Orderly (.error reason : Except Halt β) (log ++ [.halted reason]) := by
  refine horderly.of_halt.concat (fun halt hstops ↦ congrArg Except.error hstops.1) ?_
  intro visit hvisit halt hstops
  have heq := Except.error.inj (horderly.eq_of_stops hvisit hstops)
  exact ⟨heq, hstops.isFinal⟩

/-! ### Every operation keeps its log orderly -/

/-- The log of an evaluation is orderly in every state. -/
def Behaves (evaluation : Logged α) (property : α → Prop) : Prop :=
  ∀ state, Orderly (evaluation.plain state).1 (evaluation.log state) ∧
    ∀ value, (evaluation.plain state).1 = .ok value → property value

namespace Behaves

variable {property : α → Prop}

theorem of_silent {evaluation : Engine α}
    (hproperty : ∀ state value, (evaluation state).1 = .ok value → property value) :
    Behaves (Logged.noting evaluation fun _ ↦ []) property :=
  fun state ↦ ⟨True.intro, hproperty state⟩

theorem bind {first : Logged α} {next : α → Logged β} {goal : β → Prop}
    (hfirst : Behaves first property)
    (hnext : ∀ value, property value → Behaves (next value) goal) :
    Behaves (first >>= next) goal := by
  intro state
  obtain ⟨horderly, hvalue⟩ := hfirst state
  rcases hrun : first.plain state with ⟨reason | value, middle⟩
  · rw [hrun] at horderly
    obtain ⟨hplain, hlog⟩ := Logged.bind_of_error hrun next
    rw [hplain, hlog]
    exact ⟨horderly.of_halt, fun _ hok ↦ by cases hok⟩
  · rw [hrun] at horderly hvalue
    obtain ⟨hplain, hlog⟩ := Logged.bind_of_ok hrun next
    rw [hplain, hlog]
    obtain ⟨hrest, hgoal⟩ := hnext value (hvalue value rfl) middle
    exact ⟨hrest.of_calm_append (horderly.calm fun _ herror ↦ by cases herror), hgoal⟩

/-- Going back over ordinary failures: a fatal one is noted again and halts the evaluation. -/
theorem backtrack {evaluation : Logged α} (hbehaves : Behaves evaluation property) :
    Behaves (MatchMonad.backtrack evaluation) fun result ↦
      ∀ value, result = .ok value → property value := by
  intro state
  obtain ⟨horderly, hvalue⟩ := hbehaves state
  rw [MatchMonad.backtrack]
  match hrun : evaluation.plain state with
  | (.ok value, after) =>
    rw [hrun] at horderly hvalue
    obtain ⟨hplain, hlog⟩ := Logged.bind_of_ok (Logged.attempt_of_ok hrun) _
    rw [hplain, hlog]
    have hcalm := horderly.calm fun _ herror ↦ nomatch herror
    refine ⟨Orderly.of_calm_append hcalm True.intro, fun result hok other hother ↦ ?_⟩
    cases hok
    cases hother
    exact hvalue value rfl
  | (.error (.failure failure), after) =>
    rw [hrun] at horderly
    obtain ⟨hplain, hlog⟩ := Logged.bind_of_ok (Logged.attempt_of_failure hrun) _
    rw [hplain, hlog]
    by_cases hfatal : failure.fatal = true
    · simp only [hfatal, if_true]
      exact ⟨horderly.concat_halted, fun _ hok ↦ nomatch hok⟩
    · simp only [hfatal, Bool.false_eq_true, if_false]
      have hcalm := horderly.calm fun halt herror ↦ Except.error.inj herror ▸ hfatal
      refine ⟨Orderly.of_calm_append hcalm True.intro, fun result hok other hother ↦ ?_⟩
      cases hok
      cases hother
  | (.error (.error error), after) =>
    rw [hrun] at horderly
    obtain ⟨hplain, hlog⟩ := Logged.bind_of_error (Logged.attempt_of_error hrun) _
    rw [hplain, hlog]
    exact ⟨horderly.of_halt, fun _ hok ↦ nomatch hok⟩

/-- Making failures fatal: a failure that is fatal already stays what it is. -/
theorem commit {evaluation : Logged α} (hbehaves : Behaves evaluation property) :
    Behaves (MatchMonad.commit evaluation) property := by
  intro state
  obtain ⟨horderly, hvalue⟩ := hbehaves state
  rw [MatchMonad.commit]
  match hrun : evaluation.plain state with
  | (.ok value, after) =>
    rw [hrun] at horderly hvalue
    obtain ⟨hplain, hlog⟩ := Logged.bind_of_ok (Logged.attempt_of_ok hrun) _
    rw [hplain, hlog]
    have hcalm := horderly.calm fun _ herror ↦ nomatch herror
    exact ⟨Orderly.of_calm_append hcalm True.intro, fun _ hok ↦ hvalue _ hok⟩
  | (.error (.failure failure), after) =>
    rw [hrun] at horderly
    obtain ⟨hplain, hlog⟩ := Logged.bind_of_ok (Logged.attempt_of_failure hrun) _
    rw [hplain, hlog]
    refine ⟨?_, fun _ hok ↦ nomatch hok⟩
    by_cases hfatal : failure.fatal = true
    · have hsame : failure.asFatal = failure := by rw [Failure.asFatal, ← hfatal]
      simp only [hsame]
      exact horderly.concat_halted
    · have hcalm := horderly.calm fun halt herror ↦ Except.error.inj herror ▸ hfatal
      exact Orderly.of_calm_append hcalm (orderly_halted _)
  | (.error (.error error), after) =>
    rw [hrun] at horderly
    obtain ⟨hplain, hlog⟩ := Logged.bind_of_error (Logged.attempt_of_error hrun) _
    rw [hplain, hlog]
    exact ⟨horderly.of_halt, fun _ hok ↦ nomatch hok⟩

end Behaves

/-- The operations of which matchers are made keep logs orderly. -/
def behaving : Concord Logged Logged where
  Holds evaluation _ property := Behaves evaluation property
  Allows _ := True
  holds_mono hholds himp := fun state ↦
    ⟨(hholds state).1, fun value hok ↦ himp value ((hholds state).2 value hok)⟩
  holds_pure _ hvalue := Behaves.of_silent fun _ _ hok ↦ Except.ok.inj hok ▸ hvalue
  holds_bind hfirst hnext := hfirst.bind hnext
  holds_failure _ := fun _ ↦ ⟨orderly_halted _, fun _ hok ↦ nomatch hok⟩
  holds_error _ _ := fun _ ↦ ⟨orderly_halted _, fun _ hok ↦ nomatch hok⟩
  holds_backtrack hholds := hholds.backtrack
  holds_commit hholds := hholds.commit
  holds_record _ := Behaves.of_silent fun _ _ _ ↦ True.intro
  holds_shield hholds := fun state ↦ hholds state

namespace Grammar

variable {grammar : Grammar} {text : Text}

/-- What is noted around a node is orderly if the evaluation of the node is. -/
theorem behaves_loggedLayer {evaluation : Logged Match}
    (hbehaves : Behaves evaluation fun _ ↦ True) (id : NodeId) (offset : Nat) :
    Behaves (grammar.loggedLayer id offset evaluation) fun _ ↦ True := by
  intro state
  refine ⟨?_, fun _ _ ↦ True.intro⟩
  change Orderly (grammar.layer id offset evaluation.plain state).1
    (.begun id offset :: ((grammar.opening? id offset state).elim [] evaluation.log ++
      [.ended id offset (grammar.layer id offset evaluation.plain state).1]))
  refine ⟨fun _ hstops ↦ hstops.elim, ?_⟩
  cases hopening : grammar.opening? id offset state with
  | none => exact ⟨fun halt hstops ↦ ⟨hstops.1, fun _ hmem ↦ nomatch hmem⟩, True.intro⟩
  | some inner =>
    rw [outcome_layer hopening]
    refine (hbehaves inner).1.concat (fun halt hstops ↦ hstops.1) ?_
    intro visit hvisit halt hstops
    exact ⟨(hbehaves inner).1.eq_of_stops hvisit hstops, hstops.isFinal⟩

/-- Nothing comes after a final halt in the log of an evaluation. The induction is on the room. -/
theorem orderly_evaluateLogged (room : Nat) : ∀ (id : NodeId) (offset : Nat),
    Behaves (grammar.evaluateLogged text room id offset) fun _ ↦ True := by
  induction room with
  | zero => exact fun _ _ ↦ behaving.holds_error _ True.intro
  | succ room ih =>
    intro id offset
    have hmeets : behaving.Meets .trivial (grammar.evaluateLogged text room)
        (grammar.evaluateLogged text room) :=
      ⟨fun id offset _ ↦ ih id offset, fun _ _ ↦ True.intro⟩
    have hinvoke (invocation : Invocation) :
        behaving.Holds (invoke invocation) (invoke invocation) fun _ ↦ True :=
      Behaves.of_silent fun _ _ _ ↦ True.intro
    exact behaves_loggedLayer (hmeets.holds_matcher_of_invoke hinvoke
      (Node.demands_trivial grammar text offset (grammar.node id))) id offset

end Grammar

end Packrat
