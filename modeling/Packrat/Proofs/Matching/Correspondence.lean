import Mathlib.Data.Nat.Init
import Packrat.Session

/-!
# Correspondences between evaluations

Matchers are written once for every `MatchMonad`, so whatever relates two kinds of evaluations and
is kept by the operations of a `MatchMonad` relates everything that is written with these
operations. A `Correspondence` is such a relation, together with what is known of the values.
Matchers never turn a fatal failure into a value, so a relation that is kept by going back over
ordinary failures and by commit points relates them already: this is a `Concord`.

The main statement is about nodes. A `Contract` says which evaluations of children may be asked for,
where their matches end, and which errors may occur. `Node.Demands` is what a node requires of a
contract so that its matches end where they should: one clause for every way of combining
expressions, and a loop invariant for the two that loop. A node whose demands are met evaluates
alike on both sides (`Concord.Meets.holds_matcher`). Every demand is met by the contract that asks
for nothing (`Node.demands_trivial`), so nodes evaluate alike wherever their children do.
-/

set_option autoImplicit false
set_option relaxedAutoImplicit false

namespace Packrat

/-- A relation between two kinds of evaluations that the operations keep of which matchers are
made. -/
structure Concord (m n : Type → Type) [MatchMonad m] [MatchMonad n] where
  /-- Two evaluations correspond, and the values that they give have a property. -/
  Holds : {α : Type} → m α → n α → (α → Prop) → Prop
  /-- The errors with which evaluations may halt. -/
  Allows : ParseError → Prop
  /-- A weaker property may be claimed. -/
  holds_mono {α : Type} {first : m α} {second : n α} {strong weak : α → Prop}
    (hholds : Holds first second strong) (himp : ∀ value, strong value → weak value) :
    Holds first second weak
  /-- Values. -/
  holds_pure {α : Type} {property : α → Prop} (value : α) (hvalue : property value) :
    Holds (pure value) (pure value) property
  /-- One evaluation after another. -/
  holds_bind {α β : Type} {first : m α} {second : n α} {next : α → m β} {next' : α → n β}
    {property : α → Prop} {goal : β → Prop} (hfirst : Holds first second property)
    (hnext : ∀ value, property value → Holds (next value) (next' value) goal) :
    Holds (first >>= next) (second >>= next') goal
  /-- Halts with a failure. -/
  holds_failure {α : Type} {property : α → Prop} (failure : Failure) :
    Holds (MatchMonad.halt (.failure failure)) (MatchMonad.halt (.failure failure)) property
  /-- Halts with an error. -/
  holds_error {α : Type} {property : α → Prop} (error : ParseError) (hallowed : Allows error) :
    Holds (MatchMonad.halt (.error error)) (MatchMonad.halt (.error error)) property
  /-- Ordinary failures turned into values. -/
  holds_backtrack {α : Type} {first : m α} {second : n α} {property : α → Prop}
    (hholds : Holds first second property) :
    Holds (MatchMonad.backtrack first) (MatchMonad.backtrack second)
      fun result ↦ ∀ value, result = .ok value → property value
  /-- Failures made fatal. -/
  holds_commit {α : Type} {first : m α} {second : n α} {property : α → Prop}
    (hholds : Holds first second property) :
    Holds (MatchMonad.commit first) (MatchMonad.commit second) property
  /-- Recorded failures. -/
  holds_record (failure : Failure) :
    Holds (MatchMonad.record failure) (MatchMonad.record failure) fun _ ↦ True
  /-- Evaluations whose recorded failures are dropped. -/
  holds_shield {α : Type} {first : m α} {second : n α} {property : α → Prop}
    (hholds : Holds first second property) :
    Holds (MatchMonad.shield first) (MatchMonad.shield second) property

/-- A relation between two kinds of evaluations that the operations of a `MatchMonad` keep. -/
structure Correspondence (m n : Type → Type) [MatchMonad m] [MatchMonad n] extends
    Concord m n where
  /-- Failures turned into values. -/
  holds_attempt {α : Type} {first : m α} {second : n α} {property : α → Prop}
    (hholds : Holds first second property) :
    Holds (MatchMonad.attempt first) (MatchMonad.attempt second)
      fun result ↦ ∀ value, result = .ok value → property value
  holds_backtrack := fun hholds ↦ holds_bind (holds_attempt hholds)
    fun result hresult ↦ match result, hresult with
    | Except.ok value, hvalue => holds_pure (Except.ok value) hvalue
    | Except.error failure, _ => by
      by_cases hfatal : failure.fatal
      · simp only [hfatal, if_true]
        exact holds_failure failure
      · simp only [hfatal, Bool.false_eq_true, if_false]
        exact holds_pure _ fun _ heq ↦ nomatch heq
  holds_commit := fun hholds ↦ holds_bind (holds_attempt hholds)
    fun result hresult ↦ match result, hresult with
    | Except.ok value, hvalue => holds_pure value (hvalue value rfl)
    | Except.error failure, _ => holds_failure failure.asFatal

/-! ### What nodes demand -/

/-- What is known about the evaluations that a node may ask for. -/
structure Contract where
  /-- The nodes and offsets that may be asked for. -/
  May : NodeId → Nat → Prop
  /-- The offsets at which a match of a node from an offset may end. -/
  Ends : NodeId → Nat → Nat → Prop
  /-- The errors that may occur. -/
  Allows : ParseError → Prop

namespace Contract

/-- A node may be asked for at an offset, and what is said of the end of its match holds wherever
the match may end. -/
def Runs (contract : Contract) (id : NodeId) (offset : Nat) (goal : Nat → Prop) : Prop :=
  contract.May id offset ∧ ∀ stop, contract.Ends id offset stop → goal stop

/-- Several nodes may be asked for one after another. -/
def RunsAll (contract : Contract) (goal : Nat → Prop) : List NodeId → Nat → Prop
  | [], offset => goal offset
  | id :: rest, offset => contract.Runs id offset fun stop ↦ contract.RunsAll goal rest stop

/-- A round of an unbounded loop advances, or may stop the parse with an error. -/
def Proceeds (contract : Contract) (text : Text) (most : Option Nat) (what : String)
    (start stop : Nat) : Prop :=
  most = none → ¬ Matcher.Advances text start stop →
    contract.Allows (.grammar (.zeroWidthIteration what start))

/-- An invariant of the rounds of a repetition, about their number and the offset reached. -/
structure RoundInvariant (contract : Contract) (text : Text) (child : NodeId) (least : Nat)
    (most : Option Nat) (what : String) (goal : Nat → Prop) (holds : Nat → Nat → Prop) : Prop where
  /-- A further round may be asked for and keeps the invariant. -/
  step : ∀ count offset, holds count offset → contract.Runs child offset fun stop ↦
    holds (count + 1) stop ∧ contract.Proceeds text most what offset stop
  /-- The rounds may end as soon as they are enough, or as many as there can be. -/
  leave : ∀ count offset, holds count offset → (least ≤ count ∨ ∃ bound ∈ most, bound ≤ count) →
    goal offset

/-- An invariant of the items of a list, about the offset reached. -/
structure ItemInvariant (contract : Contract) (text : Text) (item separator : NodeId)
    (form : ListForm) (what : String) (goal holds : Nat → Prop) : Prop where
  /-- A separator and a further item may be asked for and keep the invariant; a list may end after a
  trailing separator. -/
  step : ∀ offset, holds offset → contract.Runs separator offset fun middle ↦
    (form.trailing = true → goal middle) ∧ contract.Runs item middle fun stop ↦
      holds stop ∧ contract.Proceeds text form.most what offset stop
  /-- A list may end after an item. -/
  leave : ∀ offset, holds offset → goal offset

end Contract

/-- Characters that are scanned at an offset end where they should, and if the scan never comes to
an end, this may happen. -/
def Contract.Scans (contract : Contract) (text : Text) (skip : Option CharSet)
    (scan : Option Char → List Char → Scan (List Char × Token)) (offset : Nat) (goal : Nat → Prop) :
    Prop :=
  (∀ taken token, scan (text.before? (skipFrom skip text offset))
    (text.rest (skipFrom skip text offset)) = .found (taken, token) →
    goal (skipFrom skip text offset + byteLength taken)) ∧
  (scan (text.before? (skipFrom skip text offset)) (text.rest (skipFrom skip text offset)) =
    .endless → contract.Allows .endless)

/-- What a node requires of a contract so that its matches from an offset end where they should. -/
def Node.Demands (grammar : Grammar) (text : Text) (contract : Contract) (offset : Nat)
    (goal : Nat → Prop) : Node → Prop
  | .empty => goal offset
  | .textEnd skip => skipFrom skip text offset = text.size → goal (skipFrom skip text offset)
  | .terminal form skip _ => contract.Scans text skip form.scan offset goal
  | .regex program skip _ => contract.Scans text skip (Matcher.scanRegex program) offset goal
  | .sequence parts _ => contract.RunsAll goal parts offset
  | .choice alternatives => ∀ id ∈ alternatives, contract.Runs id offset goal
  | .optional child _ => goal offset ∧ contract.Runs child offset goal
  | .repetition child least most what => ∃ holds : Nat → Nat → Prop,
    holds 0 offset ∧ contract.RoundInvariant text child least most what goal holds
  | .delimited item separator form what => (form.least = 0 → goal offset) ∧
    ∃ holds : Nat → Prop, contract.Runs item offset holds ∧
      contract.ItemInvariant text item separator form what goal holds
  | .lookahead child _ _ => goal offset ∧ contract.May child offset
  | .combine child _ skip => contract.Runs child (skipFrom skip text offset) goal
  | .call rule => contract.Runs (grammar.ruleBody rule) offset goal
  | .suppress child => contract.Runs child offset goal
  | .group child => contract.Runs child offset goal
  | .named child _ _ => contract.Runs child offset goal
  | .action child _ _ => contract.Runs child offset goal
  | .labeled child _ _ => contract.Runs child offset goal

/-- The contract that asks for nothing but that errors are allowed. -/
def Contract.allowing (allows : ParseError → Prop) : Contract :=
  ⟨fun _ _ ↦ True, fun _ _ _ ↦ True, allows⟩

def Contract.trivial : Contract := .allowing fun _ ↦ True

/-- A contract that asks for nothing of nodes lets all of them run one after another. -/
theorem Contract.runsAll_allowing (allows : ParseError → Prop) (parts : List NodeId)
    (offset : Nat) :
    (Contract.allowing allows).RunsAll (fun _ ↦ True) parts offset := by
  induction parts generalizing offset with
  | nil => exact True.intro
  | cons part rest ih => exact ⟨True.intro, fun stop _ ↦ ih stop⟩

/-- A contract that allows the error of rounds that do not advance, and that scans do not end where
they need not, and asks for nothing else, meets the demands of every node. -/
theorem Node.demands_allowing {allows : ParseError → Prop}
    (hallows : ∀ what place, allows (.grammar (.zeroWidthIteration what place))) {node : Node}
    (hendless : ∀ form skip expected before chars, node = .terminal form skip expected →
      form.scan before chars = .endless → allows .endless) (grammar : Grammar)
        (text : Text) (offset : Nat) :
    node.Demands grammar text (.allowing allows) offset fun _ ↦ True := by
  cases node with
  | sequence parts commit => exact Contract.runsAll_allowing allows parts offset
  | repetition child least most what =>
    exact ⟨fun _ _ ↦ True, True.intro,
      ⟨fun _ _ _ ↦ ⟨True.intro, fun _ _ ↦ ⟨True.intro, fun _ _ ↦ hallows _ _⟩⟩,
        fun _ _ _ _ ↦ True.intro⟩⟩
  | delimited item separator form what =>
    exact ⟨fun _ ↦ True.intro, fun _ ↦ True, ⟨True.intro, fun _ _ ↦ True.intro⟩,
      ⟨fun _ _ ↦ ⟨True.intro, fun _ _ ↦ ⟨fun _ ↦ True.intro, True.intro,
        fun _ _ ↦ ⟨True.intro, fun _ _ ↦ hallows _ _⟩⟩⟩, fun _ _ ↦ True.intro⟩⟩
  | terminal form skip expected =>
    exact ⟨fun _ _ _ ↦ True.intro, hendless form skip expected _ _ rfl⟩
  | regex program skip expected =>
    exact ⟨fun _ _ _ ↦ True.intro, fun hscan ↦ absurd hscan (Scan.ofOption_ne_endless _)⟩
  | _ => simp [Node.Demands, Contract.Runs, Contract.allowing]

/-- A contract that asks for nothing meets the demands of every node. -/
theorem Node.demands_trivial (grammar : Grammar) (text : Text) (offset : Nat) (node : Node) :
    node.Demands grammar text .trivial offset fun _ ↦ True :=
  demands_allowing (fun _ _ ↦ True.intro) (fun _ _ _ _ _ _ _ ↦ True.intro) grammar text offset

namespace Concord

open MatchMonad

variable {m n : Type → Type} [MatchMonad m] [MatchMonad n] (C : Concord m n) {α : Type}

/-! ### Failures -/

/-- Failures that are recorded correspond. -/
theorem holds_fail {property : α → Prop} (failure : Failure) :
    C.Holds (fail failure) (fail failure) property :=
  C.holds_bind (C.holds_record failure) fun _ _ ↦ C.holds_failure failure

/-! ### Ways of combining -/

/-- The children of a node evaluate alike on both sides, as far as a contract lets them be asked
for. -/
structure Meets (contract : Contract) (call : NodeId → Matcher m) (call' : NodeId → Matcher n) :
    Prop where
  /-- Children that may be asked for evaluate alike and end where the contract says. -/
  holds_call : ∀ id offset, contract.May id offset →
    C.Holds (call id offset) (call' id offset) fun found ↦ contract.Ends id offset found.stop
  /-- The errors of the contract are errors of the correspondence. -/
  allows : ∀ error, contract.Allows error → C.Allows error

variable {C} {contract : Contract} {call : NodeId → Matcher m} {call' : NodeId → Matcher n}
  {goal : Nat → Prop}

/-- A child that is asked for evaluates alike and ends where it should. -/
theorem Meets.holds_runs (hmeets : C.Meets contract call call') {id offset : Nat}
    (hruns : contract.Runs id offset goal) :
    C.Holds (call id offset) (call' id offset) fun found ↦ goal found.stop :=
  C.holds_mono (hmeets.holds_call id offset hruns.1) fun found hends ↦ hruns.2 found.stop hends

theorem Meets.holds_scanned (hmeets : C.Meets contract call call') (text : Text)
    (skip : Option CharSet) (expected : String) {scan : Option Char → List Char →
      Scan (List Char × Token)} {offset : Nat}
    (hscans : contract.Scans text skip scan offset goal) :
    C.Holds (Matcher.scanned text skip expected scan offset)
      (Matcher.scanned text skip expected scan offset) fun found ↦ goal found.stop := by
  simp only [Matcher.scanned]
  split
  next taken token hscan => exact C.holds_pure _ (hscans.1 taken token hscan)
  next => exact C.holds_fail _
  next hscan => exact C.holds_error _ (hmeets.allows _ (hscans.2 hscan))

/-- The parts of a sequence evaluate alike one after another. -/
theorem Meets.holds_sequenceFrom (hmeets : C.Meets contract call call') (commitAt : Option Nat)
    (parts : List NodeId) : ∀ (index : Nat) (done : Match), contract.RunsAll goal parts done.stop →
      C.Holds (Matcher.sequenceFrom commitAt index (parts.map call) done)
        (Matcher.sequenceFrom commitAt index (parts.map call') done)
        fun found ↦ goal found.stop := by
  induction parts with
  | nil => exact fun _ done hgoal ↦ C.holds_pure done hgoal
  | cons part rest ih =>
    intro index done hruns
    have hpart := hmeets.holds_runs hruns
    simp only [List.map_cons, Matcher.sequenceFrom]
    split
    · exact C.holds_bind (C.holds_commit hpart) fun next hnext ↦ ih (index + 1) _ hnext
    · exact C.holds_bind hpart fun next hnext ↦ ih (index + 1) _ hnext

/-- The alternatives of a choice evaluate alike. -/
theorem Meets.holds_choiceFrom (hmeets : C.Meets contract call call') (offset : Nat)
    (alternatives : List NodeId) : ∀ best : Option Failure,
      (∀ id ∈ alternatives, contract.Runs id offset goal) →
        C.Holds (Matcher.choiceFrom offset (alternatives.map call) best)
          (Matcher.choiceFrom offset (alternatives.map call') best)
            fun found ↦ goal found.stop := by
  induction alternatives with
  | nil => exact fun _ _ ↦ C.holds_failure _
  | cons id rest ih =>
    intro best hruns
    simp only [List.map_cons, Matcher.choiceFrom]
    refine C.holds_bind (C.holds_backtrack (hmeets.holds_runs (hruns id List.mem_cons_self)))
      fun result hresult ↦ ?_
    cases result with
    | ok found => exact C.holds_pure found (hresult found rfl)
    | error failure => exact ih _ fun other hother ↦ hruns other (List.mem_cons_of_mem _ hother)

/-- The rounds of a repetition evaluate alike as long as an invariant holds. The induction is on
what bounds the rounds that remain: the text for an unbounded repetition, their number for a bounded
one. -/
theorem Meets.holds_repetitionFrom (hmeets : C.Meets contract call call') {text : Text}
    {child : NodeId} {least : Nat} {most : Option Nat} {what : String} {holds : Nat → Nat → Prop}
    (hinv : contract.RoundInvariant text child least most what goal holds) (measure : Nat) :
    ∀ (count : Nat) (done : Match),
      (match most with
        | none => text.size - done.stop
        | some bound => bound - count) = measure →
      holds count done.stop →
      C.Holds (Matcher.repetitionFrom text (call child) least most what count done)
        (Matcher.repetitionFrom text (call' child) least most what count done)
        fun found ↦ goal found.stop := by
  induction measure using Nat.strong_induction_on with
  | _ measure ih =>
    intro count done hmeasure hholds
    have hround := C.holds_backtrack (hmeets.holds_runs (hinv.step count done.stop hholds))
    have hended (failure : Failure) :
        C.Holds (if count < least then halt (.failure failure) else pure done)
          (if count < least then halt (.failure failure) else pure done)
          fun found ↦ goal found.stop := by
      split
      · exact C.holds_failure failure
      next henough =>
        exact C.holds_pure done
          (hinv.leave count done.stop hholds (Or.inl (Nat.le_of_not_lt henough)))
    unfold Matcher.repetitionFrom
    cases most with
    | none =>
      refine C.holds_bind hround fun result hresult ↦ ?_
      cases result with
      | error failure => exact hended failure
      | ok next =>
        obtain ⟨hnext, hproceeds⟩ := hresult next rfl
        by_cases hadvances : Matcher.Advances text done.stop next.stop
        · simp only [hadvances, if_true]
          obtain ⟨hlt, hinside⟩ := hadvances
          refine ih _ ?_ (count + 1) (done.append next) rfl hnext
          simp only [Match.append] at hmeasure ⊢
          omega
        · simp only [hadvances, if_false]
          exact C.holds_error _ (hmeets.allows _ (hproceeds rfl hadvances))
    | some bound =>
      by_cases hroom : count < bound
      · simp only [hroom, if_true]
        refine C.holds_bind hround fun result hresult ↦ ?_
        cases result with
        | error failure => exact hended failure
        | ok next =>
          obtain ⟨hnext, -⟩ := hresult next rfl
          by_cases hlast : next.stop = done.stop ∧ least ≤ count + 1
          · simp only [hlast, and_self, if_true]
            exact C.holds_pure (done.append next)
              (hinv.leave (count + 1) next.stop hnext (Or.inl hlast.2))
          · simp only [hlast, if_false]
            exact ih _ (by simp only at hmeasure ⊢; omega) (count + 1) (done.append next) rfl hnext
      · simp only [hroom, if_false]
        exact C.holds_pure done
          (hinv.leave count done.stop hholds (Or.inr ⟨bound, rfl, Nat.le_of_not_lt hroom⟩))

theorem holds_listEnd (form : ListForm) (what : String) (count : Nat) (done : Match)
    (stoppedBy : Option Failure) (hgoal : goal done.stop) :
    C.Holds (Matcher.listEnd form what count done stoppedBy)
      (Matcher.listEnd form what count done stoppedBy) fun found ↦ goal found.stop := by
  unfold Matcher.listEnd
  split
  · exact C.holds_failure _
  · exact C.holds_pure done hgoal

/-- A list that ends after a separator ends there, or before it. -/
theorem goal_withTrailing {form : ListForm} {done separator : Match} (hdone : goal done.stop)
    (htrailing : form.trailing = true → goal separator.stop) :
    goal (Matcher.withTrailing form done separator).stop := by
  unfold Matcher.withTrailing
  split
  next hallowed =>
    split
    · exact htrailing hallowed
    · exact htrailing hallowed
  next => exact hdone

/-- The items of a list evaluate alike as long as an invariant holds. -/
theorem Meets.holds_delimitedFrom (hmeets : C.Meets contract call call') {text : Text}
    {item separator : NodeId} {form : ListForm} {what : String} {holds : Nat → Prop}
    (hinv : contract.ItemInvariant text item separator form what goal holds) (measure : Nat) :
    ∀ (count : Nat) (done : Match), text.size - done.stop = measure → holds done.stop →
      C.Holds (Matcher.delimitedFrom text (call item) (call separator) form what count done)
        (Matcher.delimitedFrom text (call' item) (call' separator) form what count done)
        fun found ↦ goal found.stop := by
  induction measure using Nat.strong_induction_on with
  | _ measure ih =>
    intro count done hmeasure hholds
    have hdone := hinv.leave done.stop hholds
    unfold Matcher.delimitedFrom
    refine C.holds_bind (C.holds_backtrack (hmeets.holds_runs (hinv.step done.stop hholds)))
      fun result hresult ↦ ?_
    cases result with
    | error failure => exact holds_listEnd form what count done _ hdone
    | ok between =>
      obtain ⟨htrailing, hitem⟩ := hresult between rfl
      have hended := goal_withTrailing hdone htrailing
      by_cases hroom : form.most.all (count < ·) = true
      · simp only [hroom, if_true]
        refine C.holds_bind (C.holds_backtrack (hmeets.holds_runs hitem)) fun result hresult ↦ ?_
        cases result with
        | error failure => exact holds_listEnd form what count _ _ hended
        | ok next =>
          obtain ⟨hnext, hproceeds⟩ := hresult next rfl
          by_cases hadvances : Matcher.Advances text done.stop next.stop
          · simp only [hadvances, if_true]
            obtain ⟨hlt, hinside⟩ := hadvances
            have hstop : (Matcher.withItem form done between next).stop = next.stop := rfl
            exact ih _ (by rw [hstop]; omega) (count + 1) _ rfl hnext
          · simp only [hadvances, if_false]
            split
            next hunbounded =>
              exact C.holds_error _
                (hmeets.allows _ (hproceeds (Option.isNone_iff_eq_none.mp hunbounded) hadvances))
            next => exact holds_listEnd form what count done _ hdone
      · simp only [hroom]
        exact holds_listEnd form what count _ _ hended

/-! ### Nodes -/

/-- The child of an operation on results evaluates alike. -/
theorem holds_mapResults (f : Results → Results) {child : Matcher m} {child' : Matcher n}
    {offset : Nat} (hchild : C.Holds (child offset) (child' offset) fun found ↦ goal found.stop) :
    C.Holds (Matcher.mapResults f child offset) (Matcher.mapResults f child' offset)
      fun found ↦ goal found.stop :=
  C.holds_bind hchild fun _ hfound ↦ C.holds_pure _ hfound

/-- A node without actions whose demands are met evaluates alike. -/
theorem Meets.holds_matcher (hmeets : C.Meets contract call call') {grammar : Grammar} {text : Text}
    {id offset : Nat} {node : Node} (hplain : node.isAction = false)
    (hdemands : node.Demands grammar text contract offset goal) :
    C.Holds (node.matcher grammar text call id offset) (node.matcher grammar text call' id offset)
      fun found ↦ goal found.stop := by
  cases node with
  | empty => exact C.holds_pure _ hdemands
  | textEnd skip =>
    simp only [Node.matcher, Matcher.textEnd]
    split
    next hend => exact C.holds_pure _ (hdemands hend)
    next => exact C.holds_fail _
  | terminal form skip expected => exact hmeets.holds_scanned text skip expected hdemands
  | regex program skip expected => exact hmeets.holds_scanned text skip expected hdemands
  | sequence parts commit => exact hmeets.holds_sequenceFrom commit parts 0 _ hdemands
  | choice alternatives => exact hmeets.holds_choiceFrom offset alternatives none hdemands
  | optional child default =>
    refine C.holds_bind (C.holds_backtrack (hmeets.holds_runs hdemands.2)) fun result hresult ↦ ?_
    cases result with
    | ok found => exact C.holds_pure found (hresult found rfl)
    | error failure => exact C.holds_pure _ hdemands.1
  | repetition child least most what =>
    obtain ⟨holds, hstart, hinv⟩ := hdemands
    exact hmeets.holds_repetitionFrom hinv _ 0 (.nothing offset) rfl hstart
  | delimited item separator form what =>
    obtain ⟨hnone, holds, hfirst, hinv⟩ := hdemands
    have hitem := hmeets.holds_runs hfirst
    simp only [Node.matcher, Matcher.delimited]
    split
    next hzero =>
      refine C.holds_bind (C.holds_backtrack hitem) fun result hresult ↦ ?_
      cases result with
      | ok first => exact hmeets.holds_delimitedFrom hinv _ 1 first rfl (hresult first rfl)
      | error failure => exact C.holds_pure _ (hnone hzero)
    next =>
      exact C.holds_bind hitem fun first hholds ↦ hmeets.holds_delimitedFrom
        hinv _ 1 first rfl hholds
  | lookahead child negative unwanted =>
    have hchild := hmeets.holds_call child offset hdemands.2
    cases negative with
    | false => exact C.holds_bind hchild fun _ _ ↦ C.holds_pure _ hdemands.1
    | true =>
      refine C.holds_bind (C.holds_shield (C.holds_backtrack hchild)) fun result _ ↦ ?_
      cases result with
      | ok found => exact C.holds_fail _
      | error failure => exact C.holds_pure _ hdemands.1
  | suppress child =>
    simp only [Node.matcher, Matcher.suppress]
    exact holds_mapResults _ (hmeets.holds_runs hdemands)
  | group child =>
    simp only [Node.matcher, Matcher.group]
    exact holds_mapResults _ (hmeets.holds_runs hdemands)
  | combine child joiner skip =>
    simp only [Node.matcher, Matcher.combine]
    exact holds_mapResults _ (hmeets.holds_runs hdemands)
  | call rule => exact hmeets.holds_runs hdemands
  | named child name accumulate =>
    simp only [Node.matcher, Matcher.named]
    exact holds_mapResults _ (hmeets.holds_runs hdemands)
  | action child actions skip => cases hplain
  | labeled child skip expected =>
    refine C.holds_bind (C.holds_backtrack (hmeets.holds_runs hdemands)) fun result hresult ↦ ?_
    cases result with
    | ok found => exact C.holds_pure found (hresult found rfl)
    | error failure => exact C.holds_failure _

theorem holds_runActions
    (hinvoke : ∀ invocation, C.Holds (invoke invocation) (invoke invocation) fun _ ↦ True)
    (id offset : Nat) (context : Context) (actions : List Action) :
    ∀ (index : Nat) (results : Results),
      C.Holds (Matcher.runActions id offset context index actions results)
        (Matcher.runActions id offset context index actions results) fun _ ↦ True := by
  induction actions with
  | nil => exact fun _ results ↦ C.holds_pure results True.intro
  | cons action rest ih =>
    intro index results
    simp only [Matcher.runActions]
    refine C.holds_bind (hinvoke _) fun _ _ ↦ ?_
    split
    · exact ih (index + 1) results
    · exact ih (index + 1) _
    · exact C.holds_fail _

/-- A node whose demands are met evaluates alike, where runs of actions may be noted. -/
theorem Meets.holds_matcher_of_invoke (hmeets : C.Meets contract call call')
    (hinvoke : ∀ invocation, C.Holds (invoke invocation) (invoke invocation) fun _ ↦ True)
    {grammar : Grammar} {text : Text} {id offset : Nat} {node : Node}
    (hdemands : node.Demands grammar text contract offset goal) :
    C.Holds (node.matcher grammar text call id offset) (node.matcher grammar text call' id offset)
      fun found ↦ goal found.stop := by
  by_cases hplain : node.isAction = false
  · exact hmeets.holds_matcher hplain hdemands
  · cases node with
    | action child actions skip =>
      refine C.holds_bind (hmeets.holds_runs hdemands) fun found hfound ↦ ?_
      exact C.holds_bind (holds_runActions hinvoke id offset _ actions 0 _)
        fun results _ ↦ C.holds_pure _ hfound
    | _ => exact absurd rfl hplain

/-! ### Whole parses -/

theorem holds_parseFrom (text : Text) (skip : Option CharSet) (whole : Bool)
    {evaluate : Matcher m} {evaluate' : Matcher n} {property : Match → Prop}
    (hevaluate : C.Holds (evaluate 0) (evaluate' 0) property) :
    C.Holds (parseFrom text skip whole evaluate) (parseFrom text skip whole evaluate')
      fun _ ↦ True := by
  refine C.holds_bind hevaluate fun found _ ↦ ?_
  simp only
  split
  · split
    · exact C.holds_pure _ True.intro
    · exact C.holds_failure _
  · exact C.holds_pure _ True.intro

end Concord

/-- Scans evaluate alike when the entry does at every offset inside the text. -/
theorem Correspondence.holds_scanFrom {m n : Type → Type} [MatchMonad m] [MatchMonad n]
    (C : Correspondence m n) (text : Text) (skip : Option CharSet) {evaluate : Matcher m}
    {evaluate' : Matcher n} {property : Match → Prop}
    (hevaluate : ∀ offset, C.Holds (evaluate offset) (evaluate' offset) property) (measure : Nat) :
    ∀ (offset : Nat) (found : List ScanMatch), text.size + 1 - offset = measure →
      C.Holds (scanFrom text skip evaluate offset found)
        (scanFrom text skip evaluate' offset found) fun _ ↦ True := by
  induction measure using Nat.strong_induction_on with
  | _ measure ih =>
    intro offset found hmeasure
    have hnext := text.lt_next offset
    unfold scanFrom
    by_cases hinside : offset ≤ text.size
    · simp only [hinside, if_true]
      refine C.holds_bind (C.holds_attempt (hevaluate offset)) fun result _ ↦ ?_
      cases result with
      | ok one =>
        by_cases hconsumed : offset < one.stop
        · simp only [hconsumed, if_true]
          exact ih _ (by omega) _ _ rfl
        · simp only [hconsumed, if_false]
          exact ih _ (by omega) _ _ rfl
      | error failure => exact ih _ (by omega) _ _ rfl
    · simp only [hinside, if_false]
      exact C.holds_pure found True.intro

end Packrat
