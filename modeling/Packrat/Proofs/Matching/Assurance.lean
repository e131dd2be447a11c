import Mathlib.Data.Nat.Init
import Packrat.Session

/-!
# What is assured of evaluations

An assurance is a way of saying what the values of an evaluation are like and where its failures
are, those with which it halts and those that it records (`Assurance`). The operations of a
`MatchMonad` keep it, and so do all ways of combining matchers: there is one rule for each of them,
and for the two that loop the rule asks for an invariant of the match so far
(`Assurance.holds_repetitionFrom`, `Assurance.holds_delimitedFrom`).
-/

set_option autoImplicit false
set_option relaxedAutoImplicit false

namespace Packrat

open MatchMonad

/-- A value has a property, or a failure is at an offset with another property. -/
def Attempted {α : Type} (property : α → Prop) (place : Nat → Prop) : Except Failure α → Prop
  | .ok value => property value
  | .error failure => place failure.offset

/-- A way of saying what evaluations give and where they fail, which the operations keep. -/
structure Assurance (m : Type → Type) [MatchMonad m] where
  /-- The values that an evaluation gives have a property, and the offsets of its failures, returned
  and recorded, another. -/
  Holds : {α : Type} → m α → (α → Prop) → (Nat → Prop) → Prop
  /-- The runs of actions that may be noted. -/
  Admits : Invocation → Prop
  /-- Weaker properties may be claimed. -/
  holds_mono {α : Type} {evaluation : m α} {strong weak : α → Prop} {near far : Nat → Prop}
    (hholds : Holds evaluation strong near) (himp : ∀ value, strong value → weak value)
    (hplace : ∀ offset, near offset → far offset) : Holds evaluation weak far
  /-- Values. -/
  holds_pure {α : Type} {property : α → Prop} {place : Nat → Prop} (value : α)
    (hvalue : property value) : Holds (pure value) property place
  /-- One evaluation after another. -/
  holds_bind {α β : Type} {first : m α} {next : α → m β} {property : α → Prop} {goal : β → Prop}
    {place : Nat → Prop} (hfirst : Holds first property place)
    (hnext : ∀ value, property value → Holds (next value) goal place) :
    Holds (first >>= next) goal place
  /-- Halts with a failure. -/
  holds_failure {α : Type} {property : α → Prop} {place : Nat → Prop} (failure : Failure)
    (hplace : place failure.offset) : Holds (halt (.failure failure) : m α) property place
  /-- Halts with an error. -/
  holds_error {α : Type} {property : α → Prop} {place : Nat → Prop} (error : ParseError) :
    Holds (halt (.error error) : m α) property place
  /-- Failures turned into values. -/
  holds_attempt {α : Type} {evaluation : m α} {property : α → Prop} {place : Nat → Prop}
    (hholds : Holds evaluation property place) :
    Holds (attempt evaluation) (Attempted property place) place
  /-- Recorded failures. -/
  holds_record {place : Nat → Prop} (failure : Failure) (hplace : place failure.offset) :
    Holds (record failure) (fun _ ↦ True) place
  /-- Evaluations whose recorded failures are dropped. -/
  holds_shield {α : Type} {evaluation : m α} {property : α → Prop} {place : Nat → Prop}
    (hholds : Holds evaluation property place) : Holds (shield evaluation) property place
  /-- Runs of actions. -/
  holds_invoke {place : Nat → Prop} (invocation : Invocation) (hadmits : Admits invocation) :
    Holds (invoke invocation) (fun _ ↦ True) place

namespace Assurance

variable {m : Type → Type} [MatchMonad m] (A : Assurance m) {α : Type} {property : α → Prop}
  {goal : Match → Prop} {place : Nat → Prop} {offset : Nat}

/-! ### Failures -/

/-- A failure that is recorded and returned. -/
theorem holds_fail (failure : Failure) (hplace : place failure.offset) :
    A.Holds (fail failure : m α) property place :=
  A.holds_bind (A.holds_record failure hplace) fun _ _ ↦ A.holds_failure failure hplace

theorem holds_backtrack {evaluation : m α} (hholds : A.Holds evaluation property place) :
    A.Holds (backtrack evaluation) (Attempted property place) place := by
  refine A.holds_bind (A.holds_attempt hholds) fun result hresult ↦ ?_
  cases result with
  | ok value => exact A.holds_pure _ hresult
  | error failure =>
    by_cases hfatal : failure.fatal = true
    · simp only [hfatal, if_true]
      exact A.holds_failure failure hresult
    · simp only [hfatal, Bool.false_eq_true, if_false]
      exact A.holds_pure _ hresult

theorem holds_commit {evaluation : m α} (hholds : A.Holds evaluation property place) :
    A.Holds (commit evaluation) property place := by
  refine A.holds_bind (A.holds_attempt hholds) fun result hresult ↦ ?_
  cases result with
  | ok value => exact A.holds_pure value hresult
  | error failure => exact A.holds_failure failure.asFatal hresult

/-! ### Leaves -/

theorem holds_textEnd {text : Text} {skip : Option CharSet}
    (hend : skipFrom skip text offset = text.size → goal (.nothing (skipFrom skip text offset)))
    (hplace : place (skipFrom skip text offset)) :
    A.Holds (Matcher.textEnd text skip offset : m Match) goal place := by
  simp only [Matcher.textEnd]
  split
  next hsize => exact A.holds_pure _ (hend hsize)
  next => exact A.holds_fail _ hplace

theorem holds_scanned {text : Text} {skip : Option CharSet} (expected : String)
    {scan : Option Char → List Char → Scan (List Char × Token)}
    (htaken : ∀ taken token, scan (text.before? (skipFrom skip text offset))
      (text.rest (skipFrom skip text offset)) = .found (taken, token) →
        goal ⟨skipFrom skip text offset + byteLength taken, .ofToken token⟩)
    (hplace : place (skipFrom skip text offset)) :
    A.Holds (Matcher.scanned text skip expected scan offset : m Match) goal place := by
  simp only [Matcher.scanned]
  split
  next taken token hscan => exact A.holds_pure _ (htaken taken token hscan)
  next => exact A.holds_fail _ hplace
  next => exact A.holds_error _

/-! ### Sequence and choice -/

/-- A sequence keeps what every part of it keeps. -/
theorem holds_sequenceFrom {commitAt : Option Nat} {parts : List (Matcher m)}
    (hparts : ∀ part ∈ parts, ∀ done, goal done →
      A.Holds (part done.stop) (fun next ↦ goal (done.append next)) place) :
    ∀ (index : Nat) (done : Match), goal done →
      A.Holds (Matcher.sequenceFrom commitAt index parts done) goal place := by
  induction parts with
  | nil => exact fun _ done hdone ↦ A.holds_pure done hdone
  | cons part rest ih =>
    intro index done hdone
    have hpart := hparts part List.mem_cons_self done hdone
    have hrest := ih fun other hother ↦ hparts other (List.mem_cons_of_mem _ hother)
    simp only [Matcher.sequenceFrom]
    split
    · exact A.holds_bind (A.holds_commit hpart) fun next hnext ↦ hrest (index + 1) _ hnext
    · exact A.holds_bind hpart fun next hnext ↦ hrest (index + 1) _ hnext

/-- A choice gives what one of its alternatives gives. -/
theorem holds_choiceFrom (hplace : place offset) {alternatives : List (Matcher m)}
    (halternatives : ∀ alternative ∈ alternatives, A.Holds (alternative offset) goal place) :
    ∀ best : Option Failure, (∀ failure ∈ best, place failure.offset) →
      A.Holds (Matcher.choiceFrom offset alternatives best) goal place := by
  induction alternatives with
  | nil =>
    intro best hbest
    refine A.holds_failure _ ?_
    cases best with
    | none => exact hplace
    | some failure => exact hbest failure rfl
  | cons alternative rest ih =>
    intro best hbest
    simp only [Matcher.choiceFrom]
    refine A.holds_bind (A.holds_backtrack (halternatives alternative List.mem_cons_self))
      fun result hresult ↦ ?_
    cases result with
    | ok found => exact A.holds_pure found hresult
    | error failure =>
      refine ih (fun other hother ↦ halternatives other (List.mem_cons_of_mem _ hother)) _ ?_
      intro kept hkept
      cases best with
      | none =>
        obtain rfl := Option.some.inj hkept
        exact hresult
      | some earlier =>
        simp only [Failure.further] at hkept
        split at hkept
        · obtain rfl := Option.some.inj hkept
          exact hresult
        · obtain rfl := Option.some.inj hkept
          exact hbest earlier rfl

/-- An option gives what its child gives, or the default. -/
theorem holds_optional {child : Matcher m} {default : Option Token}
    (hdefault : goal ⟨offset, (default.map Results.ofToken).getD .empty⟩)
    (hchild : A.Holds (child offset) goal place) :
    A.Holds (Matcher.optional child default offset) goal place := by
  refine A.holds_bind (A.holds_backtrack hchild) fun result hresult ↦ ?_
  cases result with
  | ok found => exact A.holds_pure found hresult
  | error failure => exact A.holds_pure _ hdefault

/-! ### Repetition and lists -/

/-- The rounds of a repetition keep what each of them keeps. The induction is on what bounds the
rounds that remain: the text for an unbounded repetition, their number for a bounded one. -/
theorem holds_repetitionFrom {text : Text} {child : Matcher m} {least : Nat} {most : Option Nat}
    {what : String}
    (hround : ∀ done, goal done →
      A.Holds (child done.stop) (fun next ↦ goal (done.append next)) place) (measure : Nat) :
    ∀ (count : Nat) (done : Match),
      (match most with
        | none => text.size - done.stop
        | some bound => bound - count) = measure →
      goal done → A.Holds (Matcher.repetitionFrom text child least most what count done)
        goal place := by
  induction measure using Nat.strong_induction_on with
  | _ measure ih =>
    intro count done hmeasure hdone
    have hnext := A.holds_backtrack (hround done hdone)
    have hended (failure : Failure) (hplace : place failure.offset) :
        A.Holds (if count < least then halt (.failure failure) else pure done : m Match)
          goal place := by
      split
      · exact A.holds_failure failure hplace
      · exact A.holds_pure done hdone
    unfold Matcher.repetitionFrom
    cases most with
    | none =>
      refine A.holds_bind hnext fun result hresult ↦ ?_
      cases result with
      | error failure => exact hended failure hresult
      | ok next =>
        by_cases hadvances : Matcher.Advances text done.stop next.stop
        · simp only [hadvances, if_true]
          obtain ⟨hlt, hinside⟩ := hadvances
          refine ih _ ?_ (count + 1) (done.append next) rfl hresult
          simp only [Match.append] at hmeasure ⊢
          omega
        · simp only [hadvances, if_false]
          exact A.holds_error _
    | some bound =>
      by_cases hroom : count < bound
      · simp only [hroom, if_true]
        refine A.holds_bind hnext fun result hresult ↦ ?_
        cases result with
        | error failure => exact hended failure hresult
        | ok next =>
          by_cases hlast : next.stop = done.stop ∧ least ≤ count + 1
          · simp only [hlast, and_self, if_true]
            exact A.holds_pure _ hresult
          · simp only [hlast, if_false]
            refine ih _ ?_ (count + 1) (done.append next) rfl hresult
            simp only at hmeasure ⊢
            omega
      · simp only [hroom, if_false]
        exact A.holds_pure done hdone

theorem holds_listEnd {form : ListForm} {what : String} {count : Nat} {done : Match}
    {stoppedBy : Option Failure} (hdone : goal done) (hplace : place done.stop)
    (hstopped : ∀ failure ∈ stoppedBy, place failure.offset) :
    A.Holds (Matcher.listEnd form what count done stoppedBy : m Match) goal place := by
  unfold Matcher.listEnd
  split
  · refine A.holds_failure _ ?_
    cases stoppedBy with
    | none => exact hplace
    | some failure => exact hstopped failure rfl
  · exact A.holds_pure done hdone

/-- The items of a list keep what each separator with the item after it keeps. After a separator
without an item the list may end. -/
theorem holds_delimitedFrom {text : Text} {item separator : Matcher m} {form : ListForm}
    {what : String} (hgoal : ∀ done, goal done → place done.stop)
    (hround : ∀ done, goal done →
      A.Holds (separator done.stop) (fun between ↦ goal (Matcher.withTrailing form done between) ∧
        A.Holds (item between.stop)
          (fun next ↦ goal (Matcher.withItem form done between next)) place) place)
    (measure : Nat) :
    ∀ (count : Nat) (done : Match), text.size - done.stop = measure → goal done →
      A.Holds (Matcher.delimitedFrom text item separator form what count done) goal place := by
  induction measure using Nat.strong_induction_on with
  | _ measure ih =>
    intro count done hmeasure hdone
    have hended (last : Match) (hlast : goal last) (stoppedBy : Option Failure)
        (hstopped : ∀ failure ∈ stoppedBy, place failure.offset) :
        A.Holds (Matcher.listEnd form what count last stoppedBy : m Match) goal place :=
      A.holds_listEnd hlast (hgoal last hlast) hstopped
    unfold Matcher.delimitedFrom
    refine A.holds_bind (A.holds_backtrack (hround done hdone)) fun result hresult ↦ ?_
    cases result with
    | error failure =>
      refine hended done hdone _ fun kept hkept ↦ ?_
      obtain rfl := Option.some.inj hkept
      exact hresult
    | ok between =>
      obtain ⟨htrailing, hitem⟩ := hresult
      by_cases hroom : form.most.all (count < ·) = true
      · simp only [hroom, if_true]
        refine A.holds_bind (A.holds_backtrack hitem) fun result hresult ↦ ?_
        cases result with
        | error failure =>
          refine hended _ htrailing _ fun kept hkept ↦ ?_
          obtain rfl := Option.some.inj hkept
          exact hresult
        | ok next =>
          by_cases hadvances : Matcher.Advances text done.stop next.stop
          · simp only [hadvances, if_true]
            obtain ⟨hlt, hinside⟩ := hadvances
            have hstop : (Matcher.withItem form done between next).stop = next.stop := rfl
            exact ih _ (by rw [hstop]; omega) (count + 1) _ rfl hresult
          · simp only [hadvances, if_false]
            split
            · exact A.holds_error _
            · exact hended done hdone none fun failure hnone ↦
                absurd hnone (Option.not_mem_none failure)
      · simp only [hroom]
        exact hended _ htrailing none fun failure hnone ↦ absurd hnone (Option.not_mem_none failure)

/-! ### Lookahead and results -/

theorem holds_notFollowedBy {child : Matcher m} {unwanted : String} {other : Match → Prop}
    (hnothing : goal (.nothing offset)) (hplace : place offset)
    (hchild : A.Holds (child offset) other place) :
    A.Holds (Matcher.notFollowedBy child unwanted offset) goal place := by
  refine A.holds_bind (A.holds_shield (A.holds_backtrack hchild)) fun result _ ↦ ?_
  cases result with
  | ok found => exact A.holds_fail _ hplace
  | error failure => exact A.holds_pure _ hnothing

/-- An operation on results changes what the child gives. -/
theorem holds_mapResults {f : Results → Results} {child : Matcher m}
    (hchild : A.Holds (child offset) (fun found ↦ goal { found with results := f found.results })
      place) : A.Holds (Matcher.mapResults f child offset) goal place :=
  A.holds_bind hchild fun _ hfound ↦ A.holds_pure _ hfound

/-- Actions keep a property of results if each of them does where it replaces them. -/
theorem holds_runActions {node : Nat} {context : Context} {keeps : Results → Prop}
    (hadmits : ∀ index action results, A.Admits ⟨node, index, offset, action, context, results⟩)
    (hplace : place context.start) {actions : List Action}
    (hactions : ∀ action ∈ actions, ∀ results changed fatal, keeps results →
      action.apply context results = (.replace changed, fatal) → keeps changed) :
    ∀ (index : Nat) (results : Results), keeps results →
      A.Holds (Matcher.runActions node offset context index actions results : m Results) keeps
        place := by
  induction actions with
  | nil => exact fun _ results hresults ↦ A.holds_pure results hresults
  | cons action rest ih =>
    intro index results hresults
    have hrest := ih fun other hother ↦ hactions other (List.mem_cons_of_mem _ hother)
    simp only [Matcher.runActions]
    refine A.holds_bind (A.holds_invoke _ (hadmits index action results)) fun _ _ ↦ ?_
    split
    next => exact hrest (index + 1) results hresults
    next changed fatal happly =>
      exact hrest (index + 1) changed
        (hactions action List.mem_cons_self results changed fatal hresults happly)
    next => exact A.holds_fail _ hplace

/-- A label leaves matches as they are and failures where they are. -/
theorem holds_labeled {text : Text} {skip : Option CharSet} {expected : String} {child : Matcher m}
    (hchild : A.Holds (child offset) goal place) :
    A.Holds (Matcher.labeled text skip expected child offset) goal place := by
  refine A.holds_bind (A.holds_backtrack hchild) fun result hresult ↦ ?_
  cases result with
  | ok found => exact A.holds_pure found hresult
  | error failure =>
    refine A.holds_failure _ ?_
    split <;> exact hresult

/-! ### Whole parses -/

/-- A parse gives the results of the evaluation at the start of the text. -/
theorem holds_parseFrom {text : Text} {skip : Option CharSet} {whole : Bool} {evaluate : Matcher m}
    {keeps : Results → Prop}
    (hevaluate : A.Holds (evaluate 0)
      (fun found ↦ keeps found.results ∧ place (skipFrom skip text found.stop)) place) :
    A.Holds (parseFrom text skip whole evaluate) keeps place := by
  refine A.holds_bind hevaluate fun found hfound ↦ ?_
  simp only
  split
  · split
    · exact A.holds_pure _ hfound.1
    · exact A.holds_failure _ hfound.2
  · exact A.holds_pure _ hfound.1

/-- A scan gives the matches of the evaluations at the offsets to which it goes. The offsets to
which it may go have a property inside the text, which the end of a match and the next character
keep. -/
theorem holds_scanFrom {text : Text} {skip : Option CharSet} {evaluate : Matcher m}
    {starts : Nat → Prop} {ends : Nat → Match → Prop} {keeps : ScanMatch → Prop}
    (hevaluate : ∀ start, starts start → A.Holds (evaluate start) (ends start) place)
    (hstop : ∀ start found, starts start → ends start found → starts found.stop)
    (hnext : ∀ start, starts start → text.next start ≤ text.size → starts (text.next start))
    (hkeeps : ∀ start found, starts start → ends start found →
      keeps ⟨min (skipFrom skip text start) found.stop, found.stop, found.results⟩)
        (measure : Nat) :
    ∀ (start : Nat) (found : List ScanMatch), text.size + 1 - start = measure →
      (start ≤ text.size → starts start) → (∀ one ∈ found, keeps one) →
      A.Holds (scanFrom text skip evaluate start found) (fun found ↦ ∀ one ∈ found, keeps one)
        place := by
  induction measure using Nat.strong_induction_on with
  | _ measure ih =>
    intro start found hmeasure hstarts hfound
    have hbeyond := text.lt_next start
    unfold scanFrom
    by_cases hinside : start ≤ text.size
    · have hstart := hstarts hinside
      simp only [hinside, if_true]
      refine A.holds_bind (A.holds_attempt (hevaluate start hstart)) fun result hresult ↦ ?_
      cases result with
      | ok one =>
        have hmore (other : ScanMatch) (hother : other ∈ found ++
            [⟨min (skipFrom skip text start) one.stop, one.stop, one.results⟩]) : keeps other := by
          rcases List.mem_append.mp hother with hbefore | hlast
          · exact hfound other hbefore
          · rw [List.mem_singleton.mp hlast]
            exact hkeeps start one hstart hresult
        by_cases hconsumed : start < one.stop
        · simp only [hconsumed, if_true]
          exact ih _ (by omega) _ _ rfl (fun _ ↦ hstop start one hstart hresult) hmore
        · simp only [hconsumed, if_false]
          exact ih _ (by omega) _ _ rfl (hnext start hstart) hmore
      | error failure => exact ih _ (by omega) _ _ rfl (hnext start hstart) hfound
    · simp only [hinside, if_false]
      exact A.holds_pure found hfound

end Assurance

end Packrat
