import Packrat.Expr.Basic
import Packrat.Matching.Basic

/-!
# Matchers and how they combine

A matcher evaluates at an offset. Each way of combining expressions is an operation on matchers:
sequence, choice, option, repetition, lists, lookahead, and the operations on results, names, labels
and actions. They are written for any `MatchMonad`.

Loops end because every further round starts at a greater offset inside the text, or because the
number of rounds is bounded.
-/

set_option autoImplicit false
set_option relaxedAutoImplicit false

namespace Packrat

/-- The offset after the skipped characters at an offset. -/
def skipFrom (skip : Option CharSet) (text : Text) (offset : Nat) : Nat :=
  match skip with
  | none => offset
  | some set => offset + set.span (text.rest offset)

/-- An evaluation at an offset. -/
abbrev Matcher (m : Type → Type) := Nat → m Match

namespace Matcher

open MatchMonad

variable {m : Type → Type} [MatchMonad m]

/-! ### Leaves -/

def nothing : Matcher m := fun offset ↦ pure (.nothing offset)

/-- What the end of the text is called in failures. -/
def expectedEnd : String := "Expected end of text"

/-- Succeeds at the end of the text, after skipped characters. -/
@[specialize] def textEnd (text : Text) (skip : Option CharSet) : Matcher m := fun offset ↦
  let start := skipFrom skip text offset
  if start = text.size then pure (.nothing start) else fail (.ordinary start expectedEnd)

/-- Takes characters from the head of the rest of the text, after skipped ones. `scan` sees the
character before the place and the characters after it. -/
@[specialize] def scanned (text : Text) (skip : Option CharSet) (expected : String)
    (scan : Option Char → List Char → Scan (List Char × Token)) : Matcher m := fun offset ↦
  let start := skipFrom skip text offset
  match scan (text.before? start) (text.rest start) with
  | .found (taken, token) => pure ⟨start + byteLength taken, .ofToken token⟩
  | .missing => fail (.ordinary start expected)
  | .endless => halt (.error .endless)

/-- What a regular expression takes from the head of a text: everything up to the end of its first
match. -/
def scanRegex (regex : CompiledRegex) (_ : Option Char) (chars : List Char) :
    Scan (List Char × Token) :=
  .ofOption ((regex.find? chars).map fun found ↦
    let taken := found.skipped ++ found.matched
    (taken, Terminal.stringToken taken))

/-! ### Sequence and choice -/

/-- The remaining parts of a sequence, the first of which has the given number. -/
@[specialize] def sequenceFrom (commitAt : Option Nat) : Nat → List (Matcher m) → Match → m Match
  | _, [], done => pure done
  | index, part :: rest, done => do
    let next ←
      if commitAt.any (· ≤ index) then commit (part done.stop) else part done.stop
    sequenceFrom commitAt (index + 1) rest (done.append next)

/-- All parts in order; a failure in a part from the commit point on is fatal. -/
@[specialize] def sequence (parts : List (Matcher m)) (commitAt : Option Nat) : Matcher m :=
  fun offset ↦ sequenceFrom commitAt 0 parts (.nothing offset)

/-- The remaining alternatives of a choice; `best` is the furthest failure of the earlier ones. -/
@[specialize] def choiceFrom (offset : Nat) : List (Matcher m) → Option Failure → m Match
  | [], best =>
    halt (.failure (best.getD (.ordinary offset "Expected one of no alternatives")))
  | alternative :: rest, best => do
    match ← backtrack (alternative offset) with
    | .ok found => pure found
    | .error failure => choiceFrom offset rest (Failure.further best failure)

/-- The first alternative that matches; if none does, the furthest of their failures. -/
@[specialize] def choice (alternatives : List (Matcher m)) : Matcher m := fun offset ↦
  choiceFrom offset alternatives none

/-- The child, or a default at the same place. -/
@[specialize] def optional (child : Matcher m) (default : Option Token) : Matcher m :=
  fun offset ↦ do
    match ← backtrack (child offset) with
    | .ok found => pure found
    | .error _ => pure ⟨offset, (default.map Results.ofToken).getD .empty⟩

/-! ### Repetition and lists -/

/-- Whether a round that goes from one offset to another advances inside a text. -/
def Advances (text : Text) (start stop : Nat) : Prop := start < stop ∧ start < text.size

instance (text : Text) (start stop : Nat) : Decidable (Advances text start stop) :=
  inferInstanceAs (Decidable (_ ∧ _))

/-- The error of a round that does not advance. -/
def zeroWidth (what : String) (offset : Nat) : Halt :=
  .error (.grammar (.zeroWidthIteration what offset))

/-- The remaining rounds of a repetition, after `count` of them. A round that does not advance is an
error when the number of rounds is unbounded; otherwise it is the last one that is needed. -/
@[specialize] def repetitionFrom (text : Text) (child : Matcher m) (least : Nat)
    (most : Option Nat) (what : String) (count : Nat) (done : Match) : m Match :=
  match most with
  | none => do
    match ← backtrack (child done.stop) with
    | .error failure => if count < least then halt (.failure failure) else pure done
    | .ok next =>
      if Advances text done.stop next.stop then
        repetitionFrom text child least none what (count + 1) (done.append next)
      else halt (zeroWidth what done.stop)
  | some bound =>
    if count < bound then do
      match ← backtrack (child done.stop) with
      | .error failure => if count < least then halt (.failure failure) else pure done
      | .ok next =>
        if next.stop = done.stop ∧ least ≤ count + 1 then pure (done.append next)
        else repetitionFrom text child least (some bound) what (count + 1) (done.append next)
    else pure done
termination_by
  match most with
  | none => text.size - done.stop
  | some bound => bound - count
decreasing_by
  · next advances =>
    have := advances.1
    have := advances.2
    simp only [Match.append]
    omega
  · omega

@[specialize] def repetition (text : Text) (child : Matcher m) (least : Nat) (most : Option Nat)
    (what : String) : Matcher m := fun offset ↦
  repetitionFrom text child least most what 0 (.nothing offset)

/-- The end of a list after `count` items: a failure if they are too few. -/
@[specialize] def listEnd (form : ListForm) (what : String) (count : Nat) (done : Match)
    (stoppedBy : Option Failure) : m Match :=
  if count < form.least then
    halt (.failure (stoppedBy.getD (.ordinary done.stop ("Expected " ++ what))))
  else pure done

/-- The items so far, with the separator after them if it may stay there. -/
def withTrailing (form : ListForm) (done separator : Match) : Match :=
  if form.trailing then
    if form.keepSeparators then done.append separator else { done with stop := separator.stop }
  else done

/-- The items so far with a separator and one more item. -/
def withItem (form : ListForm) (done separator next : Match) : Match :=
  (if form.keepSeparators then done.append separator else done).append next

/-- The remaining items of a list, after `count` of them. When the list is full a separator is still
looked for, but no item after it. -/
@[specialize] def delimitedFrom (text : Text) (item separator : Matcher m) (form : ListForm)
    (what : String) (count : Nat) (done : Match) : m Match := do
  match ← backtrack (separator done.stop) with
  | .error failure => listEnd form what count done (some failure)
  | .ok between =>
    if form.most.all (count < ·) then
      match ← backtrack (item between.stop) with
      | .error failure =>
        listEnd form what count (withTrailing form done between) (some failure)
      | .ok next =>
        if Advances text done.stop next.stop then
          delimitedFrom text item separator form what (count + 1)
            (withItem form done between next)
        else if form.most.isNone then halt (zeroWidth what done.stop)
        else listEnd form what count done none
    else listEnd form what count (withTrailing form done between) none
termination_by text.size - done.stop
decreasing_by
  next advances =>
    have := advances.1
    have := advances.2
    simp only [withItem, Match.append]
    omega

@[specialize] def delimited (text : Text) (item separator : Matcher m) (form : ListForm)
    (what : String) : Matcher m := fun offset ↦ do
  if form.least = 0 then
    match ← backtrack (item offset) with
    | .ok first => delimitedFrom text item separator form what 1 first
    | .error _ => pure (.nothing offset)
  else
    let first ← item offset
    delimitedFrom text item separator form what 1 first

/-! ### Lookahead -/

/-- Succeeds without consuming anything when the child matches. -/
@[specialize] def followedBy (child : Matcher m) : Matcher m := fun offset ↦ do
  let _ ← child offset
  pure (.nothing offset)

/-- Succeeds without consuming anything when the child does not match. What the child records is not
kept. -/
@[specialize] def notFollowedBy (child : Matcher m) (unwanted : String) : Matcher m :=
  fun offset ↦ do
    match ← shield (backtrack (child offset)) with
    | .ok _ => fail (.ordinary offset unwanted)
    | .error _ => pure (.nothing offset)

/-! ### Results -/

/-- The child with its results changed. -/
@[specialize] def mapResults (f : Results → Results) (child : Matcher m) : Matcher m :=
  fun offset ↦ do
    let found ← child offset
    pure { found with results := f found.results }

@[specialize] def suppress (child : Matcher m) : Matcher m := mapResults (fun _ ↦ .empty) child

@[specialize] def group (child : Matcher m) : Matcher m :=
  mapResults (fun results ↦ .ofToken results.toGroup) child

/-- The child's results joined into one string, after skipped characters. -/
@[specialize] def combine (text : Text) (skip : Option CharSet) (joiner : String)
    (child : Matcher m) : Matcher m := fun offset ↦
  mapResults (fun results ↦ .ofToken (Terminal.stringToken (results.joined joiner.toList))) child
    (skipFrom skip text offset)

@[specialize] def named (name : String) (accumulate : Bool) (child : Matcher m) : Matcher m :=
  mapResults (fun results ↦ results.setName name accumulate) child

/-- Runs the remaining actions of a node, the first of which has the given number. -/
@[specialize] def runActions (node offset : Nat) (context : Context) :
    Nat → List Action → Results → m Results
  | _, [], results => pure results
  | index, action :: rest, results => do
    invoke ⟨node, index, offset, action, context, results⟩
    match action.apply context results with
    | (.keep, _) => runActions node offset context (index + 1) rest results
    | (.replace changed, _) => runActions node offset context (index + 1) rest changed
    | (.reject message, fatal) => fail ⟨context.start, message, fatal⟩

/-- The child with actions. They see the match from after the skipped characters at its start. -/
@[specialize] def acting (text : Text) (skip : Option CharSet) (node : Nat)
    (actions : List Action) (child : Matcher m) : Matcher m := fun offset ↦ do
  let found ← child offset
  let start := min (skipFrom skip text offset) found.stop
  let results ← runActions node offset ⟨text, start, found.stop⟩ 0 actions found.results
  pure ⟨found.stop, results⟩

/-- The child with a message for ordinary failures at its start. -/
@[specialize] def labeled (text : Text) (skip : Option CharSet) (expected : String)
    (child : Matcher m) : Matcher m := fun offset ↦ do
  match ← backtrack (child offset) with
  | .ok found => pure found
  | .error failure =>
    halt (.failure
      (if failure.offset ≤ skipFrom skip text offset then .ordinary failure.offset expected
      else failure))

end Matcher

end Packrat
