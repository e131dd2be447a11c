import Packrat.Grammar.Draft
import Packrat.Matching.Engine

/-!
# Sessions

A session pairs a text with what has been remembered of it. Parsing again in one session gives the
same answer from what is remembered, and actions run once at each offset for as long as the session
keeps its text.

A parse that fails reports the failure that came out of the evaluation, unless a failure further
into the text was recorded on the way. A scan goes through the text and collects the matches that do
not overlap.
-/

set_option autoImplicit false
set_option relaxedAutoImplicit false

namespace Packrat

/-- A match found by a scan. -/
structure ScanMatch where
  /-- Where the match starts, after skipped characters. -/
  start : Nat
  /-- Where the match ends. -/
  stop : Nat
  /-- The results. -/
  results : Results

/-! ### Whole parses -/

section

open MatchMonad

variable {m : Type → Type} [MatchMonad m]

/-- Evaluates at the start of the text. With `whole`, only skipped characters may follow. -/
@[specialize] def parseFrom (text : Text) (skip : Option CharSet) (whole : Bool)
    (evaluate : Matcher m) : m Results := do
  let found ← evaluate 0
  if whole then
    let stop := skipFrom skip text found.stop
    if stop = text.size then pure found.results
    else halt (.failure (.ordinary stop Matcher.expectedEnd))
  else pure found.results

/-- The matches from an offset on. After a match that consumes something the scan goes on at its
end; after an empty one, and after a failure, at the next character. -/
@[specialize] def scanFrom (text : Text) (skip : Option CharSet) (evaluate : Matcher m)
    (offset : Nat) (found : List ScanMatch) : m (List ScanMatch) :=
  if offset ≤ text.size then do
    match ← attempt (evaluate offset) with
    | .ok one =>
      let start := min (skipFrom skip text offset) one.stop
      let found := found ++ [⟨start, one.stop, one.results⟩]
      if offset < one.stop then scanFrom text skip evaluate one.stop found
      else scanFrom text skip evaluate (text.next offset) found
    | .error _ => scanFrom text skip evaluate (text.next offset) found
  else pure found
termination_by text.size + 1 - offset
decreasing_by
  · omega
  · have := text.lt_next offset
    omega
  · have := text.lt_next offset
    omega

end

/-- The failure to report: the one that came out of the evaluation if it is fatal or reaches as far
as any other, and otherwise the furthest one recorded. -/
def reportedFailure (propagated : Failure) (furthest : Option Failure) : Failure :=
  match furthest with
  | none => propagated
  | some other =>
    if !propagated.fatal && propagated.offset < other.offset then { other with fatal := false }
    else propagated

def Halt.toError (text : Text) (furthest : Option Failure) : Halt → ParseError
  | .failure propagated =>
    let reported := reportedFailure propagated furthest
    .mismatch (.ofText text reported.offset reported.message reported.fatal)
  | .error reason => reason

/-- A text together with what is remembered of it. -/
structure Session where
  /-- The grammar. -/
  grammar : Grammar
  /-- The text. -/
  text : Text
  /-- What is remembered. -/
  memo : Memo := {}
  /-- What has been counted. -/
  counters : Counters := {}
  /-- The runs of actions, in order. -/
  invocations : Array Invocation := #[]

namespace Session

/-- The session of a text before anything is parsed. -/
def start (grammar : Grammar) (text : Text) : Session := { grammar := grammar, text := text }

/-- A session of another text, with nothing remembered or counted. -/
def reset (session : Session) (text : Text) : Session := start session.grammar text

def run {α : Type} (session : Session) (evaluation : Engine α) : Except ParseError α × Session :=
  let (outcome, state) := evaluation
    { memo := session.memo, counters := session.counters, invocations := session.invocations }
  (outcome.mapError (Halt.toError session.text state.furthest),
    { session with
      memo := state.memo, counters := state.counters, invocations := state.invocations })

def matcher (session : Session) (id : NodeId) : Matcher Engine :=
  session.grammar.evaluate session.text session.grammar.config.maxDepth id

def parseNode (session : Session) (id : NodeId) (whole : Bool) :
    Except ParseError Results × Session :=
  session.run (parseFrom session.text session.grammar.skip whole (session.matcher id))

def parse (session : Session) (whole : Bool) : Except ParseError Results × Session :=
  match session.grammar.entry with
  | none => (.error (.grammar .missingEntryPoint), session)
  | some entry => session.parseNode entry whole

def parseRule (session : Session) (name : String) (whole : Bool) :
    Except ParseError Results × Session :=
  match session.grammar.findRule? name with
  | none => (.error (.grammar (Compile.undefinedRule session.grammar.ruleNames name)), session)
  | some body => session.parseNode body whole

/-- All matches of the entry of the grammar, from left to right and without overlap. -/
def scan (session : Session) : Except ParseError (List ScanMatch) × Session :=
  match session.grammar.entry with
  | none => (.error (.grammar .missingEntryPoint), session)
  | some entry =>
    session.run (scanFrom session.text session.grammar.skip (session.matcher entry) 0 [])

end Session

namespace Grammar

def parse (grammar : Grammar) (text : Text) (whole : Bool) : Except ParseError Results :=
  ((Session.start grammar text).parse whole).1

def parseRule (grammar : Grammar) (name : String) (text : Text) (whole : Bool) :
    Except ParseError Results :=
  ((Session.start grammar text).parseRule name whole).1

def accepts (grammar : Grammar) (text : Text) : Bool := (grammar.parse text true).isOk

def scan (grammar : Grammar) (text : Text) : Except ParseError (List ScanMatch) :=
  (Session.start grammar text).scan.1

def search (grammar : Grammar) (text : Text) : Except ParseError (List Results) :=
  (grammar.scan text).map fun found ↦ found.map ScanMatch.results

end Grammar

end Packrat
