import Packrat.Proofs.Session.Promises

/-!
# Offsets are in range

An offset inside a character stands for no place in a text. No evaluation comes upon one
(`Grammar.inRange_after`): evaluations begin at boundaries, what matches ends at a boundary ahead,
and so are all failures, those that are returned, those that are recorded on the way and those that
are remembered. What the scanners cut off at a boundary ends at a boundary too, also where they
count bytes: the bytes to which a quoted string runs ahead are first bytes of characters
(`Text.cuts`).
-/

set_option autoImplicit false
set_option relaxedAutoImplicit false

namespace Packrat

variable {grammar : Grammar} {text : Text}

/-! ### Scanners -/

/-- What is cut off a text at an offset ends at a boundary ahead. -/
structure Text.Cuts (text : Text) (start : Nat) : Prop where
  /-- Characters that are skipped. -/
  skipped : ∀ skip, text.Ahead start (skipFrom skip text start)
  /-- Runs of characters, such as the digits of a number or the characters of a word. -/
  run : ∀ taken, taken <+: text.rest start → text.Ahead start (start + byteLength taken)
  /-- Strings, in their own case or in any. -/
  string : ∀ caseless expected matched, stringPrefix caseless expected (text.rest start) =
    some matched → text.Ahead start (start + byteLength matched)
  /-- What a quoted string runs ahead over. -/
  stop : ∀ quoted distance, Quoted.firstStop (Quoted.stops quoted) (text.rest start) =
    some distance → text.Ahead start (start + distance)
  /-- Terminals. -/
  terminal : ∀ (form : Terminal) before taken token,
    form.scan before (text.rest start) = .found (taken, token) →
      text.Ahead start (start + byteLength taken)
  /-- Regular expressions. -/
  regex : ∀ program before taken token,
    Matcher.scanRegex program before (text.rest start) = .found (taken, token) →
      text.Ahead start (start + byteLength taken)
  /-- The next character, unless the text ends. -/
  next : text.next start ≤ text.size → text.Ahead start (text.next start)

/-- What is cut off at a boundary ends at a boundary ahead. -/
theorem Text.cuts {start : Nat} (hstart : text.IsBoundary start) : text.Cuts start where
  skipped skip := hstart.ahead_skipFrom skip
  run _ hinitial := hstart.ahead_add hinitial
  string _ _ _ hmatched := hstart.ahead_add (stringPrefix_eq_some hmatched).1
  stop quoted distance hstop := by
    obtain ⟨first, second, hrest, -, rfl⟩ := Quoted.firstStop_eq_some hstop
    exact hstart.ahead_add ⟨second, hrest.symm⟩
  terminal _ _ _ _ hscan := hstart.ahead_add (Terminal.scan_eq_found hscan).1
  regex _ _ _ _ hscan := hstart.ahead_add (CompiledRegex.scanRegex_eq_found hscan).1
  next hinside := (hstart.next hinside).ahead (Nat.le_of_lt (text.lt_next start))

/-! ### Requests -/

/-- What is remembered at an offset is in range. -/
structure Remembered.InRange (text : Text) (offset : Nat) (found : Remembered) : Prop where
  /-- It is remembered at a boundary. -/
  boundary : text.IsBoundary offset
  /-- A match ends ahead. -/
  matched : ∀ value, found.outcome = .ok value → text.Ahead offset value.stop
  /-- A failure is ahead. -/
  failed : ∀ failure, found.outcome = .error failure → text.Ahead offset failure.offset
  /-- So is the furthest failure on the way. -/
  furthest : ∀ failure ∈ found.furthest, text.Ahead offset failure.offset

/-- All offsets are in range that a session comes upon when it is asked something. -/
structure Session.InRange (session : Session) (request : Request) : Prop where
  /-- Evaluations begin at boundaries. -/
  begun : ∀ id offset, .begun id offset ∈ session.visits request → session.text.IsBoundary offset
  /-- Matches end ahead of where the evaluation began. -/
  matched : ∀ id offset found, .ended id offset (.ok found) ∈ session.visits request →
    session.text.Ahead offset found.stop
  /-- Failures that are returned are ahead of where the evaluation began. -/
  failed : ∀ id offset failure,
    .ended id offset (.error (.failure failure)) ∈ session.visits request →
      session.text.Ahead offset failure.offset
  /-- The failure that ends the request is at a boundary. -/
  ending : ∀ failure,
    (request.evaluation session.grammar session.text session.matcher session.state).1 =
      .error (.failure failure) → session.text.IsBoundary failure.offset
  /-- So is the furthest failure recorded for it. -/
  furthest : ∀ failure ∈
    (request.evaluation session.grammar session.text session.matcher session.state).2.furthest,
      session.text.IsBoundary failure.offset
  /-- The matches of a scan are in range. -/
  found : ∀ matched, (session.answer request).1 = .ok (.found matched) →
    ∀ one ∈ matched, one.InRange session.text
  /-- What is remembered is in range. -/
  remembered : ∀ id offset found, session.memo.find? id offset = some found →
    found.InRange session.text offset
  /-- So is what actions saw. -/
  invocations : ∀ run ∈ session.invocations.toList, run.InRange session.text

namespace Session

variable {session : Session}

/-- All offsets are in range that a session comes upon, if those are that it remembers. -/
theorem inRange_of_fulfils (hstate : session.state.Fulfils session.text Promise.nothing)
    (request : Request) : session.InRange request := by
  have hmaintains := session.grammar.maintains_nothing session.text
  have hany (id : NodeId) (place : Nat) (found : Match) (_ : Promise.nothing id place found) :
      (fun _ : Results ↦ True) found.results := True.intro
  have hkept : Kept session.text Promise.nothing (Reply.Fulfils session.text fun _ ↦ True)
      session.text.IsBoundary session.state (session.visits request)
      (request.evaluation session.grammar session.text session.matcher session.state) :=
    kept_evaluation hmaintains hstate hany request
  constructor
  case begun => exact fun id offset hvisit ↦ hkept.log _ hvisit
  case matched => exact fun id offset found hvisit ↦ (hkept.log _ hvisit).1
  case failed => exact fun id offset failure hvisit ↦ hkept.log _ hvisit
  case ending =>
    intro failure hending
    have houtcome := hkept.outcome
    rw [hending] at houtcome
    exact houtcome
  case furthest =>
    intro failure hfailure
    exact (hkept.furthest failure hfailure).resolve_left fun hnone ↦ nomatch hnone
  case found =>
    intro matched hanswer one hone
    have hreply : (Reply.found matched).Fulfils session.text fun _ ↦ True :=
      fulfils_of_answer hmaintains hstate hany hanswer
    exact (hreply one hone).1
  case remembered =>
    intro id offset found hfind
    obtain ⟨hboundary, houtcome, hfurthest⟩ := hstate.remembered id offset found hfind
    constructor
    case boundary => exact hboundary
    case matched =>
      intro value hvalue
      rw [hvalue] at houtcome
      exact houtcome.1
    case failed =>
      intro failure hfailure
      rw [hfailure] at houtcome
      exact houtcome
    case furthest => exact hfurthest
  case invocations => exact hstate.invocations

end Session

/-- Offsets are always in range. Whatever was asked of a session before, this is so for all that it
remembers and for all that it comes upon when it is asked once more: evaluations begin at
boundaries, and where they match or fail is a boundary ahead, not past the end. Also every single
failure that is recorded during an evaluation is ahead of where it began. What is cut off the text
at any of these places ends at a boundary ahead. -/
theorem Grammar.inRange_after (grammar : Grammar) (text : Text) (history : List Request) :
    (∀ request, ((Session.start grammar text).after history).InRange request) ∧
      (∀ (room : Nat) (id : NodeId) (offset : Nat), text.IsBoundary offset →
        (∀ failure ∈ (grammar.trace text room id offset).failures,
          text.Ahead offset failure.offset) ∧
        ∀ held : Option Failure,
          ∀ failure ∈ (grammar.evaluate text room id offset
              { ((Session.start grammar text).after history).state with
                furthest := held }).2.furthest,
            failure ∈ held ∨ text.Ahead offset failure.offset) ∧
      ∀ start, text.IsBoundary start → text.Cuts start := by
  have hmaintains := grammar.maintains_nothing text
  have hafter := Session.fulfils_after hmaintains history
  refine ⟨fun request ↦ Session.inRange_of_fulfils ?_ request, ?_,
    fun start hstart ↦ Text.cuts hstart⟩
  · rwa [Session.text_after]
  · intro room id offset hoffset
    constructor
    · intro failure hfailure
      obtain ⟨event, hevent, hsame⟩ := List.mem_filterMap.mp hfailure
      have hranging := (grammar.holds_trace hmaintains room id offset hoffset).2 event hevent
      match event with
      | .failed other =>
        obtain rfl := Option.some.inj hsame
        exact hranging
    · intro held failure hfailure
      have hheld : EngineState.Fulfils text Promise.nothing
          { ((Session.start grammar text).after history).state with furthest := held } :=
        hafter.of_eq rfl rfl
      exact (grammar.kept_evaluate hmaintains room hoffset hheld).furthest failure hfailure

/-- A quoted string in which a section sign escapes the character after it. -/
def Quoted.sectioned : Quoted where
  opening := ['\x22']
  closing := ['\x22']
  escape := some '§'

/-- In the letters of a pair that breaks off, the failure is remembered at a boundary ahead. In a
text with a section sign, of two bytes, a quoted string stops at the first byte of the sign. -/
theorem Grammar.inRange_after_sectioned :
    let letters := Text.ofChars ['a', 'b', 'a', 'c']
    let sign := Text.ofChars ['a', '§']
    Draft.paired.build = .ok paired ∧
      .ended 3 2 (.error (.failure ⟨3, "Expected \"b\"", true⟩)) ∈
        ((Session.start paired letters).after [.parse true]).visits (.parse true) ∧
      letters.Ahead 2 3 ∧
      sign.IsBoundary 0 ∧ ¬ sign.IsBoundary 2 ∧
      Quoted.firstStop Quoted.sectioned.stops (sign.rest 0) = some 1 ∧ sign.Ahead 0 (0 + 1) := by
  intro letters sign
  have hended : .ended 3 2 (.error (.failure ⟨3, "Expected \"b\"", true⟩)) ∈
      ((Session.start paired letters).after [.parse true]).visits (.parse true) := by
    have hplaced : (((Session.start paired letters).after [.parse true]).visits (.parse true))[9]? =
        some (.ended 3 2 (.error (.failure ⟨3, "Expected \"b\"", true⟩))) := by
      cbv
    exact List.mem_of_getElem? hplaced
  have hahead : letters.Ahead 2 3 := by
    have hfailed := ((inRange_after paired letters [.parse true]).1 (.parse true)).failed 3 2 _
      hended
    rwa [Session.text_after] at hfailed
  have hstart : sign.IsBoundary 0 := by decide
  have hstop : Quoted.firstStop Quoted.sectioned.stops (sign.rest 0) = some 1 := by cbv
  have hcut := ((inRange_after paired sign []).2.2 0 hstart).stop _ 1 hstop
  exact ⟨Draft.build_paired, hended, hahead, hstart, by decide, hstop, hcut⟩

end Packrat
