import Mathlib.Logic.Relation
import Packrat.Proofs.Session.Guarantees
import Packrat.Proofs.Session.Promises
import Packrat.Proofs.Session.Terminals

/-!
# Scans

A scan looks for a match at one offset after another. Where it looks next is told by what it found
(`Sweep`): at the end of a match that consumes something, and otherwise at the next character, up to
the end of the text. A sweep over a text in which matches end ahead looks at boundaries only, passes
over none but those inside the matches, and its matches stand in order and do not overlap
(`Sweep.thorough`).

What a session finds in a scan are the matches of the sweep of the evaluations without memory,
whatever was asked before. There is one unless the looks come to a place where an evaluation goes
round for ever, and there the scan does so too (`Grammar.scan_after_eq_sweep`). A grammar without
empty escaped quotes has no such place, a quote with one is an example
(`Grammar.scan_endless_of_emptyEscape`).
-/

set_option autoImplicit false
set_option relaxedAutoImplicit false

namespace Packrat

open MatchMonad

/-! ### Sweeps -/

/-- A place at which a scan probes, and what it finds there. -/
structure Probe where
  /-- Where it looks. -/
  place : Nat
  /-- What it finds. -/
  result : Except Failure Match

/-- The match of a look, from after skipped characters. -/
def Probe.found? (text : Text) (skip : Option CharSet) (probe : Probe) : Option ScanMatch :=
  match probe.result with
  | .ok one => some ⟨min (skipFrom skip text probe.place) one.stop, one.stop, one.results⟩
  | .error _ => none

/-- The looks of a scan from an offset on, up to the end of the text, when the outcome at every
offset is given. -/
inductive Sweep (text : Text) (outcome : Nat → Except Halt Match) : Nat → List Probe → Prop
  /-- Past the end of the text there is nothing to look at. -/
  | past {offset : Nat} (hpast : text.size < offset) : Sweep text outcome offset []
  /-- After a match that consumes something the next look is at its end. -/
  | consumed {offset : Nat} {one : Match} {rest : List Probe} (hinside : offset ≤ text.size)
    (hmatch : outcome offset = .ok one) (hconsumed : offset < one.stop)
    (hrest : Sweep text outcome one.stop rest) :
    Sweep text outcome offset (⟨offset, .ok one⟩ :: rest)
  /-- After an empty match it is at the next character. -/
  | empty {offset : Nat} {one : Match} {rest : List Probe} (hinside : offset ≤ text.size)
    (hmatch : outcome offset = .ok one) (hempty : one.stop = offset)
    (hrest : Sweep text outcome (text.next offset) rest) :
    Sweep text outcome offset (⟨offset, .ok one⟩ :: rest)
  /-- So it is after a failure, fatal or not. -/
  | failed {offset : Nat} {failure : Failure} {rest : List Probe} (hinside : offset ≤ text.size)
    (hfailed : outcome offset = .error (.failure failure))
    (hrest : Sweep text outcome (text.next offset) rest) :
    Sweep text outcome offset (⟨offset, .error failure⟩ :: rest)

/-- Where the next look of a scan is, when the outcome at every offset is given. -/
inductive Turn (text : Text) (outcome : Nat → Except Halt Match) (offset : Nat) : Nat → Prop
  | consumed {one : Match} (hinside : offset ≤ text.size) (hmatch : outcome offset = .ok one)
    (hconsumed : offset < one.stop) : Turn text outcome offset one.stop
  | empty {one : Match} (hinside : offset ≤ text.size) (hmatch : outcome offset = .ok one)
    (hempty : one.stop = offset) : Turn text outcome offset (text.next offset)
  | failed {failure : Failure} (hinside : offset ≤ text.size)
    (hfailed : outcome offset = .error (.failure failure)) :
    Turn text outcome offset (text.next offset)

/-- The looks of a scan come to a place where an evaluation ends with an error, or never. -/
structure Stalls (text : Text) (outcome : Nat → Except Halt Match) (error : ParseError)
    (offset place : Nat) : Prop where
  /-- The looks go there. -/
  turns : Relation.ReflTransGen (Turn text outcome) offset place
  boundary : text.IsBoundary place
  raised : outcome place = .error (.error error)

/-- Matches in a text end ahead of the boundaries from which they are evaluated. -/
def Text.EndsAhead (text : Text) (outcome : Nat → Except Halt Match) : Prop :=
  ∀ ⦃offset : Nat⦄ ⦃one : Match⦄, text.IsBoundary offset → outcome offset = .ok one →
  text.Ahead offset one.stop

/-- The looks of a scan miss nothing of the text from an offset on, and their matches do not
overlap. -/
structure Thorough (text : Text) (skip : Option CharSet) (offset : Nat) (probes : List Probe) :
    Prop where
  /-- Probes are at boundaries. -/
  boundary : ∀ probe ∈ probes, text.IsBoundary probe.place
  /-- Matches start at or after the offset, and not after their ends, which are inside the text. -/
  inside : ∀ found ∈ probes.filterMap (Probe.found? text skip),
    offset ≤ found.start ∧ found.start ≤ found.stop ∧ found.stop ≤ text.size
  /-- A match starts where an earlier one ends, or after that. -/
  apart : (probes.filterMap (Probe.found? text skip)).Pairwise fun earlier later ↦
  earlier.stop ≤ later.start
  /-- At every boundary there is a look, but for those inside matches. -/
  tried : ∀ place, text.IsBoundary place → offset ≤ place →
    (∃ probe ∈ probes, probe.place = place) ∨ ∃ probe ∈ probes, ∃ one, probe.result = .ok one ∧
    probe.place < place ∧ place < one.stop

variable {text : Text} {skip : Option CharSet} {outcome : Nat → Except Halt Match}
  {offset : Nat} {probes : List Probe}

theorem Stalls.of_turn {error : ParseError} {next place : Nat}
    (hturn : Turn text outcome offset next) (hstalls : Stalls text outcome error next place) :
    Stalls text outcome error offset place :=
  ⟨.head hturn hstalls.turns, hstalls.boundary, hstalls.raised⟩

namespace Thorough

/-- One more match, after which the looks start at its end or later. Between the two there is no
boundary. -/
theorem cons_ok {one : Match} {next : Nat} (hoffset : text.IsBoundary offset)
    (hahead : text.Ahead offset one.stop) (hnext : one.stop ≤ next)
    (hbetween : ∀ place, text.IsBoundary place → one.stop ≤ place → offset < place →
      next ≤ place) (hrest : Thorough text skip next probes) :
    Thorough text skip offset (⟨offset, .ok one⟩ :: probes) := by
  have hfound : ((⟨offset, .ok one⟩ : Probe) :: probes).filterMap (Probe.found? text skip) =
      ⟨min (skipFrom skip text offset) one.stop, one.stop, one.results⟩ ::
        probes.filterMap (Probe.found? text skip) := rfl
  constructor
  case boundary => exact List.forall_mem_cons.mpr ⟨hoffset, hrest.boundary⟩
  case inside =>
    rw [hfound]
    refine List.forall_mem_cons.mpr ⟨⟨?_, Nat.min_le_right _ _, hahead.le_size⟩,
      fun found hmem ↦ ?_⟩
    · exact Nat.le_min.mpr ⟨le_skipFrom skip text offset, hahead.le⟩
    · obtain ⟨hstart, hstop⟩ := hrest.inside found hmem
      exact ⟨(hahead.le.trans hnext).trans hstart, hstop⟩
  case apart =>
    rw [hfound]
    exact List.pairwise_cons.mpr ⟨fun found hmem ↦
      hnext.trans (hrest.inside found hmem).1, hrest.apart⟩
  case tried =>
    intro place hplace hle
    rcases Nat.eq_or_lt_of_le hle with rfl | hlt
    · exact Or.inl ⟨_, List.mem_cons_self, rfl⟩
    rcases Nat.lt_or_ge place one.stop with hinside | houtside
    · exact Or.inr ⟨_, List.mem_cons_self, one, rfl, hlt, hinside⟩
    · rcases hrest.tried place hplace (hbetween place hplace houtside hlt) with
        ⟨probe, hprobe, hsame⟩ | ⟨probe, hprobe, hmatch⟩
      · exact Or.inl ⟨probe, List.mem_cons_of_mem _ hprobe, hsame⟩
      · exact Or.inr ⟨probe, List.mem_cons_of_mem _ hprobe, hmatch⟩

/-- One more look that finds nothing, after which the looks go on at the next character. -/
theorem cons_error {failure : Failure} (hoffset : text.IsBoundary offset)
    (hrest : Thorough text skip (text.next offset) probes) :
    Thorough text skip offset (⟨offset, .error failure⟩ :: probes) := by
  have hbeyond := text.lt_next offset
  constructor
  case boundary => exact List.forall_mem_cons.mpr ⟨hoffset, hrest.boundary⟩
  case inside =>
    intro found hmem
    obtain ⟨hstart, hstop⟩ := hrest.inside found hmem
    exact ⟨hbeyond.le.trans hstart, hstop⟩
  case apart => exact hrest.apart
  case tried =>
    intro place hplace hle
    rcases Nat.eq_or_lt_of_le hle with rfl | hlt
    · exact Or.inl ⟨_, List.mem_cons_self, rfl⟩
    rcases hrest.tried place hplace (hoffset.next_le hplace hlt) with ⟨probe, hprobe, hsame⟩
      | ⟨probe, hprobe, hmatch⟩
    · exact Or.inl ⟨probe, List.mem_cons_of_mem _ hprobe, hsame⟩
    · exact Or.inr ⟨probe, List.mem_cons_of_mem _ hprobe, hmatch⟩

end Thorough

namespace Sweep

theorem unique {other : List Probe} (hsweep : Sweep text outcome offset probes)
    (hother : Sweep text outcome offset other) : probes = other := by
  induction hsweep generalizing other with
  | past hpast =>
    cases hother with
    | past _ => rfl
    | consumed hinside _ _ _ => exact absurd hinside (Nat.not_le_of_lt hpast)
    | empty hinside _ _ _ => exact absurd hinside (Nat.not_le_of_lt hpast)
    | failed hinside _ _ => exact absurd hinside (Nat.not_le_of_lt hpast)
  | @consumed offset one rest hinside hmatch hconsumed hrest ih =>
    cases hother with
    | past hpast => exact absurd hinside (Nat.not_le_of_lt hpast)
    | consumed _ hsame _ hmore =>
      obtain rfl := Except.ok.inj (hmatch.symm.trans hsame)
      rw [ih hmore]
    | empty _ hsame hempty _ =>
      obtain rfl := Except.ok.inj (hmatch.symm.trans hsame)
      exact absurd hempty (Nat.ne_of_gt hconsumed)
    | failed _ hsame _ => cases hmatch.symm.trans hsame
  | @empty offset one rest hinside hmatch hempty hrest ih =>
    cases hother with
    | past hpast => exact absurd hinside (Nat.not_le_of_lt hpast)
    | consumed _ hsame hconsumed _ =>
      obtain rfl := Except.ok.inj (hmatch.symm.trans hsame)
      exact absurd hempty (Nat.ne_of_gt hconsumed)
    | empty _ hsame _ hmore =>
      obtain rfl := Except.ok.inj (hmatch.symm.trans hsame)
      rw [ih hmore]
    | failed _ hsame _ => cases hmatch.symm.trans hsame
  | @failed offset failure rest hinside hfailed hrest ih =>
    cases hother with
    | past hpast => exact absurd hinside (Nat.not_le_of_lt hpast)
    | consumed _ hsame _ _ => cases hfailed.symm.trans hsame
    | empty _ hsame _ _ => cases hfailed.symm.trans hsame
    | failed _ hsame hmore =>
      obtain rfl := Halt.failure.inj (Except.error.inj (hfailed.symm.trans hsame))
      rw [ih hmore]

theorem thorough (hends : text.EndsAhead outcome) (hsweep : Sweep text outcome offset probes)
    (hoffset : offset ≤ text.size → text.IsBoundary offset) : Thorough text skip offset probes := by
  induction hsweep with
  | past hpast =>
    refine ⟨fun _ hnone ↦ (nomatch hnone), fun _ hnone ↦ (nomatch hnone), .nil,
      fun place hplace hle ↦ ?_⟩
    exact absurd (hpast.trans_le (hle.trans hplace.le_size)) (Nat.lt_irrefl _)
  | @consumed offset one rest hinside hmatch hconsumed hrest ih =>
    have hahead := hends (hoffset hinside) hmatch
    exact .cons_ok (hoffset hinside) hahead le_rfl (fun _ _ hle _ ↦ hle)
      (ih fun _ ↦ hahead.boundary)
  | @empty offset one rest hinside hmatch hempty hrest ih =>
    have hbeyond := text.lt_next offset
    exact .cons_ok (hoffset hinside) (hends (hoffset hinside) hmatch) (hempty ▸ hbeyond.le)
      (fun _ hplace _ hlt ↦ (hoffset hinside).next_le hplace hlt) (ih (hoffset hinside).next)
  | @failed offset failure rest hinside hfailed hrest ih =>
    exact .cons_error (hoffset hinside) (ih (hoffset hinside).next)

/-- What is found at a place is the outcome there. -/
theorem outcome_place (hsweep : Sweep text outcome offset probes) :
    ∀ probe ∈ probes, outcome probe.place = probe.result.mapError .failure := by
  induction hsweep with
  | past hpast => exact fun _ hnone ↦ nomatch hnone
  | consumed hinside hmatch hconsumed hrest ih => exact List.forall_mem_cons.mpr ⟨hmatch, ih⟩
  | empty hinside hmatch hempty hrest ih => exact List.forall_mem_cons.mpr ⟨hmatch, ih⟩
  | failed hinside hfailed hrest ih => exact List.forall_mem_cons.mpr ⟨hfailed, ih⟩

/-- The trace of a scan gives the matches of the sweep of the traces of the entry. -/
theorem outcome_scanFrom {evaluate : Matcher Trace}
    (hsweep : Sweep text (fun offset ↦ (evaluate offset).outcome) offset probes)
    (found : List ScanMatch) :
    (scanFrom text skip evaluate offset found).outcome =
      .ok (found ++ probes.filterMap (Probe.found? text skip)) := by
  induction hsweep generalizing found with
  | past hpast =>
    unfold scanFrom
    rw [if_neg (Nat.not_le_of_lt hpast), List.filterMap_nil, List.append_nil]
    rfl
  | @consumed offset one rest hinside hmatch hconsumed hrest ih =>
    have hattempt : (attempt (evaluate offset)).outcome = .ok (.ok one) := by
      rw [Trace.attempt_of_ok hmatch]
    unfold scanFrom
    rw [if_pos hinside, Trace.bind_of_ok hattempt]
    simp only [hconsumed, if_true]
    rw [ih, List.append_assoc]
    rfl
  | @empty offset one rest hinside hmatch hempty hrest ih =>
    have hattempt : (attempt (evaluate offset)).outcome = .ok (.ok one) := by
      rw [Trace.attempt_of_ok hmatch]
    unfold scanFrom
    rw [if_pos hinside, Trace.bind_of_ok hattempt]
    simp only [hempty, Nat.lt_irrefl, if_false]
    rw [ih, List.append_assoc]
    simp only [← hempty]
    rfl
  | @failed offset failure rest hinside hfailed hrest ih =>
    have hattempt : (attempt (evaluate offset)).outcome = .ok (.error failure) := by
      rw [Trace.attempt_of_failure hfailed]
    unfold scanFrom
    rw [if_pos hinside, Trace.bind_of_ok hattempt]
    exact ih found

/-- The looks from where the next one is are those after the first. -/
theorem exists_of_turn {next : Nat} (hsweep : Sweep text outcome offset probes)
    (hturn : Turn text outcome offset next) : ∃ rest, Sweep text outcome next rest := by
  cases hsweep with
  | past hpast =>
    cases hturn with
    | consumed hinside _ _ => exact absurd hinside (Nat.not_le_of_lt hpast)
    | empty hinside _ _ => exact absurd hinside (Nat.not_le_of_lt hpast)
    | failed hinside _ => exact absurd hinside (Nat.not_le_of_lt hpast)
  | consumed _ hmatch hconsumed hrest =>
    cases hturn with
    | consumed _ hsame _ =>
      obtain rfl := Except.ok.inj (hmatch.symm.trans hsame)
      exact ⟨_, hrest⟩
    | empty _ hsame hempty =>
      obtain rfl := Except.ok.inj (hmatch.symm.trans hsame)
      exact absurd hempty (Nat.ne_of_gt hconsumed)
    | failed _ hsame => cases hmatch.symm.trans hsame
  | empty _ hmatch hempty hrest =>
    cases hturn with
    | consumed _ hsame hconsumed =>
      obtain rfl := Except.ok.inj (hmatch.symm.trans hsame)
      exact absurd hempty (Nat.ne_of_gt hconsumed)
    | empty _ _ _ => exact ⟨_, hrest⟩
    | failed _ _ => exact ⟨_, hrest⟩
  | failed _ hfailed hrest =>
    cases hturn with
    | consumed _ hsame _ => cases hfailed.symm.trans hsame
    | empty _ _ _ => exact ⟨_, hrest⟩
    | failed _ _ => exact ⟨_, hrest⟩

theorem not_stalls (hsweep : Sweep text outcome offset probes) {error : ParseError} {place : Nat} :
    ¬ Stalls text outcome error offset place := by
  intro hstalls
  have hthere : ∃ rest, Sweep text outcome place rest := by
    refine hstalls.turns.head_induction_on (motive := fun start _ ↦
      ∀ probes, Sweep text outcome start probes → ∃ rest, Sweep text outcome place rest)
        ?_ ?_ _ hsweep
    · exact fun rest hrest ↦ ⟨rest, hrest⟩
    · intro start next hturn _ ih probes hfrom
      obtain ⟨rest, hrest⟩ := hfrom.exists_of_turn hturn
      exact ih rest hrest
  obtain ⟨rest, hrest⟩ := hthere
  cases hrest with
  | past hpast => exact absurd hstalls.boundary.le_size (Nat.not_le_of_lt hpast)
  | consumed _ hmatch _ _ => cases hstalls.raised.symm.trans hmatch
  | empty _ hmatch _ _ => cases hstalls.raised.symm.trans hmatch
  | failed _ hfailed _ => cases hstalls.raised.symm.trans hfailed

/-- There is a sweep, or the looks come to an evaluation that ends with an error, or never. The
induction is on the rest of the text. -/
theorem exists_or_stalls (hends : text.EndsAhead outcome) (measure : Nat) :
    ∀ offset, text.size + 1 - offset = measure → (offset ≤ text.size → text.IsBoundary offset) →
      (∃ probes, Sweep text outcome offset probes) ∨
        ∃ error place, Stalls text outcome error offset place := by
  induction measure using Nat.strong_induction_on with
  | _ measure ih =>
    intro offset hmeasure hoffset
    by_cases hinside : offset ≤ text.size
    · have hbeyond := text.lt_next offset
      have hnext := ih (text.size + 1 - text.next offset) (by omega) _ rfl (hoffset hinside).next
      match hresult : outcome offset with
      | .ok one =>
        have hahead := hends (hoffset hinside) hresult
        rcases Nat.eq_or_lt_of_le hahead.le with hempty | hconsumed
        · exact hnext.imp (fun ⟨rest, hrest⟩ ↦ ⟨_, .empty hinside hresult hempty.symm hrest⟩)
            fun ⟨error, place, hstalls⟩ ↦
              ⟨error, place, .of_turn (.empty hinside hresult hempty.symm) hstalls⟩
        · have hafter := ih (text.size + 1 - one.stop) (by omega) _ rfl fun _ ↦ hahead.boundary
          exact hafter.imp (fun ⟨rest, hrest⟩ ↦ ⟨_, .consumed hinside hresult hconsumed hrest⟩)
            fun ⟨error, place, hstalls⟩ ↦
              ⟨error, place, .of_turn (.consumed hinside hresult hconsumed) hstalls⟩
      | .error (.failure failure) =>
        exact hnext.imp (fun ⟨rest, hrest⟩ ↦ ⟨_, .failed hinside hresult hrest⟩)
          fun ⟨error, place, hstalls⟩ ↦ ⟨error, place, .of_turn (.failed hinside hresult) hstalls⟩
      | .error (.error error) => exact Or.inr ⟨error, offset, .refl, hoffset hinside, hresult⟩
    · exact Or.inl ⟨[], .past (Nat.lt_of_not_le hinside)⟩

end Sweep

/-- The trace of a scan that stalls ends as the evaluation does at which it stalls. -/
theorem Stalls.outcome_scanFrom {evaluate : Matcher Trace} {error : ParseError} {place : Nat}
    (hstalls : Stalls text (fun offset ↦ (evaluate offset).outcome) error offset place)
    (found : List ScanMatch) :
    (scanFrom text skip evaluate offset found).outcome = .error (.error error) := by
  refine hstalls.turns.head_induction_on (motive := fun start _ ↦ ∀ found : List ScanMatch,
    (scanFrom text skip evaluate start found).outcome = .error (.error error)) ?_ ?_ found
  · intro found
    have hattempt : (attempt (evaluate place)).outcome = .error (.error error) := by
      rw [Trace.attempt_of_error hstalls.raised]
    unfold scanFrom
    rw [if_pos hstalls.boundary.le_size, Trace.bind_of_error hattempt]
  · intro start next hturn _ ih found
    unfold scanFrom
    cases hturn with
    | consumed hinside hmatch hconsumed =>
      rw [if_pos hinside, Trace.bind_of_ok (by rw [Trace.attempt_of_ok hmatch])]
      simp only [hconsumed, if_true]
      exact ih _
    | empty hinside hmatch hempty =>
      rw [if_pos hinside, Trace.bind_of_ok (by rw [Trace.attempt_of_ok hmatch])]
      simp only [hempty, Nat.lt_irrefl, if_false]
      exact ih _
    | failed hinside hfailed =>
      rw [if_pos hinside, Trace.bind_of_ok (by rw [Trace.attempt_of_failure hfailed])]
      exact ih _

/-! ### Sessions -/

namespace Grammar

/-- The outcome of a node at an offset in a session that remembers nothing and was asked nothing
before. -/
def afresh (grammar : Grammar) (text : Text) (id : NodeId) (offset : Nat) : Except Halt Match :=
  ((Session.start grammar.withoutMemory text).matcher id offset
    (Session.start grammar.withoutMemory text).state).1

variable {grammar : Grammar} {id : NodeId}

/-- Without memory the outcome is that of the trace. -/
theorem afresh_eq (grammar : Grammar) (text : Text) (id : NodeId) (offset : Nat) :
    grammar.afresh text id offset =
      (grammar.trace text grammar.config.maxDepth id offset).outcome := by
  have hplain : grammar.withoutMemory.config.packrat = false := rfl
  obtain ⟨counters, hrun⟩ := (performs_evaluate hplain text grammar.config.maxDepth id offset).1
    (Session.start grammar.withoutMemory text).state
  rw [trace_withoutMemory] at hrun
  exact congrArg Prod.fst hrun

theorem endsAhead_afresh (grammar : Grammar) (text : Text) (id : NodeId) :
    text.EndsAhead (grammar.afresh text id) := by
  intro offset one hoffset hone
  have hended := (holds_trace (grammar.maintains_nothing text) grammar.config.maxDepth id
    offset hoffset).1
  rw [← afresh_eq, hone] at hended
  exact hended.1

/-- Without memory an accepted grammar raises no errors if the limit on the depth is great enough,
unless an evaluation goes round for ever. -/
theorem eq_endless_of_afresh (haccepted : grammar.Accepted) (hhonest : grammar.HasHonestRegexes)
    (hid : id < grammar.nodeCount) {text : Text}
    (henough : grammar.nodeCount * (text.size + 1) ≤ grammar.config.maxDepth) {offset : Nat}
    {error : ParseError} (herror : grammar.afresh text id offset = .error (.error error)) :
    error = .endless := by
  rw [afresh_eq] at herror
  exact (yields_trace haccepted hhonest text (· = .endless) rfl grammar.config.maxDepth
    id offset hid (Or.inr ((depthBound_lt haccepted hid).trans_le henough))).errors error herror

/-- Without memory no evaluation goes round for ever if no escaped quote is empty. -/
theorem afresh_ne_endless (hescapes : grammar.NoEmptyEscapes) (text : Text) (id : NodeId)
    (offset : Nat) : grammar.afresh text id offset ≠ .error (.error .endless) := by
  rw [afresh_eq]
  exact fun hendless ↦
    (yields_trace_ne_endless hescapes grammar.config.maxDepth id offset).errors _ hendless rfl

/-- A session answers a scan with what its trace comes to, whatever was asked before, unless the
trace was stopped by the limit on the depth. -/
theorem scan_after_eq (hentry : grammar.entry = some id) {outcome : Except Halt (List ScanMatch)}
    (htrace : (scanFrom text grammar.skip (grammar.trace text grammar.config.maxDepth id) 0
      []).outcome = outcome) (hreached : ¬ IsLimited (outcome.map Reply.found))
    (history : List Request) :
    ∃ furthest, ((Session.start grammar text).after history).scan.1 =
      outcome.mapError (Halt.toError text furthest) := by
  have hrequest : (grammar.requestTrace text .scan).outcome = outcome.map Reply.found := by
    rw [requestTrace]
    simp only [Request.evaluation, hentry]
    cases outcome with
    | ok found =>
      rw [Trace.bind_of_ok htrace]
      rfl
    | error halt =>
      rw [Trace.bind_of_error htrace]
      rfl
  have hunlimited : ¬ (grammar.requestTrace text .scan).Limited := by
    rw [Trace.Limited, hrequest]
    exact hreached
  have hanswer : ((Session.start grammar text).after history).scan.1.map Reply.found = _ :=
    Session.answer_after_eq_report grammar text history .scan hunlimited
  rw [Trace.report, hrequest] at hanswer
  refine ⟨furthestAfter none (grammar.requestTrace text .scan).events, ?_⟩
  generalize ((Session.start grammar text).after history).scan.1 = answer at hanswer ⊢
  cases answer <;> cases outcome <;> cases hanswer <;> rfl

/-- A session finds what the trace of a scan gives, whatever was asked before. -/
theorem scan_after_of_trace (hentry : grammar.entry = some id) {found : List ScanMatch}
    (htrace : (scanFrom text grammar.skip (grammar.trace text grammar.config.maxDepth id) 0
      []).outcome = .ok found)
    (history : List Request) :
    ((Session.start grammar text).after history).scan.1 = .ok found := by
  obtain ⟨furthest, hscan⟩ := scan_after_eq hentry htrace (not_isLimited_ok _) history
  exact hscan

/-- A scan goes round for ever if its trace does, whatever was asked before. -/
theorem scan_after_of_endless (hentry : grammar.entry = some id)
    (htrace : (scanFrom text grammar.skip (grammar.trace text grammar.config.maxDepth id) 0
      []).outcome = .error (.error .endless))
    (history : List Request) :
    ((Session.start grammar text).after history).scan.1 = .error .endless := by
  obtain ⟨furthest, hscan⟩ := scan_after_eq hentry htrace not_false history
  exact hscan

/-- What a session with a history answers to a scan are the matches of a sweep. -/
structure Swept (grammar : Grammar) (id : NodeId) (text : Text) (history : List Request)
    (probes : List Probe) : Prop where
  sweep : Sweep text (grammar.afresh text id) 0 probes
  /-- There is only one sweep. -/
  unique : ∀ other, Sweep text (grammar.afresh text id) 0 other → other = probes
  answer : ((Session.start grammar text).after history).scan.1 =
    .ok (probes.filterMap (Probe.found? text grammar.skip))
  /-- What is found at each place is what is found there without memory. -/
  found : ∀ probe ∈ probes, grammar.afresh text id probe.place = probe.result.mapError .failure
  thorough : Thorough text grammar.skip 0 probes

/-- A scan finds what a sweep of the evaluations without memory finds, if none of them at a boundary
raises an error. Whatever was asked of the session before, there is one such sweep from the start of
the text, of which it finds the matches; or the looks come to a place where an evaluation goes round
for ever, there is no sweep, and the scan goes round for ever too. The latter does not happen to a
grammar of which no escaped quote is empty. What is found at each place is what is found there
without memory. The sweep looks at boundaries, and at all of them but those inside matches; its
matches end inside the text, not before they start, and start where the earlier ones end or after
that. -/
theorem scan_after_eq_sweep (hentry : grammar.entry = some id) (text : Text)
    (hraises : ∀ offset, text.IsBoundary offset → ∀ error,
      grammar.afresh text id offset = .error (.error error) → error = .endless)
    (history : List Request) :
    ((∃ probes, grammar.Swept id text history probes) ∨
      (∃ place, Stalls text (grammar.afresh text id) .endless 0 place) ∧
        (∀ probes, ¬ Sweep text (grammar.afresh text id) 0 probes) ∧
        ((Session.start grammar text).after history).scan.1 = .error .endless) ∧
    (grammar.NoEmptyEscapes → ∃ probes, grammar.Swept id text history probes) := by
  have hends := grammar.endsAhead_afresh text id
  have htraces : grammar.afresh text id =
      fun offset ↦ (grammar.trace text grammar.config.maxDepth id offset).outcome :=
    funext fun offset ↦ afresh_eq grammar text id offset
  have hswept {probes : List Probe} (hsweep : Sweep text (grammar.afresh text id) 0 probes) :
      grammar.Swept id text history probes := by
    constructor
    case sweep => exact hsweep
    case unique => exact fun other hother ↦ hother.unique hsweep
    case answer => exact scan_after_of_trace hentry ((htraces ▸ hsweep).outcome_scanFrom []) history
    case found => exact hsweep.outcome_place
    case thorough => exact hsweep.thorough hends fun _ ↦ text.isBoundary_zero
  rcases Sweep.exists_or_stalls hends _ 0 rfl fun _ ↦ text.isBoundary_zero with
    ⟨probes, hsweep⟩ | ⟨error, place, hstalls⟩
  · exact ⟨Or.inl ⟨probes, hswept hsweep⟩, fun _ ↦ ⟨probes, hswept hsweep⟩⟩
  · obtain rfl := hraises place hstalls.boundary error hstalls.raised
    refine ⟨Or.inr ⟨⟨place, hstalls⟩, fun probes hsweep ↦ hsweep.not_stalls hstalls, ?_⟩,
      fun hescapes ↦ ?_⟩
    · exact scan_after_of_endless hentry ((htraces ▸ hstalls).outcome_scanFrom []) history
    · exact absurd hstalls.raised (afresh_ne_endless hescapes text id place)

end Grammar

/-! ### A letter with another one after it -/

/-- A letter after which there must be another one, or nothing. -/
def Draft.strictPair : Build Draft := do
  let first ← Expr.literal "a"
  let pair ← first.andCommit (← Expr.literal "b")
  pure { entry := some (.expr (← pair.optional)) }

def Grammar.strictPair : Grammar where
  nodes := #[.terminal (.literal "a" false) (some .blanks) "Expected \"a\"",
    .terminal (.literal "b" false) (some .blanks) "Expected \"b\"", .sequence [0, 1] (some 1),
    .optional 2 none]
  ruleNames := []
  ruleBodies := []
  entry := some 3
  config := {}

theorem Draft.build_strictPair : (strictPair 0).1.build = .ok Grammar.strictPair := by
  cbv

namespace Grammar

/-- In a text of a letter of two bytes, a pair and a letter alone a scan finds nothing in front of
the first letter, the pair, and nothing at the end. The letter alone is a fatal failure, and the
scan goes on after it. -/
theorem scan_after_strictPair :
    let text := Text.ofChars ['é', 'a', 'b', ' ', 'a']
    strictPair.entry = some 3 ∧
      (∀ offset, text.IsBoundary offset → ∀ error,
        strictPair.afresh text 3 offset = .error (.error error) → error = .endless) ∧
      strictPair.NoEmptyEscapes ∧
      ∃ probes, probes.map Probe.place = [0, 2, 4, 5, 6] ∧
        ((Session.start strictPair text).after [.parse true]).scan.1 =
          .ok (probes.filterMap (Probe.found? text strictPair.skip)) ∧
        (probes.filterMap (Probe.found? text strictPair.skip)).map
          (fun found ↦ (found.start, found.stop)) = [(0, 0), (2, 4), (6, 6)] ∧
        Thorough text strictPair.skip 0 probes := by
  intro text
  have hhonest : strictPair.HasHonestRegexes := by simp [HasHonestRegexes, strictPair]
  have hescapes : strictPair.NoEmptyEscapes := by simp [NoEmptyEscapes, strictPair]
  have hraises (offset : Nat) (_ : text.IsBoundary offset) (error : ParseError)
      (herror : strictPair.afresh text 3 offset = .error (.error error)) : error = .endless :=
    eq_endless_of_afresh (Draft.accepted_of_build Draft.build_strictPair) hhonest (by decide)
      (by decide) herror
  have htrace (offset : Nat) {outcome : Except Halt Match}
      (houtcome : (strictPair.trace text 1000 3 offset).outcome = outcome) :
      strictPair.afresh text 3 offset = outcome :=
    (strictPair.afresh_eq text 3 offset).trans houtcome
  have hlast : Sweep text (strictPair.afresh text 3) 6 [⟨6, .ok (.nothing 6)⟩] :=
    .empty (by decide) (htrace 6 (by cbv)) rfl (.past (by decide))
  have hsweep : Sweep text (strictPair.afresh text 3) 0 [⟨0, .ok (.nothing 0)⟩,
      ⟨2, .ok ⟨4, .ofTokens [.str "a", .str "b"]⟩⟩, ⟨4, .error ⟨6, "Expected \"b\"", true⟩⟩,
      ⟨5, .error ⟨6, "Expected \"b\"", true⟩⟩, ⟨6, .ok (.nothing 6)⟩] :=
    .empty (by decide) (htrace 0 (by cbv)) rfl
      (.consumed (by decide) (htrace 2 (by cbv)) (by decide)
        (.failed (by decide) (htrace 4 (by cbv)) (.failed (by decide) (htrace 5 (by cbv)) hlast)))
  obtain ⟨probes, hswept⟩ := (scan_after_eq_sweep rfl text hraises [.parse true]).2 hescapes
  obtain rfl := hswept.unique _ hsweep
  exact ⟨rfl, hraises, hescapes, _, rfl, hswept.answer, by decide, hswept.thorough⟩

end Grammar

/-! ### A quoted string with an empty escaped quote -/

/-- A quoted string inside which nothing stands for a quote. -/
def Quoted.emptyEscape : Quoted := { ofQuote ['\''] with escapedQuote := some [] }

namespace Grammar

/-- The grammar of such a string alone builds and no evaluation raises an error. But in a letter
between quotes no number of rounds of the scanner is enough: the scan goes round for ever, and there
is no sweep. -/
theorem scan_endless_of_emptyEscape :
    let text := Text.ofChars ['\'', 'a', '\'']
    let grammar := alone (.quoted .emptyEscape)
    (Draft.alone (Expr.quoted .emptyEscape) 0).1.build = .ok grammar ∧ grammar.entry = some 0 ∧
      (∀ offset error, grammar.afresh text 0 offset = .error (.error error) → error = .endless) ∧
      (∀ rounds, Quoted.emptyEscape.scanWithin rounds ['a', '\''] = none) ∧
      (Session.start grammar text).scan.1 = .error .endless ∧
      ∀ probes, ¬ Sweep text (grammar.afresh text 0) 0 probes := by
  intro text grammar
  have hproper := Terminal.not_isEmptyLiteral_quoted .emptyEscape
  have hbuild : (Draft.alone (Expr.quoted .emptyEscape) 0).1.build = .ok grammar :=
    Draft.build_alone hproper rfl 0
  have hraises (offset : Nat) (error : ParseError)
      (herror : grammar.afresh text 0 offset = .error (.error error)) : error = .endless := by
    have hhonest : grammar.HasHonestRegexes := by simp [HasHonestRegexes, grammar, alone]
    exact eq_endless_of_afresh (Draft.accepted_of_build hbuild) hhonest Nat.zero_lt_one (by decide)
      herror
  have hbody : Quoted.emptyEscape.scanBody ['a', '\''] = .endless := by
    rw [Quoted.scanBody_of_escapedQuote_nil rfl]
    rfl
  have hfirst : (grammar.trace text 1000 0 0).outcome = .error (.error .endless) := by
    have hscan : Quoted.emptyEscape.scan ['\'', 'a', '\''] = .endless :=
      Quoted.scan_eq_endless_iff.mpr ⟨List.cons_ne_nil _ _, List.cons_ne_nil _ _, rfl, _, rfl, rfl⟩
    rw [outcome_trace_of_terminal (compilesTo_alone hproper rfl 0) hproper]
    exact Terminal.outcome_of_endless rfl (Scan.map_eq_endless_iff.mpr hscan)
  have hstalls :
      Stalls text (fun offset ↦ (grammar.trace text 1000 0 offset).outcome) .endless 0 0 :=
    ⟨.refl, text.isBoundary_zero, hfirst⟩
  have hafresh : Stalls text (grammar.afresh text 0) .endless 0 0 :=
    ⟨.refl, text.isBoundary_zero, (grammar.afresh_eq text 0 0).trans hfirst⟩
  exact ⟨hbuild, rfl, hraises, Quoted.scanBody_eq_endless_iff.mp hbody,
    scan_after_of_endless rfl (hstalls.outcome_scanFrom []) [],
    fun probes hsweep ↦ hsweep.not_stalls hafresh⟩

end Grammar

end Packrat
