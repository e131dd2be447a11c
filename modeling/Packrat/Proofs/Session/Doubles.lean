import Packrat.Proofs.Session.Scanning

/-!
# Matches that are found twice

The matches of a scan stand in order, and mostly one starts after another one starts, or ends after
it (`ScanMatch.Precedes`). The exception are empty matches after skipped characters. A match may
consume no more than skipped characters; it then stands, empty, at their end. The scan goes on
there, since characters were consumed, and may find nothing there a second time (`Probe.Doubles`).

A scan reports such a place twice, and none three times. All its other spans are distinct and in
order, so they are strictly increasing just when there is no such look
(`Sweep.pairwise_precedes_iff`), and always where nothing is skipped by default. This is said of
every scan that succeeds, whatever was asked before (`Grammar.spans_of_scan`).
-/

set_option autoImplicit false
set_option relaxedAutoImplicit false

namespace Packrat

open MatchMonad

/-! ### Orders of spans -/

/-- A match comes before another one in the order of starts, and of ends where they start
together. -/
def ScanMatch.Precedes (earlier later : ScanMatch) : Prop :=
  earlier.start < later.start ∨ earlier.start = later.start ∧ earlier.stop < later.stop

/-- A match is found again: both are empty and stand at one place. -/
def ScanMatch.IsRepeated (earlier later : ScanMatch) : Prop :=
  earlier.start = earlier.stop ∧ later.start = earlier.stop ∧ later.stop = earlier.stop

/-- A look finds no more than skipped characters, and nothing is found where these end. -/
def Probe.Doubles (text : Text) (skip : Option CharSet) (outcome : Nat → Except Halt Match)
    (probe : Probe) : Prop :=
  ∃ one again, probe.result = .ok one ∧ probe.place < one.stop ∧
    one.stop ≤ skipFrom skip text probe.place ∧ outcome one.stop = .ok again ∧ again.stop = one.stop

/-- A match that stands before another one comes before it, unless it is found again. -/
theorem ScanMatch.precedes_or_isRepeated {earlier later : ScanMatch}
    (hearlier : earlier.start ≤ earlier.stop) (hlater : later.start ≤ later.stop)
    (hapart : earlier.stop ≤ later.start) :
    earlier.Precedes later ∨ earlier.IsRepeated later := by
  unfold Precedes IsRepeated
  omega

/-- A match that is found again does not come before what repeats it. -/
theorem ScanMatch.IsRepeated.not_precedes {earlier later : ScanMatch}
    (hrepeated : earlier.IsRepeated later) :
    ¬ earlier.Precedes later := by
  unfold IsRepeated at hrepeated
  unfold Precedes
  omega

/-- A look that finds a match adds it to the matches of the looks after it. -/
theorem Probe.filterMap_found?_ok (text : Text) (skip : Option CharSet) (offset : Nat) (one : Match)
    (rest : List Probe) : ((⟨offset, .ok one⟩ : Probe) :: rest).filterMap (found? text skip) =
      ⟨min (skipFrom skip text offset) one.stop, one.stop, one.results⟩ ::
        rest.filterMap (found? text skip) := rfl

theorem Probe.filterMap_found?_error (text : Text) (skip : Option CharSet)
    (offset : Nat) (failure : Failure) (rest : List Probe) :
    ((⟨offset, .error failure⟩ : Probe) :: rest).filterMap (found? text skip) =
      rest.filterMap (found? text skip) :=
  rfl

namespace Sweep

variable {text : Text} {skip : Option CharSet} {outcome : Nat → Except Halt Match}
  {offset : Nat} {probes : List Probe}

/-- Where something is found at the offset of a sweep, the first look finds it. -/
theorem exists_eq_cons (hsweep : Sweep text outcome offset probes) (hinside : offset ≤ text.size)
    {one : Match} (hone : outcome offset = .ok one) :
    ∃ rest, probes = ⟨offset, .ok one⟩ :: rest := by
  cases hsweep with
  | past hpast => exact absurd hinside (Nat.not_le_of_lt hpast)
  | consumed _ hmatch _ _ =>
    obtain rfl := Except.ok.inj (hmatch.symm.trans hone)
    exact ⟨_, rfl⟩
  | empty _ hmatch _ _ =>
    obtain rfl := Except.ok.inj (hmatch.symm.trans hone)
    exact ⟨_, rfl⟩
  | failed _ hfailed _ => cases hfailed.symm.trans hone

/-- The matches of a sweep start at its offset or later, and end where they start or later. -/
theorem le_of_mem (hends : text.EndsAhead outcome) (hsweep : Sweep text outcome offset probes)
    (hoffset : offset ≤ text.size → text.IsBoundary offset) {found : ScanMatch}
    (hfound : found ∈ probes.filterMap (Probe.found? text skip)) :
    offset ≤ found.start ∧ found.start ≤ found.stop :=
  have hinside := (hsweep.thorough hends hoffset).inside found hfound
  ⟨hinside.1, hinside.2.1⟩

/-- The matches of a sweep that starts after a place end after it. -/
theorem lt_stop_of_mem (skip : Option CharSet) (hends : text.EndsAhead outcome) {next : Nat}
    (hsweep : Sweep text outcome next probes) (hnext : next ≤ text.size → text.IsBoundary next)
    (hlt : offset < next) :
    ∀ found ∈ probes.filterMap (Probe.found? text skip), offset < found.stop := by
  intro found hfound
  have hle := hsweep.le_of_mem hends hnext hfound
  omega

/-- All matches of a sweep end after its offset, but for an empty one that is found there at
first. -/
theorem lt_stop_or_eq_cons (skip : Option CharSet) (hends : text.EndsAhead outcome)
    (hsweep : Sweep text outcome offset probes) (hoffset : offset ≤ text.size →
      text.IsBoundary offset) :
    (∀ found ∈ probes.filterMap (Probe.found? text skip), offset < found.stop) ∨
      ∃ one rest, outcome offset = .ok one ∧ one.stop = offset ∧
        probes = ⟨offset, .ok one⟩ :: rest ∧ ∀ found ∈ rest.filterMap (Probe.found? text skip),
          offset < found.stop := by
  cases hsweep with
  | past hpast => exact Or.inl fun _ hnone ↦ nomatch hnone
  | consumed hinside hmatch hconsumed hrest =>
    refine Or.inl (List.forall_mem_cons.mpr ⟨hconsumed, ?_⟩)
    exact hrest.lt_stop_of_mem skip hends (fun _ ↦ (hends (hoffset hinside) hmatch).boundary)
      hconsumed
  | empty hinside hmatch hempty hrest =>
    refine Or.inr ⟨_, _, hmatch, hempty, rfl, ?_⟩
    exact hrest.lt_stop_of_mem skip hends (hoffset hinside).next (text.lt_next _)
  | failed hinside hfailed hrest =>
    refine Or.inl ?_
    rw [Probe.filterMap_found?_error]
    exact hrest.lt_stop_of_mem skip hends (hoffset hinside).next (text.lt_next _)

/-- A single match of a sweep at most ends at its offset. -/
theorem countP_stop_le (hends : text.EndsAhead outcome) (hsweep : Sweep text outcome offset probes)
    (hoffset : offset ≤ text.size → text.IsBoundary offset) :
    (probes.filterMap (Probe.found? text skip)).countP (fun found ↦ found.stop = offset) ≤ 1 := by
  have hnone {rest : List ScanMatch} (hlater : ∀ found ∈ rest, offset < found.stop) :
      rest.countP (fun found ↦ found.stop = offset) = 0 :=
    List.countP_eq_zero.mpr fun found hfound ↦ by simpa using Nat.ne_of_gt (hlater found hfound)
  rcases hsweep.lt_stop_or_eq_cons skip hends hoffset with hlater | ⟨one, rest, -, -, rfl, hlater⟩
  · rw [hnone hlater]
    exact Nat.zero_le 1
  · rw [Probe.filterMap_found?_ok, List.countP_cons, hnone hlater]
    split <;> omega

/-- No span is found three times. The induction is along the sweep: what is found first ends where
the looks go on or before that, and there a single match ends at most. -/
theorem countP_span_le (hends : text.EndsAhead outcome) (hsweep : Sweep text outcome offset probes)
    (hoffset : offset ≤ text.size → text.IsBoundary offset) (start stop : Nat) :
    (probes.filterMap (Probe.found? text skip)).countP
      (fun found ↦ found.start = start ∧ found.stop = stop) ≤ 2 := by
  have hcons (one : ScanMatch) (rest : List ScanMatch)
      (hlater : rest.countP (fun found ↦ found.stop = one.stop) ≤ 1)
      (hrest : rest.countP (fun found ↦ found.start = start ∧ found.stop = stop) ≤ 2) :
      (one :: rest).countP (fun found ↦ found.start = start ∧ found.stop = stop) ≤ 2 := by
    rw [List.countP_cons]
    split
    next hspan =>
      obtain ⟨-, rfl⟩ : one.start = start ∧ one.stop = stop := by simpa using hspan
      have hfewer : rest.countP (fun found ↦ found.start = start ∧ found.stop = one.stop) ≤
          rest.countP fun found ↦ found.stop = one.stop :=
        List.countP_mono_left fun found _ hboth ↦ by simp_all
      omega
    next => exact hrest
  induction hsweep with
  | past hpast => exact Nat.zero_le _
  | consumed hinside hmatch hconsumed hrest ih =>
    have hboundary := (hends (hoffset hinside) hmatch).boundary
    exact hcons _ _ (hrest.countP_stop_le hends fun _ ↦ hboundary) (ih fun _ ↦ hboundary)
  | @empty offset one rest hinside hmatch hempty hrest ih =>
    have hlater := hrest.lt_stop_of_mem skip hends (hoffset hinside).next (text.lt_next offset)
    refine hcons _ _ ?_ (ih (hoffset hinside).next)
    rw [List.countP_eq_zero.mpr fun found hfound ↦ by
      simpa [hempty] using Nat.ne_of_gt (hlater found hfound)]
    exact Nat.zero_le 1
  | failed hinside hfailed hrest ih => exact ih (hoffset hinside).next

/-- The match of a look comes before those of the looks after it, unless the look doubles. -/
theorem forall_precedes_iff (hends : text.EndsAhead outcome) {one : Match}
    (hoffset : text.IsBoundary offset) (hone : outcome offset = .ok one)
    (hconsumed : offset < one.stop) (hrest : Sweep text outcome one.stop probes) :
    (∀ later ∈ probes.filterMap (Probe.found? text skip),
      (⟨min (skipFrom skip text offset) one.stop, one.stop, one.results⟩ : ScanMatch).Precedes
        later) ↔
      ¬ (⟨offset, .ok one⟩ : Probe).Doubles text skip outcome := by
  have hahead := hends hoffset hone
  constructor
  · rintro hprecedes ⟨other, again, hother, -, hskipped, hagain, hempty⟩
    obtain rfl := Except.ok.inj hother
    obtain ⟨rest, rfl⟩ := hrest.exists_eq_cons hahead.le_size hagain
    have hlater := hprecedes _ List.mem_cons_self
    refine ScanMatch.IsRepeated.not_precedes ⟨Nat.min_eq_right hskipped, ?_, hempty⟩ hlater
    change min (skipFrom skip text one.stop) again.stop = one.stop
    rw [hempty, Nat.min_eq_right (le_skipFrom skip text one.stop)]
  · intro hsingle later hlater
    have hle := hrest.le_of_mem hends (fun _ ↦ hahead.boundary) hlater
    refine (ScanMatch.precedes_or_isRepeated (Nat.min_le_right _ _) hle.2 hle.1).resolve_right
      fun hrepeated ↦ ?_
    obtain ⟨hskipped, -, hstop⟩ := hrepeated
    rcases hrest.lt_stop_or_eq_cons skip hends (fun _ ↦ hahead.boundary) with hafter | hfirst
    · exact absurd hstop (Nat.ne_of_gt (hafter later hlater))
    · obtain ⟨again, -, hagain, hempty, -, -⟩ := hfirst
      exact hsingle ⟨one, again, rfl, hconsumed, min_eq_right_iff.mp hskipped, hagain, hempty⟩

/-- The spans of a sweep are strictly increasing just when no look doubles. -/
theorem pairwise_precedes_iff (hends : text.EndsAhead outcome)
    (hsweep : Sweep text outcome offset probes) (hoffset : offset ≤ text.size →
      text.IsBoundary offset) :
    (probes.filterMap (Probe.found? text skip)).Pairwise ScanMatch.Precedes ↔
      ∀ probe ∈ probes, ¬ probe.Doubles text skip outcome := by
  induction hsweep with
  | past hpast => exact ⟨fun _ _ hnone ↦ (nomatch hnone), fun _ ↦ .nil⟩
  | @consumed offset one rest hinside hmatch hconsumed hrest ih =>
    have hboundary := (hends (hoffset hinside) hmatch).boundary
    rw [Probe.filterMap_found?_ok, List.pairwise_cons, List.forall_mem_cons,
      forall_precedes_iff hends (hoffset hinside) hmatch hconsumed hrest, ih fun _ ↦ hboundary]
  | @empty offset one rest hinside hmatch hempty hrest ih =>
    have hsingle : ¬ (⟨offset, .ok one⟩ : Probe).Doubles text skip outcome := by
      rintro ⟨other, again, hother, hconsumed, -⟩
      obtain rfl := Except.ok.inj hother
      exact Nat.ne_of_gt hconsumed hempty
    have hprecedes : ∀ later ∈ rest.filterMap (Probe.found? text skip),
        (⟨min (skipFrom skip text offset) one.stop, one.stop, one.results⟩ : ScanMatch).Precedes
        later := by
      intro later hlater
      have hbeyond := text.lt_next offset
      have hle := hrest.le_of_mem hends (hoffset hinside).next hlater
      have hstart := Nat.min_le_right (skipFrom skip text offset) one.stop
      refine Or.inl ?_
      change min (skipFrom skip text offset) one.stop < later.start
      omega
    rw [Probe.filterMap_found?_ok, List.pairwise_cons, List.forall_mem_cons,
      ih (hoffset hinside).next]
    exact and_congr_left' (iff_of_true hprecedes hsingle)
  | @failed offset failure rest hinside hfailed hrest ih =>
    have hsingle : ¬ (⟨offset, .error failure⟩ : Probe).Doubles text skip outcome := by
      rintro ⟨other, again, hother, -⟩
      cases hother
    rw [Probe.filterMap_found?_error, List.forall_mem_cons, ih (hoffset hinside).next]
    exact ⟨fun hrest ↦ ⟨hsingle, hrest⟩, And.right⟩

/-- A scan that comes to an end is a sweep. -/
theorem exists_of_outcome_scanFrom {evaluate : Matcher Trace}
    (hends : text.EndsAhead fun offset ↦ (evaluate offset).outcome) {all : List ScanMatch}
    (hall : (scanFrom text skip evaluate 0 []).outcome = .ok all) :
    ∃ probes, Sweep text (fun offset ↦ (evaluate offset).outcome) 0 probes := by
  rcases exists_or_stalls hends _ 0 rfl fun _ ↦ text.isBoundary_zero with
    hsweep | ⟨error, place, hstalls⟩
  · exact hsweep
  · rw [hstalls.outcome_scanFrom] at hall
    cases hall

end Sweep

/-! ### Sessions -/

/-- A trace of which a value is reported has that value. -/
theorem Trace.outcome_eq_ok_of_report {α : Type} {trace : Trace α} {text : Text} {value : α}
    (hreport : trace.report text = .ok value) : trace.outcome = .ok value := by
  rw [report] at hreport
  cases houtcome : trace.outcome with
  | ok other =>
    rw [houtcome] at hreport
    cases hreport
    rfl
  | error halt =>
    rw [houtcome] at hreport
    cases hreport

/-- A reply of a session is that of a trace with some room. -/
theorem Session.exists_trace_of_answer {grammar : Grammar} {text : Text} {history : List Request}
    {request : Request} {reply : Reply}
    (hanswer : (((start grammar text).after history).answer request).1 = .ok reply) :
    ∃ room, (request.evaluation grammar text (grammar.trace text room)).outcome = .ok reply := by
  have hgrammar : ((start grammar text).after history).grammar = grammar :=
    (start grammar text).grammar_after history
  have htext : ((start grammar text).after history).text = text :=
    (start grammar text).text_after history
  by_cases hpackrat : grammar.config.packrat = true
  · rcases hitsLimit_or_exists_report (hgrammar.symm ▸ hpackrat)
      (sound_after hpackrat (sound_start grammar text) history) request with hlimit
      | ⟨room, -, hreport⟩
    · obtain ⟨offset, limit, hlimit⟩ := hlimit
      cases hanswer.symm.trans hlimit
    · rw [hanswer, hgrammar, htext, grammar.trace_evaluation_deepening] at hreport
      exact ⟨room, Trace.outcome_eq_ok_of_report hreport.symm⟩
  · obtain ⟨counters, hplain⟩ := answer_of_not_packrat
      (hgrammar.symm ▸ Bool.eq_false_iff.mpr hpackrat) request
    rw [hplain, hgrammar, htext] at hanswer
    exact ⟨grammar.config.maxDepth, Trace.outcome_eq_ok_of_report hanswer⟩

namespace Grammar

theorem endsAhead_trace (grammar : Grammar) (text : Text) (room : Nat) (id : NodeId) :
    text.EndsAhead fun offset ↦ (grammar.trace text room id offset).outcome := by
  intro offset one hoffset hone
  have hended := (holds_trace (grammar.maintains_nothing text) room id offset hoffset).1
  change (grammar.trace text room id offset).outcome = .ok one at hone
  rw [hone] at hended
  exact hended.1

/-- A scan that succeeds gives the matches of a sweep, whatever was asked before. -/
theorem exists_sweep_of_scan {grammar : Grammar} {text : Text} {history : List Request}
    {found : List ScanMatch} (hscan : ((Session.start grammar text).after history).scan.1 =
      .ok found) :
    ∃ entry room probes, grammar.entry = some entry ∧
      text.EndsAhead (fun offset ↦ (grammar.trace text room entry offset).outcome) ∧
      Sweep text (fun offset ↦ (grammar.trace text room entry offset).outcome) 0 probes ∧
      found = probes.filterMap (Probe.found? text grammar.skip) := by
  have hanswer : (((Session.start grammar text).after history).answer .scan).1 =
      .ok (.found found) := by
    change ((Session.start grammar text).after history).scan.1.map Reply.found = _
    rw [hscan]
    rfl
  obtain ⟨room, hroom⟩ := Session.exists_trace_of_answer hanswer
  cases hentry : grammar.entry with
  | none =>
    simp only [Request.evaluation, hentry] at hroom
    cases hroom
  | some entry =>
    simp only [Request.evaluation, hentry] at hroom
    have hends := grammar.endsAhead_trace text room entry
    cases hall : (scanFrom text grammar.skip (grammar.trace text room entry) 0 []).outcome with
    | error halt =>
      rw [Trace.bind_of_error hall] at hroom
      cases hroom
    | ok all =>
      rw [Trace.bind_of_ok hall] at hroom
      obtain rfl := Reply.found.inj (Except.ok.inj hroom)
      obtain ⟨probes, hsweep⟩ :=
        Sweep.exists_of_outcome_scanFrom hends hall
      exact ⟨entry, room, probes, rfl, hends, hsweep,
        Except.ok.inj (hall.symm.trans (hsweep.outcome_scanFrom []))⟩

/-- The spans of a scan that succeeds. They are in order: a match comes before the later ones,
unless it is empty and found again in the same place, and no span is found three times. They are
strictly increasing just when no look of the scan finds no more than skipped characters where
nothing is found at their end, and so wherever nothing is skipped by default. -/
theorem spans_of_scan {grammar : Grammar} {text : Text} {history : List Request}
    {found : List ScanMatch} (hscan : ((Session.start grammar text).after history).scan.1 =
      .ok found) :
    (found.Pairwise fun earlier later ↦ earlier.Precedes later ∨ earlier.IsRepeated later) ∧
      (∀ start stop, found.countP (fun one ↦ one.start = start ∧ one.stop = stop) ≤ 2) ∧
      (∃ entry room probes, grammar.entry = some entry ∧
        Sweep text (fun offset ↦ (grammar.trace text room entry offset).outcome) 0 probes ∧
        found = probes.filterMap (Probe.found? text grammar.skip) ∧
        (found.Pairwise ScanMatch.Precedes ↔ ∀ probe ∈ probes,
          ¬ probe.Doubles text grammar.skip fun offset ↦
            (grammar.trace text room entry offset).outcome)) ∧
      (grammar.skip = none → found.Pairwise ScanMatch.Precedes) := by
  obtain ⟨entry, room, probes, hentry, hends, hsweep, rfl⟩ := exists_sweep_of_scan hscan
  have hstart : 0 ≤ text.size → text.IsBoundary 0 := fun _ ↦ text.isBoundary_zero
  have hthorough : Thorough text grammar.skip 0 probes := hsweep.thorough hends hstart
  have hiff : (probes.filterMap (Probe.found? text grammar.skip)).Pairwise ScanMatch.Precedes ↔
      ∀ probe ∈ probes, ¬ probe.Doubles text grammar.skip fun offset ↦
      (grammar.trace text room entry offset).outcome :=
    hsweep.pairwise_precedes_iff hends hstart
  refine ⟨?_, hsweep.countP_span_le hends hstart, ⟨entry, room, probes, hentry, hsweep, rfl, hiff⟩,
    fun hnone ↦ ?_⟩
  · refine hthorough.apart.imp_of_mem fun hearlier hlater hapart ↦ ?_
    exact ScanMatch.precedes_or_isRepeated (hthorough.inside _ hearlier).2.1
      (hthorough.inside _ hlater).2.1 hapart
  · refine hiff.mpr fun probe _ ⟨one, again, _, hconsumed, hskipped, _⟩ ↦ ?_
    rw [hnone] at hskipped
    exact Nat.not_le_of_lt hconsumed hskipped

end Grammar

/-- A letter or nothing, where nothing is skipped. -/
def Draft.letterOrNothing : Build Draft := do
  let letter ← Expr.literal "a"
  pure { entry := some (.expr (← letter.optional)), config := { blanks := .empty } }

def Grammar.letterOrNothing : Grammar where
  nodes := #[.terminal (.literal "a" false) none "Expected \"a\"", .optional 0 none]
  ruleNames := []
  ruleBodies := []
  entry := some 1
  config := { blanks := .empty }

/-- The draft of a letter or nothing builds into its grammar. -/
theorem Draft.build_letterOrNothing :
    (letterOrNothing 0).1.build = .ok Grammar.letterOrNothing := by
  cbv

namespace Grammar

/-- Around another letter, a letter is found once and nothing is found at each end, in a second scan
too. -/
theorem spans_of_scan_letterOrNothing :
    (Draft.letterOrNothing 0).1.build = .ok letterOrNothing ∧
      ∃ found, ((Session.start letterOrNothing (.ofChars ['a', 'b', 'a'])).after [.scan]).scan.1 =
        .ok found ∧ found.map (fun one ↦ (one.start, one.stop)) = [(0, 1), (1, 1), (2, 3), (3, 3)] ∧
        found.Pairwise ScanMatch.Precedes := by
  have hlast : Sweep (.ofChars ['a', 'b', 'a'])
      (fun offset ↦ (letterOrNothing.trace (.ofChars ['a', 'b', 'a']) 1000 1 offset).outcome) 2
      [⟨2, .ok ⟨3, .ofTokens [.str "a"]⟩⟩, ⟨3, .ok (.nothing 3)⟩] :=
    .consumed (by decide) (by cbv) (by decide) (.empty (by decide) (by cbv) rfl (.past (by decide)))
  have hsweep : Sweep (.ofChars ['a', 'b', 'a'])
      (fun offset ↦ (letterOrNothing.trace (.ofChars ['a', 'b', 'a']) 1000 1 offset).outcome) 0
      [⟨0, .ok ⟨1, .ofTokens [.str "a"]⟩⟩, ⟨1, .ok (.nothing 1)⟩,
        ⟨2, .ok ⟨3, .ofTokens [.str "a"]⟩⟩, ⟨3, .ok (.nothing 3)⟩] :=
    .consumed (by decide) (by cbv) (by decide) (.empty (by decide) (by cbv) rfl hlast)
  have hscan : ((Session.start letterOrNothing (.ofChars ['a', 'b', 'a'])).after [.scan]).scan.1 =
      .ok [⟨0, 1, .ofTokens [.str "a"]⟩, ⟨1, 1, .empty⟩, ⟨2, 3, .ofTokens [.str "a"]⟩,
        ⟨3, 3, .empty⟩] :=
    scan_after_of_trace rfl (hsweep.outcome_scanFrom []) [.scan]
  exact ⟨Draft.build_letterOrNothing, _, hscan, rfl, (spans_of_scan hscan).2.2.2 rfl⟩

end Grammar

/-! ### The end of a text after a blank -/

/-- The end of the text. -/
def Draft.atEnd : Build Draft := do
  pure { entry := some (.expr (← Expr.textEnd)) }

def Grammar.atEnd : Grammar where
  nodes := #[.textEnd (some .blanks)]
  ruleNames := []
  ruleBodies := []
  entry := some 0
  config := {}

namespace Draft

/-- The draft of the end of the text builds into its grammar. -/
theorem build_atEnd : (atEnd 0).1.build = .ok Grammar.atEnd := by
  cbv

/-- After a blank the end of the text is found twice: from the blank, which is skipped, and again
where it ends. So spans need not be strictly increasing. -/
theorem end_found_twice :
    ¬ ∀ (draft : Draft) (grammar : Grammar) (text : Text) (found : List ScanMatch),
      draft.build = .ok grammar → grammar.scan text = .ok found →
        found.Pairwise ScanMatch.Precedes := by
  intro hincreasing
  have hsweep : Sweep (.ofChars [' ']) (fun offset ↦
      (Grammar.atEnd.trace (.ofChars [' ']) 1000 0 offset).outcome) 0
        [⟨0, .ok (.nothing 1)⟩, ⟨1, .ok (.nothing 1)⟩] :=
    .consumed (by decide) (by cbv) (by decide) (.empty (by decide) (by cbv) rfl (.past (by decide)))
  have hscan : Grammar.atEnd.scan (.ofChars [' ']) = .ok [⟨1, 1, .empty⟩, ⟨1, 1, .empty⟩] :=
    Grammar.scan_after_of_trace rfl (hsweep.outcome_scanFrom []) []
  have hpairs := hincreasing _ _ _ _ build_atEnd hscan
  have hfirst := (List.pairwise_cons.mp hpairs).1 _ List.mem_cons_self
  rcases hfirst with hbefore | ⟨-, hbefore⟩
  · exact Nat.lt_irrefl _ hbefore
  · exact Nat.lt_irrefl _ hbefore

end Draft

end Packrat
