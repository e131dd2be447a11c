import Packrat.Proofs.Grammar.Supply
import Packrat.Proofs.Matching.Contexts
import Packrat.Proofs.Session.Doubles

/-!
# Where matches are said to start

A leaf skips characters of its own and begins after them (`Shape.Occupies`). An action around it,
and a scan that finds it, are told where the match starts by skipping once more, and what they skip
is what is skipped around them. Overrides between the two make a difference, names and groups do not
(`Expr.Wraps`).

The span that is told ends where the leaf ends, and starts where the leaf begins if the same
characters are skipped in both places, or as many of other ones. Otherwise it starts elsewhere, and
its text is not what the leaf took (`Shape.Spans`). So it is for every action that runs in a
session, and for every match of a scan (`Draft.spans_after`).
-/

set_option autoImplicit false
set_option relaxedAutoImplicit false

namespace Packrat

open MatchMonad

/-! ### Leaves inside frames -/

/-- A leaf takes characters of the text, or none, and has no parts. -/
def Shape.IsLeaf : Shape → Prop
  | .empty | .textEnd | .terminal _ | .regex _ _ => True
  | _ => False

/-- An expression is a leaf inside overrides, names, groups and actions. When the second set is
skipped around the expression, the first one is skipped before the leaf: that of the innermost
override. -/
inductive Expr.Wraps (leaf : Shape) (inner : Option CharSet) : Option CharSet → Expr → Prop
  | leaf (identity : Nat) (hleaf : leaf.IsLeaf) : Wraps leaf inner inner ⟨identity, leaf⟩
  | blanks {outer set : Option CharSet} {identity : Nat} {child : Expr}
    (hchild : Wraps leaf inner (overriding set) child) :
    Wraps leaf inner outer ⟨identity, .blanks child set⟩
  | named {outer : Option CharSet} {identity : Nat} {child : Expr}
    {name : String} {accumulate : Bool} (hchild : Wraps leaf inner outer child) :
    Wraps leaf inner outer ⟨identity, .named child name accumulate⟩
  | group {outer : Option CharSet} {identity : Nat} {child : Expr}
    (hchild : Wraps leaf inner outer child) :
    Wraps leaf inner outer ⟨identity, .group child⟩
  | action {outer : Option CharSet} {identity : Nat} {child : Expr} {actions : List Action}
    (hchild : Wraps leaf inner outer child) :
    Wraps leaf inner outer ⟨identity, .action child actions⟩

/-- A leaf matches at an offset: where it begins, after the characters that are skipped before it,
and what it takes from there on. Nothing is skipped before an empty literal. -/
inductive Shape.Occupies (text : Text) (skip : Option CharSet) (offset : Nat) :
    Shape → Nat → List Char → Prop
  | empty : Occupies text skip offset .empty offset []
  | textEnd (hend : skipFrom skip text offset = text.size) :
    Occupies text skip offset .textEnd (skipFrom skip text offset) []
  | emptyLiteral {terminal : Terminal} (hempty : terminal.IsEmptyLiteral) :
    Occupies text skip offset (.terminal terminal) offset []
  | terminal {terminal : Terminal} {taken : List Char} {token : Token}
    (hproper : ¬ terminal.IsEmptyLiteral)
      (hscan : terminal.scan (text.before? (skipFrom skip text offset))
        (text.rest (skipFrom skip text offset)) =
      .found (taken, token)) :
    Occupies text skip offset (.terminal terminal) (skipFrom skip text offset) taken
  | regex {engine : RegexEngine} {pattern : String} {regex : CompiledRegex} {taken : List Char}
    {token : Token} (hpattern : engine.compile? (Compile.anchored pattern) = some regex)
    (hscan : Matcher.scanRegex regex (text.before? (skipFrom skip text offset))
      (text.rest (skipFrom skip text offset)) = .found (taken, token)) :
    Occupies text skip offset (.regex engine pattern) (skipFrom skip text offset) taken

/-- How the span that is told of a match of a leaf stands to what the leaf took, when one set of
characters is skipped by what is told and another one before the leaf. -/
structure Shape.Spans (text : Text) (outer inner : Option CharSet) (offset : Nat)
    (leaf : Shape) (origin : Nat) (taken : List Char) (start stop : Nat) : Prop where
  /-- The leaf begins at a place and takes characters from there on. -/
  occupies : leaf.Occupies text inner offset origin taken
  /-- The span ends where they end. -/
  stop_eq : stop = origin + byteLength taken
  /-- It starts after characters skipped from the offset on, but not after its end. -/
  start_eq : start = min (skipFrom outer text offset) stop
  /-- Its text is what the leaf took just if it starts where the leaf begins. -/
  matched : text.slice start stop = taken ↔ start = origin
  /-- If the leaf takes something, it does just if both sets skip equally far. -/
  agree : taken ≠ [] → (start = origin ↔ skipFrom outer text offset = skipFrom inner text offset)
  /-- If it takes nothing, it does just if what is told skips as far at least. -/
  nothing : taken = [] → (start = origin ↔ origin ≤ skipFrom outer text offset)
  /-- It does if no override comes between the two. -/
  same : outer = inner → start = origin

variable {text : Text} {skip outer inner : Option CharSet} {offset origin : Nat}
  {leaf : Shape} {taken : List Char}

namespace Shape.Occupies

theorem isPrefix (hoccupies : leaf.Occupies text skip offset origin taken) :
    taken <+: text.rest origin := by
  cases hoccupies with
  | empty => exact List.nil_prefix
  | textEnd _ => exact List.nil_prefix
  | emptyLiteral _ => exact List.nil_prefix
  | terminal _ hscan => exact (Terminal.scan_eq_found hscan).1
  | regex _ hscan => exact (CompiledRegex.scanRegex_eq_found hscan).1

/-- A leaf begins after the characters that are skipped before it, unless it begins at once and
takes nothing. -/
theorem origin_eq (hoccupies : leaf.Occupies text skip offset origin taken) :
    origin = skipFrom skip text offset ∨ (origin = offset ∧ taken = []) := by
  cases hoccupies with
  | empty => exact Or.inr ⟨rfl, rfl⟩
  | textEnd _ => exact Or.inl rfl
  | emptyLiteral _ => exact Or.inr ⟨rfl, rfl⟩
  | terminal _ _ => exact Or.inl rfl
  | regex _ _ => exact Or.inl rfl

/-- What is told of a match of a leaf at a boundary. -/
theorem spans (hoccupies : leaf.Occupies text inner offset origin taken) (outer : Option CharSet)
    (hoffset : text.IsBoundary offset) {start stop : Nat} (hstop : stop = origin + byteLength taken)
    (hstart : start = min (skipFrom outer text offset) stop) :
    leaf.Spans text outer inner offset origin taken start stop := by
  obtain ⟨more, hrest⟩ := hoccupies.isPrefix
  have hle := le_skipFrom inner text offset
  have horigin : text.IsBoundary origin := by
    rcases hoccupies.origin_eq with rfl | ⟨rfl, -⟩
    · exact (hoffset.ahead_skipFrom inner).boundary
    · exact hoffset
  have hend : text.IsBoundary stop := by
    rw [hstop]
    exact horigin.add_byteLength ⟨more, hrest⟩
  have houter := hoffset.ahead_skipFrom outer
  constructor
  case occupies => exact hoccupies
  case stop_eq => exact hstop
  case start_eq => exact hstart
  case matched =>
    constructor
    · intro hslice
      have hboundary : text.IsBoundary start := by
        rcases Nat.le_total (skipFrom outer text offset) stop with hbefore | hafter
        · rw [hstart, Nat.min_eq_left hbefore]
          exact houter.boundary
        · rw [hstart, Nat.min_eq_right hafter]
          exact hend
      obtain ⟨run, hrun, hlength⟩ :=
        (hend.ahead (hstart ▸ Nat.min_le_right _ _)).exists_run hboundary
      rw [hlength, Text.slice_of_rest_eq hrun] at hslice
      rw [hslice] at hlength
      omega
    · rintro rfl
      rw [hstop]
      exact Text.slice_of_rest_eq hrest.symm
  case agree =>
    intro htaken
    have hpositive := byteLength_pos htaken
    have hskipped : origin = skipFrom inner text offset :=
      hoccupies.origin_eq.resolve_right fun hnothing ↦ htaken hnothing.2
    omega
  case nothing =>
    rintro rfl
    rw [byteLength_nil] at hstop
    omega
  case same =>
    rintro rfl
    rcases hoccupies.origin_eq with hskipped | ⟨hfirst, hnothing⟩
    · omega
    · rw [hnothing, byteLength_nil] at hstop
      omega

end Shape.Occupies

/-! ### What leaves come to -/

/-- What is scanned ends where what was taken ends. -/
theorem Matcher.exists_of_scanned {expected : String}
    {scan : Option Char → List Char → Scan (List Char × Token)} {found : Match}
    (hfound : Matcher.scanned text skip expected scan offset = Ending.ended found) :
    ∃ taken token, scan (text.before? (skipFrom skip text offset))
      (text.rest (skipFrom skip text offset)) =
        .found (taken, token) ∧ found.stop = skipFrom skip text offset + byteLength taken := by
  simp only [Matcher.scanned] at hfound
  split at hfound
  next taken token hscan =>
    refine ⟨taken, token, hscan, ?_⟩
    rw [← Ending.ended.inj hfound]
  all_goals cases hfound

/-- The match of a leaf ends where what it took ends. -/
theorem Shape.IsLeaf.exists_occupies (hleaf : leaf.IsLeaf)
    {read : Option CharSet → Expr → Matcher Ending} {rule : String → Matcher Ending}
    {identity : Nat} {found : Match} (hfound : leaf.matcher text read rule skip identity offset =
      .ended found) :
    ∃ origin taken, leaf.Occupies text skip offset origin taken ∧
      found.stop = origin + byteLength taken := by
  cases leaf with
  | empty =>
    obtain rfl := Ending.ended.inj hfound
    exact ⟨offset, [], .empty, rfl⟩
  | textEnd =>
    simp only [Shape.matcher, Matcher.textEnd] at hfound
    split at hfound
    next hend =>
      obtain rfl := Ending.ended.inj hfound
      exact ⟨_, [], .textEnd hend, rfl⟩
    next => cases hfound
  | terminal form =>
    simp only [Shape.matcher] at hfound
    split at hfound
    next hempty =>
      obtain rfl := Ending.ended.inj hfound
      exact ⟨offset, [], .emptyLiteral hempty, rfl⟩
    next hproper =>
      obtain ⟨taken, token, hscan, hstop⟩ := Matcher.exists_of_scanned hfound
      exact ⟨_, taken, .terminal hproper hscan, hstop⟩
  | regex engine pattern =>
    cases hpattern : engine.compile? (Compile.anchored pattern) with
    | some program =>
      simp only [Shape.matcher, hpattern] at hfound
      obtain ⟨taken, token, hscan, hstop⟩ := Matcher.exists_of_scanned hfound
      exact ⟨_, taken, .regex hpattern hscan, hstop⟩
    | none =>
      simp only [Shape.matcher, hpattern] at hfound
      cases hfound
  | _ => exact hleaf.elim

/-- A leaf stands inside no override of its own. -/
theorem Shape.IsLeaf.innermost_eq (hleaf : leaf.IsLeaf) (identity : Nat) :
    (⟨identity, leaf⟩ : Expr).innermost skip = (skip, ⟨identity, leaf⟩) := by
  match leaf, hleaf with
  | .empty, _ | .textEnd, _ | .terminal _, _ | .regex _ _, _ => rfl

variable {draft : Draft} {grammar : Grammar} {expr : Expr}

/-- An expression with actions became a node with these actions around what it is inside. -/
theorem Expr.CompilesTo.exists_of_action {identity : Nat} {child : Expr} {actions : List Action}
    {id : NodeId} (hid : (⟨identity, .action child actions⟩ : Expr).CompilesTo grammar.nodes
      grammar.ruleNames outer id) :
    ∃ inside, grammar.node id = .action inside actions outer ∧
      child.CompilesTo grammar.nodes grammar.ruleNames outer inside := by
  cases hid with
  | node hnode hlowers hlength hchildren =>
    cases hlowers with
    | action child actions inside =>
      refine ⟨inside, ?_, hchildren (outer, child) inside List.mem_cons_self⟩
      rw [Grammar.node, hnode, Option.getD_some]

/-- A match of an expression that starts with its child is made of a match of the child. -/
theorem Draft.LowersTo.exists_of_child (hlowers : draft.LowersTo grammar)
    {id : NodeId} {child : Expr} (hid : expr.CompilesTo grammar.nodes grammar.ruleNames outer id)
    (hchild : (outer, child) ∈ expr.shape.children outer) {next : Match → Ending Match}
    {found : Match} (hmeaning : grammar.meaning text outer expr offset =
      grammar.meaning text outer child offset >>= next)
    (hfound : grammar.ending text id offset = .ended found) :
    ∃ inner inside, child.CompilesTo grammar.nodes grammar.ruleNames outer inner ∧
      grammar.ending text inner offset = .ended inside ∧ next inside = .ended found := by
  obtain ⟨inner, hinner⟩ := hid.exists_child hchild
  rw [hlowers.ending_eq_meaning text hid, hmeaning] at hfound
  obtain ⟨inside, hinside, hlast⟩ := Ending.exists_of_bind_eq_ended hfound
  exact ⟨inner, inside, hinner, (congrFun (hlowers.ending_eq_meaning text hinner) offset).trans
    hinside, hlast⟩

/-- The match of an expression that wraps a leaf ends where what the leaf took ends. The induction
is on the frames around the leaf. -/
theorem Expr.Wraps.exists_occupies (hwraps : expr.Wraps leaf inner outer)
    (hlowers : draft.LowersTo grammar) :
    ∀ {id : NodeId} {found : Match}, expr.CompilesTo grammar.nodes grammar.ruleNames outer id →
      grammar.ending text id offset = .ended found →
      ∃ origin taken, leaf.Occupies text inner offset origin taken ∧
        found.stop = origin + byteLength taken := by
  induction hwraps with
  | leaf identity hleaf =>
    intro id found hid hfound
    rw [hlowers.ending_eq_meaning text hid, hlowers.meaning_eq text hid,
      hleaf.innermost_eq] at hfound
    exact hleaf.exists_occupies hfound
  | blanks _ ih =>
    intro id found hid hfound
    cases hid with
    | node _ hshape _ _ => cases hshape
    | blanks hchild => exact ih hchild hfound
  | named _ ih | group _ ih =>
    intro id found hid hfound
    obtain ⟨child, inside, hchild, hinside, hlast⟩ :=
      hlowers.exists_of_child hid List.mem_cons_self
        (congrFun (hlowers.meaning_eq text hid) offset) hfound
    have hends := ih hchild hinside
    rw [← Ending.ended.inj hlast]
    exact hends
  | action _ ih =>
    intro id found hid hfound
    obtain ⟨child, inside, hchild, hinside, hacted⟩ :=
      hlowers.exists_of_child hid List.mem_cons_self
        (congrFun (hlowers.meaning_eq text hid) offset) hfound
    obtain ⟨results, -, hlast⟩ := Ending.exists_of_bind_eq_ended hacted
    have hends := ih hchild hinside
    rw [← Ending.ended.inj hlast]
    exact hends

/-! ### Sessions -/

namespace Session

variable {session : Session}

/-- Answering a request, a session keeps what its state attests. -/
theorem attests_answer (hstate : session.state.Attests session.grammar session.text)
    (request : Request) :
    (session.answer request).2.state.Attests session.grammar session.text := by
  have hholds : (Engine.attesting session.grammar session.text).Holds
      (request.evaluation session.grammar session.text session.matcher)
      (request.evaluation session.grammar session.text session.matcher) fun _ ↦ True :=
    (Engine.attesting session.grammar session.text).holds_evaluation True.intro (fun _ ↦ True.intro)
      (fun id offset _ ↦ Grammar.attests_evaluate session.grammar.config.maxDepth id offset) request
  rw [answer_snd]
  exact (hholds session.state hstate).1.of_eq rfl rfl

/-- Whatever was asked of a session, the actions that ran saw what their nodes matched. -/
theorem attests_after (grammar : Grammar) (text : Text) (history : List Request) :
    ((start grammar text).after history).state.Attests grammar text := by
  suffices hsession : ∀ session : Session, session.grammar = grammar → session.text = text →
      session.state.Attests grammar text → (session.after history).state.Attests grammar text from
    hsession _ rfl rfl ⟨valid_after grammar text [], fun _ hrun ↦ nomatch hrun⟩
  induction history with
  | nil => exact fun _ _ _ hstate ↦ hstate
  | cons request rest ih =>
    rintro session rfl rfl hstate
    refine ih (session.answer request).2 ?_ ?_ (attests_answer hstate request)
    · rw [answer_snd]
      rfl
    · rw [answer_snd]
      rfl

end Session

/-- A match that a look finds is one at a boundary, and the span that is told of it ends where it
ends. -/
theorem Sweep.exists_ending_of_found {room : Nat} {id : NodeId} {probes : List Probe}
    (hsweep : Sweep text (fun offset ↦ (grammar.trace text room id offset).outcome) 0 probes)
    {probe : Probe} (hprobe : probe ∈ probes) {one : ScanMatch}
    (hone : probe.found? text skip = some one) :
    text.IsBoundary probe.place ∧ ∃ inside, grammar.ending text id probe.place = .ended inside ∧
      one = ⟨min (skipFrom skip text probe.place) inside.stop, inside.stop, inside.results⟩ := by
  have hthorough : Thorough text skip 0 probes :=
    hsweep.thorough (grammar.endsAhead_trace text room id) fun _ ↦ text.isBoundary_zero
  refine ⟨hthorough.boundary probe hprobe, ?_⟩
  have houtcome := hsweep.outcome_place probe hprobe
  obtain ⟨place, result⟩ := probe
  cases result with
  | error failure => cases hone
  | ok inside =>
    refine ⟨inside, ?_, (Option.some.inj hone).symm⟩
    exact (grammar.deepening text id place).ending_of_outcome room houtcome
      (not_isLimited_ok inside)

namespace Draft

/-- What is told of the place of a leaf. Whatever was asked of a session, an action that ran around
a leaf was told a span of what the leaf took, and so is everybody of the match at each look of a
scan whose entry is a leaf in frames: it starts where the leaf begins if the same characters are
skipped around the action, or by the scan, as before the leaf, or as many others, and otherwise it
does not. An action around the whole entry is told the same as the scan tells of the match. -/
theorem spans_after (hcoherent : draft.Coherent) (hbuild : draft.build = .ok grammar) (leaf : Shape)
    (inner : Option CharSet) (text : Text) (history : List Request) :
    (∀ run ∈ ((Session.start grammar text).after history).invocations.toList,
      ∀ (outer : Option CharSet) (identity : Nat) (child : Expr) (actions : List Action),
        (⟨identity, .action child actions⟩ : Expr).CompilesTo grammar.nodes grammar.ruleNames
          outer run.node →
        child.Wraps leaf inner outer → run.context.text = text ∧
          ∃ origin taken, leaf.Spans text outer inner run.offset origin taken run.context.start
            run.context.stop) ∧
      ∀ entry, draft.entry = some (.expr entry) → entry.Wraps leaf inner grammar.skip →
        ∀ matched, ((Session.start grammar text).after history).scan.1 = .ok matched →
          ∃ id room probes, grammar.entry = some id ∧
            Sweep text (fun offset ↦ (grammar.trace text room id offset).outcome) 0 probes ∧
            matched = probes.filterMap (Probe.found? text grammar.skip) ∧
            ∀ probe ∈ probes, ∀ one, probe.found? text grammar.skip = some one → ∃ origin taken,
              leaf.Spans text grammar.skip inner probe.place origin taken one.start one.stop ∧
              ∀ child actions, entry.shape = .action child actions → ∀ (later : List Request),
                ∀ run ∈ ((Session.start grammar text).after later).invocations.toList,
                  grammar.entry = some run.node → run.offset = probe.place →
                    run.context = ⟨text, one.start, one.stop⟩ := by
  have hlowers := lowersTo_of_compile hcoherent (build_eq_ok_iff.mp hbuild).1
  constructor
  · intro run hrun outer identity child actions hid hwraps
    obtain ⟨inside, hnode, hchild⟩ := hid.exists_of_action
    obtain ⟨found, hfound, hcontext⟩ :=
      ((Session.attests_after grammar text history).runs run hrun).exists_match hnode
    obtain ⟨origin, taken, hoccupies, hstop⟩ := hwraps.exists_occupies hlowers hchild hfound
    have hboundary := ((Session.fulfils_after (grammar.maintains_nothing text) history).invocations
      run hrun).boundary
    rw [hcontext]
    exact ⟨rfl, origin, taken, hoccupies.spans outer hboundary hstop rfl⟩
  · intro entry hentry hwraps matched hscan
    obtain ⟨id, room, probes, hstart, -, hsweep, rfl⟩ := Grammar.exists_sweep_of_scan hscan
    refine ⟨id, room, probes, hstart, hsweep, rfl, fun probe hprobe one hone ↦ ?_⟩
    obtain ⟨other, hother, hid⟩ := hlowers.exists_entry hentry (.expr entry)
    obtain rfl := Option.some.inj (hstart.symm.trans hother)
    rw [← hlowers.ruleNames, ← hlowers.config] at hid
    obtain ⟨hplace, found, hfound, rfl⟩ := hsweep.exists_ending_of_found hprobe hone
    obtain ⟨origin, taken, hoccupies, hstop⟩ := hwraps.exists_occupies hlowers hid hfound
    refine ⟨origin, taken, hoccupies.spans grammar.skip hplace hstop rfl, ?_⟩
    rintro child actions hshape later run hrun hnode hoffset
    rw [← hoffset] at hfound ⊢
    obtain ⟨identity, shape⟩ := entry
    obtain rfl : shape = .action child actions := hshape
    obtain rfl := Option.some.inj (hstart.symm.trans hnode)
    obtain ⟨inside, hnode, -⟩ := hid.exists_of_action
    obtain ⟨other, hother, hcontext⟩ :=
      ((Session.attests_after grammar text later).runs run hrun).exists_match hnode
    rw [Grammar.ending_eq, hnode, Grammar.matcher_action, hother, Ending.ended_bind] at hfound
    obtain ⟨results, -, hlast⟩ := Ending.exists_of_bind_eq_ended hfound
    rw [hcontext, ← Ending.ended.inj hlast]
    rfl

end Draft

/-! ### A literal in frames -/

/-- A literal with skipped characters of its own, under a name and in a group, with an action that
keeps its results. -/
def Draft.framed (content : String) (set : Option CharSet) : Build Draft := do
  let leaf ← Expr.literal content
  let apart ← Expr.ofShape (.blanks leaf set)
  let named ← apart.withName "letter" false
  let group ← named.group
  let acted ← group.act (Action.transform fun _ _ ↦ .keep)
  pure { entry := some (.expr acted) }

def Grammar.framed (content expected : String) (skip : Option CharSet) : Grammar where
  nodes := #[.terminal (.literal content false) skip expected, .named 0 "letter" false, .group 1,
    .action 2 [Action.transform fun _ _ ↦ .keep] (some .blanks)]
  ruleNames := []
  ruleBodies := []
  entry := some 3
  config := {}

namespace Draft

theorem coherent_framed (content : String) (set : Option CharSet) (next : Nat) :
    (framed content set next).1.Coherent := by
  have hdraws : Build.Draws (fun _ ↦ False) (framed content set) Drawn := by
    refine Build.draws_bind (Build.draws_leaf fun _ ↦ rfl) fun leaf first _ hleaf ↦ ?_
    refine Build.draws_bind (Build.draws_around (fun _ ↦ rfl) hleaf) fun apart second _ hapart ↦ ?_
    refine Build.draws_bind (Build.draws_around (fun _ ↦ rfl) hapart) fun named third _ hnamed ↦ ?_
    refine Build.draws_bind (Build.draws_around (fun _ ↦ rfl) hnamed) fun group fourth _ hgroup ↦ ?_
    refine Build.draws_bind (Build.draws_act _ group hgroup) fun acted drawn _ hacted ↦
      Build.draws_pure _ ⟨fun _ hbody ↦ (nomatch hbody), fun entry hentry ↦ ?_⟩
    obtain rfl := EntryPoint.expr.inj (Option.some.inj hentry)
    exact hacted
  exact hdraws.coherent next

theorem build_framed_letter :
    (framed "a" (some (.ofString " ")) 0).1.build =
      .ok (Grammar.framed "a" "Expected \"a\"" (some (.ofString " "))) := by
  cbv

theorem build_framed_blank :
    (framed " a" none 0).1.build = .ok (Grammar.framed " a" "Expected \" a\"" none) := by
  cbv

end Draft

/-- What the group around a literal in frames yields. -/
def Results.framed (content : String) : Results :=
  .ofToken (.group [.str content] [⟨"letter", [⟨0, 1⟩], false⟩])

/-- A run of the action around a literal in frames, from the start of a text. -/
def Invocation.framed (content : String) (text : Text) (start stop : Nat) : Invocation :=
  ⟨3, 0, 0, Action.transform fun _ _ ↦ .keep, ⟨text, start, stop⟩, .framed content⟩

/-- The actions of one request that ends with a value are those of its trace, each of them once. -/
theorem Session.invocations_after_request {grammar : Grammar}
    (hpackrat : grammar.config.packrat = true) {text : Text} {request : Request}
    (hok : (grammar.requestTrace text request).outcome.isOk = true) :
    ((start grammar text).after [request]).invocations.toList =
      firstRuns (runsOf (grammar.requestTrace text request).events) := by
  obtain ⟨reply, hreply⟩ := exists_of_isOk hok
  have hunlimited : ∀ other ∈ [request],
      ¬ ((start grammar text).grammar.requestTrace (start grammar text).text other).Limited := by
    intro other hother
    rw [List.mem_singleton.mp hother, Trace.Limited]
    exact hreply ▸ not_isLimited_ok reply
  rw [invocations_after hpackrat (sound_start grammar text) [request] hunlimited,
    List.flatMap_singleton]
  rfl

namespace Draft

theorem exists_of_framed {content expected : String} {set skip : Option CharSet}
    (hbuild : (framed content set 0).1.build = .ok (Grammar.framed content expected skip)) :
    ∃ identity child actions, (framed content set 0).1.entry =
      some (.expr ⟨identity, .action child actions⟩) ∧
        child.Wraps (.terminal (.literal content false)) (overriding set) (some .blanks) ∧
      (⟨identity, .action child actions⟩ : Expr).CompilesTo
        (Grammar.framed content expected skip).nodes
          (Grammar.framed content expected skip).ruleNames (some .blanks) 3 := by
  have hlowers := lowersTo_of_compile (coherent_framed content set 0) (build_eq_ok_iff.mp hbuild).1
  obtain ⟨id, hid, hcompiles⟩ := hlowers.exists_entry rfl (.expr _)
  obtain rfl := Option.some.inj hid
  exact ⟨4, _, _, rfl, .group (.named (.blanks (.leaf 0 True.intro))), hcompiles⟩

/-- Other blanks are skipped before a letter than around it. Both sets lead to the letter after two
spaces, and this is where its match is said to start, to the action and by the scan. -/
theorem spans_after_letter :
    let text := Text.ofChars [' ', ' ', 'a']
    let set := CharSet.ofString " "
    let grammar := Grammar.framed "a" "Expected \"a\"" (some set)
    let leaf : Shape := .terminal (.literal "a" false)
    (framed "a" (some set) 0).1.Coherent ∧ (framed "a" (some set) 0).1.build = .ok grammar ∧
      .framed "a" text 2 3 ∈ ((Session.start grammar text).after
        [.parse false]).invocations.toList ∧
      ((Session.start grammar text).after [.parse false]).scan.1 = .ok [⟨2, 3, .framed "a"⟩] ∧
      text.slice 2 3 = ['a'] ∧
      (∃ taken, leaf.Spans text (some .blanks) (some set) 0 2 taken 2 3) ∧
      ∃ place taken, leaf.Spans text (some .blanks) (some set) place 2 taken 2 3 := by
  intro text set grammar leaf
  have hrun : .framed "a" text 2 3 ∈
      ((Session.start grammar text).after [.parse false]).invocations.toList := by
    have hruns : firstRuns (runsOf (grammar.requestTrace text (.parse false)).events) =
        [.framed "a" text 2 3] := by
      cbv
    rw [Session.invocations_after_request rfl (by cbv), hruns]
    exact List.mem_cons_self
  have hscan : ((Session.start grammar text).after [.parse false]).scan.1 =
      .ok [⟨2, 3, .framed "a"⟩] :=
    Grammar.scan_after_of_trace rfl (by cbv) [.parse false]
  obtain ⟨identity, child, actions, hentry, hwraps, hid⟩ := exists_of_framed build_framed_letter
  have hspans := spans_after (coherent_framed "a" (some set) 0) build_framed_letter leaf
    (some set) text [.parse false]
  obtain ⟨-, origin, taken, htold⟩ :=
    hspans.1 _ hrun (some .blanks) identity child actions hid hwraps
  obtain ⟨_, _, probes, -, -, hmatched, hlooks⟩ := hspans.2 _ hentry (.action hwraps) _ hscan
  obtain ⟨probe, hprobe, hone⟩ := List.mem_filterMap.mp (hmatched ▸ List.mem_cons_self)
  obtain ⟨source, found, hfound, -⟩ := hlooks probe hprobe _ hone
  have hplace : probe.place ≤ 2 := by
    have hle := le_skipFrom (some .blanks) text probe.place
    have hstart : 2 = min (skipFrom (some .blanks) text probe.place) 3 := hfound.start_eq
    omega
  have hletter : ∀ place ≤ 2, skipFrom (some .blanks) text place = 2 ∧
      skipFrom (some set) text place = 2 := by
    decide
  have hbegins {place origin : Nat} {taken : List Char} (hplace : place ≤ 2)
      (htold : leaf.Spans text (some .blanks) (some set) place origin taken 2 3) : origin = 2 := by
    rcases htold.occupies.origin_eq with hskipped | ⟨hfirst, hnothing⟩
    · exact hskipped.trans (hletter place hplace).2
    · have hstop := htold.stop_eq
      rw [hnothing, byteLength_nil] at hstop
      omega
  obtain rfl := hbegins (Nat.zero_le 2) htold
  obtain rfl := hbegins hplace hfound
  exact ⟨coherent_framed "a" (some set) 0, build_framed_letter, hrun,
    hscan, by decide, ⟨taken, htold⟩, _, found, hfound⟩

/-- Nothing is skipped before a literal that begins with a blank. In a text of just this literal the
literal begins at the start and takes the whole text, but the action around it is told that the
match starts after the blank, and so does a scan tell. -/
theorem span_starts_late :
    let text := Text.ofChars [' ', 'a']
    let grammar := Grammar.framed " a" "Expected \" a\"" none
    let leaf : Shape := .terminal (.literal " a" false)
    (framed " a" none 0).1.Coherent ∧ (framed " a" none 0).1.build = .ok grammar ∧
      (∃ identity child actions, (framed " a" none 0).1.entry =
        some (.expr ⟨identity, .action child actions⟩) ∧ child.Wraps leaf none grammar.skip) ∧
      .framed " a" text 1 2 ∈ ((Session.start grammar text).after
        [.parse false]).invocations.toList ∧
      ((Session.start grammar text).after [.parse false]).scan.1 = .ok [⟨1, 2, .framed " a"⟩] ∧
      leaf.Occupies text none 0 0 [' ', 'a'] ∧
      ∀ origin taken, leaf.Occupies text none 0 origin taken →
        (Invocation.framed " a" text 1 2).context.start ≠ origin ∧
        (Invocation.framed " a" text 1 2).context.matched ≠ taken := by
  intro text grammar leaf
  have hrun : .framed " a" text 1 2 ∈
      ((Session.start grammar text).after [.parse false]).invocations.toList := by
    have hruns : firstRuns (runsOf (grammar.requestTrace text (.parse false)).events) =
        [.framed " a" text 1 2] := by
      cbv
    rw [Session.invocations_after_request rfl (by cbv), hruns]
    exact List.mem_cons_self
  have htaken : (Terminal.literal " a" false).scan (text.before? 0) (text.rest 0) =
      .found ([' ', 'a'], .str " a") := by
    cbv
  obtain ⟨identity, child, actions, hentry, hwraps, -⟩ := exists_of_framed build_framed_blank
  refine ⟨coherent_framed " a" none 0, build_framed_blank,
    ⟨identity, child, actions, hentry, hwraps⟩, hrun,
    Grammar.scan_after_of_trace rfl (by cbv) [.parse false], .terminal (by decide) htaken, ?_⟩
  intro origin taken hoccupies
  replace hoccupies : (Shape.terminal (.literal " a" false)).Occupies text none 0 origin taken :=
    hoccupies
  cases hoccupies with
  | emptyLiteral hempty => exact absurd hempty (by decide)
  | terminal hproper hscan =>
    obtain rfl := (Prod.mk.inj (Scan.found.inj (htaken.symm.trans hscan))).1
    exact ⟨by decide, by decide⟩

end Draft

end Packrat
