import Packrat.Proofs.Matching.Items
import Packrat.Proofs.Terminal.Numerals
import Packrat.Proofs.Terminal.Options
import Packrat.Proofs.Terminal.Quoted

/-!
# Terminals in sessions

Whatever was asked of a session before, a terminal finds at an offset what it takes of the text
after skipped characters (`Grammar.evaluate_after_of_terminal`). What was proved of a terminal alone
so holds in every session.

A node that became one of several strings takes the longest of them that stands there
(`Grammar.takes_longest_option`). When case is ignored it does so if every option is taken whole
where it stands alone (`Grammar.takes_longest_option_caseless`), which not all options are
(`Grammar.not_takesLongest_dotted`). Where a content was written as a quoted string, it is what the
quoted string yields (`Grammar.evaluate_after_of_encodes`). A number without fractions takes all
digits that stand there and yields their value, or fails where this does not fit into 64 bits
(`Grammar.evaluate_after_of_numeral`).
-/

set_option autoImplicit false
set_option relaxedAutoImplicit false

namespace Packrat

/-! ### Terminals -/

/-- The outcome of a terminal at an offset of a text, after skipped characters. -/
def Terminal.outcome (form : Terminal) (text : Text) (skip : Option CharSet) (offset : Nat) :
    Except Halt Match :=
  let start := skipFrom skip text offset
  match form.scan (text.before? start) (text.rest start) with
  | .found taken => .ok ⟨start + byteLength taken.1, .ofToken taken.2⟩
  | .missing => .error (.failure (.ordinary start ("Expected " ++ form.describe)))
  | .endless => .error (.error .endless)

theorem Terminal.not_isLimited_outcome (form : Terminal) {text : Text} {skip : Option CharSet}
    {offset : Nat} : ¬ IsLimited (form.outcome text skip offset) := by
  simp only [Terminal.outcome]
  split
  · exact not_isLimited_ok _
  · exact not_isLimited_failure _
  · exact not_false

theorem Terminal.outcome_of_endless {form : Terminal} {text : Text} {skip : Option CharSet}
    {offset start : Nat} (hstart : skipFrom skip text offset = start)
    (hscan : form.scan (text.before? start) (text.rest start) = .endless) :
    form.outcome text skip offset = .error (.error .endless) := by
  subst hstart
  simp only [Terminal.outcome, hscan]

/-- One of several strings is no empty string as a terminal. -/
theorem Terminal.not_isEmptyLiteral_oneOf (options : Options) (caseless : Bool) :
    ¬ (oneOf options caseless).IsEmptyLiteral := by
  rintro (hempty | hempty) <;> cases hempty

theorem Terminal.not_isEmptyLiteral_quoted (form : Quoted) : ¬ (quoted form).IsEmptyLiteral := by
  rintro (hempty | hempty) <;> cases hempty

theorem Terminal.not_isEmptyLiteral_numeral (kind : Numeral) : ¬ (numeral kind).IsEmptyLiteral := by
  rintro (hempty | hempty) <;> cases hempty

/-- A terminal that is no empty string becomes a node of its own if nothing is wrong with it. -/
theorem Compile.terminalNode_eq_ok_iff {form : Terminal} {skip : Option CharSet} {expected : String}
    {node : Node} (hproper : ¬ form.IsEmptyLiteral) :
    terminalNode form skip expected = .ok node ↔ fault? form = none ∧
      .terminal form skip expected = node := by
  simp only [terminalNode, Terminal.IsEmptyLiteral] at hproper ⊢
  rw [if_neg hproper]
  cases fault? form with
  | none => simp
  | some found => simp

namespace Grammar

variable {grammar : Grammar} {skip : Option CharSet} {id : NodeId} {identity : Nat}
  {form : Terminal}

/-- A node that became a terminal is one, and nothing was wrong with it. -/
theorem node_of_terminal
    (hid : (⟨identity, .terminal form⟩ : Expr).CompilesTo grammar.nodes grammar.ruleNames skip id)
    (hproper : ¬ form.IsEmptyLiteral) :
    Compile.fault? form = none ∧ grammar.node id =
      .terminal form skip ("Expected " ++ form.describe) := by
  cases hid with
  | node hnode hlowers hlength hchildren =>
    cases hlowers with
    | terminal hterminal =>
      obtain ⟨hfault, rfl⟩ := (Compile.terminalNode_eq_ok_iff hproper).mp hterminal
      exact ⟨hfault, by rw [node, hnode, Option.getD_some]⟩

theorem outcome_trace_of_terminal
    (hid : (⟨identity, .terminal form⟩ : Expr).CompilesTo grammar.nodes grammar.ruleNames skip id)
    (hproper : ¬ form.IsEmptyLiteral) (text : Text) (room offset : Nat) :
    (grammar.trace text (room + 1) id offset).outcome = form.outcome text skip offset := by
  rw [trace_succ, (node_of_terminal hid hproper).2]
  simp only [Node.matcher, Matcher.scanned, Terminal.outcome]
  cases form.scan (text.before? (skipFrom skip text offset))
      (text.rest (skipFrom skip text offset)) <;> rfl

/-- Whatever was asked before, a terminal ends with its outcome. -/
theorem evaluate_after_of_terminal
    (hid : (⟨identity, .terminal form⟩ : Expr).CompilesTo grammar.nodes grammar.ruleNames skip id)
    (hproper : ¬ form.IsEmptyLiteral) (text : Text) (history : List Request) (room offset : Nat) :
    (grammar.evaluate text (room + 1) id offset
      ((Session.start grammar text).after history).state).1 =
      form.outcome text skip offset :=
  evaluate_after_of_trace (outcome_trace_of_terminal hid hproper text room offset)
    form.not_isLimited_outcome history

end Grammar

/-! ### Grammars of one terminal -/

/-- A draft of a terminal alone. -/
def Draft.alone (terminal : Build Expr) : Build Draft := do
  pure { entry := some (.expr (← terminal)) }

def Grammar.alone (form : Terminal) : Grammar where
  nodes := #[.terminal form (some .blanks) ("Expected " ++ form.describe)]
  ruleNames := []
  ruleBodies := []
  entry := some 0
  config := {}

section

variable {form : Terminal} (hproper : ¬ form.IsEmptyLiteral)
  (hfault : Compile.fault? form = none) (next : Nat)

include hproper hfault

/-- The only node of the grammar of a terminal alone is that of the terminal. -/
theorem Grammar.compilesTo_alone :
    (Expr.ofShape (.terminal form) next).1.CompilesTo (alone form).nodes (alone form).ruleNames
      (some .blanks) 0 :=
  .of_lowers rfl (.terminal ((Compile.terminalNode_eq_ok_iff hproper).mpr ⟨hfault, rfl⟩)) .nil

theorem Compile.expr_terminal :
    Compile.expr [] ⟨.standard, some .blanks⟩ ⟨next, .terminal form⟩ {} = .ok (0,
      { nodes := (Grammar.alone form).nodes
        compiled := ({} : Std.HashMap _ _).insert (next, .standard) 0 }) := by
  have hnode : terminalNode form (some .blanks) ("Expected " ++ form.describe) = .ok _ :=
    (terminalNode_eq_ok_iff hproper).mpr ⟨hfault, rfl⟩
  have hempty : ({} : Std.HashMap (Nat × SkipSource) NodeId)[(next, SkipSource.standard)]? = none :=
    Std.HashMap.getElem?_empty
  have hget {α : Type} (goOn : Arena → Compile α) (arena : Arena) :
      (get >>= goOn) arena = goOn arena arena := rfl
  simp only [expr, lower, hget, hempty, hnode]
  rfl

/-- A terminal alone builds if nothing is wrong with it. -/
theorem Draft.build_alone : (alone (Expr.ofShape (.terminal form)) next).1.build =
    .ok (Grammar.alone form) := by
  have hdraft : (alone (Expr.ofShape (.terminal form)) next).1 =
      { entry := some (.expr ⟨next, .terminal form⟩) } := rfl
  have hsource : Surrounding.standard {} = ⟨.standard, some .blanks⟩ := rfl
  refine build_eq_ok_iff.mpr ⟨compile_eq_ok_iff.mpr ⟨Or.inl rfl, rfl, [], some 0,
    { nodes := (Grammar.alone form).nodes
      compiled := ({} : Std.HashMap _ _).insert (next, .standard) 0 }, ?_, rfl⟩, rfl, ?_⟩
  · simp only [hdraft, compileAll, List.map_nil, Compile.exprs, pure_bind, compileEntry, hsource]
    change Except.bind (Except.bind
      (Compile.expr [] ⟨.standard, some .blanks⟩ ⟨next, .terminal form⟩ {}) _) _ = _
    rw [Compile.expr_terminal hproper hfault]
    rfl
  · exact List.map_eq_nil_iff.mpr
      (CycleSearch.cyclesOf_eq_nil_of_lt fun rule next hnext ↦ absurd hnext List.not_mem_nil)

end

/-! ### One of several strings -/

namespace Grammar

/-- Whatever was asked before, a node takes what a longest option takes of the text after skipped
characters, and yields this option; it fails if none of them matches there. -/
def TakesLongest (grammar : Grammar) (caseless : Bool) (options : List (List Char))
    (skip : Option CharSet) (id : NodeId) : Prop :=
  ∀ (text : Text) (history : List Request) (room offset : Nat),
    let start := skipFrom skip text offset
    let outcome := (grammar.evaluate text (room + 1) id offset
      ((Session.start grammar text).after history).state).1
    (outcome.isOk = true ↔
      ∃ option ∈ options, option ≠ [] ∧ ∃ taken, stringPrefix caseless option (text.rest start) =
      some taken) ∧
    ∀ found, outcome = .ok found → ∃ option taken,
      Options.Longest caseless options (text.rest start) option taken ∧
      found = ⟨start + byteLength taken, .ofToken (Terminal.stringToken option)⟩

variable {grammar : Grammar} {skip : Option CharSet} {id : NodeId} {caseless : Bool}
  {options : List (List Char)} {next : Nat}

/-- Whatever was asked before, a node that became one of several strings takes what is found of them
after skipped characters. -/
theorem evaluate_after_of_oneOf
    (hid : (Expr.oneOf options caseless next).1.CompilesTo grammar.nodes grammar.ruleNames skip id)
    (text : Text) (history : List Request) (room offset : Nat) :
    (grammar.evaluate text (room + 1) id offset
      ((Session.start grammar text).after history).state).1 =
      match Options.find caseless options (text.rest (skipFrom skip text offset)) with
      | some found => .ok ⟨skipFrom skip text offset + byteLength found.1, .ofToken found.2⟩
      | none => .error (.failure (.ordinary (skipFrom skip text offset)
          ("Expected " ++ (Terminal.oneOf (Options.ofList caseless options)
            caseless).describe))) := by
  rw [evaluate_after_of_terminal hid (Terminal.not_isEmptyLiteral_oneOf _ _)]
  simp only [Terminal.outcome, Terminal.scan, Options.find]
  cases Terminal.firstOption (Options.ofList caseless options) caseless
    (text.rest (skipFrom skip text offset)) <;> rfl

/-- One of several strings alone builds if there is one, and becomes the only node. -/
theorem built_oneOf_alone (hsome : (Options.ofList caseless options).list ≠ []) :
    (Draft.alone (Expr.oneOf options caseless) 0).1.build =
        .ok (alone (.oneOf (Options.ofList caseless options) caseless)) ∧
      (Expr.oneOf options caseless 0).1.CompilesTo
        (alone (.oneOf (Options.ofList caseless options) caseless)).nodes
          (alone (.oneOf (Options.ofList caseless options) caseless)).ruleNames
            (some .blanks) 0 := by
  have hproper := Terminal.not_isEmptyLiteral_oneOf (Options.ofList caseless options) caseless
  have hfault : Compile.fault? (.oneOf (Options.ofList caseless options) caseless) = none := by
    rw [Compile.fault?, List.isEmpty_eq_false_iff.mpr hsome]
    rfl
  exact ⟨Draft.build_alone hproper hfault 0, compilesTo_alone hproper hfault 0⟩

/-- A node that became one of several strings takes what a longest option takes, if this is found in
what follows at every place. -/
theorem takesLongest_of_findsLongest
    (hid : (Expr.oneOf options caseless next).1.CompilesTo grammar.nodes grammar.ruleNames skip id)
    (hlongest : ∀ (text : Text) (offset : Nat),
      Options.FindsLongest caseless options (text.rest (skipFrom skip text offset))) :
    grammar.TakesLongest caseless options skip id := by
  intro text history room offset start outcome
  have houtcome : outcome = _ := evaluate_after_of_oneOf hid text history room offset
  have hfinds := hlongest text offset
  unfold Options.FindsLongest at hfinds
  cases hfound : Options.find caseless options (text.rest start) with
  | none =>
    rw [hfound] at houtcome hfinds
    rw [houtcome]
    refine ⟨iff_of_false Bool.false_ne_true ?_, nofun⟩
    rintro ⟨option, hoption, hnonempty, taken, htaken⟩
    rw [hfinds option hoption hnonempty] at htaken
    cases htaken
  | some found =>
    rw [hfound] at houtcome hfinds
    obtain ⟨option, hbest, htoken⟩ := hfinds
    rw [houtcome]
    refine ⟨iff_of_true rfl ⟨option, hbest.mem, hbest.ne_nil, found.1, hbest.takes⟩, ?_⟩
    rintro _ ⟨⟩
    exact ⟨option, found.1, hbest, by rw [htoken]⟩

theorem findsLongest_of_takesLongest
    (hid : (Expr.oneOf options caseless next).1.CompilesTo grammar.nodes grammar.ruleNames skip id)
    (hlongest : grammar.TakesLongest caseless options skip id) (text : Text) (offset : Nat) :
    Options.FindsLongest caseless options (text.rest (skipFrom skip text offset)) := by
  obtain ⟨hmatches, hfinds⟩ := hlongest text [] 0 offset
  rw [evaluate_after_of_oneOf hid] at hmatches hfinds
  unfold Options.FindsLongest
  cases hfound : Options.find caseless options (text.rest (skipFrom skip text offset)) with
  | none =>
    rw [hfound] at hmatches
    intro option hoption hnonempty
    by_contra hsome
    obtain ⟨taken, htaken⟩ := Option.ne_none_iff_exists'.mp hsome
    exact Bool.false_ne_true (hmatches.mpr ⟨option, hoption, hnonempty, taken, htaken⟩)
  | some found =>
    rw [hfound] at hfinds
    obtain ⟨option, taken, hbest, hsame⟩ := hfinds _ rfl
    obtain ⟨_, _, _, _, htakes, _, _⟩ := Options.exists_of_find hfound
    have hlength : byteLength found.1 = byteLength taken :=
      Nat.add_left_cancel (congrArg Match.stop hsame)
    have htoken : [found.2] = [Terminal.stringToken option] :=
      congrArg (fun one : Match ↦ one.results.tokens) hsame
    obtain rfl := eq_of_byteLength_eq (stringPrefix_eq_some_iff.mp htakes).1
      (stringPrefix_eq_some_iff.mp hbest.takes).1 hlength
    exact ⟨option, hbest, List.singleton_inj.mp htoken⟩

/-- The longest option is found if every option is taken whole where it stands alone. -/
theorem takesLongest_of_takenWhole
    (hid : (Expr.oneOf options caseless next).1.CompilesTo grammar.nodes grammar.ruleNames skip id)
    (hwhole : Options.TakenWhole caseless options) :
    grammar.TakesLongest caseless options skip id :=
  takesLongest_of_findsLongest hid fun _ _ ↦ Options.findsLongest_iff_takenWhole.mpr hwhole _

/-- Where nothing is skipped it does so only then, since the text may be any of the options. -/
theorem takenWhole_of_takesLongest
    (hid : (Expr.oneOf options caseless next).1.CompilesTo grammar.nodes grammar.ruleNames none id)
    (hlongest : grammar.TakesLongest caseless options none id) :
    Options.TakenWhole caseless options := by
  refine Options.findsLongest_iff_takenWhole.mp fun chars ↦ ?_
  have hfinds := findsLongest_of_takesLongest hid hlongest (.ofChars chars) 0
  rwa [skipFrom, (Text.at_start chars).rest_eq] at hfinds

/-- A node that became one of several strings takes the longest of them that the text starts with
after skipped characters, and fails if it starts with none. The strings that are tried are the given
ones without repetitions and without the empty one, and arranging them comes to an end. -/
theorem takes_longest_option
    (hid : (Expr.oneOf options false next).1.CompilesTo grammar.nodes grammar.ruleNames skip id)
    (text : Text) (history : List Request) (room offset : Nat) :
    let start := skipFrom skip text offset
    let outcome := (grammar.evaluate text (room + 1) id offset
      ((Session.start grammar text).after history).state).1
    let given := options.filter fun option ↦ !option.isEmpty
    (outcome.isOk = true ↔ ∃ option ∈ options, option ≠ [] ∧ option <+: text.rest start) ∧
      (∀ found, outcome = .ok found → ∃ option ∈ options, option ≠ [] ∧ option <+: text.rest start ∧
        (∀ other ∈ options, other <+: text.rest start → byteLength other ≤ byteLength option) ∧
        found = ⟨start + byteLength option, .ofToken (.str (String.ofList option))⟩) ∧
      (Options.ofList false options).list.Perm given.dedup ∧
      ∃ count, (Options.turn false)^[count] ([], given) =
      ((Options.ofList false options).list, []) := by
  intro start outcome given
  have hlongest := takesLongest_of_takenWhole hid (Options.agree_false options).takenWhole
    text history room offset
  refine ⟨hlongest.1.trans ?_, fun found hfound ↦ ?_, Options.perm_ofList options,
    Options.exists_turns false [] given⟩
  · simp only [stringPrefix_false_eq_some_iff, exists_eq_left]
    rfl
  · obtain ⟨option, taken, hbest, rfl⟩ := hlongest.2 found hfound
    obtain ⟨rfl, hinitial⟩ := stringPrefix_false_eq_some_iff.mp hbest.takes
    refine ⟨taken, hbest.mem, hbest.ne_nil, hinitial, fun other hother hother' ↦ ?_, rfl⟩
    by_cases hempty : other = []
    · rw [hempty]
      exact Nat.zero_le _
    · exact hbest.le other hother hempty other (stringPrefix_false_eq_some_iff.mpr ⟨rfl, hother'⟩)

/-- Of several comparison signs after a blank the longer one is taken. -/
theorem takes_longest_option_comparison :
    let options := [['<'], ['='], [], ['<', '='], ['<', '>'], ['<']]
    let form : Terminal := .oneOf (Options.ofList false options) false
    let text := Text.ofChars [' ', '<', '=', 'x']
    (Draft.alone (Expr.oneOf options false) 0).1.build = .ok (alone form) ∧
      (Expr.oneOf options false 0).1.CompilesTo (alone form).nodes (alone form).ruleNames
      (some .blanks) 0 ∧ ((alone form).evaluate text 1 0 0
        ((Session.start (alone form) text).after [.scan]).state).1 = .ok ⟨3, .ofToken (.str "<=")⟩ ∧
      (Options.ofList false options).list = [['<', '='], ['<', '>'], ['<'], ['=']] ∧
      (Options.ofList false options).list.Perm [['='], ['<', '='], ['<', '>'], ['<']] := by
  intro options form text
  have hlist : (Options.ofList false options).list = [['<', '='], ['<', '>'], ['<'], ['=']] :=
    Options.arrange_eq_of_turns 7 (by decide)
  obtain ⟨hbuild, hid⟩ := built_oneOf_alone (hlist ▸ List.cons_ne_nil _ _)
  obtain ⟨hmatches, htakes, hperm, -⟩ := takes_longest_option hid text [.scan] 0 0
  obtain ⟨found, hfound⟩ := exists_of_isOk (hmatches.mpr ⟨['<'], by decide, by decide, by decide⟩)
  obtain ⟨option, hoption, -, hinitial, hle, rfl⟩ := htakes found hfound
  have hlonger := hle ['<', '='] (by decide) (by decide)
  have hlongest : option = ['<', '='] := by
    have hall : ∀ other ∈ options, other <+: ['<', '=', 'x'] → 2 ≤ byteLength other →
        other = ['<', '='] := by decide
    exact hall option hoption hinitial hlonger
  subst hlongest
  exact ⟨hbuild, hid, hfound, hlist, hperm⟩

/-- A node that became one of several strings in any case takes what a longest one takes if each of
them is taken whole where it stands alone; where nothing is skipped, only then. They are taken whole
if none of them has a capital sigma, of which the lower case depends on what stands around it, or a
capital i with a dot, of which it is two characters. -/
theorem takes_longest_option_caseless
    (hid : (Expr.oneOf options true next).1.CompilesTo grammar.nodes grammar.ruleNames skip id) :
    (Options.TakenWhole true options → grammar.TakesLongest true options skip id) ∧
      (skip = none → grammar.TakesLongest true options skip id → Options.TakenWhole true options) ∧
      ((∀ option ∈ options, ∀ c ∈ option, c ≠ '\u0130' ∧ c ≠ '\u03A3') →
        Options.TakenWhole true options) := by
  refine ⟨takesLongest_of_takenWhole hid, ?_, fun hordinary ↦
    (Options.agree_of_ordinary hordinary).takenWhole⟩
  rintro rfl
  exact takenWhole_of_takesLongest hid

/-- A kelvin sign has the lower case of the letter. The option with the kelvin sign is tried first,
and found where the text has the capital letter. -/
theorem takes_longest_option_kelvin :
    let options := [['k'], ['K'], ['\u212A', 'g']]
    let form : Terminal := .oneOf (Options.ofList true options) true
    let text := Text.ofChars [' ', 'K', 'g', 'k']
    (Draft.alone (Expr.oneOf options true) 0).1.build = .ok (alone form) ∧
      (Expr.oneOf options true 0).1.CompilesTo (alone form).nodes (alone form).ruleNames
      (some .blanks) 0 ∧ (∀ option ∈ options, ∀ c ∈ option, c ≠ '\u0130' ∧ c ≠ '\u03A3') ∧
      Options.TakenWhole true options ∧ (alone form).TakesLongest true options (some .blanks) 0 ∧
      ((alone form).evaluate text 1 0 0 ((Session.start (alone form) text).after [.scan]).state).1 =
        .ok ⟨3, .ofToken (Terminal.stringToken ['\u212A', 'g'])⟩ := by
  intro options form text
  have hlist : (Options.ofList true options).list = [['\u212A', 'g'], ['k']] :=
    Options.arrange_eq_of_turns 4 (by decide +kernel)
  obtain ⟨hbuild, hid⟩ := built_oneOf_alone (hlist ▸ List.cons_ne_nil _ _)
  obtain ⟨hlongest, -, hwhole⟩ := takes_longest_option_caseless hid
  have hordinary : ∀ option ∈ options, ∀ c ∈ option, c ≠ '\u0130' ∧ c ≠ '\u03A3' := by
    simp [options]
  have hall := hlongest (hwhole hordinary)
  refine ⟨hbuild, hid, hordinary, hwhole hordinary, hall, ?_⟩
  have htakes : stringPrefix true ['\u212A', 'g'] (text.rest 1) = some ['K', 'g'] := by
    decide +kernel
  obtain ⟨hmatches, hfinds⟩ := hall text [.scan] 0 0
  obtain ⟨found, hfound⟩ := exists_of_isOk
    (hmatches.mpr ⟨['\u212A', 'g'], by decide, by decide, _, htakes⟩)
  obtain ⟨option, taken, hbest, rfl⟩ := hfinds found hfound
  have hlonger := hbest.le ['\u212A', 'g'] (by decide) (by decide) _ htakes
  have hoption : ∀ other ∈ options, ∀ taken ∈ stringPrefix true other (text.rest 1),
      2 ≤ byteLength taken → other = ['\u212A', 'g'] ∧ taken = ['K', 'g'] := by decide +kernel
  obtain ⟨rfl, rfl⟩ := hoption option hbest.mem taken hbest.takes hlonger
  exact hfound

/-- The lower case of a capital i with a dot is two characters, the small i and the dot. An option
of these two is taken for a repetition and dropped, but the one with the capital letter does not
match them. So where the text is just the one that was dropped, nothing is found. -/
theorem not_takesLongest_dotted :
    let options := [['\u0130'], ['i', '\u0307']]
    let form : Terminal := .oneOf (Options.ofList true options) true
    let text := Text.ofChars ['i', '\u0307']
    (Draft.alone (Expr.oneOf options true) 0).1.build = .ok (alone form) ∧
      (Expr.oneOf options true 0).1.CompilesTo (alone form).nodes (alone form).ruleNames
      (some .blanks) 0 ∧ caselessPrefix ['i', '\u0307']
      (text.rest (skipFrom (some .blanks) text 0)) = some ['i', '\u0307'] ∧
        ((alone form).evaluate text 10 0 0 (Session.start (alone form) text).state).1 =
        .error (.failure (.ordinary 0 ("Expected " ++ form.describe))) ∧
      ¬ (alone form).TakesLongest true options (some .blanks) 0 := by
  intro options form text
  have hlist : (Options.ofList true options).list = [['\u0130']] :=
    Options.arrange_eq_of_turns 2 (by decide +kernel)
  obtain ⟨hbuild, hid⟩ := built_oneOf_alone (hlist ▸ List.cons_ne_nil _ _)
  have htakes : caselessPrefix ['i', '\u0307'] (text.rest (skipFrom (some .blanks) text 0)) =
      some ['i', '\u0307'] := by
    decide +kernel
  have hstart : skipFrom (some .blanks) text 0 = 0 := by decide
  have hnone : Options.find true options (text.rest 0) = none := by
    rw [Options.find_eq_none_iff, hlist]
    decide +kernel
  have hfails : ((alone form).evaluate text 10 0 0 (Session.start (alone form) text).state).1 =
      .error (.failure (.ordinary 0 ("Expected " ++ form.describe))) := by
    have houtcome := evaluate_after_of_oneOf hid text [] 9 0
    rw [hstart, hnone] at houtcome
    exact houtcome
  refine ⟨hbuild, hid, htakes, hfails, fun hlongest ↦ ?_⟩
  have hmatches := (hlongest text [] 9 0).1.mpr ⟨['i', '\u0307'], by decide, by decide, _, htakes⟩
  change ((alone form).evaluate text 10 0 0 (Session.start (alone form) text).state).1.isOk =
    true at hmatches
  rw [hfails] at hmatches
  cases hmatches

end Grammar

/-! ### Quoted strings -/

namespace Grammar

variable {grammar : Grammar} {skip : Option CharSet} {id : NodeId} {next : Nat} {form : Quoted}
  {content written more : List Char}

/-- Where a content was written as a quoted string, a node that became a quoted string of the form
takes all that was written and yields the content, whatever follows. -/
theorem evaluate_after_of_encodes
    (hid : (Expr.quoted form next).1.CompilesTo grammar.nodes grammar.ruleNames skip id)
    (hkeep : form.keepQuotes = false) (hwritten : form.Encodes content more written) (text : Text)
    (history : List Request) (room offset : Nat)
    (hrest : text.rest (skipFrom skip text offset) = written ++ more) :
    form.scan (written ++ more) = .found (written, content) ∧
      (grammar.evaluate text (room + 1) id offset
        ((Session.start grammar text).after history).state).1 =
          .ok ⟨skipFrom skip text offset + byteLength written,
            .ofToken (.str (String.ofList content))⟩ := by
  have hproper := Terminal.not_isEmptyLiteral_quoted form
  have hopening : form.opening ≠ [] := by
    have hfault := (node_of_terminal hid hproper).1
    intro hnone
    simp [Compile.fault?, hnone] at hfault
  have hscan := Quoted.scan_of_encodes hopening hkeep hwritten
  refine ⟨hscan, ?_⟩
  rw [evaluate_after_of_terminal hid hproper]
  simp only [Terminal.outcome, Terminal.scan, hrest, hscan, Scan.map_found]
  rfl

/-- A content with the closing quote in it is read back where it was written with escapes, and one
between quotes where it was written with doubled quotes. -/
theorem evaluate_after_of_encodes_both :
    let escaped : Quoted := { opening := ['<', '!'], closing := ['-', '>'], escape := some '\\' }
    let doubled : Quoted := { opening := ['"'], closing := ['"'], escapedQuote := some ['"', '"'] }
    let first := Text.ofChars [' ', '<', '!', 'a', '\\', '-', '>', '\\', 'n',
      '\\', '\\', '-', '>', '>']
    let second := Text.ofChars ['"', '"', '"', 'a', '"', '"', '"', 'b']
    ((Draft.alone (Expr.quoted escaped) 0).1.build = .ok (alone (.quoted escaped)) ∧
      escaped.Encodes ['a', '-', '>', '\n', '\\'] ['>']
        ['<', '!', 'a', '\\', '-', '>', '\\', 'n', '\\', '\\', '-', '>'] ∧
      ((alone (.quoted escaped)).evaluate first 1 0 0
        ((Session.start (alone (.quoted escaped)) first).after [.scan]).state).1 =
          .ok ⟨13, .ofToken (.str "a->\n\\")⟩) ∧
    ((Draft.alone (Expr.quoted doubled) 0).1.build = .ok (alone (.quoted doubled)) ∧
      doubled.Encodes ['"', 'a', '"'] ['b'] ['"', '"', '"', 'a', '"', '"', '"'] ∧
      ((alone (.quoted doubled)).evaluate second 1 0 0
        ((Session.start (alone (.quoted doubled)) second).after [.scan]).state).1 =
          .ok ⟨7, .ofToken (.str "\"a\"")⟩) := by
  intro escaped doubled first second
  have hescaped : escaped.Encodes ['a', '-', '>', '\n', '\\'] ['>'] _ :=
    .escaping rfl rfl rfl (by decide) (by decide) (by decide)
  have hdoubled : doubled.Encodes ['"', 'a', '"'] ['b'] _ :=
    .doubling rfl rfl rfl rfl (by decide) (by decide)
  have hfirst := Terminal.not_isEmptyLiteral_quoted escaped
  have hsecond := Terminal.not_isEmptyLiteral_quoted doubled
  exact ⟨⟨Draft.build_alone hfirst rfl 0, hescaped,
      (evaluate_after_of_encodes (compilesTo_alone hfirst rfl 0) rfl hescaped first [.scan] 0 0
        (by decide)).2⟩,
    Draft.build_alone hsecond rfl 0, hdoubled,
    (evaluate_after_of_encodes (compilesTo_alone hsecond rfl 0) rfl hdoubled second [.scan] 0 0
      (by decide)).2⟩

end Grammar

/-! ### Numbers -/

namespace Terminal

variable {kind : Numeral} {text : Text} {skip : Option CharSet} {offset : Nat} {found : Match}
  {sign digits more : List Char}

/-- A number ends well if something is found of it. -/
theorem isOk_outcome_numeral :
    ((numeral kind).outcome text skip offset).isOk =
      (kind.scan (text.rest (skipFrom skip text offset))).isSome := by
  simp only [outcome, scan]
  cases kind.scan (text.rest (skipFrom skip text offset)) <;> rfl

/-- Then it takes what is found, and yields its token. -/
theorem outcome_numeral_eq_ok_iff :
    (numeral kind).outcome text skip offset = .ok found ↔
      ∃ result, kind.scan (text.rest (skipFrom skip text offset)) = some result ∧
        found = ⟨skipFrom skip text offset + byteLength result.1, .ofToken result.2⟩ := by
  simp only [outcome, scan]
  cases kind.scan (text.rest (skipFrom skip text offset)) with
  | none => simp
  | some result => simp [eq_comm]

/-- A number without fractions takes a whole number and yields its value. -/
theorem outcome_numeral_eq_ok_iff_whole (hkind : kind ≠ .real) :
    (numeral kind).outcome text skip offset = .ok found ↔
      ∃ sign digits more number, text.rest (skipFrom skip text offset) = sign ++ (digits ++ more) ∧
        kind.Whole sign digits more ∧ Int64.toInt number = Numeral.wholeValue sign digits ∧
        found = ⟨skipFrom skip text offset + byteLength (sign ++ digits),
          .ofToken (.int number)⟩ := by
  rw [outcome_numeral_eq_ok_iff]
  constructor
  · rintro ⟨result, hscan, rfl⟩
    obtain ⟨sign, digits, more, number, hrest, hwhole, hvalue, rfl⟩ :=
      (Numeral.scan_eq_some_iff hkind).mp hscan
    exact ⟨sign, digits, more, number, hrest, hwhole, hvalue, rfl⟩
  · rintro ⟨sign, digits, more, number, hrest, hwhole, hvalue, rfl⟩
    exact ⟨_, (Numeral.scan_eq_some_iff hkind).mpr
      ⟨sign, digits, more, number, hrest, hwhole, hvalue, rfl⟩, rfl⟩

/-- Where a whole number stands, it ends well just if the value fits. -/
theorem isOk_outcome_numeral_iff (hkind : kind ≠ .real) (hwhole : kind.Whole sign digits more)
    (hrest : text.rest (skipFrom skip text offset) = sign ++ (digits ++ more)) :
    ((numeral kind).outcome text skip offset).isOk = true ↔
      fitsInt64 (Numeral.wholeValue sign digits) = true := by
  rw [isOk_outcome_numeral, hrest, Numeral.scan_of_whole hwhole fun hreal ↦ absurd hreal hkind]
  cases fitsInt64 (Numeral.wholeValue sign digits) <;> simp

/-- A number that may have a fraction yields what one with a sign does, where a whole number stands
that fits and neither a point nor an exponent follows. -/
theorem outcome_real_of_whole (hwhole : Numeral.real.Whole sign digits more)
    (hrest : text.rest (skipFrom skip text offset) = sign ++ (digits ++ more))
    (hfits : fitsInt64 (Numeral.wholeValue sign digits) = true) (hpoint : more.head? ≠ some '.')
    (hexponent : ¬ Numeral.StartsExponent more) :
    (∃ number, Int64.toInt number = Numeral.wholeValue sign digits ∧
      (numeral .real).outcome text skip offset =
        .ok ⟨skipFrom skip text offset + byteLength (sign ++ digits), .ofToken (.int number)⟩) ∧
      (numeral .real).outcome text skip offset = (numeral .integer).outcome text skip offset := by
  have hkind : Numeral.integer ≠ .real := nofun
  have hvalue := toInt_eq_iff.mpr ⟨hfits, rfl⟩
  have hinteger := (outcome_numeral_eq_ok_iff_whole hkind).mpr
    ⟨sign, digits, more, _, hrest, hwhole.integer, hvalue, rfl⟩
  obtain ⟨result, hscan, hfound⟩ := outcome_numeral_eq_ok_iff.mp hinteger
  rw [hrest, ← Numeral.scan_real_of_whole hwhole hfits hpoint hexponent, ← hrest] at hscan
  have hreal := outcome_numeral_eq_ok_iff.mpr ⟨result, hscan, hfound⟩
  exact ⟨⟨_, hvalue, hreal⟩, hreal.trans hinteger.symm⟩

end Terminal

namespace Grammar

variable {grammar : Grammar} {skip : Option CharSet} {id : NodeId} {kind : Numeral} {next : Nat}

/-- Whatever was asked before, a node that became a number without fractions takes the whole number
that stands after skipped characters, with all of its digits, and yields the 64-bit number of its
value. Where no 64-bit number has this value it fails, and does not take fewer digits. So the
decimal text of a 64-bit number is read back, whatever but a digit follows. A number that may have a
fraction takes and yields what a whole number with a sign does, where this fits and neither a point
nor an exponent follows. -/
theorem evaluate_after_of_numeral
    (hid : (Expr.numeral kind next).1.CompilesTo grammar.nodes grammar.ruleNames skip id)
    (text : Text) (history : List Request) (room offset : Nat) :
    let start := skipFrom skip text offset
    let outcome := (grammar.evaluate text (room + 1) id offset
      ((Session.start grammar text).after history).state).1
    (kind ≠ .real →
      (∀ found, outcome = .ok found ↔
        ∃ sign digits more number, text.rest start = sign ++ (digits ++ more) ∧
          kind.Whole sign digits more ∧ Int64.toInt number = Numeral.wholeValue sign digits ∧
          found = ⟨start + byteLength (sign ++ digits), .ofToken (.int number)⟩) ∧
      ∀ sign digits more, text.rest start = sign ++ (digits ++ more) → kind.Whole sign digits more →
        (outcome.isOk = true ↔
          -2 ^ 63 ≤ Numeral.wholeValue sign digits ∧ Numeral.wholeValue sign digits < 2 ^ 63)) ∧
    (kind = .integer → ∀ (number : Int64) (more : List Char),
      text.rest start = integerText number.toInt ++ more → (∀ c ∈ more.head?, ¬ isDigit c = true) →
        outcome = .ok ⟨start + byteLength (integerText number.toInt), .ofToken (.int number)⟩) ∧
    (kind = .real → ∀ sign digits more, text.rest start = sign ++ (digits ++ more) →
      kind.Whole sign digits more → -2 ^ 63 ≤ Numeral.wholeValue sign digits ∧
      Numeral.wholeValue sign digits < 2 ^ 63 → more.head? ≠ some '.' →
        ¬ Numeral.StartsExponent more →
          (∃ number, Int64.toInt number = Numeral.wholeValue sign digits ∧
            outcome = .ok ⟨start + byteLength (sign ++ digits), .ofToken (.int number)⟩) ∧
        outcome = (Terminal.numeral .integer).outcome text skip offset) := by
  intro start outcome
  have houtcome : outcome = (Terminal.numeral kind).outcome text skip offset :=
    evaluate_after_of_terminal hid (Terminal.not_isEmptyLiteral_numeral kind)
      text history room offset
  rw [houtcome]
  refine ⟨fun hkind ↦ ⟨fun found ↦ Terminal.outcome_numeral_eq_ok_iff_whole hkind,
    fun sign digits more hrest hwhole ↦ ?_⟩, ?_, ?_⟩
  · rw [Terminal.isOk_outcome_numeral_iff hkind hwhole hrest, fitsInt64_iff]
  · rintro rfl number more hrest hends
    exact Terminal.outcome_numeral_eq_ok_iff.mpr
      ⟨_, hrest ▸ Numeral.scan_integerText number hends, rfl⟩
  · rintro rfl sign digits more hrest hwhole hfits hpoint hexponent
    exact Terminal.outcome_real_of_whole hwhole hrest (fitsInt64_iff.mpr hfits) hpoint hexponent

/-- The least number of 64 bits is read with its sign. The number after the greatest one is not
read, nor is a part of it. The greatest one is read with a sign and a zero before it, and what
follows is no exponent. -/
theorem evaluate_after_of_numeral_limits :
    let leading := ['9', '2', '2', '3', '3', '7', '2', '0', '3', '6', '8', '5', '4',
      '7', '7', '5', '8', '0']
    let least := Text.ofChars ('-' :: (leading ++ ['8']))
    let beyond := Text.ofChars (leading ++ ['8'])
    let most := Text.ofChars (' ' :: '+' :: '0' :: (leading ++ ['7', 'e', '+']))
    let outcome (kind : Numeral) (text : Text) : Except Halt Match :=
      ((alone (.numeral kind)).evaluate text 1 0 0
        ((Session.start (alone (.numeral kind)) text).after [.scan]).state).1
    (∀ kind, (Draft.alone (Expr.numeral kind) 0).1.build = .ok (alone (.numeral kind))) ∧
      outcome .integer least = .ok ⟨20, .ofToken (.int Int64.minValue)⟩ ∧
      (outcome .natural beyond).isOk = false ∧
      outcome .real most = .ok ⟨22, .ofToken (.int Int64.maxValue)⟩ := by
  intro leading least beyond most outcome
  have hid (kind : Numeral) := compilesTo_alone (Terminal.not_isEmptyLiteral_numeral kind) rfl 0
  refine ⟨fun kind ↦ Draft.build_alone (Terminal.not_isEmptyLiteral_numeral kind) rfl 0, ?_, ?_, ?_⟩
  · exact (evaluate_after_of_numeral (hid .integer) least [.scan] 0 0).2.1 rfl Int64.minValue []
      (by decide +kernel)
      nofun
  · have hwhole : Numeral.natural.Whole [] (leading ++ ['8']) [] :=
      ⟨Or.inl rfl, List.cons_ne_nil _ _, List.all_eq_true.mp rfl, nofun⟩
    obtain ⟨-, hbeyond⟩ := (evaluate_after_of_numeral (hid .natural) beyond [.scan] 0 0).1 nofun
    exact Bool.eq_false_iff.mpr fun hok ↦
      absurd ((hbeyond [] _ [] (by decide +kernel) hwhole).mp hok).2 (by decide +kernel)
  · have hwhole : Numeral.real.Whole ['+'] ('0' :: (leading ++ ['7'])) ['e', '+'] :=
      ⟨Or.inr ⟨nofun, Or.inl rfl⟩, List.cons_ne_nil _ _,
        List.all_eq_true.mp rfl, by rintro _ ⟨⟩; decide⟩
    have hexponent : ¬ Numeral.StartsExponent ['e', '+'] := by
      rintro ⟨mark, sign, digit, rest, hchars, -, rfl | rfl | rfl, hdigit⟩
      · obtain ⟨-, rfl, -⟩ : _ ∧ '+' = digit ∧ _ := by simpa using hchars
        exact absurd hdigit (by decide)
      · simp at hchars
      · simp at hchars
    obtain ⟨⟨number, hvalue, hfound⟩, -⟩ :=
      (evaluate_after_of_numeral (hid .real) most [.scan] 0 0).2.2 rfl ['+'] _ ['e', '+']
      (by decide +kernel) hwhole (by decide +kernel) (by decide) hexponent
    obtain ⟨-, rfl⟩ := toInt_eq_iff.mp hvalue
    exact hfound

end Grammar

end Packrat
