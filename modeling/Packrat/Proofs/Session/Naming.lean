import Packrat.Proofs.Results.Names
import Packrat.Proofs.Session.Promises

/-!
# Results of sessions

Evaluations make results by the operations on them and in no other way. What comes from outside are
the tokens that options have as defaults and what actions return; if these are made by the
operations as well (`Grammar.Builds`), then so are all results that sessions answer, and their names
can be read (`Grammar.readable_of_built`).
-/

set_option autoImplicit false
set_option relaxedAutoImplicit false

namespace Packrat

variable {grammar : Grammar} {text : Text}

/-- What a grammar is given from outside is made by the operations on results. -/
structure Grammar.Builds (grammar : Grammar) : Prop where
  /-- Default tokens are. -/
  defaults : ∀ id child token, grammar.node id = .optional child (some token) → token.Built
  /-- Actions make their results of those that they are given. -/
  actions : ∀ id child actions skip, grammar.node id = .action child actions skip →
    ∀ action ∈ actions, ∀ context results changed fatal, results.Built →
      action.apply context results = (.replace changed, fatal) → changed.Built

/-- The promise that results are made by the operations. -/
def Promise.built : NodeId → Nat → Match → Prop := fun _ _ found ↦ found.results.Built

theorem Numeral.built_of_scan {kind : Numeral} {chars taken : List Char} {token : Token}
    (hscan : kind.scan chars = some (taken, token)) : token.Built := by
  unfold Numeral.scan at hscan
  extract_lets sign negative unsigned digits afterDigits fraction exponent matched float at hscan
  have hfloat (hsome : some (matched, float) = some (taken, token)) : token.Built := by
    rw [← (Prod.mk.inj (Option.some.inj hsome)).2]
    exact .scalar rfl
  split at hscan
  next => exact nomatch hscan
  next =>
    split at hscan
    next =>
      split at hscan
      next whole hwhole =>
        obtain ⟨-, rfl⟩ := Prod.mk.inj (Option.some.inj hscan)
        obtain ⟨-, hwhole⟩ := Option.ite_none_right_eq_some.mp hwhole
        rw [← Option.some.inj hwhole]
        exact .scalar rfl
      next =>
        split at hscan
        next => exact hfloat hscan
        next => exact nomatch hscan
    next => exact hfloat hscan

theorem Terminal.built_of_scan {form : Terminal} {before : Option Char} {chars taken : List Char}
    {token : Token} (hscan : form.scan before chars = .found (taken, token)) : token.Built := by
  cases form with
  | literal content caseless =>
    obtain ⟨matched, -, hpair⟩ := Option.map_eq_some_iff.mp (Scan.ofOption_eq_found_iff.mp hscan)
    rw [← (Prod.mk.inj hpair).2]
    exact .scalar rfl
  | keyword content caseless identifierChars =>
    obtain ⟨matched, -, hpair⟩ := Option.bind_eq_some_iff.mp (Scan.ofOption_eq_found_iff.mp hscan)
    split_ifs at hpair
    rw [← (Prod.mk.inj (Option.some.inj hpair)).2]
    exact .scalar rfl
  | word form =>
    obtain ⟨matched, -, hpair⟩ := Option.map_eq_some_iff.mp (Scan.ofOption_eq_found_iff.mp hscan)
    rw [← (Prod.mk.inj hpair).2]
    exact .scalar rfl
  | oneOf options caseless =>
    obtain ⟨option, -, hfound⟩ := List.exists_of_findSome?_eq_some
      (Scan.ofOption_eq_found_iff.mp hscan)
    obtain ⟨matched, -, hpair⟩ := Option.map_eq_some_iff.mp hfound
    rw [← (Prod.mk.inj hpair).2]
    exact .scalar rfl
  | quoted form =>
    obtain ⟨found, -, hpair⟩ := Scan.map_eq_found_iff.mp hscan
    rw [← (Prod.mk.inj hpair).2]
    exact .scalar rfl
  | numeral kind => exact Numeral.built_of_scan (Scan.ofOption_eq_found_iff.mp hscan)

namespace Grammar

/-- A grammar keeps the promise that results are made by the operations, if what it is given is. -/
theorem maintains_built (hbuilds : grammar.Builds) (text : Text) :
    grammar.Maintains text Promise.built := by
  intro id offset _
  have htoken {token : Token} (hbuilt : token.Built) (stop : Nat) :
      Promise.built id offset ⟨stop, .ofToken token⟩ := .ofToken hbuilt
  have hround (child : NodeId) :
      text.Continues Promise.built offset (Promise.built id offset) child :=
    fun done next _ hdone hnext ↦ .extend hdone hnext.2
  cases hnode : grammar.node id with
  | empty => exact .empty
  | textEnd skip => exact fun _ ↦ .empty
  | terminal form skip expected => exact fun _ _ hscan ↦ htoken (Terminal.built_of_scan hscan) _
  | regex program skip expected =>
    intro taken token hscan
    obtain ⟨found, -, hpair⟩ := Option.map_eq_some_iff.mp (Scan.ofOption_eq_found_iff.mp hscan)
    rw [← (Prod.mk.inj hpair).2]
    exact htoken (.scalar rfl) _
  | sequence parts commit => exact ⟨.empty, fun part _ ↦ hround part⟩
  | choice alternatives => exact fun _ _ _ hfound ↦ hfound.2
  | optional child default =>
    refine ⟨?_, fun _ hfound ↦ hfound.2⟩
    cases default with
    | none => exact .empty
    | some token => exact htoken (hbuilds.defaults id child token hnode) offset
  | repetition child least most what => exact ⟨.empty, hround child⟩
  | delimited item separator form what =>
    refine ⟨.empty, fun _ hfound ↦ hfound.2, fun done between _ hdone hbetween ↦ ⟨?_, ?_⟩⟩
    · unfold Matcher.withTrailing
      split_ifs
      · exact .extend hdone hbetween.2
      · exact hdone
      · exact hdone
    · intro next hnext
      unfold Matcher.withItem
      split_ifs
      · exact .extend (.extend hdone hbetween.2) hnext.2
      · exact .extend hdone hnext.2
  | lookahead child negative unwanted => exact .empty
  | suppress child => exact fun _ _ ↦ .empty
  | group child => exact fun _ hfound ↦ .ofToken (.toGroup hfound.2)
  | combine child joiner skip => exact fun _ _ ↦ .ofToken (.scalar rfl)
  | call rule => exact fun _ hfound ↦ hfound.2
  | named child name accumulate => exact fun _ hfound ↦ .setName hfound.2 name accumulate
  | action child actions skip =>
    exact ⟨fun _ hfound ↦ hfound.2, fun action haction _ results changed fatal hresults happly ↦
      hbuilds.actions id child actions skip hnode action haction _ results
        changed fatal hresults happly⟩
  | labeled child skip expected => exact fun _ hfound ↦ hfound.2

/-- Names are distinct, and their ranges fit, in all results that are made by the operations, and in
all results that a session answers, whatever was asked of it before. So the views of every name
agree, and no range is read that does not fit. -/
theorem readable_of_built (hbuilds : grammar.Builds) (text : Text) (history : List Request) :
    (∀ results : Results, results.Built → results.Readable) ∧
      ∀ (request : Request) (reply : Reply),
        (((Session.start grammar text).after history).answer request).1 = .ok reply →
          reply.Fulfils text fun results ↦ results.Built ∧ results.Readable := by
  have hreadable (results : Results) (hbuilt : results.Built) : results.Readable :=
    hbuilt.sound.readable
  refine ⟨hreadable, fun request reply hanswer ↦ ?_⟩
  have hkeeps (id : NodeId) (place : Nat) (found : Match) (hbuilt : Promise.built id place found) :
      (fun results : Results ↦ results.Built ∧ results.Readable) found.results :=
    ⟨hbuilt, hreadable found.results hbuilt⟩
  exact Session.fulfils_of_answer_after (maintains_built hbuilds text) hkeeps hanswer

end Grammar

/-! ### A letter and a tally -/

/-- A letter under a name, under which there may be another one or the number zero; a truth value is
added. -/
def Draft.tallied : Draft where
  entry := some (.expr ⟨5, .action ⟨4, .sequence
    [⟨1, .named ⟨0, .terminal (.literal "a" false)⟩ "x" false⟩,
      ⟨3, .named ⟨2, .optional ⟨0, .terminal (.literal "a" false)⟩ (some (.int 0))⟩ "x" true⟩] none⟩
    [Action.map fun results ↦ results.push (.bool true)]⟩)
  config := { maxMemoSize := 0 }

def Grammar.tallied : Grammar where
  nodes := #[.terminal (.literal "a" false) (some .blanks) "Expected \"a\"", .named 0 "x" false,
    .optional 0 (some (.int 0)), .named 2 "x" true, .sequence [1, 3] none,
    .action 4 [Action.map fun results ↦ results.push (.bool true)] (some .blanks)]
  ruleNames := []
  ruleBodies := []
  entry := some 5
  config := { maxMemoSize := 0 }

/-- The draft of a letter and a tally builds into its grammar. -/
theorem Draft.build_tallied : Draft.tallied.build = .ok Grammar.tallied := by
  cbv

namespace Grammar

/-- The default of a tally is a scalar, and its action adds one. -/
theorem builds_tallied : tallied.Builds := by
  constructor
  · intro id child token hnode
    have hmem := tallied.node_mem_or_eq_empty id
    rw [hnode] at hmem
    have hzero : child = 0 ∧ token = .int 0 := by
      simpa [tallied] using hmem
    rw [hzero.2]
    exact .scalar rfl
  · intro id child actions skip hnode action haction context results changed fatal hresults happly
    have hmem := tallied.node_mem_or_eq_empty id
    rw [hnode] at hmem
    have hadds : actions = [Action.map fun results ↦ results.push (.bool true)] := by
      have hthree : child = 4 ∧ actions = [Action.map fun results ↦ results.push (.bool true)] ∧
          skip = some .blanks := by
        simpa [tallied] using hmem
      exact hthree.2.1
    rw [hadds, List.mem_singleton] at haction
    subst haction
    obtain ⟨hchanged, -⟩ := Prod.mk.inj happly
    rw [← Verdict.replace.inj hchanged]
    exact .push hresults (.scalar rfl)

/-- A letter with a tally has one name for both, which all views have. -/
theorem readable_tallied :
    Draft.tallied.build = .ok tallied ∧ tallied.Builds ∧
      ∃ results, (((Session.start tallied (.ofChars ['a'])).after [.parse true]).answer
          (.parse true)).1 = .ok (.results results) ∧
        results.containsName "x" = true ∧ (results.get? "x").isSome = true ∧
        (results.token? "x").isSome = true ∧ (results.results? "x").isSome = true ∧
        "x" ∈ results.toDict.map Prod.fst := by
  have hanswer : (((Session.start tallied (.ofChars ['a'])).after [.parse true]).answer
      (.parse true)).1 =
        .ok (.results ⟨[.str "a", .int 0, .bool true], [⟨"x", [⟨0, 1⟩, ⟨1, 2⟩], true⟩]⟩) := by
    cbv
  have hreply := (readable_of_built builds_tallied (.ofChars ['a']) [.parse true]).2
    (.parse true) _ hanswer
  have hviews := hreply.2.views "x"
  refine ⟨Draft.build_tallied, builds_tallied, _, hanswer, rfl, ?_, ?_, ?_, hviews.dict.mpr rfl⟩
  · rw [hviews.get]
    rfl
  · rw [hviews.token]
    rfl
  · rw [hviews.inner]
    rfl

end Grammar

end Packrat
