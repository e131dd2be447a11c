import Packrat.Proofs.Regex.Laws
import Packrat.Proofs.Session.Guarantees
import Packrat.Proofs.Session.Terminals

/-!
# Regular expressions in sessions

A regular expression is tried at one place of the text, after skipped characters, and takes
everything up to the end of what is found. For this it is searched after the start of the text, with
its pattern put into a group. Whatever the engine, if it keeps its promises and accepts the pattern
by itself, a match starts at the place and the token is the match, whatever was asked before
(`Grammar.evaluate_after_of_regex`).

A pattern need not be accepted by itself for the group to be. One that closes the group, and opens
another one after a bar, becomes an expression of two branches of which only the first is bound to
the start of the text. The second one is found further on, and what stands before it is taken with
it (`Draft.takes_unmatched`).
-/

set_option autoImplicit false
set_option relaxedAutoImplicit false

namespace Packrat

/-! ### Patterns that are accepted by themselves -/

namespace Grammar

variable {grammar : Grammar} {engine : RegexEngine} {pattern : String} {identity : Nat}
  {skip : Option CharSet} {id : NodeId}

/-- A regular expression becomes the node of its pattern in a group after the start of the text. -/
theorem exists_node_of_regex
    (hid : (⟨identity, .regex engine pattern⟩ : Expr).CompilesTo grammar.nodes
      grammar.ruleNames skip id) :
    ∃ regex, engine.compile? (Compile.anchored pattern) = some regex ∧
      grammar.node id = .regex regex skip
        ("Expected " ++ (Shape.regex engine pattern).display) := by
  cases hid with
  | node hnode hlowers hlength hchildren =>
    cases hlowers with
    | regex hregex =>
      unfold Compile.regexNode at hregex
      split at hregex
      next regex hfound =>
        cases hregex
        exact ⟨regex, hfound, by rw [node, hnode, Option.getD_some]⟩
      next => cases hregex

/-- Whatever was asked before, the node of a regular expression takes what is found after skipped
characters, with all that stands before it. -/
theorem evaluate_after_of_node {regex : CompiledRegex} {expected : String}
    (hnode : grammar.node id = .regex regex skip expected) (text : Text) (history : List Request)
    (room offset : Nat) :
    (grammar.evaluate text (room + 1) id offset
      ((Session.start grammar text).after history).state).1 =
      match regex.find? (text.rest (skipFrom skip text offset)) with
      | some found =>
        .ok ⟨skipFrom skip text offset + byteLength (found.skipped ++ found.matched),
          .ofToken (Terminal.stringToken (found.skipped ++ found.matched))⟩
      | none => .error (.failure (.ordinary (skipFrom skip text offset) expected)) := by
  have htrace {outcome : Except Halt Match} (hreached : ¬ IsLimited outcome)
      (houtcome : (Matcher.scanned text skip expected (Matcher.scanRegex regex) offset :
        Trace Match).outcome = outcome) :
      (grammar.evaluate text (room + 1) id offset
        ((Session.start grammar text).after history).state).1 = outcome :=
    evaluate_after_of_trace (by rw [trace_succ, hnode]; exact houtcome) hreached history
  cases hfound : regex.find? (text.rest (skipFrom skip text offset)) with
  | none =>
    refine htrace (not_isLimited_failure _) ?_
    simp only [Matcher.scanned, Matcher.scanRegex, hfound]
    rfl
  | some found =>
    refine htrace (not_isLimited_ok _) ?_
    simp only [Matcher.scanned, Matcher.scanRegex, hfound]
    rfl

/-- A regular expression is anchored if its engine keeps its promises and accepts the pattern by
itself. Whatever was asked before, it is tried where the skipped characters end: what it finds of a
text starts where it is looked for. The node succeeds if and only if the pattern occurs at the
place, the token consists of the characters of the occurrence alone, and otherwise the node fails
there. -/
theorem evaluate_after_of_regex {occurs : List Char → List Char → List Char → List Char → Prop}
    (hlawful : engine.Lawful occurs)
    (hid : (⟨identity, .regex engine pattern⟩ : Expr).CompilesTo grammar.nodes
      grammar.ruleNames skip id)
    (hown : engine.compile? pattern.toList ≠ none) :
    ∃ regex, engine.compile? (Compile.anchored pattern) = some regex ∧
      grammar.node id = .regex regex skip ("Expected " ++ (Shape.regex engine pattern).display) ∧
      (∀ chars found, regex.find? chars = some found → found.skipped = []) ∧
      ∀ (text : Text) (history : List Request) (room offset : Nat),
        let start := skipFrom skip text offset
        let outcome := (grammar.evaluate text (room + 1) id offset
          ((Session.start grammar text).after history).state).1
        (∀ found, outcome = .ok found → ∃ matched after,
          regex.find? (text.rest start) = some ⟨[], matched⟩ ∧ text.rest start = matched ++ after ∧
          occurs pattern.toList [] matched after ∧
          found = ⟨start + byteLength matched, .ofToken (Terminal.stringToken matched)⟩) ∧
        (outcome.isOk = true ↔ ∃ matched after, text.rest start = matched ++ after ∧
          occurs pattern.toList [] matched after) ∧
        (outcome.isOk = false → outcome = .error (.failure
          (.ordinary start ("Expected " ++ (Shape.regex engine pattern).display)))) := by
  obtain ⟨regex, hregex, hnode⟩ := exists_node_of_regex hid
  refine ⟨regex, hregex, hnode, fun chars found hfound ↦
    (hlawful.exists_of_find? hown hregex hfound).1, fun text history room offset ↦ ?_⟩
  intro start outcome
  have houtcome : outcome = _ := evaluate_after_of_node hnode text history room offset
  cases hfind : regex.find? (text.rest start) with
  | none =>
    rw [hfind] at houtcome
    have hnever : ¬ ∃ matched after, text.rest start = matched ++ after ∧
        occurs pattern.toList [] matched after := by
      rintro ⟨matched, after, hrest, hoccurs⟩
      obtain ⟨found, hfound⟩ := hlawful.exists_find? hown hregex hoccurs
      rw [← hrest, hfind] at hfound
      cases hfound
    rw [houtcome]
    exact ⟨fun found hfound ↦ (nomatch hfound), iff_of_false nofun hnever, fun _ ↦ rfl⟩
  | some found =>
    rw [hfind] at houtcome
    obtain ⟨hskipped, after, hrest, hoccurs⟩ := hlawful.exists_of_find? hown hregex hfind
    obtain ⟨skipped, matched⟩ := found
    obtain rfl : skipped = [] := hskipped
    rw [houtcome]
    refine ⟨fun found hfound ↦ ⟨matched, after, rfl, hrest, hoccurs, ?_⟩,
      iff_of_true rfl ⟨matched, after, hrest, hoccurs⟩, nofun⟩
    exact (Except.ok.inj hfound).symm

/-- The tail of a letter is found after a blank. It takes nothing where another letter stands, even
if the tail comes further on. -/
theorem evaluate_after_of_regex_tailed :
    let text := Text.ofChars ['a', ' ', 'b', 'b', 'a', 'b']
    let outcome (offset : Nat) := (tailed.evaluate text 1 1 offset
      ((Session.start tailed text).after [.scan]).state).1
    Draft.tailed.build = .ok tailed ∧ RegexEngine.standard.Lawful RegexEngine.Occurs ∧
      RegexEngine.standard.compile? "b*".toList ≠ none ∧
      outcome 1 = .ok ⟨4, .ofToken (.str "bb")⟩ ∧ outcome 4 = .ok ⟨4, .ofToken (.str "")⟩ ∧
      ∃ regex, RegexEngine.standard.compile? (Compile.anchored "b*") = some regex ∧
        (∀ chars found, regex.find? chars = some found → found.skipped = []) ∧
        regex.find? ['b', 'b', 'a', 'b'] = some ⟨[], ['b', 'b']⟩ := by
  intro text outcome
  have hid : (⟨1, .regex .standard "b*"⟩ : Expr).CompilesTo tailed.nodes tailed.ruleNames
      (some .blanks) 1 := .of_lowers rfl (.regex (by cbv)) .nil
  have hown : RegexEngine.standard.compile? "b*".toList ≠ none := by
    have hread : Regex.ofPattern? "b*".toList =
        some (.repetition (.char (.single 'b')) 0 none true) := by cbv
    change (Regex.ofPattern? "b*".toList).map Regex.compiled ≠ none
    rw [hread]
    exact Option.some_ne_none _
  have hfirst : outcome 1 = .ok ⟨4, .ofToken (.str "bb")⟩ :=
    evaluate_after_of_trace (by cbv) (not_isLimited_ok _) [.scan]
  have hsecond : outcome 4 = .ok ⟨4, .ofToken (.str "")⟩ :=
    evaluate_after_of_trace (by cbv) (not_isLimited_ok _) [.scan]
  obtain ⟨regex, hregex, -, hbound, houtcome⟩ :=
    evaluate_after_of_regex RegexEngine.lawful_standard hid hown
  refine ⟨Draft.build_tailed, RegexEngine.lawful_standard, hown, hfirst, hsecond,
    regex, hregex, hbound, ?_⟩
  obtain ⟨matched, after, hfind, -, -, hmatch⟩ := (houtcome text [.scan] 0 1).1 _ hfirst
  have htoken : Token.str "bb" = Terminal.stringToken matched :=
    (List.cons.inj (congrArg (·.results.tokens) hmatch)).1
  have hmatched : matched = ['b', 'b'] := (String.ofList_inj.mp (Token.str.inj htoken)).symm
  have hrest : text.rest (skipFrom (some .blanks) text 1) = ['b', 'b', 'a', 'b'] := by cbv
  rw [hmatched, hrest] at hfind
  exact hfind

end Grammar

/-! ### A pattern that closes the group around it -/

/-- A pattern that closes the group around it and opens another one after a bar. -/
def Draft.divided : Draft where
  entry := some (.expr ⟨0, .regex .standard "a)|(?:b"⟩)

/-- The two groups: only the first one is bound to the start of the text. -/
def CompiledRegex.divided : CompiledRegex :=
  (Regex.alt (.cat (.look .textStart) (.char (.single 'a'))) (.char (.single 'b'))).compiled

def Grammar.divided : Grammar where
  nodes := #[.regex .divided (some .blanks) "Expected Re:(\"a)|(?:b\")"]
  ruleNames := []
  ruleBodies := []
  entry := some 0
  config := {}

theorem Draft.build_divided : Draft.divided.build = .ok Grammar.divided := by
  cbv

/-- Not every regular expression that builds finds its match where it is tried, even if the engine
keeps its promises: the letter of the second group is found after another letter, which the token
then starts with. -/
theorem Draft.takes_unmatched :
    ¬ ∀ (engine : RegexEngine) (occurs : List Char → List Char → List Char → List Char → Prop),
      engine.Lawful occurs → ∀ (draft : Draft) (grammar : Grammar) (identity :
        Nat) (pattern : String), draft.entry = some (.expr ⟨identity, .regex engine pattern⟩) →
          draft.build = .ok grammar → ∀ (id : NodeId) (regex : CompiledRegex) (skip :
            Option CharSet) (expected : String), grammar.node id = .regex regex skip expected →
              ∀ (text : Text) (offset : Nat) (found : Match),
                (grammar.evaluate text 1 id offset (Session.start grammar text).state).1 =
                  .ok found → ∃ matched, regex.find? (text.rest (skipFrom skip text offset)) =
                    some ⟨[], matched⟩ := by
  intro hanchored
  let text := Text.ofChars ['x', 'b']
  have htaken : (Grammar.divided.evaluate text 1 0 0 (Session.start Grammar.divided text).state).1 =
      .ok ⟨2, .ofToken (.str "xb")⟩ :=
    Grammar.evaluate_after_of_trace (by cbv) (not_isLimited_ok _) []
  have hfound : CompiledRegex.divided.find? (text.rest (skipFrom (some .blanks) text 0)) =
      some ⟨['x'], ['b']⟩ := by cbv
  obtain ⟨matched, hmatched⟩ := hanchored .standard RegexEngine.Occurs RegexEngine.lawful_standard
    divided Grammar.divided 0 "a)|(?:b" rfl build_divided 0 .divided
      (some .blanks) _ rfl text 0 _ htaken
  cases hfound.symm.trans hmatched

end Packrat
