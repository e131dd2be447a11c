import Packrat.Proofs.Grammar.Supply
import Packrat.Proofs.Grammar.Twins
import Packrat.Proofs.Results.Joined
import Packrat.Proofs.Session.Promises
import Packrat.Proofs.Terminal.Options

/-!
# Results that are the text

Where nothing is skipped, a node that drops nothing, adds nothing and changes nothing gives back the
text that it has matched: the texts of its tokens, one after the other, are the characters between
the offset where it was evaluated and the end of its match (`Draft.joined_eq_slice_after`). Such a
node is made of terminals that keep what they take, and of nodes that only put together what their
children give (`Node.keepsText`).
-/

set_option autoImplicit false
set_option relaxedAutoImplicit false

namespace Packrat

/-! ### Nodes that keep the text -/

/-- Whether the token of a terminal is the text that it takes. A string and a keyword in any case
are given as they were declared, a quoted string without its quotes has lost them, and a number is
no text. -/
def Terminal.keepsText : Terminal → Bool
  | .literal _ caseless => !caseless
  | .keyword _ caseless _ => !caseless
  | .word _ => true
  | .oneOf _ caseless => !caseless
  | .quoted form => form.keepQuotes
  | .numeral _ => false

/-- Whether a node gives all text that its children give and no other. -/
def Node.keepsText : Node → Bool
  | .empty => true
  | .textEnd _ => true
  | .terminal form _ _ => form.keepsText
  | .regex _ _ _ => true
  | .sequence _ _ => true
  | .choice _ => true
  | .optional _ default => default.isNone
  | .repetition _ _ _ _ => true
  | .delimited _ _ form _ => form.keepSeparators
  | .lookahead _ _ _ => true
  | .suppress _ => false
  | .group _ => true
  | .combine _ joiner _ => joiner = ""
  | .call _ => true
  | .named _ _ _ => true
  | .action _ _ _ => false
  | .labeled _ _ _ => true

/-- The characters that a node skips itself. -/
def Node.skips : Node → Option CharSet
  | .textEnd skip => skip
  | .terminal _ skip _ => skip
  | .regex _ skip _ => skip
  | .combine _ _ skip => skip
  | .action _ _ skip => skip
  | .labeled _ skip _ => skip
  | _ => none

namespace Grammar

variable {grammar : Grammar} {text : Text}

/-- A node and all that it uses, directly or through others, keep the text. -/
def KeepsText (grammar : Grammar) (id : NodeId) : Prop :=
  ∀ other, Relation.ReflTransGen grammar.Uses id other → (grammar.node other).keepsText = true

theorem KeepsText.node {id : NodeId} (hkeeps : grammar.KeepsText id) :
    (grammar.node id).keepsText = true :=
  hkeeps id .refl

/-- What is used by a node that keeps the text keeps it too. -/
theorem KeepsText.uses {id other : NodeId} (hkeeps : grammar.KeepsText id)
    (huses : grammar.Uses id other) : grammar.KeepsText other :=
  fun last hlast ↦ hkeeps last (.head huses hlast)

/-- No node of a grammar skips anything. -/
def SkipsNothing (grammar : Grammar) : Prop := ∀ id, (grammar.node id).skips = none

/-- A node and all that it uses, directly or through others, keep the text and skip nothing. -/
structure Tight (grammar : Grammar) (id : NodeId) : Prop where
  /-- They keep the text. -/
  keeps : grammar.KeepsText id
  /-- They skip nothing. -/
  bare : ∀ other, Relation.ReflTransGen grammar.Uses id other → (grammar.node other).skips = none

theorem Tight.uses {id other : NodeId} (htight : grammar.Tight id) (huses : grammar.Uses id other) :
    grammar.Tight other :=
  ⟨htight.keeps.uses huses, fun last hlast ↦ htight.bare last (.head huses hlast)⟩

/-- Where nothing is skipped, the nodes that keep the text are tight. -/
theorem SkipsNothing.tight_iff (hskips : grammar.SkipsNothing) {id : NodeId} :
    grammar.Tight id ↔ grammar.KeepsText id :=
  ⟨fun htight ↦ htight.keeps, fun hkeeps ↦ ⟨hkeeps, fun other _ ↦ hskips other⟩⟩

end Grammar

/-- The promise that the results of a node that keeps the text are what it has matched. -/
def Promise.verbatim (grammar : Grammar) (text : Text) : NodeId → Nat → Match → Prop :=
  fun id offset found ↦ grammar.KeepsText id → found.results.joined [] =
  text.slice offset found.stop

/-- The promise that the results of a tight node are what it has matched. -/
def Promise.tight (grammar : Grammar) (text : Text) : NodeId → Nat → Match → Prop :=
  fun id offset found ↦ grammar.Tight id → found.results.joined [] = text.slice offset found.stop

/-- A terminal that keeps the text gives what it takes. -/
theorem Terminal.text_of_scan {form : Terminal} (hkeeps : form.keepsText = true)
    {before : Option Char} {chars taken : List Char} {token : Token}
    (hscan : form.scan before chars = .found (taken, token)) :
    token.text = taken := by
  have hstring {content : String} {caseless : Bool} (hcase : (!caseless) = true)
      (hmatched : stringPrefix caseless content.toList chars = some taken) :
      (Token.str content).text = taken := by
    obtain rfl : caseless = false := by simpa using hcase
    rw [Token.text, (stringPrefix_false_eq_some_iff.mp hmatched).1]
  cases form with
  | literal content caseless =>
    obtain ⟨matched, hmatched, hpair⟩ :=
      Option.map_eq_some_iff.mp (Scan.ofOption_eq_found_iff.mp hscan)
    obtain ⟨rfl, rfl⟩ := Prod.mk.inj hpair
    exact hstring hkeeps hmatched
  | keyword content caseless identifierChars =>
    obtain ⟨matched, hmatched, hpair⟩ :=
      Option.bind_eq_some_iff.mp (Scan.ofOption_eq_found_iff.mp hscan)
    split_ifs at hpair
    obtain ⟨rfl, rfl⟩ := Prod.mk.inj (Option.some.inj hpair)
    exact hstring hkeeps hmatched
  | word form =>
    obtain ⟨matched, -, hpair⟩ := Option.map_eq_some_iff.mp (Scan.ofOption_eq_found_iff.mp hscan)
    obtain ⟨rfl, rfl⟩ := Prod.mk.inj hpair
    exact text_stringToken matched
  | oneOf options caseless =>
    obtain ⟨option, -, hfound⟩ := List.exists_of_findSome?_eq_some
      (Scan.ofOption_eq_found_iff.mp hscan)
    obtain ⟨matched, hmatched, hpair⟩ := Option.map_eq_some_iff.mp hfound
    obtain ⟨rfl, rfl⟩ := Prod.mk.inj hpair
    obtain rfl : caseless = false := by simpa [keepsText] using hkeeps
    rw [text_stringToken, (stringPrefix_false_eq_some_iff.mp hmatched).1]
  | quoted form =>
    obtain ⟨found, hfound, hpair⟩ := Scan.map_eq_found_iff.mp hscan
    obtain ⟨rfl, rfl⟩ := Prod.mk.inj hpair
    rw [text_stringToken]
    unfold Quoted.scan at hfound
    split at hfound
    · exact nomatch hfound
    · obtain ⟨body, -, rfl⟩ := Scan.map_eq_found_iff.mp hfound
      exact if_pos hkeeps
  | numeral kind => exact nomatch hkeeps

/-- What is taken at an offset, and given as it is, is what stands there. -/
theorem Text.slice_of_takes {text : Text} {offset : Nat} {taken : List Char} {token : Token}
    (hinitial : taken <+: text.rest offset) (htext : token.text = taken) :
    (Results.ofToken token).joined [] = text.slice offset (offset + byteLength taken) := by
  obtain ⟨more, hmore⟩ := hinitial
  rw [Results.joined_ofToken, htext, Text.slice_of_rest_eq hmore.symm]

namespace Promise

variable {grammar : Grammar} {text : Text} {id child : NodeId} {offset : Nat}

/-- No results are the text between an offset and itself. -/
theorem tight_nothing : tight grammar text id offset (.nothing offset) := by
  intro _
  change Results.empty.joined [] = text.slice offset offset
  rw [Text.slice_self, Results.joined_empty]

/-- What is given as a child gave it is what the child has matched. -/
theorem tight_of_uses (huses : grammar.Uses id child) {found : Match}
    (hfound : text.Fulfils (tight grammar text) child offset found) :
    tight grammar text id offset found :=
  fun htight ↦ hfound.2 (htight.uses huses)

/-- What one more match gives stands just after what was given so far. -/
theorem continues_tight (hoffset : text.IsBoundary offset) (huses : grammar.Uses id child) :
    text.Continues (tight grammar text) offset (tight grammar text id offset) child := by
  intro done next hahead hdone hnext htight
  have hmore := hnext.2 (htight.uses huses)
  simp only [Match.append, Results.joined_extend]
  rw [hdone htight, hmore]
  exact hahead.slice_append hnext.1 hoffset

variable {form : ListForm} {separator : NodeId} {done between : Match}

/-- A list that keeps its separators gives the one after which it ends. -/
theorem tight_withTrailing (hoffset : text.IsBoundary offset) (huses : grammar.Uses id separator)
    (hform : grammar.Tight id → form.keepSeparators = true) (hahead : text.Ahead offset done.stop)
    (hdone : tight grammar text id offset done)
    (hbetween : text.Fulfils (tight grammar text) separator done.stop between) :
    tight grammar text id offset (Matcher.withTrailing form done between) := by
  intro htight
  unfold Matcher.withTrailing
  split_ifs with htrailing hkeep
  · exact continues_tight hoffset huses done between hahead hdone hbetween htight
  · exact absurd (hform htight) hkeep
  · exact hdone htight

/-- A list that keeps its separators gives each of them before the item that follows it. -/
theorem tight_withItem (hoffset : text.IsBoundary offset) (huses : grammar.Uses id separator)
    {item : NodeId} (hitem : grammar.Uses id item)
    (hform : grammar.Tight id → form.keepSeparators = true) (hahead : text.Ahead offset done.stop)
    (hdone : tight grammar text id offset done)
    (hbetween : text.Fulfils (tight grammar text) separator done.stop between) {next : Match}
    (hnext : text.Fulfils (tight grammar text) item between.stop next) :
    tight grammar text id offset (Matcher.withItem form done between next) := by
  intro htight
  have hwith := continues_tight hoffset huses done between hahead hdone hbetween
  unfold Matcher.withItem
  split_ifs with hkeep
  · exact continues_tight hoffset hitem (done.append between) next (hahead.trans hbetween.1) hwith
      hnext htight
  · exact absurd (hform htight) hkeep

end Promise

namespace Grammar

open Promise

variable {grammar : Grammar}

/-- A grammar keeps the promise that the results of tight nodes are what was matched. -/
theorem maintains_tight (grammar : Grammar) (text : Text) :
    grammar.Maintains text (Promise.tight grammar text) := by
  intro id offset hoffset
  have hself (htight : grammar.Tight id) : (grammar.node id).keepsText = true := htight.keeps.node
  have hskip (htight : grammar.Tight id) : (grammar.node id).skips = none := htight.bare id .refl
  have hchild {child : NodeId} (hmem : child ∈ (grammar.node id).children) :
      grammar.Uses id child :=
    .child hmem
  cases hnode : grammar.node id with
  | empty => exact tight_nothing
  | textEnd skip =>
    rw [hnode] at hskip
    intro _ htight
    obtain rfl : skip = none := hskip htight
    exact tight_nothing htight
  | terminal form skip expected =>
    rw [hnode] at hskip hself
    intro taken token hscan htight
    obtain rfl : skip = none := hskip htight
    exact Text.slice_of_takes (Terminal.scan_eq_found hscan).1
      (Terminal.text_of_scan (hself htight) hscan)
  | regex program skip expected =>
    rw [hnode] at hskip
    intro taken token hscan htight
    obtain rfl : skip = none := hskip htight
    obtain ⟨found, -, hpair⟩ := Option.map_eq_some_iff.mp (Scan.ofOption_eq_found_iff.mp hscan)
    have htext : token.text = taken := by
      obtain ⟨rfl, rfl⟩ := Prod.mk.inj hpair
      exact Terminal.text_stringToken _
    exact Text.slice_of_takes (CompiledRegex.scanRegex_eq_found hscan).1 htext
  | sequence parts commit =>
    rw [hnode] at hchild
    exact ⟨tight_nothing, fun part hpart ↦ continues_tight hoffset (hchild hpart)⟩
  | choice alternatives =>
    rw [hnode] at hchild
    exact fun alternative halternative _ ↦ tight_of_uses (hchild halternative)
  | optional child default =>
    rw [hnode] at hchild hself
    refine ⟨fun htight ↦ ?_, fun _ ↦ tight_of_uses (hchild List.mem_cons_self)⟩
    obtain rfl := Option.isNone_iff_eq_none.mp (hself htight)
    exact tight_nothing htight
  | repetition child least most what =>
    rw [hnode] at hchild
    exact ⟨tight_nothing, continues_tight hoffset (hchild List.mem_cons_self)⟩
  | delimited item separator form what =>
    rw [hnode] at hchild hself
    have hitem : grammar.Uses id item := hchild List.mem_cons_self
    have hseparator : grammar.Uses id separator :=
      hchild (List.mem_cons_of_mem _ List.mem_cons_self)
    exact ⟨tight_nothing, fun _ ↦ tight_of_uses hitem, fun done between hahead hdone hbetween ↦
      ⟨tight_withTrailing hoffset hseparator hself hahead hdone hbetween,
        fun next ↦ tight_withItem hoffset hseparator hitem hself hahead hdone hbetween⟩⟩
  | lookahead child negative unwanted => exact tight_nothing
  | suppress child =>
    rw [hnode] at hself
    exact fun _ _ htight ↦ nomatch hself htight
  | group child =>
    rw [hnode] at hchild
    intro found hfound htight
    have hsame := tight_of_uses (hchild List.mem_cons_self) hfound htight
    rwa [← Results.text_toGroup, ← Results.joined_ofToken] at hsame
  | combine child joiner skip =>
    rw [hnode] at hchild hself hskip
    intro found hfound htight
    obtain rfl : skip = none := hskip htight
    obtain rfl : joiner = "" := of_decide_eq_true (hself htight)
    have hsame : found.results.joined [] = text.slice offset found.stop :=
      tight_of_uses (hchild List.mem_cons_self) hfound htight
    rw [← hsame, Results.joined_ofToken, Terminal.text_stringToken]
    rfl
  | call rule => exact fun _ ↦ tight_of_uses (.body hnode)
  | named child name accumulate =>
    rw [hnode] at hchild
    intro found hfound htight
    have hsame := tight_of_uses (hchild List.mem_cons_self) hfound htight
    rwa [← Results.joined_setName] at hsame
  | action child actions skip =>
    rw [hnode] at hchild hself
    exact ⟨fun _ ↦ tight_of_uses (hchild List.mem_cons_self),
      fun _ _ _ _ _ _ _ _ htight ↦ nomatch hself htight⟩
  | labeled child skip expected =>
    rw [hnode] at hchild
    exact fun _ ↦ tight_of_uses (hchild List.mem_cons_self)

/-- A grammar that skips nothing keeps the promise that results are what was matched. -/
theorem maintains_verbatim (hskips : grammar.SkipsNothing) (text : Text) :
    grammar.Maintains text (Promise.verbatim grammar text) := by
  have hsame : Promise.tight grammar text = Promise.verbatim grammar text := by
    funext id offset found
    exact propext (imp_congr hskips.tight_iff Iff.rfl)
  exact hsame ▸ grammar.maintains_tight text

end Grammar

/-! ### Drafts that skip nothing -/

/-- Whether a shape sets other characters to be skipped. -/
def Shape.isOverride : Shape → Bool
  | .blanks _ _ => true
  | _ => false

/-- Nothing is skipped by default, and nothing in the rules and the entry of a draft overrides
that. -/
structure Draft.SkipsNothing (draft : Draft) : Prop where
  /-- Nothing is skipped by default. -/
  standard : draft.config.skip = none
  /-- There is no override in a rule. -/
  bodies : ∀ body ∈ draft.rules.map Prod.snd, body.Throughout fun shape ↦ shape.isOverride = false
  /-- There is none in the entry. -/
  entry : ∀ entry, draft.entry = some (.expr entry) →
    entry.Throughout fun shape ↦ shape.isOverride = false

/-- Where nothing is skipped around a shape that is no override, nothing is skipped around its
children. -/
theorem Shape.skip_of_mem_children {shape : Shape} (hshape : shape.isOverride = false)
    {child : Option CharSet × Expr} (hchild : child ∈ shape.children none) : child.1 = none := by
  cases shape with
  | sequence parts commit =>
    obtain ⟨part, -, rfl⟩ := List.mem_map.mp hchild
    rfl
  | choice alternatives =>
    obtain ⟨alternative, -, rfl⟩ := List.mem_map.mp hchild
    rfl
  | delimited item separator form =>
    rcases List.mem_cons.mp hchild with rfl | hother
    · rfl
    · rw [List.mem_singleton.mp hother]
  | blanks child set => exact nomatch hshape
  | empty | textEnd | terminal | regex | rule => exact nomatch hchild
  | _ => rw [List.mem_singleton.mp hchild]

/-- The node that a shape becomes where nothing is skipped skips nothing. -/
theorem Shape.Lowers.skips {names : List String} {shape : Shape} {ids : List NodeId} {node : Node}
    (hlowers : shape.Lowers names none ids node) : node.skips = none := by
  cases hlowers with
  | terminal hnode =>
    rcases Compile.terminalNode_cases hnode with rfl | rfl
    · rfl
    · rfl
  | regex hnode =>
    obtain ⟨program, rfl⟩ := Compile.regexNode_cases hnode
    rfl
  | _ => rfl

namespace Draft

variable {draft : Draft} {grammar : Grammar}

/-- Nothing is skipped around what occurs in a draft that skips nothing. -/
theorem SkipsNothing.skip_of_reaches (hbare : draft.SkipsNothing) {skip : Option CharSet}
    {expr : Expr} (hreaches : draft.Reaches skip expr) : skip = none := by
  induction hreaches with
  | body _ => exact hbare.standard
  | entry _ => exact hbare.standard
  | @child skip expr child hexpr hchild ih =>
    subst ih
    exact Shape.skip_of_mem_children (hexpr.throughout hbare.bodies hbare.entry).shape hchild

/-- A draft that skips nothing becomes a grammar that skips nothing. -/
theorem LowersTo.skipsNothing (hlowers : draft.LowersTo grammar) (hbare : draft.SkipsNothing) :
    grammar.SkipsNothing := by
  intro id
  by_cases hid : id < grammar.nodeCount
  · obtain ⟨skip, expr, hcovers, hcompiles⟩ := hlowers.covered id hid
    have hnone : skip = none := by
      cases hcovers with
      | reaches hreaches => exact hbare.skip_of_reaches hreaches
      | entry _ _ => exact hbare.standard
    have hshape : expr.shape.isOverride = false := by
      cases hcovers with
      | reaches hreaches => exact (hreaches.throughout hbare.bodies hbare.entry).shape
      | entry hentry hmeans =>
        cases hmeans with
        | expr => exact (hbare.entry expr hentry).shape
        | rule => rfl
    cases hcompiles with
    | node hnode hshapes =>
      rw [Grammar.node, hnode]
      exact (hnone ▸ hshapes).skips
    | blanks => cases hshape
  · rw [Grammar.node, Array.getElem?_eq_none (Nat.le_of_not_lt hid)]
    rfl

/-- No text is lost and none is given twice. In the grammar of a draft in which nothing is skipped,
what a node that keeps the text matches from a boundary ends ahead, and the texts of its tokens make
up the characters in between, whatever was asked of the session before. Strings and keywords that
are found in any case are given as they were declared and not as they stand in the text, so they do
not keep it. -/
theorem joined_eq_slice_after (hcoherent : draft.Coherent) (hbuild : draft.build = .ok grammar)
    (hbare : draft.SkipsNothing) {text : Text} (history : List Request) {id : NodeId}
    (hkeeps : grammar.KeepsText id) (room : Nat) {offset : Nat} (hoffset : text.IsBoundary offset)
    {found : Match}
    (hfound : (grammar.evaluate text room id offset
      ((Session.start grammar text).after history).state).1 = .ok found) :
    text.Ahead offset found.stop ∧ found.results.joined [] = text.slice offset found.stop := by
  have hlowers := lowersTo_of_compile hcoherent (build_eq_ok_iff.mp hbuild).1
  have hmaintains := Grammar.maintains_verbatim (hlowers.skipsNothing hbare) text
  have hafter := Session.fulfils_after hmaintains history
  have houtcome : Ended (text.Fulfils (Promise.verbatim grammar text) id offset) (text.Ahead offset)
      (grammar.evaluate text room id offset ((Session.start grammar text).after history).state).1 :=
    (Grammar.kept_evaluate hmaintains room hoffset hafter).outcome
  rw [hfound] at houtcome
  obtain ⟨hahead, hverbatim⟩ := houtcome
  exact ⟨hahead, hverbatim hkeeps⟩

end Draft

/-! ### Nested letters -/

/-- A letter, and more of them as a group. -/
def Draft.nested : Build Draft := do
  let letter ← Expr.literal "a"
  let inner ← Expr.rule "letters"
  let group ← inner.group
  let more ← group.optional
  let letters ← letter.andThen more
  pure { rules := [("letters", letters)], entry := some (.rule "letters")
         config := { maxMemoSize := 0, blanks := .empty } }

def Grammar.nested : Grammar where
  nodes := #[.terminal (.literal "a" false) none "Expected \"a\"", .call 0, .group 1,
    .optional 2 none, .sequence [0, 3] none]
  ruleNames := ["letters"]
  ruleBodies := [4]
  entry := some 1
  config := { maxMemoSize := 0, blanks := .empty }

/-- All nodes of the grammar of nested letters keep the text. -/
theorem Grammar.keepsText_nested (id : NodeId) : nested.KeepsText id := by
  have hall : ∀ node ∈ nested.nodes.toList, node.keepsText = true := by decide
  intro other _
  rcases nested.node_mem_or_eq_empty other with hmem | hempty
  · exact hall _ hmem
  · rw [hempty]
    rfl

namespace Draft

/-- The draft of nested letters builds into their grammar. -/
theorem build_nested : (nested 0).1.build = .ok Grammar.nested := by
  cbv

theorem coherent_nested (next : Nat) : (nested next).1.Coherent := by
  have hdraws : Build.Draws (fun _ ↦ False) nested Drawn := by
    refine Build.draws_bind (Build.draws_leaf fun _ ↦ rfl) fun letter first _ hletter ↦ ?_
    refine Build.draws_bind (Build.draws_leaf fun _ ↦ rfl) fun inner second hsecond hinner ↦ ?_
    refine Build.draws_bind (Build.draws_around (fun _ ↦ rfl) hinner)
      fun group third hthird hgroup ↦ ?_
    refine Build.draws_bind (Build.draws_around (fun _ ↦ rfl) hgroup)
      fun more fourth hfourth hmore ↦ ?_
    have hknown := hfourth letter (hthird letter (hsecond letter hletter))
    refine Build.draws_bind (Build.draws_andThen hknown hmore) fun letters drawn _ hletters ↦
      Build.draws_pure _ ⟨fun body hbody ↦ ?_, fun _ hentry ↦ nomatch hentry⟩
    exact List.mem_singleton.mp hbody ▸ hletters
  exact hdraws.coherent next

theorem skipsNothing_nested : (nested 0).1.SkipsNothing where
  standard := by decide
  bodies := by
    intro body hbody
    obtain rfl : body = ⟨4, .sequence [⟨0, .terminal (.literal "a" false)⟩,
        ⟨3, .optional ⟨2, .group ⟨1, .rule "letters"⟩⟩ none⟩] none⟩ := List.mem_singleton.mp hbody
    simp [Expr.throughout_iff, Shape.children, Shape.isOverride]
  entry := fun _ hentry ↦ nomatch hentry

/-- Three letters are one token and a group around two more, which make up the text again. -/
theorem joined_eq_slice_nested :
    (nested 0).1.Coherent ∧ (nested 0).1.build = .ok Grammar.nested ∧ (nested 0).1.SkipsNothing ∧
      Grammar.nested.KeepsText 4 ∧ (Text.ofChars ['a', 'a', 'a']).IsBoundary 0 ∧
      ∃ found, (Grammar.nested.evaluate (.ofChars ['a', 'a', 'a']) 100 4 0
          ((Session.start Grammar.nested (.ofChars ['a', 'a', 'a'])).after [.parse true]).state).1 =
            .ok found ∧ found.stop = 3 ∧ found.results.joined [] = ['a', 'a', 'a'] := by
  have hzero : (Text.ofChars ['a', 'a', 'a']).IsBoundary 0 := Text.isBoundary_zero _
  have hfound : (Grammar.nested.evaluate (.ofChars ['a', 'a', 'a']) 100 4 0
      ((Session.start Grammar.nested (.ofChars ['a', 'a', 'a'])).after [.parse true]).state).1 =
        .ok ⟨3, .ofTokens [.str "a", .group [.str "a", .group [.str "a"] []] []]⟩ := by
    cbv
  have hjoined := (joined_eq_slice_after (coherent_nested 0) build_nested skipsNothing_nested
    [.parse true] (Grammar.keepsText_nested 4) 100 hzero hfound).2
  refine ⟨coherent_nested 0, build_nested, skipsNothing_nested,
    Grammar.keepsText_nested 4, hzero, _, hfound, rfl, ?_⟩
  rw [hjoined]
  decide

end Draft

/-! ### A keyword in any case -/

/-- A keyword in any case. -/
def Draft.shouted : Build Draft := do
  let keyword ← Expr.caselessKeyword "a"
  pure { rules := [("word", keyword)], entry := some (.rule "word")
         config := { maxMemoSize := 0, blanks := .empty } }

def Grammar.shouted : Grammar where
  nodes := #[.terminal (.keyword "a" true .identifierChars) none "Expected CaselessKeyword \"a\"",
    .call 0]
  ruleNames := ["word"]
  ruleBodies := [0]
  entry := some 1
  config := { maxMemoSize := 0, blanks := .empty }

namespace Draft

/-- The draft of a keyword in any case builds into its grammar. -/
theorem build_shouted : (shouted 0).1.build = .ok Grammar.shouted := by
  cbv

/-- A keyword in any case is drawn from a supply. -/
theorem coherent_shouted (next : Nat) : (shouted next).1.Coherent := by
  have hdraws : Build.Draws (fun _ ↦ False) shouted Drawn :=
    Build.draws_bind (Build.draws_leaf fun _ ↦ rfl) fun _ _ _ hkeyword ↦
      Build.draws_pure _ ⟨fun _ hbody ↦ List.mem_singleton.mp hbody ▸ hkeyword,
        fun _ hentry ↦ nomatch hentry⟩
  exact hdraws.coherent next

/-- There are no blanks around a keyword in any case. -/
theorem skipsNothing_shouted : (shouted 0).1.SkipsNothing where
  standard := by decide
  bodies := by
    intro body hbody
    obtain rfl : body = ⟨0, .terminal (.keyword "a" true .identifierChars)⟩ :=
      List.mem_singleton.mp hbody
    simp [Expr.throughout_iff, Shape.children, Shape.isOverride]
  entry := fun _ hentry ↦ nomatch hentry

/-- A keyword in any case that stands in the text in capitals is given in small letters, as it was
declared: nothing is skipped, and yet the text of the results is not the text. -/
theorem joined_ne_slice_shouted :
    (shouted 0).1.Coherent ∧ (shouted 0).1.build = .ok Grammar.shouted ∧
      (shouted 0).1.SkipsNothing ∧ Grammar.shouted.node 0 =
        .terminal (.keyword "a" true .identifierChars) none "Expected CaselessKeyword \"a\"" ∧
      (Text.ofChars ['A']).IsBoundary 0 ∧
      ∃ found, (Grammar.shouted.evaluate (.ofChars ['A']) 100 0 0
          (Session.start Grammar.shouted (.ofChars ['A'])).state).1 = .ok found ∧
        found.results.joined [] = ['a'] ∧ (Text.ofChars ['A']).slice 0 found.stop = ['A'] ∧
          found.results.joined [] ≠ (Text.ofChars ['A']).slice 0 found.stop := by
  have hevaluate : (Grammar.shouted.evaluate (.ofChars ['A']) 100 0 0
      (Session.start Grammar.shouted (.ofChars ['A'])).state).1 = .ok ⟨1, .ofToken (.str "a")⟩ := by
    cbv
  have hjoined : (Results.ofToken (.str "a")).joined [] = ['a'] := by
    rw [Results.joined_ofToken]
    decide
  have hslice : (Text.ofChars ['A']).slice 0 1 = ['A'] := by decide
  refine ⟨coherent_shouted 0, build_shouted, skipsNothing_shouted, rfl, Text.isBoundary_zero _, _,
    hevaluate, hjoined, hslice, ?_⟩
  rw [hjoined, hslice]
  decide

end Draft

end Packrat
