import Packrat.Proofs.Matching.Items
import Packrat.Proofs.Terminal.Quoted

/-!
# The empty text

On the empty text there is one offset and nothing to take there. Where there are no lookaheads,
actions and commit points a node has two ways to end on it: it matches, or it fails and there is a
way back (`Ending.Tells`). Which of them it is depends on the nodes that it uses, and on these by
the rules of nullability (`Grammar.idles_eq`). There is one exception. A list that asks for two
items needs a second one that takes something, so it does not match the empty text even if its item
does (`Node.idles`).

The marks of nullable nodes leave the exception out. They are precise just in the grammars without
such lists, and so is the refusal of repetitions that can go round without consuming anything
(`Draft.matchesEmpty_of_isMarked_iff`); where there is such a list, it must not be repeated though
it fails on the empty text (`Draft.marked_list_fails`).
-/

set_option autoImplicit false
set_option relaxedAutoImplicit false

namespace Packrat

/-- The text of no characters. -/
abbrev Text.empty : Text := .ofChars []

/-- Skipping stays at the only offset of the empty text. -/
theorem skipFrom_empty (skip : Option CharSet) : skipFrom skip .empty 0 = 0 :=
  Nat.le_zero.mp (skipFrom_le skip .empty 0)

/-- Whether an evaluation on the empty text matches. If it does not, it fails and there is a way
back. -/
def Ending.Tells (ending : Ending Match) : Bool → Prop
  | true => ∃ results, ending = .ended ⟨0, results⟩
  | false => ∃ failure, ending = .halted (.failure failure) ∧ failure.fatal = false

/-! ### Matchers -/

namespace Matcher

variable {child item separator : Matcher Ending} {bit : Bool}

theorem tells_nothing : (nothing (m := Ending) 0).Tells true := ⟨.empty, rfl⟩

theorem tells_textEnd (skip : Option CharSet) :
    (textEnd (m := Ending) .empty skip 0).Tells true := by
  refine ⟨.empty, ?_⟩
  rw [textEnd, skipFrom_empty]
  rfl

theorem tells_fail (message : String) :
    (MatchMonad.fail (.ordinary 0 message) : Ending Match).Tells false :=
  ⟨.ordinary 0 message, rfl, rfl⟩

/-- What takes an initial part of the rest matches the empty text if it takes anything at all. -/
theorem tells_scanned {scan : Option Char → List Char → Scan (List Char × Token)}
    {found : Option (List Char × Token)} (skip : Option CharSet) (expected : String)
    (hscan : scan none [] = .ofOption found) (hinitial : ∀ taken token,
      found = some (taken, token) → taken <+: []) :
    (scanned (m := Ending) .empty skip expected scan 0).Tells found.isSome := by
  have hplace : scan (Text.empty.before? 0) (Text.empty.rest 0) = .ofOption found := hscan
  rw [scanned, skipFrom_empty, hplace]
  cases found with
  | none => exact tells_fail expected
  | some pair =>
    rw [Scan.ofOption_some]
    simp only [List.prefix_nil.mp (hinitial pair.1 pair.2 rfl)]
    exact ⟨.ofToken pair.2, rfl⟩

/-- What follows an evaluation with a way back, after its match or after its failure. -/
theorem tells_backtrack_bind {ending : Ending Match} {next : Except Failure Match → Ending Match}
    {result : Bool} (htells : ending.Tells bit)
    (hmatch : bit = true → ∀ results, (next (.ok ⟨0, results⟩)).Tells result)
    (hfailure : bit = false → ∀ failure, failure.fatal = false →
      (next (.error failure)).Tells result) :
    (MatchMonad.backtrack ending >>= next).Tells result := by
  cases bit with
  | true =>
    obtain ⟨results, rfl⟩ := htells
    exact hmatch rfl results
  | false =>
    obtain ⟨failure, rfl, hordinary⟩ := htells
    rw [Ending.backtrack_failure, if_neg (Bool.eq_false_iff.mp hordinary)]
    exact hfailure rfl failure hordinary

/-- A sequence matches if all parts do. Parts are only known up to the first that is not marked: it
does not match. -/
theorem tells_sequenceFrom {call : NodeId → Matcher Ending} {known : NodeId → Bool}
    {marks : Array Bool} {parts : List NodeId} :
    (∀ part ∈ Grammar.leadingParts marks parts, (call part 0).Tells (known part) ∧
        (known part = true → Grammar.isMarked marks part = true)) →
      ∀ (index : Nat) (results : Results),
        (sequenceFrom none index (parts.map call) ⟨0, results⟩).Tells (parts.all known) := by
  induction parts with
  | nil => exact fun _ _ results ↦ ⟨results, rfl⟩
  | cons part rest ih =>
    intro hparts index results
    obtain ⟨htells, hmarked⟩ := hparts part List.mem_cons_self
    rw [List.map_cons, sequenceFrom, List.all_cons]
    cases hknown : known part with
    | false =>
      rw [hknown] at htells
      obtain ⟨failure, hfailure, hordinary⟩ := htells
      refine ⟨failure, ?_, hordinary⟩
      simp [hfailure]
    | true =>
      rw [hknown] at htells
      obtain ⟨more, hmore⟩ := htells
      rw [Grammar.leadingParts, if_pos (hmarked hknown)] at hparts
      have hrest := ih (fun other hother ↦ hparts other (List.mem_cons_of_mem _ hother)) (index + 1)
        (results.extend more)
      simpa [hmore, Match.append] using hrest

/-- The furthest of some failures is one of them. -/
theorem not_fatal_of_mem_further {best : Option Failure} {failure : Failure}
    (hbest : ∀ other ∈ best, other.fatal = false) (hordinary : failure.fatal = false) :
    ∀ other ∈ Failure.further best failure, other.fatal = false := by
  intro other hother
  cases best with
  | none => exact Option.some.inj hother ▸ hordinary
  | some earlier =>
    rw [Failure.further] at hother
    split at hother
    · exact Option.some.inj hother ▸ hordinary
    · exact Option.some.inj hother ▸ hbest earlier rfl

/-- A choice matches if an alternative does; otherwise it fails as one of them. -/
theorem tells_choiceFrom {call : NodeId → Matcher Ending} {known : NodeId → Bool}
    {alternatives : List NodeId} :
    (∀ part ∈ alternatives, (call part 0).Tells (known part)) →
      ∀ best : Option Failure, (∀ failure ∈ best, failure.fatal = false) →
        (choiceFrom 0 (alternatives.map call) best).Tells (alternatives.any known) := by
  induction alternatives with
  | nil =>
    intro _ best hbest
    refine ⟨_, rfl, ?_⟩
    cases best with
    | none => rfl
    | some failure => exact hbest failure rfl
  | cons part rest ih =>
    intro hparts best hbest
    rw [List.map_cons, choiceFrom, List.any_cons]
    refine tells_backtrack_bind (hparts part List.mem_cons_self) (fun hknown results ↦ ?_)
      fun hknown failure hordinary ↦ ?_
    · rw [hknown]
      exact ⟨results, rfl⟩
    · rw [hknown, Bool.false_or]
      exact ih (fun other hother ↦ hparts other (List.mem_cons_of_mem _ hother)) _
        (not_fatal_of_mem_further hbest hordinary)

theorem tells_optional (htells : (child 0).Tells bit) (default : Option Token) :
    (optional child default 0).Tells true :=
  tells_backtrack_bind htells (fun _ results ↦ ⟨results, rfl⟩) fun _ _ _ ↦ ⟨_, rfl⟩

theorem tells_mapResults (htells : (child 0).Tells bit) (f : Results → Results) :
    (mapResults f child 0).Tells bit := by
  cases bit with
  | true =>
    obtain ⟨results, hended⟩ := htells
    exact ⟨f results, by rw [mapResults, hended]; rfl⟩
  | false =>
    obtain ⟨failure, hfailure, hordinary⟩ := htells
    exact ⟨failure, by rw [mapResults, hfailure]; rfl, hordinary⟩

theorem tells_combine (htells : (child 0).Tells bit) (skip : Option CharSet) (joiner : String) :
    (combine .empty skip joiner child 0).Tells bit := by
  rw [combine, skipFrom_empty]
  exact tells_mapResults htells _

theorem tells_labeled (htells : (child 0).Tells bit) (skip : Option CharSet) (expected : String) :
    (labeled .empty skip expected child 0).Tells bit := by
  refine tells_backtrack_bind htells (fun hbit results ↦ hbit ▸ ⟨results, rfl⟩)
    fun hbit failure hordinary ↦ ?_
  subst hbit
  refine ⟨_, rfl, ?_⟩
  split
  · rfl
  · exact hordinary

/-- Bounded rounds of a child that matches nothing end when they are enough. -/
theorem tells_repetitionFrom {least bound : Nat} {what : String} (hchild : (child 0).Tells true)
    (hbounds : least ≤ bound) : ∀ (more count : Nat) (results : Results), bound - count = more →
      (repetitionFrom .empty child least (some bound) what count ⟨0, results⟩).Tells true := by
  obtain ⟨own, hown⟩ := hchild
  intro more
  induction more with
  | zero =>
    intro count results hmore
    rw [repetitionFrom, if_neg (by omega)]
    exact ⟨results, rfl⟩
  | succ more ih =>
    intro count results hmore
    rw [repetitionFrom, if_pos (by omega), hown, Ending.backtrack_ended, Ending.ended_bind]
    dsimp only
    split
    · exact ⟨_, rfl⟩
    · exact ih (count + 1) _ (by omega)

/-- A repetition matches if no round is needed or the child matches. -/
theorem tells_repetition {least : Nat} {most : Option Nat} {what : String}
    (htells : (child 0).Tells bit) (hbounds : ∀ bound ∈ most, least ≤ bound)
    (hrounds : most = none → bit = false) :
    (repetition .empty child least most what 0).Tells (least == 0 || bit) := by
  rw [repetition, Match.nothing]
  cases bit with
  | true =>
    cases most with
    | none => cases hrounds rfl
    | some bound =>
      rw [Bool.or_true]
      exact tells_repetitionFrom htells (hbounds bound rfl) _ 0 _ rfl
  | false =>
    obtain ⟨failure, hfailure, hordinary⟩ := htells
    have hstop : (if 0 < least then MatchMonad.halt (.failure failure)
        else pure ⟨0, .empty⟩ : Ending Match).Tells (least == 0) := by
      cases least with
      | zero => exact ⟨.empty, rfl⟩
      | succ least => exact ⟨failure, rfl, hordinary⟩
    rw [Bool.or_false]
    cases most with
    | none =>
      rw [repetitionFrom, hfailure, Ending.backtrack_failure,
        if_neg (Bool.eq_false_iff.mp hordinary)]
      exact hstop
    | some bound =>
      rw [repetitionFrom]
      split
      · rw [hfailure, Ending.backtrack_failure, if_neg (Bool.eq_false_iff.mp hordinary)]
        exact hstop
      · have hleast := hbounds bound rfl
        obtain rfl : least = 0 := by omega
        exact ⟨.empty, rfl⟩

/-- The end of a list is a match if there are enough items. -/
theorem tells_listEnd {form : ListForm} {what : String} (count : Nat) (results : Results)
    (stoppedBy : Option Failure) (hstopped : ∀ failure ∈ stoppedBy, failure.fatal = false) :
    (listEnd (m := Ending) form what count ⟨0, results⟩ stoppedBy).Tells
      (decide (form.least ≤ count)) := by
  rw [listEnd]
  by_cases hfew : count < form.least
  · rw [if_pos hfew, decide_eq_false (by omega)]
    refine ⟨_, rfl, ?_⟩
    cases stoppedBy with
    | none => rfl
    | some failure => exact hstopped failure rfl
  · rw [if_neg hfew, decide_eq_true (by omega)]
    exact ⟨results, rfl⟩

/-- What a list holds after a separator that may stay there, on the empty text. -/
theorem exists_withTrailing (form : ListForm) (results more : Results) :
    ∃ after, withTrailing form ⟨0, results⟩ ⟨0, more⟩ = ⟨0, after⟩ := by
  unfold withTrailing
  split_ifs
  · exact ⟨_, rfl⟩
  · exact ⟨_, rfl⟩
  · exact ⟨_, rfl⟩

/-- After an item that matches nothing a list ends, whether a separator follows or not: one more
item would have to take something. -/
theorem tells_delimitedFrom {form : ListForm} {what : String} (hitem : (item 0).Tells true)
    (hseparator : (separator 0).Tells bit) (hrounds : form.most = none → bit = false)
    (results : Results) :
    (delimitedFrom .empty item separator form what 1 ⟨0, results⟩).Tells
      (decide (form.least ≤ 1)) := by
  rw [delimitedFrom]
  refine tells_backtrack_bind hseparator (fun hbit more ↦ ?_) fun _ failure hordinary ↦ ?_
  · obtain ⟨after, hafter⟩ := exists_withTrailing form results more
    dsimp only
    rw [hafter]
    split
    · refine tells_backtrack_bind hitem (fun _ next ↦ ?_)
        fun hfails ↦ absurd hfails Bool.noConfusion
      have hbounded : form.most.isNone = false := by
        refine Option.isNone_eq_false_iff.mpr (Option.isSome_iff_ne_none.mpr fun hmost ↦ ?_)
        rw [hrounds hmost] at hbit
        cases hbit
      simp only [Advances, Nat.lt_irrefl, false_and, if_false, hbounded]
      exact tells_listEnd 1 results none fun _ hnone ↦ absurd hnone (Option.not_mem_none _)
    · exact tells_listEnd 1 after none fun _ hnone ↦ absurd hnone (Option.not_mem_none _)
  · exact tells_listEnd 1 results (some failure) fun _ hsame ↦ Option.some.inj hsame ▸ hordinary

/-- A list matches the empty text if it may have no item, or one item that does. -/
theorem tells_delimited {form : ListForm} {what : String} {first second : Bool}
    (hitem : (item 0).Tells first) (hseparator : first = true → (separator 0).Tells second)
    (hrounds : form.most = none → first = true → second = false) :
    (delimited .empty item separator form what 0).Tells
      (form.least == 0 || (first && decide (form.least ≤ 1))) := by
  have hfrom (results : Results) (hfirst : first = true) :
      (delimitedFrom .empty item separator form what 1 ⟨0, results⟩).Tells
      (decide (form.least ≤ 1)) := by
    rw [hfirst] at hitem
    exact tells_delimitedFrom hitem (hseparator hfirst) (fun hmost ↦ hrounds hmost hfirst) results
  rw [delimited]
  by_cases hnone : form.least = 0
  · rw [if_pos hnone, hnone, BEq.rfl, Bool.true_or]
    rw [hnone] at hfrom
    exact tells_backtrack_bind hitem (fun hfirst results ↦ hfrom results hfirst)
      fun _ _ _ ↦ ⟨.empty, rfl⟩
  · rw [if_neg hnone, beq_eq_false_iff_ne.mpr hnone, Bool.false_or]
    cases first with
    | true =>
      obtain ⟨results, hended⟩ := hitem
      rw [hended, Ending.ended_bind, Bool.true_and]
      exact hfrom results rfl
    | false =>
      obtain ⟨failure, hfailure, hordinary⟩ := hitem
      rw [hfailure, Ending.halted_bind, Bool.false_and]
      exact ⟨failure, rfl, hordinary⟩

end Matcher

/-! ### Nodes -/

/-- A node that is no lookahead, has no actions and no commit point. -/
def Node.IsBare : Node → Prop
  | .lookahead _ _ _ => False
  | .action _ _ _ => False
  | .sequence _ commit => commit = none
  | _ => True

/-- Whether a node matches the empty text, given which nodes and rules do. Of a list that asks for
two items the second one would have to take something. -/
def Node.idles (known : NodeId → Bool) (knownRule : Nat → Bool) : Node → Bool
  | .delimited item _ form _ => form.least == 0 || (known item && decide (form.least ≤ 1))
  | node => node.nullable known knownRule

/-- The nodes of a grammar are bare. -/
def Grammar.IsBare (grammar : Grammar) : Prop := ∀ node ∈ grammar.nodes.toList, node.IsBare

/-- A list asks for two items or more, and items are marked. -/
def Node.Overclaims (marks : Array Bool) : Node → Prop
  | .delimited item _ form _ => 2 ≤ form.least ∧ Grammar.isMarked marks item = true
  | _ => False

namespace Grammar

variable {grammar : Grammar} {id : NodeId}

open Classical in
/-- Whether a node matches the empty text. -/
noncomputable def idles (grammar : Grammar) (id : NodeId) : Bool :=
  decide (∃ results, grammar.ending .empty id 0 = .ended ⟨0, results⟩)

open Classical in
/-- What is told of a node is whether it matches the empty text. -/
theorem idles_eq_of_tells {bit : Bool} (htells : (grammar.ending .empty id 0).Tells bit) :
    grammar.idles id = bit := by
  rw [idles]
  cases bit with
  | true => exact decide_eq_true htells
  | false =>
    refine decide_eq_false fun ⟨results, hended⟩ ↦ ?_
    obtain ⟨failure, hfailure, -⟩ := htells
    rw [hended] at hfailure
    cases hfailure

/-- A node that matches the empty text by what is known of the nodes that it calls on the left can
match nothing by its marks. -/
theorem nullable_of_idles {marks : Array Bool} {node : Node}
    (hmarked : ∀ child ∈ grammar.leftChildren marks node, grammar.idles child = true →
      isMarked marks child = true)
    (hidles : node.idles grammar.idles (fun rule ↦ grammar.idles (grammar.ruleBody rule)) = true) :
    node.nullable (isMarked marks) (fun rule ↦ isMarked marks (grammar.ruleBody rule)) = true := by
  cases node with
  | sequence parts commit =>
    change parts.all grammar.idles = true at hidles
    change parts.all (isMarked marks) = true
    change ∀ child ∈ leadingParts marks parts, _ at hmarked
    induction parts with
    | nil => rfl
    | cons part rest ih =>
      rw [List.all_cons, Bool.and_eq_true] at hidles ⊢
      have hpart := hmarked part List.mem_cons_self hidles.1
      rw [leadingParts, if_pos hpart] at hmarked
      exact ⟨hpart, ih hidles.2 fun other hother ↦ hmarked other (List.mem_cons_of_mem _ hother)⟩
  | choice alternatives =>
    obtain ⟨part, hpart, hidle⟩ := List.any_eq_true.mp hidles
    exact List.any_eq_true.mpr ⟨part, hpart, hmarked part hpart hidle⟩
  | repetition child least most what =>
    exact Bool.or_eq_true_iff.mpr ((Bool.or_eq_true_iff.mp hidles).imp_right
      (hmarked child List.mem_cons_self))
  | delimited item separator form what =>
    refine Bool.or_eq_true_iff.mpr ((Bool.or_eq_true_iff.mp hidles).imp_right fun hboth ↦ ?_)
    exact hmarked item List.mem_cons_self (Bool.and_eq_true_iff.mp hboth).1
  | call rule => exact hmarked _ List.mem_cons_self hidles
  | suppress child => exact hmarked _ List.mem_cons_self hidles
  | group child => exact hmarked _ List.mem_cons_self hidles
  | combine child joiner skip => exact hmarked _ List.mem_cons_self hidles
  | named child name accumulate => exact hmarked _ List.mem_cons_self hidles
  | action child actions skip => exact hmarked _ List.mem_cons_self hidles
  | labeled child skip expected => exact hmarked _ List.mem_cons_self hidles
  | _ => exact hidles

/-- A node that is no lookahead, action or commit point matches the empty text just if it does by
what is known of the nodes that it calls on the left. If it does not, it fails and there is a way
back. -/
theorem tells_matcher (haccepted : grammar.Accepted) (hid : id < grammar.nodeCount)
    (hbare : (grammar.node id).IsBare)
    (hchildren : ∀ child ∈ grammar.leftChildren grammar.nullable (grammar.node id),
      (grammar.ending .empty child 0).Tells (grammar.idles child) ∧
        (grammar.idles child = true → isMarked grammar.nullable child = true)) :
    (grammar.ending .empty id 0).Tells
      ((grammar.node id).idles grammar.idles fun rule ↦ grammar.idles (grammar.ruleBody rule)) := by
  have hsound := (haccepted.formed.fits id hid).sound
  have hstalls := nullableRepetition?_eq_none_iff.mp haccepted.rounds _ (node_mem hid)
  have htells (child : NodeId) (hchild : child ∈ grammar.leftChildren grammar.nullable
        (grammar.node id)) :=
    (hchildren child hchild).1
  have hmarks (child : NodeId) (hchild : child ∈ grammar.leftChildren grammar.nullable
        (grammar.node id)) :=
    (hchildren child hchild).2
  rw [ending_eq]
  generalize grammar.node id = node at *
  cases node with
  | empty => exact Matcher.tells_nothing
  | textEnd skip => exact Matcher.tells_textEnd skip
  | terminal form skip expected =>
    have hnone : form.scan none [] = .ofOption none := by
      cases hscan : form.scan none [] with
      | found pair =>
        obtain ⟨hinitial, htaken⟩ := Terminal.scan_eq_found hscan
        exact absurd (List.prefix_nil.mp hinitial) (htaken hsound)
      | missing => rfl
      | endless =>
        obtain ⟨quoted, -, hendless⟩ := Terminal.exists_of_scan_endless hscan
        obtain ⟨hopening, -, -, inside, hinside, -⟩ := Quoted.scan_eq_endless_iff.mp hendless
        exact absurd (List.append_eq_nil_iff.mp hinside.symm).1 hopening
    exact Matcher.tells_scanned skip expected hnone nofun
  | regex program skip expected =>
    have htaken : Matcher.scanRegex program none [] = .ofOption ((program.find? []).map fun found ↦
        (found.skipped ++ found.matched, Terminal.stringToken (found.skipped ++ found.matched))) :=
          rfl
    have hscanned := Matcher.tells_scanned skip expected htaken fun taken token hfound ↦
      (CompiledRegex.scanRegex_eq_found (htaken.trans (Scan.ofOption_eq_found_iff.mpr hfound))).1
    rwa [Option.isSome_map] at hscanned
  | sequence parts commit =>
    obtain rfl : commit = none := hbare
    exact Matcher.tells_sequenceFrom hchildren 0 .empty
  | choice alternatives =>
    exact Matcher.tells_choiceFrom htells none fun _ hnone ↦ absurd hnone (Option.not_mem_none _)
  | optional child default => exact Matcher.tells_optional (htells child List.mem_cons_self) default
  | repetition child least most what =>
    refine Matcher.tells_repetition (htells child List.mem_cons_self) hsound fun hmost ↦ ?_
    subst hmost
    exact Bool.eq_false_iff.mpr fun hidles ↦ hstalls (hmarks child List.mem_cons_self hidles)
  | delimited item separator form what =>
    have hitem := hmarks item List.mem_cons_self
    have hseparator (hidles : grammar.idles item = true) :
        separator ∈ grammar.leftChildren grammar.nullable
          (.delimited item separator form what) := by
      rw [leftChildren, leadingParts, if_pos (hitem hidles)]
      exact List.mem_cons_of_mem _ List.mem_cons_self
    refine Matcher.tells_delimited (htells item List.mem_cons_self)
      (fun hidles ↦ htells separator (hseparator hidles)) fun hmost hidles ↦ ?_
    refine Bool.eq_false_iff.mpr fun hother ↦ hstalls ⟨hmost, hitem hidles, ?_⟩
    exact hmarks separator (hseparator hidles) hother
  | lookahead child negative unwanted => cases hbare
  | suppress child =>
    exact Matcher.tells_mapResults (htells child List.mem_cons_self) fun _ ↦ .empty
  | group child =>
    exact Matcher.tells_mapResults (htells child List.mem_cons_self)
      fun results ↦ .ofToken results.toGroup
  | combine child joiner skip =>
    exact Matcher.tells_combine (htells child List.mem_cons_self) skip joiner
  | call rule => exact htells _ List.mem_cons_self
  | named child name accumulate =>
    exact Matcher.tells_mapResults (htells child List.mem_cons_self)
      fun results ↦ results.setName name accumulate
  | action child actions skip => cases hbare
  | labeled child skip expected =>
    exact Matcher.tells_labeled (htells child List.mem_cons_self) skip expected

/-- Every node of a bare grammar matches the empty text or fails there with a way back, and if it
matches it is marked. The induction is along left calls. -/
theorem tells_idles (haccepted : grammar.Accepted) (hbare : grammar.IsBare)
    (hid : id < grammar.nodeCount) :
    (grammar.ending .empty id 0).Tells (grammar.idles id) ∧
      (grammar.idles id = true → isMarked grammar.nullable id = true) := by
  have hacc := acc_leftCalls haccepted.formed haccepted.circles hid
  induction hacc with
  | intro id _ ih =>
    have hchildren (child : NodeId) (hchild : grammar.LeftCalls grammar.nullable child id) :=
      ih child hchild (hchild.lt_nodeCount haccepted.formed hid)
    have htells := tells_matcher haccepted hid (hbare _ (node_mem hid)) hchildren
    have hidles := idles_eq_of_tells htells
    rw [← hidles] at htells
    refine ⟨htells, fun hidle ↦ isMarked_nullable hid ?_⟩
    exact nullable_of_idles (fun child hchild ↦ (hchildren child hchild).2) (hidles ▸ hidle)

/-- Whether a node of a bare grammar matches the empty text is a matter of the nodes that it
uses. -/
theorem idles_eq (haccepted : grammar.Accepted) (hbare : grammar.IsBare)
    (hid : id < grammar.nodeCount) :
    grammar.idles id =
      (grammar.node id).idles grammar.idles fun rule ↦ grammar.idles (grammar.ruleBody rule) :=
  idles_eq_of_tells (tells_matcher haccepted hid (hbare _ (node_mem hid)) fun _ hchild ↦
    tells_idles haccepted hbare (LeftCalls.lt_nodeCount hchild haccepted.formed hid))

/-- A node that can match nothing by what is known matches the empty text by the same, unless it is
a list that asks for two items. -/
theorem idles_of_nullable {node : Node} {known : NodeId → Bool} {knownRule : Nat → Bool}
    (hlists : ∀ item separator form what, node = .delimited item separator form what →
      known item = true → form.least ≤ 1) (hnullable : node.nullable known knownRule = true) :
    node.idles known knownRule = true := by
  cases node with
  | delimited item separator form what =>
    refine Bool.or_eq_true_iff.mpr ((Bool.or_eq_true_iff.mp hnullable).imp_right fun hitem ↦ ?_)
    exact Bool.and_eq_true_iff.mpr
      ⟨hitem, decide_eq_true (hlists item separator form what rfl hitem)⟩
  | _ => exact hnullable

/-- All marked nodes of a bare grammar match the empty text just if no list with a marked item asks
for two items or more. Such a list is marked for its item, but it does not match the empty text. -/
theorem idles_of_isMarked_iff (haccepted : grammar.Accepted) (hbare : grammar.IsBare) :
    (∀ id < grammar.nodeCount, isMarked grammar.nullable id = true → grammar.idles id = true) ↔
      ∀ node ∈ grammar.nodes.toList, ¬ node.Overclaims grammar.nullable := by
  constructor
  · intro hall node hmem hoverclaims
    obtain ⟨id, hid, hfound⟩ := exists_node_of_mem hmem
    cases node with
    | delimited item separator form what =>
      obtain ⟨hleast, hitem⟩ := hoverclaims
      have hmarked : isMarked grammar.nullable id = true := by
        refine isMarked_nullable hid ?_
        rw [nullableBy, hfound]
        exact Bool.or_eq_true_iff.mpr (Or.inr hitem)
      have hidles := hall id hid hmarked
      rw [idles_eq haccepted hbare hid, hfound] at hidles
      rcases Bool.or_eq_true_iff.mp hidles with hzero | hboth
      · rw [eq_of_beq hzero] at hleast
        omega
      · have hfew := of_decide_eq_true (Bool.and_eq_true_iff.mp hboth).2
        omega
    | _ => exact hoverclaims
  · intro hnone id _ hmarked
    refine due_of_isMarked_nullable (fun id ↦ grammar.idles id = true)
      (fun marks hmarks id hid hnullable ↦ ?_) hmarked
    have hknown := nullable_mono (fun child _ hchild ↦ hmarks child hchild)
      (fun rule _ hrule ↦ hmarks (grammar.ruleBody rule) hrule) hnullable
    rw [idles_eq haccepted hbare hid]
    refine idles_of_nullable (fun item separator form what hnode hitem ↦ ?_) hknown
    have hchild : item < id := by
      refine (haccepted.formed.fits id hid).children item ?_
      rw [hnode]
      exact List.mem_cons_self
    have hboth := hnone _ (node_mem hid)
    rw [hnode] at hboth
    refine Nat.le_of_not_lt fun hleast ↦ hboth ⟨hleast, ?_⟩
    exact (tells_idles haccepted hbare (Nat.lt_trans hchild hid)).2 hitem

/-! ### One more repetition -/

/-- The grammar with one more node: any number of times, but at least a given one, a node that it
has. -/
def repeating (grammar : Grammar) (id : NodeId) (least : Nat) (what : String) : Grammar :=
  { grammar with nodes := grammar.nodes.push (.repetition id least none what) }

variable {least : Nat} {what : String}

/-- The nodes that a grammar has stay where they are when one more is added. -/
theorem node_repeating {other : NodeId} (hother : other < grammar.nodeCount) :
    (grammar.repeating id least what).node other = grammar.node other := by
  change ((grammar.nodes.push _)[other]?).getD .empty = _
  rw [Array.getElem?_push_lt hother, node, Array.getElem?_eq_getElem hother]

/-- One more repetition changes no mark of the nodes that were there. -/
theorem isMarked_repeating (hformed : grammar.WellFormed) {other : NodeId}
    (hother : other < grammar.nodeCount) :
    isMarked (grammar.repeating id least what).nullable other =
      isMarked grammar.nullable other := by
  have hsize : (grammar.repeating id least what).nodes.size = grammar.nodeCount + 1 :=
    Array.size_push _
  refine Bool.eq_iff_iff.mpr ⟨fun hmarked ↦ ?_, fun hmarked ↦ ?_⟩
  · refine due_of_isMarked_nullable
      (fun other ↦ other < grammar.nodeCount → isMarked grammar.nullable other = true)
      (fun marks hmarks other _ hnullable hinside ↦ ?_) hmarked hother
    have hfits := hformed.fits other hinside
    rw [nullableBy, node_repeating hinside] at hnullable
    refine isMarked_nullable hinside (nullable_mono (fun child hchild hknown ↦ ?_)
      (fun rule hcall hknown ↦ ?_) hnullable)
    · exact hmarks child hknown (Nat.lt_trans (hfits.children child hchild) hinside)
    · rw [hcall] at hfits
      exact hmarks (grammar.ruleBody rule) hknown (hformed.ruleBody_lt hfits.sound)
  · refine due_of_isMarked_nullable
      (fun other ↦ isMarked (grammar.repeating id least what).nullable other = true)
      (fun marks hmarks other hinside hnullable ↦ ?_) hmarked
    refine isMarked_nullable (hsize ▸ Nat.lt_succ_of_lt hinside) ?_
    rw [nullableBy, node_repeating hinside]
    exact nullable_mono (fun child _ hknown ↦ hmarks child hknown)
      (fun rule _ hknown ↦ hmarks (grammar.ruleBody rule) hknown) hnullable

/-- One more repetition is refused just if the node that it repeats is marked. -/
theorem nullableRepetition?_repeating (haccepted : grammar.Accepted)
    (hid : id < grammar.nodeCount) :
    (grammar.repeating id least what).nullableRepetition?
      (grammar.repeating id least what).nullable =
      if isMarked grammar.nullable id = true then some what else none := by
  have hbefore : grammar.nullableRepetition? (grammar.repeating id least what).nullable = none := by
    refine nullableRepetition?_eq_none_iff.mpr fun node hmem hstalls ↦ ?_
    obtain ⟨place, hplace, rfl⟩ := exists_node_of_mem hmem
    refine nullableRepetition?_eq_none_iff.mp haccepted.rounds _ hmem
      (hstalls.mono fun child hchild hmarked ↦ ?_)
    have hinside := Nat.lt_trans ((haccepted.formed.fits place hplace).children child hchild) hplace
    rwa [isMarked_repeating haccepted.formed hinside] at hmarked
  have hnodes : (grammar.repeating id least what).nodes.toList =
      grammar.nodes.toList ++ [.repetition id least none what] := Array.toList_push
  rw [nullableRepetition?] at hbefore ⊢
  rw [hnodes, List.findSome?_append, hbefore, Option.none_or, List.findSome?_singleton]
  change (if isMarked (grammar.repeating id least what).nullable id = true then some what
    else none) = _
  rw [isMarked_repeating haccepted.formed hid]

/-! ### Matches of the engine -/

/-- In every session on the empty text a node matches at the start and ends there, unless the limit
on the depth stops it, and with enough room it is not stopped. -/
def MatchesEmpty (grammar : Grammar) (id : NodeId) : Prop :=
  ∃ results enough, ∀ (history : List Request) (room : Nat) (outcome : Except Halt Match),
    (grammar.evaluate .empty room id 0 ((Session.start grammar .empty).after history).state).1 =
      outcome → (¬ IsLimited outcome → outcome = .ok ⟨0, results⟩) ∧
      (enough ≤ room → outcome = .ok ⟨0, results⟩)

/-- A node matches the empty text in sessions just if that is what it comes to. -/
theorem matchesEmpty_iff : grammar.MatchesEmpty id ↔ grammar.idles id = true := by
  classical
  rw [idles, decide_eq_true_iff]
  constructor
  · rintro ⟨results, enough, hmatches⟩
    have hfound := (hmatches [] enough _ rfl).2 (Nat.le_refl enough)
    have hunlimited : ¬ IsLimited (grammar.evaluate .empty enough id 0
        ((Session.start grammar .empty).after []).state).1 := hfound ▸ not_isLimited_ok _
    refine ⟨results, ?_⟩
    rw [ending_of_session hunlimited, hfound, Ending.ofOutcome_ok]
  · rintro ⟨results, hended⟩
    obtain ⟨enough, htrace, hreached⟩ :=
      exists_trace_of_ending (hended.trans (Ending.ofOutcome_ok _).symm)
    refine ⟨results, enough, fun history room outcome houtcome ↦
      ⟨fun hunlimited ↦ ?_, fun hroom ↦ ?_⟩⟩
    · subst houtcome
      have hsame := ending_of_session hunlimited
      rw [hended, ← Ending.ofOutcome_ok] at hsame
      exact (Ending.ofOutcome_injective hsame).symm
    · have hunlimited : ¬ ((grammar.deepening .empty id 0).trace enough).Limited := by
        rw [← htrace] at hreached
        exact hreached
      have hsame : grammar.trace .empty room id 0 = grammar.trace .empty enough id 0 :=
        (grammar.deepening .empty id 0).trace_eq_of_le hroom hunlimited
      rw [← houtcome]
      exact evaluate_after_of_trace (hsame ▸ htrace) hreached history

end Grammar

/-! ### Lists with items that may be missing -/

/-- A list of letters of which each may be missing. -/
def Expr.sparse (least : Nat) : Expr :=
  ⟨3, .delimited ⟨1, .optional ⟨0, .terminal (.literal "a" false)⟩ none⟩
    ⟨2, .terminal (.literal "," false)⟩ { least := least }⟩

/-- The list alone. -/
def Draft.sparse (least : Nat) : Draft where
  entry := some (.expr (.sparse least))

/-- The list any number of times, but at least once. -/
def Draft.sparseRounds (least : Nat) : Draft where
  entry := some (.expr ⟨4, .repetition (.sparse least) 1 none⟩)

def Grammar.sparse (least : Nat) : Grammar where
  nodes := #[.terminal (.literal "a" false) (some .blanks) "Expected \"a\"", .optional 0 none,
    .terminal (.literal "," false) (some .blanks) "Expected \",\"",
    .delimited 1 2 { least := least } (Expr.sparse least).shape.display]
  ruleNames := []
  ruleBodies := []
  entry := some 3
  config := {}

theorem Draft.build_sparse_one : (Draft.sparse 1).build = .ok (Grammar.sparse 1) := by
  cbv

theorem Draft.build_sparse_two : (Draft.sparse 2).build = .ok (Grammar.sparse 2) := by
  cbv

theorem Draft.build_sparseRounds_two : (Draft.sparseRounds 2).build =
    .error (.nullableRepetition (Shape.repetition (Expr.sparse 2) 1 none).display) := by
  cbv

theorem Grammar.isBare_sparse (least : Nat) : (Grammar.sparse least).IsBare := by
  simp [IsBare, sparse, Node.IsBare]

namespace Draft

open Grammar

/-- How far the marks of nullable nodes can be trusted where there are no lookaheads, actions and
commit points. Every node that matches the empty text is marked, and to repeat it is refused. All
nodes that are marked match it, and all nodes that must not be repeated do, just if no list with a
marked item asks for two items or more: such a list takes its mark from its item, but it fails when
the second item takes nothing. -/
theorem matchesEmpty_of_isMarked_iff {draft : Draft} {grammar : Grammar}
    (hbuild : draft.build = .ok grammar) (hbare : grammar.IsBare) :
    ((∀ id < grammar.nodeCount, isMarked grammar.nullable id = true → grammar.MatchesEmpty id) ↔
        ∀ node ∈ grammar.nodes.toList, ¬ node.Overclaims grammar.nullable) ∧
      ((∀ id < grammar.nodeCount, ∀ least what,
          (grammar.repeating id least what).nullableRepetition?
            (grammar.repeating id least what).nullable ≠ none → grammar.MatchesEmpty id) ↔
        ∀ node ∈ grammar.nodes.toList, ¬ node.Overclaims grammar.nullable) ∧
      ∀ id < grammar.nodeCount, grammar.MatchesEmpty id →
        isMarked grammar.nullable id = true ∧ ∀ least what,
          (grammar.repeating id least what).nullableRepetition?
            (grammar.repeating id least what).nullable =
            some what := by
  have haccepted := accepted_of_build hbuild
  have hmarks := idles_of_isMarked_iff haccepted hbare
  simp only [← matchesEmpty_iff] at hmarks
  refine ⟨hmarks, ?_, fun id hid hmatches ↦ ?_⟩
  · rw [← hmarks]
    refine forall₂_congr fun id hid ↦ ?_
    simp [nullableRepetition?_repeating haccepted hid]
  · have hmarked := (tells_idles haccepted hbare hid).2 (matchesEmpty_iff.mp hmatches)
    refine ⟨hmarked, fun least what ↦ ?_⟩
    rw [nullableRepetition?_repeating haccepted hid, if_pos hmarked]

/-- A list of one or more letters of which each may be missing matches the empty text. -/
theorem matchesEmpty_of_isMarked_sparse :
    (Draft.sparse 1).build = .ok (Grammar.sparse 1) ∧ (Grammar.sparse 1).IsBare ∧
      isMarked (Grammar.sparse 1).nullable 3 = true ∧ (Grammar.sparse 1).MatchesEmpty 3 := by
  have hmarked : isMarked (Grammar.sparse 1).nullable 3 = true := by cbv
  have hlists : ∀ node ∈ (Grammar.sparse 1).nodes.toList,
      ¬ node.Overclaims (Grammar.sparse 1).nullable := by
    simp [Grammar.sparse, Node.Overclaims]
  exact ⟨build_sparse_one, isBare_sparse 1, hmarked,
    (matchesEmpty_of_isMarked_iff build_sparse_one (isBare_sparse 1)).1.mpr
    hlists 3 (by decide) hmarked⟩

/-- A list of two or more letters of which each may be missing is marked, so it must not be
repeated, but it fails on the empty text. -/
theorem marked_list_fails :
    (Draft.sparse 2).build = .ok (Grammar.sparse 2) ∧ (Grammar.sparse 2).IsBare ∧
      isMarked (Grammar.sparse 2).nullable 3 = true ∧
      ((Grammar.sparse 2).evaluate .empty 10 3 0 (Session.start (Grammar.sparse 2) .empty).state).1
        = .error (.failure ⟨0, "Expected \",\"", false⟩) ∧
      (Draft.sparseRounds 2).build =
        .error (.nullableRepetition (Shape.repetition (Expr.sparse 2) 1 none).display) :=
  ⟨build_sparse_two, isBare_sparse 2, by cbv, evaluate_after_of_trace (by
    cbv) (not_isLimited_failure _) [],
    build_sparseRounds_two⟩

end Draft

end Packrat
