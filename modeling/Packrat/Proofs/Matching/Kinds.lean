import Packrat.Proofs.Grammar.LeftCalls
import Packrat.Proofs.Matching.Endings
import Packrat.Proofs.Results.Uniform

/-!
# Names of one kind in grammars

A node gives uniform names if no name is used both as a plain and as a list name in it or in what it
uses, and if actions, which may give any names, give uniform ones for uniform ones
(`Grammar.KeepsKinds`). What such a node matches is uniform (`Grammar.maintains_uniform`), so it
makes no difference how its results are grouped.
-/

set_option autoImplicit false
set_option relaxedAutoImplicit false

namespace Packrat

/-- A name is of its kind, and actions leave names of their kinds. -/
def Node.KeepsKinds (kind : String → Bool) : Node → Prop
  | .named _ name accumulate => accumulate = kind name
  | .action _ actions _ => ∀ action ∈ actions, ∀ context results changed fatal,
    results.Uniform kind → action.apply context results = (.replace changed, fatal) →
    changed.Uniform kind
  | _ => True

/-- Each name that is used in a node, or in what it uses, is of its kind. -/
def Grammar.KeepsKinds (grammar : Grammar) (kind : String → Bool) (id : NodeId) : Prop :=
  ∀ other, Relation.ReflTransGen grammar.Uses id other → (grammar.node other).KeepsKinds kind

/-- The promise that names are of their kinds where no name is used in both ways. -/
def Promise.uniform (grammar : Grammar) (kind : String → Bool) : NodeId → Nat → Match → Prop :=
  fun id _ found ↦ grammar.KeepsKinds kind id → found.results.Uniform kind

namespace Grammar

variable {grammar : Grammar} {kind : String → Bool} {id other : NodeId}

/-- Names are of their kinds in what a node uses if they are in the node. -/
theorem KeepsKinds.uses (hkinds : grammar.KeepsKinds kind id) (huses : grammar.Uses id other) :
    grammar.KeepsKinds kind other :=
  fun last hlast ↦ hkinds last (.head huses hlast)

/-- Every grammar keeps the promise that names are of their kinds. -/
theorem maintains_uniform (grammar : Grammar) (kind : String → Bool) (text : Text) :
    grammar.Maintains text (Promise.uniform grammar kind) := by
  intro id offset _
  have hnothing (stop : Nat) : Promise.uniform grammar kind id offset (.nothing stop) :=
    fun _ ↦ Results.uniform_empty kind
  have htoken (token : Token) (stop : Nat) :
      Promise.uniform grammar kind id offset ⟨stop, .ofToken token⟩ :=
    fun _ ↦ Results.uniform_ofTokens kind [token]
  have hself (hkinds : grammar.KeepsKinds kind id) : (grammar.node id).KeepsKinds kind :=
    hkinds id .refl
  have hgiven {child : NodeId} {place : Nat} {found : Match} (huses : grammar.Uses id child)
      (hfound : text.Fulfils (Promise.uniform grammar kind) child place found) :
      Promise.uniform grammar kind id offset found := fun hkinds ↦ hfound.2 (hkinds.uses huses)
  have hextended {first second : Results} (stop : Nat)
      (hfirst : grammar.KeepsKinds kind id → first.Uniform kind)
      (hsecond : grammar.KeepsKinds kind id → second.Uniform kind) :
      Promise.uniform grammar kind id offset ⟨stop, first.extend second⟩ :=
    fun hkinds ↦ (hfirst hkinds).extend (hsecond hkinds)
  have hchild {child : NodeId} (hmem : child ∈ (grammar.node id).children) :
      grammar.Uses id child :=
    .child hmem
  cases hnode : grammar.node id with
  | empty => exact hnothing _
  | textEnd skip => exact fun _ ↦ hnothing _
  | terminal form skip expected => exact fun _ token _ ↦ htoken token _
  | regex program skip expected => exact fun _ token _ ↦ htoken token _
  | lookahead child negative unwanted => exact hnothing _
  | sequence parts commit =>
    rw [hnode] at hchild
    exact ⟨hnothing _, fun part hpart done next _ hdone hnext ↦
      hextended _ hdone (hgiven (hchild hpart) hnext)⟩
  | choice alternatives =>
    rw [hnode] at hchild
    exact fun alternative halternative _ ↦ hgiven (hchild halternative)
  | optional child default =>
    rw [hnode] at hchild
    refine ⟨?_, fun _ ↦ hgiven (hchild List.mem_cons_self)⟩
    cases default with
    | none => exact hnothing offset
    | some token => exact htoken token offset
  | repetition child least most what =>
    rw [hnode] at hchild
    exact ⟨hnothing _, fun done next _ hdone hnext ↦
      hextended _ hdone (hgiven (hchild List.mem_cons_self) hnext)⟩
  | delimited item separator form what =>
    rw [hnode] at hchild
    have hitem : grammar.Uses id item := hchild List.mem_cons_self
    have hseparator : grammar.Uses id separator :=
      hchild (List.mem_cons_of_mem _ List.mem_cons_self)
    refine ⟨hnothing _, fun _ ↦ hgiven hitem, fun done between _ hdone hbetween ↦
      ⟨?_, fun next hnext ↦ ?_⟩⟩
    · unfold Matcher.withTrailing
      split_ifs
      · exact hextended _ hdone (hgiven hseparator hbetween)
      · exact hdone
      · exact hdone
    · unfold Matcher.withItem
      split_ifs
      · exact hextended _ (hextended between.stop hdone (hgiven hseparator hbetween))
          (hgiven hitem hnext)
      · exact hextended _ hdone (hgiven hitem hnext)
  | suppress child => exact fun _ _ ↦ hnothing _
  | group child => exact fun _ _ ↦ htoken _ _
  | combine child joiner skip => exact fun _ _ ↦ htoken _ _
  | call rule => exact fun _ ↦ hgiven (.body hnode)
  | named child name accumulate =>
    rw [hnode] at hchild hself
    intro found hfound hkinds
    exact (hgiven (hchild List.mem_cons_self) hfound hkinds).setName name (hself hkinds)
  | action child actions skip =>
    rw [hnode] at hchild hself
    refine ⟨fun _ ↦ hgiven (hchild List.mem_cons_self),
      fun action haction stop results changed fatal hresults happly hkinds ↦ ?_⟩
    exact hself hkinds action haction _ results changed fatal (hresults hkinds) happly
  | labeled child skip expected =>
    rw [hnode] at hchild
    exact fun _ ↦ hgiven (hchild List.mem_cons_self)

/-- What a node ends with is uniform if each name is of its kind. -/
theorem KeepsKinds.uniform_of_ending (hkinds : grammar.KeepsKinds kind id)
    {text : Text} {offset : Nat} (hoffset : text.IsBoundary offset) {found : Match}
    (hfound : grammar.ending text id offset = .ended found) :
    found.results.Uniform kind :=
  (fulfils_of_ending (grammar.maintains_uniform kind text) hoffset hfound).2 hkinds

end Grammar

end Packrat
