import Mathlib.Data.Finset.Card
import Mathlib.Data.Finset.Range
import Packrat.Grammar.LeftRecursion
import Packrat.Proofs.Grammar.Walks

/-!
# The search for circles

The search goes through the rules along paths on which each rule leads to the next one, and no rule
comes twice. So everything that it reports is a circle (`CycleSearch.isCircle_of_mem_cyclesOf`).

It does not report every circle, because it goes through each rule once. But with the last step of
each reported circle taken away, no sequence of rules that follow one another at left edges goes on
for ever (`CycleSearch.acc_open_cyclesOf`): the rules from which the search has finished are
accessible along the steps that are left (`CycleSearch.Safe`). It never stops short, because a path
without repetition is not longer than there are rules. So it reports a circle wherever there is one:
where it finds none every rule is accessible (`CycleSearch.acc_of_cyclesOf_eq_nil`), and where every
rule is accessible it finds none (`CycleSearch.cyclesOf_eq_nil_of_acc`). Whether it does is not a
matter of the order of the rules.
-/

set_option autoImplicit false
set_option relaxedAutoImplicit false

namespace Packrat

namespace CycleSearch

/-- A rule stands at the left edge of another one. -/
def Follows (edges : List (List Nat)) (next rule : Nat) : Prop := next ∈ edges[rule]?.getD []

/-- A rule has another one at its left edge. -/
def Leads (edges : List (List Nat)) (rule next : Nat) : Prop := Follows edges next rule

/-- A rule stands at the left edge of another one, and no circle of a list ends with this step. -/
def Open (edges cycles : List (List Nat)) (next rule : Nat) : Prop :=
  Leads edges rule next ∧ ¬ IsLastStep cycles rule next

/-- From every rule that is finished all sequences of open steps end. -/
def Safe (edges cycles : List (List Nat)) (search : CycleSearch) : Prop :=
  ∀ rule ∈ search.finished, Acc (Open edges cycles) rule

variable (edges : List (List Nat))

/-- A search keeps the circles that it has found. -/
theorem cycles_prefix_visit :
    (∀ rule path search, search.cycles <+: (visit edges rule path search).cycles) ∧
      ∀ rules path search, search.cycles <+: (visitAll edges rules path search).cycles := by
  refine visit.mutual_induct edges
    (fun rule path search ↦ search.cycles <+: (visit edges rule path search).cycles)
    (fun rules path search ↦ search.cycles <+: (visitAll edges rules path search).cycles)
    ?_ ?_ ?_ ?_ ?_ ?_
  · intro rule path search hpath
    rw [visit, if_pos hpath]
    exact List.prefix_append _ _
  · intro rule path search hpath hfinished
    rw [visit, if_neg hpath, if_pos hfinished]
  · intro rule path search hpath hfinished hroom ih
    rw [visit, if_neg hpath, if_neg hfinished, if_pos hroom]
    exact ih
  · intro rule path search hpath hfinished hroom
    rw [visit, if_neg hpath, if_neg hfinished, if_neg hroom]
  · intro path search
    rw [visitAll]
  · intro path search rule rest hfirst hrest
    rw [visitAll]
    exact hfirst.trans hrest

variable {edges} {cycles : List (List Nat)}

/-- A circle that a search closes with a rule of its path is the part of the path from this rule
on. -/
theorem exists_cycleAt {path : List Nat} {rule : Nat} (hpath : rule ∈ path) :
    ∃ before after, path = before ++ rule :: after ∧
      cycleAt path rule = rule :: (after ++ [rule]) := by
  induction path with
  | nil => cases hpath
  | cons first rest ih =>
    by_cases hfirst : first = rule
    · subst hfirst
      exact ⟨[], rest, rfl, by rw [cycleAt, List.dropWhile_cons_of_neg (by simp), List.cons_append]⟩
    · obtain ⟨before, after, hparts, hcycle⟩ :=
        ih ((List.mem_cons.mp hpath).resolve_left (Ne.symm hfirst))
      refine ⟨first :: before, after, by rw [hparts, List.cons_append], ?_⟩
      rw [cycleAt, List.dropWhile_cons_of_pos (by simpa using hfirst)]
      exact hcycle

/-! ### Circles that are reported -/

/-- A path goes on with a rule at the left edge of its last one. -/
theorem isChain_concat_concat {path : List Nat} {rule next : Nat}
    (hpath : (path ++ [rule]).IsChain (Leads edges)) (hnext : Leads edges rule next) :
    (path ++ [rule] ++ [next]).IsChain (Leads edges) := by
  refine List.isChain_append.mpr ⟨hpath, List.isChain_singleton next,
    fun last hlast first hfirst ↦ ?_⟩
  rw [List.getLast?_concat] at hlast
  rw [← Option.some.inj hlast, ← Option.some.inj hfirst]
  exact hnext

/-- A path that comes to one of its rules closes a circle. -/
theorem isCircle_cycleAt {path : List Nat} {rule : Nat} (hnodup : path.Nodup)
    (hsteps : (path ++ [rule]).IsChain (Leads edges)) (hpath : rule ∈ path) :
    IsCircle (Leads edges) (cycleAt path rule) := by
  obtain ⟨before, after, rfl, hcycle⟩ := exists_cycleAt hpath
  rw [hcycle]
  rw [List.append_assoc] at hsteps
  refine ⟨isClosedWalk_of_isChain (List.isChain_append.mp hsteps).2.1, ?_⟩
  rw [← List.cons_append, List.dropLast_concat]
  exact (List.nodup_append.mp hnodup).2.1

/-- A search along a path of different rules, each at the left edge of the one before, only adds
circles. -/
theorem isCircle_visit :
    (∀ (rule : Nat) (path : List Nat) (search : CycleSearch),
        path.Nodup → (path ++ [rule]).IsChain (Leads edges) →
        (∀ cycle ∈ search.cycles, IsCircle (Leads edges) cycle) →
        ∀ cycle ∈ (visit edges rule path search).cycles, IsCircle (Leads edges) cycle) ∧
      ∀ (rules path : List Nat) (search : CycleSearch),
        path.Nodup → (∀ rule ∈ rules, (path ++ [rule]).IsChain (Leads edges)) →
        (∀ cycle ∈ search.cycles, IsCircle (Leads edges) cycle) →
        ∀ cycle ∈ (visitAll edges rules path search).cycles, IsCircle (Leads edges) cycle := by
  refine visit.mutual_induct edges
    (fun rule path search ↦ path.Nodup → (path ++ [rule]).IsChain (Leads edges) →
      (∀ cycle ∈ search.cycles, IsCircle (Leads edges) cycle) →
      ∀ cycle ∈ (visit edges rule path search).cycles, IsCircle (Leads edges) cycle)
    (fun rules path search ↦ path.Nodup → (∀ rule ∈ rules, (path ++ [rule]).IsChain (Leads edges)) →
      (∀ cycle ∈ search.cycles, IsCircle (Leads edges) cycle) →
      ∀ cycle ∈ (visitAll edges rules path search).cycles, IsCircle (Leads edges) cycle)
    ?_ ?_ ?_ ?_ ?_ ?_
  · intro rule path search hpath hnodup hsteps hcircles cycle hcycle
    rw [visit, if_pos hpath] at hcycle
    rcases List.mem_append.mp hcycle with hearlier | hlast
    · exact hcircles cycle hearlier
    · exact List.mem_singleton.mp hlast ▸ isCircle_cycleAt hnodup hsteps hpath
  · intro rule path search hpath hfinished _ _ hcircles
    rwa [visit, if_neg hpath, if_pos hfinished]
  · intro rule path search hpath hfinished hroom ih hnodup hsteps hcircles
    rw [visit, if_neg hpath, if_neg hfinished, if_pos hroom]
    refine ih ?_ (fun next hnext ↦ isChain_concat_concat hsteps hnext) hcircles
    rw [← List.concat_eq_append]
    exact List.Nodup.concat hpath hnodup
  · intro rule path search hpath hfinished hroom _ _ hcircles
    rwa [visit, if_neg hpath, if_neg hfinished, if_neg hroom]
  · intro path search _ _ hcircles
    rwa [visitAll]
  · intro path search rule rest hfirst hrest hnodup hsteps hcircles
    rw [visitAll]
    exact hrest hnodup (fun other hother ↦ hsteps other (List.mem_cons_of_mem _ hother))
      (hfirst hnodup (hsteps rule List.mem_cons_self) hcircles)

/-- Everything that is reported is a circle of rules, each at the left edge of the one before. -/
theorem isCircle_of_mem_cyclesOf {cycle : List Nat} (hcycle : cycle ∈ cyclesOf edges) :
    IsCircle (Leads edges) cycle :=
  isCircle_visit.2 _ [] ⟨[], []⟩ List.nodup_nil (fun rule _ ↦ List.isChain_singleton rule)
    (fun _ hnone ↦ absurd hnone List.not_mem_nil) cycle hcycle

/-! ### Steps that close no reported circle -/

/-- A rule outside the list is followed by none. -/
theorem acc_of_length_le {rule : Nat} (hrule : edges.length ≤ rule) : Acc (Follows edges) rule := by
  refine Acc.intro rule fun next hnext ↦ ?_
  rw [Follows, List.getElem?_eq_none hrule] at hnext
  cases hnext

/-- A rule that is accessible along all steps is accessible along the open ones. -/
theorem acc_open_of_acc {rule : Nat} (hacc : Acc (Follows edges) rule) :
    Acc (Open edges cycles) rule :=
  Subrelation.accessible (fun hopen ↦ hopen.1) hacc

/-- A path without repetition that misses a rule is shorter than the list of rules. -/
theorem length_lt_of_not_mem {path : List Nat} {rule : Nat} (hnodup : path.Nodup)
    (hinside : ∀ other ∈ path, other < edges.length) (hrule : rule < edges.length)
    (hpath : rule ∉ path) : path.length < edges.length := by
  have hcons : (rule :: path).Nodup := List.nodup_cons.mpr ⟨hpath, hnodup⟩
  have hsubset : (rule :: path).toFinset ⊆ Finset.range edges.length := by
    intro other hother
    rw [List.mem_toFinset] at hother
    rw [Finset.mem_range]
    rcases List.mem_cons.mp hother with rfl | hbefore
    · exact hrule
    · exact hinside other hbefore
  have hcard := Finset.card_le_card hsubset
  rw [List.toFinset_card_of_nodup hcons, Finset.card_range, List.length_cons] at hcard
  omega

/-- A path that comes to one of its rules takes the last step of the circle that it closes. -/
theorem suffix_cycleAt {path : List Nat} {rule last : Nat} (hpath : rule ∈ path)
    (hlast : path.getLast? = some last) : [last, rule] <:+ cycleAt path rule := by
  obtain ⟨before, after, rfl, hcycle⟩ := exists_cycleAt hpath
  rw [List.getLast?_append_of_ne_nil before (List.cons_ne_nil rule after)] at hlast
  obtain ⟨front, hfront⟩ := List.getLast?_eq_some_iff.mp hlast
  refine ⟨front, ?_⟩
  rw [hcycle, ← List.cons_append, hfront, List.append_assoc]
  rfl

/-- A rule is accessible along open steps, unless the step to it from the end of a path closes a
circle. -/
def Settled (edges cycles : List (List Nat)) (path : List Nat) (rule : Nat) : Prop :=
  (∃ last, path.getLast? = some last ∧ IsLastStep cycles last rule) ∨ Acc (Open edges cycles) rule

/-- A search that goes on from some rules along a path without repetition, and reports circles of a
list only, shows that the rules are settled. -/
def Shows (edges cycles : List (List Nat)) (rules path : List Nat) (search result : CycleSearch) :
    Prop :=
  path.Nodup → (∀ other ∈ path, other < edges.length) → Safe edges cycles search →
    result.cycles ⊆ cycles → (∀ rule ∈ rules, Settled edges cycles path rule) ∧
    Safe edges cycles result

/-- A rule is accessible, and may be finished, if a search from its left edges shows them to be
settled. A rule outside the list has no left edges, so the search ends there whatever the path. -/
theorem shows_finish {rule : Nat} {path : List Nat} {search result : CycleSearch}
    (hpath : rule ∉ path)
    (hresult : result = visitAll edges (edges[rule]?.getD []) (path ++ [rule]) search)
    (hnext : Shows edges cycles (edges[rule]?.getD []) (path ++ [rule]) search result) :
    Shows edges cycles [rule] path search { result with finished := rule :: result.finished } := by
  intro hnodup hinside hsafe hreported
  have hedges : (∀ next ∈ edges[rule]?.getD [], Settled edges cycles (path ++ [rule]) next) ∧
      Safe edges cycles result := by
    by_cases hrule : rule < edges.length
    · refine hnext (List.concat_eq_append ▸ List.Nodup.concat hpath hnodup) ?_ hsafe hreported
      intro other hother
      rcases List.mem_append.mp hother with hbefore | hlast
      · exact hinside other hbefore
      · exact List.mem_singleton.mp hlast ▸ hrule
    · rw [hresult, List.getElem?_eq_none (Nat.le_of_not_lt hrule), Option.getD_none, visitAll]
      exact ⟨fun _ hmem ↦ absurd hmem List.not_mem_nil, hsafe⟩
  have hacc : Acc (Open edges cycles) rule := by
    refine Acc.intro rule fun next hopen ↦ ?_
    refine (hedges.1 next hopen.1).resolve_left fun hclosing ↦ hopen.2 ?_
    obtain ⟨last, hlast, hending⟩ := hclosing
    rw [List.getLast?_concat] at hlast
    exact Option.some.inj hlast ▸ hending
  refine ⟨fun other hother ↦ List.mem_singleton.mp hother ▸ Or.inr hacc, fun other hother ↦ ?_⟩
  rcases List.mem_cons.mp hother with rfl | hearlier
  · exact hacc
  · exact hedges.2 other hearlier

/-- What a search from a rule shows, and then a search from others, is shown of all of them. -/
theorem shows_cons {rule : Nat} {rest path : List Nat} {search middle : CycleSearch}
    (hfirst : Shows edges cycles [rule] path search middle)
    (hrest : Shows edges cycles rest path middle (visitAll edges rest path middle)) :
    Shows edges cycles (rule :: rest) path search (visitAll edges rest path middle) := by
  intro hnodup hinside hsafe hreported
  have hbefore : middle.cycles ⊆ cycles :=
    List.Subset.trans ((cycles_prefix_visit edges).2 rest path middle).subset hreported
  obtain ⟨hacc, hmiddle⟩ := hfirst hnodup hinside hsafe hbefore
  obtain ⟨hothers, hafter⟩ := hrest hnodup hinside hmiddle hreported
  refine ⟨fun other hother ↦ ?_, hafter⟩
  rcases List.mem_cons.mp hother with rfl | hlater
  · exact hacc other (List.mem_singleton_self other)
  · exact hothers other hlater

theorem shows_visit :
    (∀ rule path search, Shows edges cycles [rule] path search (visit edges rule path search)) ∧
      ∀ rules path search, Shows edges cycles rules path search
        (visitAll edges rules path search) := by
  refine visit.mutual_induct edges
    (fun rule path search ↦ Shows edges cycles [rule] path search (visit edges rule path search))
    (fun rules path search ↦ Shows edges cycles rules path search
      (visitAll edges rules path search))
    ?_ ?_ ?_ ?_ ?_ ?_
  · intro rule path search hpath _ _ hsafe hreported
    rw [visit, if_pos hpath] at hreported ⊢
    have hlast := List.getLast?_eq_some_getLast (List.ne_nil_of_mem hpath)
    have hending : IsLastStep cycles (path.getLast (List.ne_nil_of_mem hpath)) rule :=
      ⟨_, hreported (List.mem_append_right _ (List.mem_singleton_self _)),
        suffix_cycleAt hpath hlast⟩
    exact ⟨fun other hother ↦ List.mem_singleton.mp hother ▸ Or.inl ⟨_, hlast, hending⟩, hsafe⟩
  · intro rule path search hpath hfinished _ _ hsafe _
    rw [visit, if_neg hpath, if_pos hfinished]
    exact ⟨fun other hother ↦ List.mem_singleton.mp hother ▸ Or.inr (hsafe rule hfinished), hsafe⟩
  · intro rule path search hpath hfinished hroom ih
    rw [visit, if_neg hpath, if_neg hfinished, if_pos hroom]
    exact shows_finish hpath rfl ih
  · intro rule path search hpath hfinished hroom hnodup hinside hsafe _
    rw [visit, if_neg hpath, if_neg hfinished, if_neg hroom]
    have hacc : Acc (Follows edges) rule := acc_of_length_le (Nat.le_of_not_lt fun hrule ↦
      hroom (length_lt_of_not_mem hnodup hinside hrule hpath))
    exact ⟨fun other hother ↦ List.mem_singleton.mp hother ▸ Or.inr (acc_open_of_acc hacc), hsafe⟩
  · intro path search _ _ hsafe _
    rw [visitAll]
    exact ⟨fun _ hmem ↦ absurd hmem List.not_mem_nil, hsafe⟩
  · intro path search rule rest hfirst hrest
    rw [visitAll]
    exact shows_cons hfirst hrest

/-- All sequences of left edges end that take no last step of a reported circle. -/
theorem acc_open_cyclesOf (rule : Nat) : Acc (Open edges (cyclesOf edges)) rule := by
  have hall := (shows_visit.2 (List.range edges.length) [] ⟨[], []⟩ List.nodup_nil
    (fun _ hmem ↦ absurd hmem List.not_mem_nil) (fun _ hmem ↦ absurd hmem List.not_mem_nil)
    (List.Subset.refl (cyclesOf edges))).1
  by_cases hrule : rule < edges.length
  · exact (hall rule (List.mem_range.mpr hrule)).resolve_left fun ⟨_, hlast, _⟩ ↦ nomatch hlast
  · exact acc_open_of_acc (acc_of_length_le (Nat.le_of_not_lt hrule))

/-! ### Where there is no circle -/

/-- Where the search finds no circle, all sequences of left edges end. -/
theorem acc_of_cyclesOf_eq_nil (hnone : cyclesOf edges = []) (rule : Nat) :
    Acc (Follows edges) rule := by
  refine Subrelation.accessible (fun hfollows ↦ ⟨hfollows, ?_⟩) (acc_open_cyclesOf rule)
  rintro ⟨cycle, hcycle, -⟩
  rw [hnone] at hcycle
  cases hcycle

/-- Where all sequences of left edges end, the search finds no circle: the rules of a circle reach
themselves. -/
theorem cyclesOf_eq_nil_of_acc (hacc : ∀ rule, Acc (Follows edges) rule) : cyclesOf edges = [] := by
  refine List.eq_nil_iff_forall_not_mem.mpr fun cycle hcycle ↦ ?_
  have hwalk := (isCircle_of_mem_cyclesOf hcycle).toIsClosedWalk
  obtain ⟨rule, middle, rfl⟩ := hwalk.exists_eq
  have hself := hwalk.transGen List.mem_cons_self List.mem_cons_self
  exact not_rel_self_of_acc (hacc rule).transGen (Relation.transGen_swap.mpr hself)

/-- Where left edges only hold rules of lower numbers, there is no circle. -/
theorem cyclesOf_eq_nil_of_lt (hlower : ∀ rule : Nat, ∀ next ∈ edges[rule]?.getD [], next < rule) :
    cyclesOf edges = [] := by
  refine cyclesOf_eq_nil_of_acc fun rule ↦ ?_
  induction rule using Nat.strong_induction_on with
  | _ rule ih => exact Acc.intro rule fun next hnext ↦ ih next (hlower rule next hnext)

end CycleSearch

end Packrat
