import Mathlib.Data.List.Chain
import Mathlib.Data.List.Nodup
import Mathlib.Logic.Relation

/-!
# Closed walks

A closed walk goes on from place to place along the steps of a relation and ends where it began; it
is a circle if it comes through no place twice. Its places reach one another
(`IsClosedWalk.transGen`), and every place that reaches itself is on one
(`exists_isClosedWalk_of_transGen`).

Some steps are cut so that no sequence of the other steps goes on for ever. Then every closed walk
takes a step that is cut (`IsClosedWalk.exists_infix`).
-/

set_option autoImplicit false
set_option relaxedAutoImplicit false

namespace Packrat

/-- A relation does not hold of something accessible and itself. -/
theorem not_rel_self_of_acc {α : Type} {relation : α → α → Prop} {value : α}
    (hacc : Acc relation value) : ¬ relation value value := by
  induction hacc with
  | intro value _ ih => exact fun hself ↦ ih value hself hself

/-- Places one after another, at least two, of which the last is the first again. -/
structure IsClosedWalk {α : Type} (step : α → α → Prop) (walk : List α) : Prop where
  /-- Each place leads to the next one. -/
  steps : walk.IsChain step
  /-- The walk ends where it began. -/
  closed : walk.head? = walk.getLast?
  /-- There is a step. -/
  moves : 2 ≤ walk.length

/-- A closed walk on which no place comes twice, but for the first one in the end. -/
structure IsCircle {α : Type} (step : α → α → Prop) (walk : List α) : Prop
    extends IsClosedWalk step walk where
  /-- Without its end the walk has no place twice. -/
  simple : walk.dropLast.Nodup

/-- A step is the last one of a walk of a list. -/
def IsLastStep {α : Type} (walks : List (List α)) (place next : α) : Prop :=
  ∃ walk ∈ walks, [place, next] <:+ walk

/-- Every place that reaches a place and is reached by it has one step only that leads back to it.
So there is at most one circle through the place. -/
def OnOneCircle {α : Type} (step : α → α → Prop) (place : α) : Prop :=
  ∀ other next after, Relation.TransGen step place other → Relation.TransGen step other place →
    step other next → Relation.TransGen step next place →
      step other after → Relation.TransGen step after place → next = after

section

variable {α β : Type} {step : α → α → Prop} {other : β → β → Prop}
  {walk : List α} {start place next : α}

/-- Steps from a place through others back to it are a closed walk. -/
theorem isClosedWalk_of_isChain {middle : List α}
    (hsteps : (start :: (middle ++ [start])).IsChain step) :
    IsClosedWalk step (start :: (middle ++ [start])) :=
  ⟨hsteps, by rw [List.head?_cons, ← List.cons_append, List.getLast?_concat], by simp⟩

/-- A place that reaches itself is on a closed walk. -/
theorem exists_isClosedWalk_of_transGen (hreaches : Relation.TransGen step start start) :
    ∃ middle, IsClosedWalk step (start :: (middle ++ [start])) := by
  obtain ⟨last, hbefore, hlast⟩ := Relation.TransGen.tail'_iff.mp hreaches
  obtain ⟨middle, hchain, hend⟩ := List.exists_isChain_cons_of_relationReflTransGen hbefore
  refine ⟨middle, isClosedWalk_of_isChain ?_⟩
  rw [← List.cons_append, List.isChain_append]
  refine ⟨hchain, List.isChain_singleton start, fun before hmem after hfirst ↦ ?_⟩
  rw [List.getLast?_eq_some_getLast (List.cons_ne_nil start middle), hend] at hmem
  rw [← Option.some.inj hmem, ← Option.some.inj hfirst]
  exact hlast

namespace IsClosedWalk

/-- A closed walk goes from a place through others back to it. -/
theorem exists_eq (hwalk : IsClosedWalk step walk) :
    ∃ start middle, walk = start :: (middle ++ [start]) := by
  obtain ⟨-, hclosed, hmoves⟩ := hwalk
  match walk with
  | start :: second :: rest =>
    have hparts := List.dropLast_concat_getLast (List.cons_ne_nil second rest)
    rw [List.head?_cons, List.getLast?_cons_cons,
      List.getLast?_eq_some_getLast (List.cons_ne_nil second rest)]
      at hclosed
    rw [← Option.some.inj hclosed] at hparts
    exact ⟨start, (second :: rest).dropLast, by rw [hparts]⟩

theorem transGen (hwalk : IsClosedWalk step walk) (hplace : place ∈ walk) (hnext : next ∈ walk) :
    Relation.TransGen step place next := by
  obtain ⟨start, middle, rfl⟩ := hwalk.exists_eq
  have hpairs : (start :: (middle ++ [start])).Pairwise (Relation.TransGen step) :=
    (hwalk.steps.imp fun _ _ ↦ Relation.TransGen.single).pairwise
  obtain ⟨hfrom, hrest⟩ := List.pairwise_cons.mp hpairs
  have hround : Relation.TransGen step start start :=
    hfrom start (List.mem_append_right _ (List.mem_singleton_self start))
  have hinto : Relation.TransGen step place start := by
    rcases List.mem_cons.mp hplace with rfl | hlater
    · exact hround
    · rcases List.mem_append.mp hlater with hmiddle | hlast
      · exact (List.pairwise_append.mp hrest).2.2 place hmiddle start
          (List.mem_singleton_self start)
      · exact List.mem_singleton.mp hlast ▸ hround
  refine hinto.trans ?_
  rcases List.mem_cons.mp hnext with rfl | hlater
  · exact hround
  · exact hfrom next hlater

/-- The images of the places of a closed walk, if steps lead to steps. -/
theorem map (hwalk : IsClosedWalk step walk) (image : α → β)
    (hsteps : ∀ place next, step place next → other (image place) (image next)) :
    IsClosedWalk other (walk.map image) where
  steps := (List.isChain_map image).mpr (hwalk.steps.imp hsteps)
  closed := by rw [List.head?_map, List.getLast?_map, hwalk.closed]
  moves := by
    rw [List.length_map]
    exact hwalk.moves

theorem exists_step (hwalk : IsClosedWalk step walk) (hplace : place ∈ walk) :
    ∃ next ∈ walk, step place next := by
  obtain ⟨start, middle, rfl⟩ := hwalk.exists_eq
  have hinside : place ∈ start :: middle := by
    rcases List.mem_cons.mp hplace with rfl | hlater
    · exact List.mem_cons_self
    · rcases List.mem_append.mp hlater with hmiddle | hlast
      · exact List.mem_cons_of_mem start hmiddle
      · exact List.mem_singleton.mp hlast ▸ List.mem_cons_self
  obtain ⟨before, after, hparts⟩ := List.append_of_mem hinside
  have hsteps := hwalk.steps
  rw [← List.cons_append, hparts] at hsteps ⊢
  cases after with
  | nil =>
    refine ⟨start, by simp, ?_⟩
    rw [List.append_assoc] at hsteps
    exact (List.isChain_append_cons_cons.mp hsteps).2.1
  | cons next rest =>
    refine ⟨next, by simp, ?_⟩
    rw [List.append_assoc] at hsteps
    exact (List.isChain_append_cons_cons.mp hsteps).2.1

/-- If no sequence of steps that are not cut goes on for ever, every closed walk takes a step that
is cut. -/
theorem exists_infix {cut : α → α → Prop} (hwalk : IsClosedWalk step walk)
    (hacc : ∀ place, Acc (fun next place ↦ step place next ∧ ¬ cut place next) place) :
    ∃ place next, cut place next ∧ [place, next] <:+: walk := by
  by_contra hnone
  have hkept : walk.IsChain fun place next ↦ step place next ∧ ¬ cut place next := by
    refine List.isChain_iff_forall_rel_of_append_cons_cons.mpr
      fun place next before after hparts ↦ ?_
    refine ⟨List.isChain_iff_forall_rel_of_append_cons_cons.mp hwalk.steps hparts,
      fun hcut ↦ hnone ?_⟩
    exact ⟨place, next, hcut, before, after, by rw [hparts, List.append_assoc]; rfl⟩
  obtain ⟨start, middle, rfl⟩ := hwalk.exists_eq
  have hself := (isClosedWalk_of_isChain hkept).transGen List.mem_cons_self List.mem_cons_self
  exact not_rel_self_of_acc (hacc start).transGen (Relation.transGen_swap.mpr hself)

/-- A place is on every closed walk from which it is reached and that it reaches, if there is one
circle only through it. The induction is on the steps from the walk to the place: none of them
leaves the walk. -/
theorem mem_of_onOneCircle (hwalk : IsClosedWalk step walk) (hone : OnOneCircle step place)
    (hreaches : ∀ other ∈ walk, Relation.TransGen step place other ∧
      Relation.TransGen step other place) :
    place ∈ walk := by
  obtain ⟨start, middle, hparts⟩ := hwalk.exists_eq
  have hstart : start ∈ walk := hparts ▸ List.mem_cons_self
  have hround : Relation.TransGen step place place :=
    (hreaches start hstart).1.trans (hreaches start hstart).2
  have hpath := (hreaches start hstart).2
  clear hparts
  induction hpath using Relation.TransGen.head_induction_on with
  | single hlast =>
    obtain ⟨next, hnext, hstep⟩ := hwalk.exists_step hstart
    have hsame := hone _ next place (hreaches _ hstart).1 (hreaches _ hstart).2 hstep
      (hreaches next hnext).2 hlast hround
    exact hsame ▸ hnext
  | head hfirst hrest ih =>
    obtain ⟨next, hnext, hstep⟩ := hwalk.exists_step hstart
    have hsame := hone _ next _ (hreaches _ hstart).1 (hreaches _ hstart).2 hstep
      (hreaches next hnext).2 hfirst hrest
    exact ih (hsame ▸ hnext)

end IsClosedWalk

/-- The images of the places of a circle are a circle, if steps lead to steps and different places
stay different. -/
theorem IsCircle.map (hcircle : IsCircle step walk) (image : α → β)
    (hsteps : ∀ place next, step place next → other (image place) (image next))
    (hdistinct : ∀ place ∈ walk, ∀ next ∈ walk, image place = image next → place = next) :
    IsCircle other (walk.map image) where
  toIsClosedWalk := hcircle.toIsClosedWalk.map image hsteps
  simple := by
    rw [← List.map_dropLast]
    refine List.Nodup.map_on (fun place hplace next hnext hsame ↦ ?_) hcircle.simple
    exact hdistinct place (List.dropLast_subset _ hplace) next (List.dropLast_subset _ hnext) hsame

end

end Packrat
