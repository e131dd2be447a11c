import Mathlib.Data.List.Induction
import Mathlib.Data.List.Nodup
import Packrat.Matching.Trace

/-!
# What is left of events

Of the failures that an evaluation records only the furthest is kept, and of the runs of an action
at one offset only the first happens when outcomes are remembered. `furthestAfter` and `runsAfter`
say what is left of a list of events, given what was there before. Both go through the events in
order, so what is left of two lists one after the other is found in two steps
(`furthestAfter_append`, `runsAfter_append`). The furthest failure can also be found from nothing
and put in later (`furthestAfter_eq`): this is what makes it possible to remember it.
-/

set_option autoImplicit false
set_option relaxedAutoImplicit false

namespace Packrat

/-! ### Failures -/

/-- The furthest failure after some events, given the one held before them. -/
def furthestAfter (held : Option Failure) (events : List Event) : Option Failure :=
  (events.filterMap Event.failure?).foldl Failure.further held

@[simp] theorem furthestAfter_nil (held : Option Failure) : furthestAfter held [] = held := rfl

/-- The furthest failure of two lists of events is found in two steps. -/
theorem furthestAfter_append (held : Option Failure) (first second : List Event) :
    furthestAfter held (first ++ second) = furthestAfter (furthestAfter held first) second := by
  simp only [furthestAfter, List.filterMap_append, List.foldl_append]

/-- Among the events that are no failures there are no failures. -/
theorem filterMap_failure?_filter (events : List Event) :
    (events.filter fun event ↦ event.failure?.isNone).filterMap Event.failure? = [] := by
  rw [List.filterMap_eq_nil_iff]
  intro event hevent
  exact Option.isNone_iff_eq_none.mp (List.mem_filter.mp hevent).2

/-- Events without failures leave the furthest failure as it was. -/
theorem furthestAfter_filter (held : Option Failure) (events : List Event) :
    furthestAfter held (events.filter fun event ↦ event.failure?.isNone) = held := by
  rw [furthestAfter, filterMap_failure?_filter, List.foldl_nil]

/-- Of three failures the furthest is found in either order of comparison. -/
theorem further_further (held : Option Failure) (first second : Failure) :
    Failure.further (Failure.further held first) second =
      (match Failure.further (some first) second with
        | none => held
        | some best => Failure.further held best) := by
  cases held with
  | none =>
    simp only [Failure.further]
    split <;> rfl
  | some earlier =>
    by_cases hfirst : earlier.offset < first.offset <;>
      by_cases hsecond : first.offset < second.offset <;>
      by_cases hboth : earlier.offset < second.offset <;>
      simp [Failure.further, hfirst, hsecond, hboth] <;> omega

/-- The furthest failure of some events can be found first and compared with an earlier one
later. -/
theorem furthestAfter_eq (held : Option Failure) (events : List Event) :
    furthestAfter held events =
      (match furthestAfter none events with
        | none => held
        | some best => Failure.further held best) := by
  simp only [furthestAfter]
  generalize events.filterMap Event.failure? = failures
  induction failures using List.reverseRecOn generalizing held with
  | nil => rfl
  | append_singleton rest last ih =>
    simp only [List.foldl_append, List.foldl_cons, List.foldl_nil]
    rw [ih held]
    cases hbest : List.foldl Failure.further none rest with
    | none => rfl
    | some best => exact further_further held best last

/-! ### Runs of actions -/

/-- An action and what it is applied to. -/
structure Application where
  /-- The action. -/
  action : Action
  /-- What the action sees of the text. -/
  context : Context
  /-- The results that the action sees. -/
  results : Results

/-- What a run applies to what, wherever it comes from. -/
def Invocation.application (invocation : Invocation) : Application :=
  ⟨invocation.action, invocation.context, invocation.results⟩

/-- The place of a run: its node, its place among the actions of the node, and the offset. -/
def Invocation.site (invocation : Invocation) : NodeId × Nat × Nat :=
  (invocation.node, invocation.index, invocation.offset)

def sites (runs : List Invocation) : List (NodeId × Nat × Nat) := runs.map Invocation.site

/-- Adds a run unless there was one at its place. -/
def keepFirst (kept : List Invocation) (run : Invocation) : List Invocation :=
  if run.site ∈ sites kept then kept else kept ++ [run]

/-- The runs after some more of them, when every run at a place that had one is left out. -/
def runsAfter (kept runs : List Invocation) : List Invocation := runs.foldl keepFirst kept

/-- Of the runs at one place only the first. -/
def firstRuns (runs : List Invocation) : List Invocation := runsAfter [] runs

def runsOf (events : List Event) : List Invocation := events.filterMap Event.invocation?

@[simp] theorem runsOf_nil : runsOf [] = [] := rfl

@[simp] theorem runsOf_append (first second : List Event) :
    runsOf (first ++ second) = runsOf first ++ runsOf second :=
  List.filterMap_append

/-- Dropping failures leaves the runs as they were. -/
theorem runsOf_filter (events : List Event) :
    runsOf (events.filter fun event ↦ event.failure?.isNone) = runsOf events := by
  induction events with
  | nil => rfl
  | cons event rest ih =>
    cases event with
    | failed failure => exact ih
    | invoked invocation => exact congrArg (invocation :: ·) ih

@[simp] theorem sites_append (first second : List Invocation) :
    sites (first ++ second) = sites first ++ sites second :=
  List.map_append

/-- Runs one after another are sifted in two steps. -/
theorem runsAfter_append (kept first second : List Invocation) :
    runsAfter kept (first ++ second) = runsAfter (runsAfter kept first) second :=
  List.foldl_append

/-- The places of a list of runs to which one is added. -/
theorem mem_sites_keepFirst {kept : List Invocation} {run : Invocation}
    {site : NodeId × Nat × Nat} :
    site ∈ sites (keepFirst kept run) ↔ site ∈ sites kept ∨ site = run.site := by
  unfold keepFirst
  split
  next hthere =>
    refine ⟨Or.inl, fun hor ↦ ?_⟩
    rcases hor with hkept | rfl
    · exact hkept
    · exact hthere
  next => simp [sites]

theorem mem_sites_runsAfter {kept runs : List Invocation} {site : NodeId × Nat × Nat} :
    site ∈ sites (runsAfter kept runs) ↔ site ∈ sites kept ∨ site ∈ sites runs := by
  induction runs generalizing kept with
  | nil => simp [runsAfter, sites]
  | cons run rest ih =>
    change site ∈ sites (runsAfter (keepFirst kept run) rest) ↔ _
    rw [ih, mem_sites_keepFirst]
    simp only [sites, List.map_cons, List.mem_cons]
    tauto

theorem nodup_runsAfter {kept : List Invocation} (hkept : (sites kept).Nodup)
    (runs : List Invocation) : (sites (runsAfter kept runs)).Nodup := by
  induction runs generalizing kept with
  | nil => exact hkept
  | cons run rest ih =>
    refine ih ?_
    unfold keepFirst
    split
    next => exact hkept
    next hfresh =>
      rw [sites_append, List.nodup_append]
      refine ⟨hkept, List.nodup_singleton _, fun site hsite other hother ↦ ?_⟩
      rintro rfl
      rw [List.mem_singleton.mp hother] at hsite
      exact hfresh hsite

/-- Runs at places that had one are all left out. -/
theorem runsAfter_of_subset {kept runs : List Invocation}
    (hsubset : ∀ site ∈ sites runs, site ∈ sites kept) : runsAfter kept runs = kept := by
  induction runs with
  | nil => rfl
  | cons run rest ih =>
    have hrun : keepFirst kept run = kept := if_pos (hsubset run.site List.mem_cons_self)
    change runsAfter (keepFirst kept run) rest = kept
    rw [hrun]
    exact ih fun site hsite ↦ hsubset site (List.mem_cons_of_mem _ hsite)

/-- Runs at places that had none, and at most one at each, are all kept. -/
theorem runsAfter_of_fresh {kept runs : List Invocation} (honce : (sites runs).Nodup)
    (hfresh : ∀ site ∈ sites runs, site ∉ sites kept) : runsAfter kept runs = kept ++ runs := by
  induction runs generalizing kept with
  | nil => exact (List.append_nil kept).symm
  | cons run rest ih =>
    have hrun : keepFirst kept run = kept ++ [run] := if_neg (hfresh run.site List.mem_cons_self)
    obtain ⟨hhead, htail⟩ := List.nodup_cons.mp honce
    change runsAfter (keepFirst kept run) rest = kept ++ run :: rest
    rw [hrun, ih htail, List.append_assoc]
    · rfl
    · intro site hsite hkept
      rw [sites_append, List.mem_append] at hkept
      rcases hkept with hkept | hkept
      · exact hfresh site (List.mem_cons_of_mem _ hsite) hkept
      · rw [List.mem_singleton.mp hkept] at hsite
        exact hhead hsite

theorem mem_of_mem_runsAfter {kept runs : List Invocation} {run : Invocation}
    (hrun : run ∈ runsAfter kept runs) :
    run ∈ kept ∨ run ∈ runs := by
  induction runs generalizing kept with
  | nil => exact Or.inl hrun
  | cons first rest ih =>
    change run ∈ runsAfter (keepFirst kept first) rest at hrun
    rcases ih hrun with hkept | hrest
    · unfold keepFirst at hkept
      split at hkept
      next => exact Or.inl hkept
      next =>
        rw [List.mem_append, List.mem_singleton] at hkept
        refine hkept.imp_right fun hfirst ↦ ?_
        rw [hfirst]
        exact List.mem_cons_self
    · exact Or.inr (List.mem_cons_of_mem _ hrest)

/-- If runs at one place are the same, no run is lost when only the first at each place is kept. -/
theorem mem_firstRuns_iff {runs : List Invocation}
    (hsingle : ∀ run ∈ runs, ∀ other ∈ runs, run.site = other.site → run = other)
    {run : Invocation} :
    run ∈ firstRuns runs ↔ run ∈ runs := by
  refine ⟨fun hrun ↦ (mem_of_mem_runsAfter hrun).resolve_left List.not_mem_nil, fun hrun ↦ ?_⟩
  have hsite : run.site ∈ sites (firstRuns runs) :=
    mem_sites_runsAfter.mpr (Or.inr (List.mem_map_of_mem hrun))
  obtain ⟨other, hother, hsame⟩ := List.mem_map.mp hsite
  have hinside := (mem_of_mem_runsAfter hother).resolve_left List.not_mem_nil
  rwa [hsingle run hrun other hinside hsame.symm]

end Packrat
