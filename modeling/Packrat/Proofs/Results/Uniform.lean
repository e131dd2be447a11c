import Mathlib.Data.List.Pairwise
import Packrat.Proofs.Results.Names

/-!
# Names of one kind each

A plain name keeps the last range recorded under it, and a list name keeps all. Where a name is used
in both ways, what is kept depends on the order in which results are put together: a list name takes
in a plain one that it meets, but a plain one forgets. Where each name is only ever plain or only
ever a list (`Results.Uniform`), the order does not matter: results may be grouped in either way
(`Results.extend_assoc`), and empty results change nothing (`Results.empty_extend`,
`Results.extend_empty`).

The kinds need not be given beforehand. Results that pairwise record no name in both ways
(`Results.Compatible`) have a kind for each name (`Results.exists_kind`).
-/

set_option autoImplicit false
set_option relaxedAutoImplicit false

namespace Packrat

/-- Names are distinct, and each is a list name just if it should be one. -/
structure NamesUniform (kind : String → Bool) (names : List Slot) : Prop where
  /-- No name is recorded twice. -/
  nodup : (names.map Slot.name).Nodup
  /-- Every name is of its kind. -/
  kinds : ∀ slot ∈ names, slot.accumulate = kind slot.name

/-- The names of results are distinct and of their kinds. -/
def Results.Uniform (kind : String → Bool) (results : Results) : Prop :=
  NamesUniform kind results.names

namespace Results

/-- Records several names one after the other. -/
def mergeSlots (names others : List Slot) : List Slot :=
  others.foldl (fun names slot ↦ mergeSlot slot names) names

theorem names_extend (results other : Results) :
    (results.extend other).names =
      mergeSlots results.names (other.names.map (shiftSlot results.tokens.length)) := rfl

theorem mergeSlots_cons (names : List Slot) (slot : Slot) (others : List Slot) :
    mergeSlots names (slot :: others) = mergeSlots (mergeSlot slot names) others := rfl

/-- What is held under a name after it is recorded once more. -/
def joinSlots (held slot : Slot) : Slot :=
  if held.accumulate || slot.accumulate then
    { held with accumulate := true, spans := held.spans ++ slot.spans }
  else { held with spans := slot.spans }

theorem mergeSlot_cons (slot held : Slot) (rest : List Slot) :
    mergeSlot slot (held :: rest) =
      if held.name = slot.name then joinSlots held slot :: rest else held :: mergeSlot slot rest :=
        rfl

@[simp] theorem name_joinSlots (held slot : Slot) : (joinSlots held slot).name = held.name := by
  unfold joinSlots
  split_ifs <;> rfl

@[simp] theorem accumulate_joinSlots (held slot : Slot) :
    (joinSlots held slot).accumulate = (held.accumulate || slot.accumulate) := by
  unfold joinSlots
  split_ifs with hlist
  · exact hlist.symm
  · simp_all

/-- Ranges of one kind may be joined in either grouping. -/
theorem joinSlots_assoc {first second third : Slot} (hsecond : second.accumulate = first.accumulate)
    (hthird : third.accumulate = first.accumulate) :
    joinSlots (joinSlots first second) third = joinSlots first (joinSlots second third) := by
  cases hlist : first.accumulate <;> simp [joinSlots, hsecond, hthird, hlist]

/-! ### Recording names -/

section

variable {kind : String → Bool} {names others : List Slot} {slot other : Slot}

/-- A name that is recorded once more is of its kind if it was so before. -/
theorem kinds_mergeSlot (hslot : slot.accumulate = kind slot.name)
    (hnames : ∀ held ∈ names, held.accumulate = kind held.name) :
    ∀ held ∈ mergeSlot slot names, held.accumulate = kind held.name := by
  induction names with
  | nil =>
    intro held hheld
    rw [List.mem_singleton.mp hheld]
    exact hslot
  | cons first rest ih =>
    obtain ⟨hfirst, hrest⟩ := List.forall_mem_cons.mp hnames
    rw [mergeSlot_cons]
    split_ifs with hsame
    · refine List.forall_mem_cons.mpr ⟨?_, hrest⟩
      rw [accumulate_joinSlots, name_joinSlots, hfirst, hslot, hsame, Bool.or_self]
    · exact List.forall_mem_cons.mpr ⟨hfirst, ih hrest⟩

/-- Recording one more name of its kind keeps names uniform. -/
theorem uniform_mergeSlot (hnames : NamesUniform kind names)
    (hslot : slot.accumulate = kind slot.name) :
    NamesUniform kind (mergeSlot slot names) :=
  ⟨nodup_mergeSlot hnames.nodup slot, kinds_mergeSlot hslot hnames.kinds⟩

/-- Recording more names of their kinds keeps names uniform. -/
theorem uniform_mergeSlots (hnames : NamesUniform kind names)
    (hothers : ∀ slot ∈ others, slot.accumulate = kind slot.name) :
    NamesUniform kind (mergeSlots names others) := by
  induction others generalizing names with
  | nil => exact hnames
  | cons first rest ih =>
    obtain ⟨hfirst, hrest⟩ := List.forall_mem_cons.mp hothers
    exact ih (uniform_mergeSlot hnames hfirst) hrest

/-- Recording a name twice amounts to recording both ranges at once, where the name has one kind. -/
theorem mergeSlot_mergeSlot_same (hslot : slot.accumulate = kind slot.name)
    (hother : other.accumulate = kind other.name) (hsame : slot.name = other.name)
    (hnames : ∀ held ∈ names, held.accumulate = kind held.name) :
    mergeSlot other (mergeSlot slot names) = mergeSlot (joinSlots slot other) names := by
  have hkind : other.accumulate = slot.accumulate := by rw [hslot, hother, hsame]
  induction names with
  | nil =>
    change mergeSlot other [slot] = [joinSlots slot other]
    rw [mergeSlot_cons, if_pos hsame]
  | cons first rest ih =>
    obtain ⟨hfirst, hrest⟩ := List.forall_mem_cons.mp hnames
    rw [mergeSlot_cons, mergeSlot_cons, name_joinSlots]
    by_cases hname : first.name = slot.name
    · have hheld : slot.accumulate = first.accumulate := by rw [hfirst, hslot, hname]
      rw [if_pos hname, if_pos hname, mergeSlot_cons, name_joinSlots, if_pos (hname.trans hsame),
        joinSlots_assoc hheld (hkind.trans hheld)]
    · rw [if_neg hname, if_neg hname, mergeSlot_cons, if_neg (hsame ▸ hname), ih hrest]

/-- Recording a name that is there already may be put off until another one has been recorded. -/
theorem mergeSlot_comm (hrecorded : slot.name ∈ names.map Slot.name)
    (hapart : other.name ≠ slot.name) :
    mergeSlot slot (mergeSlot other names) = mergeSlot other (mergeSlot slot names) := by
  induction names with
  | nil => exact absurd hrecorded List.not_mem_nil
  | cons first rest ih =>
    rw [mergeSlot_cons, mergeSlot_cons]
    by_cases hslot : first.name = slot.name
    · have hother : ¬ first.name = other.name := fun heq ↦ hapart (heq.symm.trans hslot)
      rw [if_neg hother, if_pos hslot, mergeSlot_cons, if_pos hslot, mergeSlot_cons, name_joinSlots,
        if_neg hother]
    · have hrest : slot.name ∈ rest.map Slot.name :=
        (List.mem_cons.mp hrecorded).resolve_left (Ne.symm hslot)
      rw [if_neg hslot]
      by_cases hother : first.name = other.name
      · rw [if_pos hother, mergeSlot_cons, name_joinSlots, if_neg hslot,
          mergeSlot_cons, if_pos hother]
      · rw [if_neg hother, mergeSlot_cons, if_neg hslot, mergeSlot_cons, if_neg hother, ih hrest]

/-- Recording a name that is there already may be put off until names other than it have been
recorded. -/
theorem mergeSlot_mergeSlots (hrecorded : slot.name ∈ names.map Slot.name)
    (hapart : slot.name ∉ others.map Slot.name) :
    mergeSlot slot (mergeSlots names others) = mergeSlots (mergeSlot slot names) others := by
  induction others generalizing names with
  | nil => rfl
  | cons first rest ih =>
    obtain ⟨hfirst, hrest⟩ := not_or.mp (mt List.mem_cons.mpr hapart)
    have hkept : slot.name ∈ (mergeSlot first names).map Slot.name := by
      rw [map_name_mergeSlot]
      split_ifs
      · exact hrecorded
      · exact List.mem_append_left _ hrecorded
    rw [mergeSlots_cons, mergeSlots_cons, ih hkept hrest, mergeSlot_comm hrecorded (Ne.symm hfirst)]

/-- A name may be recorded before or after those among which it was. The induction is on these. -/
theorem mergeSlots_mergeSlot (hslot : slot.accumulate = kind slot.name)
    (hothers : NamesUniform kind others) (hnames : ∀ held ∈ names,
      held.accumulate = kind held.name) :
    mergeSlots names (mergeSlot slot others) = mergeSlot slot (mergeSlots names others) := by
  induction others generalizing names with
  | nil => rfl
  | cons first rest ih =>
    obtain ⟨hfirst, hrest⟩ := List.forall_mem_cons.mp hothers.kinds
    obtain ⟨hapart, hnodup⟩ := List.nodup_cons.mp hothers.nodup
    have hmerged := kinds_mergeSlot hfirst hnames
    by_cases hsame : first.name = slot.name
    · have hrecorded : slot.name ∈ (mergeSlot first names).map Slot.name := by
        rw [map_name_mergeSlot, ← hsame]
        split_ifs with hmem
        · exact hmem
        · exact List.mem_append_right _ (List.mem_singleton_self _)
      rw [mergeSlot_cons, if_pos hsame, mergeSlots_cons, mergeSlots_cons,
        mergeSlot_mergeSlots hrecorded (hsame ▸ hapart),
        mergeSlot_mergeSlot_same hfirst hslot hsame hnames]
    · rw [mergeSlot_cons, if_neg hsame, mergeSlots_cons, mergeSlots_cons]
      exact ih ⟨hnodup, hrest⟩ hmerged

/-- Names may be recorded one after the other in either grouping. -/
theorem mergeSlots_assoc {last : List Slot} (hnames : ∀ held ∈ names,
      held.accumulate = kind held.name)
    (hothers : NamesUniform kind others) (hlast : ∀ slot ∈ last, slot.accumulate = kind slot.name) :
    mergeSlots (mergeSlots names others) last = mergeSlots names (mergeSlots others last) := by
  induction last generalizing others with
  | nil => rfl
  | cons first rest ih =>
    obtain ⟨hfirst, hrest⟩ := List.forall_mem_cons.mp hlast
    rw [mergeSlots_cons, mergeSlots_cons, ← mergeSlots_mergeSlot hfirst hothers hnames,
      ih (uniform_mergeSlot hothers hfirst) hrest]

theorem mergeSlot_of_not_mem (hnew : slot.name ∉ names.map Slot.name) :
    mergeSlot slot names = names ++ [slot] := by
  induction names with
  | nil => rfl
  | cons first rest ih =>
    obtain ⟨hfirst, hrest⟩ := not_or.mp (mt List.mem_cons.mpr hnew)
    rw [mergeSlot, if_neg (Ne.symm hfirst), ih hrest, List.cons_append]

/-- New names that are distinct are added at the end. -/
theorem mergeSlots_of_nodup (hnodup : ((names ++ others).map Slot.name).Nodup) :
    mergeSlots names others = names ++ others := by
  induction others generalizing names with
  | nil => exact (List.append_nil names).symm
  | cons first rest ih =>
    have hnew : first.name ∉ names.map Slot.name := by
      rw [List.map_append, List.nodup_append] at hnodup
      exact fun hmem ↦ hnodup.2.2 _ hmem _ List.mem_cons_self rfl
    rw [mergeSlots_cons, mergeSlot_of_not_mem hnew, ih (by simpa using hnodup), List.append_assoc]
    rfl

/-! ### Moving names -/

theorem name_shiftSlot (distance : Nat) (slot : Slot) :
    (shiftSlot distance slot).name = slot.name := rfl

/-- Moving names twice moves them by both distances. -/
theorem shiftSlot_shiftSlot (first second : Nat) (slot : Slot) :
    shiftSlot first (shiftSlot second slot) = shiftSlot (first + second) slot := by
  simp [shiftSlot, Span.shift, Function.comp_def, Nat.add_comm, Nat.add_left_comm]

theorem shiftSlot_zero (slot : Slot) : shiftSlot 0 slot = slot := by
  simp [shiftSlot, Span.shift]

/-- Ranges may be moved before or after they are joined. -/
theorem shiftSlot_joinSlots (distance : Nat) (held slot : Slot) :
    shiftSlot distance (joinSlots held slot) =
      joinSlots (shiftSlot distance held) (shiftSlot distance slot) := by
  cases hheld : held.accumulate <;> cases hslot : slot.accumulate <;>
    simp [shiftSlot, joinSlots, hheld, hslot]

/-- Names may be moved before or after one of them is recorded. -/
theorem map_shiftSlot_mergeSlot (distance : Nat) :
    (mergeSlot slot names).map (shiftSlot distance) =
      mergeSlot (shiftSlot distance slot) (names.map (shiftSlot distance)) := by
  induction names with
  | nil => rfl
  | cons first rest ih =>
    rw [List.map_cons, mergeSlot_cons, mergeSlot_cons, name_shiftSlot, name_shiftSlot]
    split_ifs
    · rw [List.map_cons, shiftSlot_joinSlots]
    · rw [List.map_cons, ih]

/-- Names may be moved before or after they are recorded. -/
theorem map_shiftSlot_mergeSlots (distance : Nat) :
    (mergeSlots names others).map (shiftSlot distance) =
      mergeSlots (names.map (shiftSlot distance)) (others.map (shiftSlot distance)) := by
  induction others generalizing names with
  | nil => rfl
  | cons first rest ih =>
    rw [mergeSlots_cons, ih, map_shiftSlot_mergeSlot, List.map_cons, mergeSlots_cons]

theorem uniform_map_shiftSlot (hnames : NamesUniform kind names) (distance : Nat) :
    NamesUniform kind (names.map (shiftSlot distance)) := by
  constructor
  · simpa [Function.comp_def, name_shiftSlot] using hnames.nodup
  · intro slot hslot
    obtain ⟨held, hheld, rfl⟩ := List.mem_map.mp hslot
    exact hnames.kinds held hheld

end

/-! ### Putting results together -/

variable {kind : String → Bool} {results other last : Results}

theorem uniform_empty (kind : String → Bool) : Results.empty.Uniform kind :=
  ⟨List.nodup_nil, fun _ hslot ↦ nomatch hslot⟩

theorem uniform_ofTokens (kind : String → Bool) (tokens : List Token) :
    (ofTokens tokens).Uniform kind :=
  ⟨List.nodup_nil, fun _ hslot ↦ nomatch hslot⟩

theorem Uniform.extend (hresults : results.Uniform kind) (hother : other.Uniform kind) :
    (results.extend other).Uniform kind :=
  uniform_mergeSlots hresults (uniform_map_shiftSlot hother _).kinds

/-- Naming results with a name of its kind keeps them uniform. -/
theorem Uniform.setName (hresults : results.Uniform kind) (name : String) {accumulate : Bool}
    (hname : accumulate = kind name) : (results.setName name accumulate).Uniform kind := by
  refine ⟨nodup_setName hresults.nodup name accumulate, ?_⟩
  unfold Results.setName
  split_ifs
  · exact hresults.kinds
  · intro slot hslot
    rcases List.mem_append.mp hslot with hheld | hnew
    · exact hresults.kinds slot (List.mem_filter.mp hheld).1
    · rw [List.mem_singleton.mp hnew]
      exact hname

@[simp] theorem extend_empty (results : Results) : results.extend .empty = results := by
  simp [extend, empty]

/-- Results after nothing are as they were, if their names are distinct. -/
theorem empty_extend (hresults : (results.names.map Slot.name).Nodup) :
    Results.empty.extend results = results := by
  have hshift : results.names.map (shiftSlot 0) = results.names := by
    rw [List.map_congr_left fun slot _ ↦ shiftSlot_zero slot, List.map_id']
  have hnames : mergeSlots [] results.names = [] ++ results.names := mergeSlots_of_nodup hresults
  change (⟨[] ++ results.tokens, mergeSlots [] (results.names.map (shiftSlot 0))⟩ : Results) =
    results
  rw [hshift, hnames]
  rfl

/-- Results may be put together in either grouping, if no name is both plain and a list. -/
theorem extend_assoc (hresults : results.Uniform kind) (hother : other.Uniform kind)
    (hlast : last.Uniform kind) :
    (results.extend other).extend last = results.extend (other.extend last) := by
  have hshift : (last.names.map (shiftSlot other.tokens.length)).map
      (shiftSlot results.tokens.length) = last.names.map
      (shiftSlot (results.tokens ++ other.tokens).length) := by
    simp [Function.comp_def, shiftSlot_shiftSlot]
  have hnames : ((results.extend other).extend last).names =
      (results.extend (other.extend last)).names := by
    rw [names_extend, names_extend, names_extend, names_extend, map_shiftSlot_mergeSlots, hshift]
    exact mergeSlots_assoc hresults.kinds (uniform_map_shiftSlot hother _)
      (uniform_map_shiftSlot hlast _).kinds
  have htokens : ((results.extend other).extend last).tokens =
      (results.extend (other.extend last)).tokens :=
    List.append_assoc _ _ _
  exact congrArg₂ Results.mk htokens hnames

/-- Whatever comes after results with distinct names, names stay distinct. -/
theorem nodup_extend (hresults : (results.names.map Slot.name).Nodup) (other : Results) :
    ((results.extend other).names.map Slot.name).Nodup := by
  rw [names_extend]
  generalize other.names.map (shiftSlot results.tokens.length) = others
  generalize results.names = names at hresults
  induction others generalizing names with
  | nil => exact hresults
  | cons first rest ih => exact ih _ (nodup_mergeSlot hresults first)

/-! ### Results that go together -/

/-- No name is plain in one of two results and a list name in the other. -/
def Compatible (first second : Results) : Prop :=
  ∀ slot ∈ first.names, ∀ held ∈ second.names, slot.name = held.name →
  slot.accumulate = held.accumulate

instance : Std.Symm Compatible :=
  ⟨fun _ _ hcompatible slot hslot held hheld hname ↦
    (hcompatible held hheld slot hslot hname.symm).symm⟩

/-- Results with distinct names go together with themselves. -/
theorem compatible_self (hresults : (results.names.map Slot.name).Nodup) :
    results.Compatible results := by
  intro slot hslot held hheld hname
  rw [List.inj_on_of_nodup_map hresults hslot hheld hname]

/-- Results that go together have a kind for each name. -/
theorem exists_kind {all : List Results} (hnodup : ∀ results ∈ all,
      (results.names.map Slot.name).Nodup)
    (hcompatible : all.Pairwise Compatible) : ∃ kind, ∀ results ∈ all, results.Uniform kind := by
  have hall : ∀ ⦃first⦄, first ∈ all → ∀ ⦃second⦄, second ∈ all → first.Compatible second :=
    fun _ hfirst _ hsecond ↦ List.Pairwise.forall_of_forall
      (fun results hresults ↦ compatible_self (hnodup results hresults)) hcompatible hfirst hsecond
  refine ⟨fun name ↦ all.any fun results ↦ results.names.any fun slot ↦
    slot.name = name && slot.accumulate, fun results hresults ↦
    ⟨hnodup results hresults, fun slot hslot ↦ ?_⟩⟩
  rw [Bool.eq_iff_iff, List.any_eq_true]
  constructor
  · exact fun hlist ↦ ⟨results, hresults, List.any_eq_true.mpr ⟨slot, hslot, by simp [hlist]⟩⟩
  · rintro ⟨other, hother, hnamed⟩
    obtain ⟨held, hheld, hsame⟩ := List.any_eq_true.mp hnamed
    simp only [Bool.and_eq_true, decide_eq_true_eq] at hsame
    rw [hall hresults hother slot hslot held hheld hsame.1.symm]
    exact hsame.2

/-- Results that are made by the operations and go together may be put together in either
grouping. -/
theorem Built.extend_assoc (hresults : results.Built) (hother : other.Built) (hlast : last.Built)
    (hfirst : results.Compatible other) (hsecond : results.Compatible last)
    (hthird : other.Compatible last) :
    (results.extend other).extend last = results.extend (other.extend last) := by
  have hpairwise : [results, other, last].Pairwise Compatible := by
    simp [List.pairwise_cons, hfirst, hsecond, hthird]
  have hnodup : ∀ made ∈ [results, other, last], (made.names.map Slot.name).Nodup := by
    simp [hresults.sound.names.nodup, hother.sound.names.nodup, hlast.sound.names.nodup]
  obtain ⟨kind, hkind⟩ := exists_kind hnodup hpairwise
  simp only [List.mem_cons, List.not_mem_nil, or_false, forall_eq_or_imp, forall_eq] at hkind
  exact Results.extend_assoc hkind.1 hkind.2.1 hkind.2.2

end Results

end Packrat
