import Packrat.Proofs.Results.Uniform

/-!
# What a name collects

Results that are put together move the ranges of names further on, once for every time they are put
after others. What a name stands for stays the same all the while: if each of several results is a
match under one name, then the results put together have all their tokens, and under a list name
there is one range for each of them that has tokens, in order, and under a plain name one for the
last (`Results.Collects`). So all that is told of the name can be said without ranges
(`Results.Collects.tells`).
-/

set_option autoImplicit false
set_option relaxedAutoImplicit false

namespace Packrat

/-! ### Ranges of lists that grow -/

section

variable {α : Type} {span : Span} {items part : List α}

/-- A range that fits a list stands for the same elements when more follow. -/
theorem Span.slice?_append (hpart : span.slice? items = some part) (more : List α) :
    span.slice? (items ++ more) = some part := by
  unfold Span.slice? at hpart ⊢
  split_ifs at hpart with hfits
  obtain ⟨hstart, hstop⟩ := hfits
  have hlonger : span.stop ≤ (items ++ more).length := by
    rw [List.length_append]
    omega
  have hinside : span.stop - span.start ≤ (items.drop span.start).length := by
    rw [List.length_drop]
    omega
  rw [if_pos ⟨hstart, hlonger⟩, ← hpart, List.drop_append_of_le_length (by omega),
    List.take_append_of_le_length hinside]

/-- A range that is moved by the length of a list stands for the same elements when the list is put
in front. -/
theorem Span.slice?_shift (hpart : span.slice? items = some part) (before : List α) :
    (span.shift before.length).slice? (before ++ items) = some part := by
  unfold Span.slice? at hpart ⊢
  split_ifs at hpart with hfits
  have hfits' : span.start + before.length ≤ span.stop + before.length ∧
      span.stop + before.length ≤ (before ++ items).length := by
    rw [List.length_append]
    omega
  have hdrop : (before ++ items).drop (span.start + before.length) = items.drop span.start := by
    rw [Nat.add_comm, List.drop_length_add_append]
  rw [Span.shift, if_pos hfits', hdrop, Nat.add_sub_add_right]
  exact hpart

theorem Span.slice?_whole (items : List α) :
    (⟨0, items.length⟩ : Span).slice? items = some items := by
  rw [Span.slice?, if_pos ⟨Nat.zero_le _, Nat.le_refl _⟩]
  exact congrArg some (List.take_length)

/-- A range starts with the first of the elements that it stands for. -/
theorem Span.getElem?_start (hpart : span.slice? items = some part) (hsome : part ≠ []) :
    items[span.start]? = part.head? := by
  unfold Span.slice? at hpart
  split_ifs at hpart with hfits
  obtain rfl := Option.some.inj hpart
  have hlength : span.stop - span.start ≠ 0 := fun hzero ↦ hsome (by rw [hzero, List.take_zero])
  rw [List.head?_take, if_neg hlength, List.head?_drop]

end

namespace Results

/-! ### The slots of one name -/

section

variable {name : String} {slot : Slot} {names others : List Slot}

/-- The slots of a name among others. There is at most one, unless an action made the results. -/
def slotsOf (name : String) (names : List Slot) : List Slot := names.filter (·.name = name)

/-- The slot of a name is the first one of the name. -/
theorem slot?_eq_head? (results : Results) (name : String) :
    results.slot? name = (slotsOf name results.names).head? := List.head?_filter.symm

theorem containsName_eq_false_iff {results : Results} :
    results.containsName name = false ↔ slotsOf name results.names = [] := by
  simp [containsName, slotsOf, List.filter_eq_nil_iff]

/-- Recording a slot of the name is a matter of the slots of that name. -/
theorem slotsOf_mergeSlot_self (hslot : slot.name = name) :
    slotsOf name (mergeSlot slot names) = mergeSlot slot (slotsOf name names) := by
  subst hslot
  induction names with
  | nil => simp [slotsOf, mergeSlot]
  | cons held rest ih =>
    rw [mergeSlot_cons]
    by_cases hsame : held.name = slot.name
    · rw [if_pos hsame]
      simp [slotsOf, hsame, mergeSlot_cons]
    · rw [if_neg hsame]
      simpa [slotsOf, hsame] using ih

/-- Recording a slot of another name leaves the slots of the name as they are. -/
theorem slotsOf_mergeSlot_of_ne (hslot : slot.name ≠ name) :
    slotsOf name (mergeSlot slot names) = slotsOf name names := by
  induction names with
  | nil => simp [slotsOf, mergeSlot, hslot]
  | cons held rest ih =>
    rw [mergeSlot_cons]
    split_ifs with hsame
    · have hheld : held.name ≠ name := hsame ▸ hslot
      simp [slotsOf, hheld]
    · simpa [slotsOf, List.filter_cons] using
        congrArg (fun slots ↦ if held.name = name then held :: slots else slots) ih

/-- Of several slots that are recorded only those of the name matter to it. -/
theorem slotsOf_mergeSlots :
    slotsOf name (mergeSlots names others) = mergeSlots (slotsOf name names)
      (slotsOf name others) := by
  induction others generalizing names with
  | nil => rfl
  | cons first rest ih =>
    rw [mergeSlots_cons, ih]
    by_cases hfirst : first.name = name
    · have hslots : slotsOf name (first :: rest) = first :: slotsOf name rest := by
        simp [slotsOf, hfirst]
      rw [slotsOf_mergeSlot_self hfirst, hslots, mergeSlots_cons]
    · have hslots : slotsOf name (first :: rest) = slotsOf name rest := by simp [slotsOf, hfirst]
      rw [slotsOf_mergeSlot_of_ne hfirst, hslots]

theorem slotsOf_map_shiftSlot (distance : Nat) :
    slotsOf name (names.map (shiftSlot distance)) =
      (slotsOf name names).map (shiftSlot distance) := by
  rw [slotsOf, List.filter_map]
  rfl

/-- Results that are named have one slot of the name, for all their tokens, unless they have no
tokens. -/
theorem slotsOf_setName (results : Results) (name : String) (accumulate : Bool)
    (hsome : results.tokens ≠ []) :
    slotsOf name (results.setName name accumulate).names =
      [⟨name, [⟨0, results.tokens.length⟩], accumulate⟩] := by
  have htold : ¬ results.tokens.isEmpty = true := by simpa using hsome
  rw [Results.setName, if_neg htold]
  simp [slotsOf, List.filter_append, List.filter_filter]

/-- A name is absent after results without it are put after others without it. -/
theorem containsName_extend {results other : Results} (hresults : results.containsName name = false)
    (hother : other.containsName name = false) :
    (results.extend other).containsName name = false := by
  rw [containsName_eq_false_iff] at hresults hother ⊢
  rw [names_extend, slotsOf_mergeSlots, slotsOf_map_shiftSlot, hresults, hother]
  rfl

/-- Giving results another name leaves a name absent. -/
theorem containsName_setName {results : Results} {other : String} {accumulate : Bool}
    (hother : other ≠ name) (hresults : results.containsName name = false) :
    (results.setName other accumulate).containsName name = false := by
  rw [containsName_eq_false_iff] at hresults ⊢
  unfold Results.setName
  split_ifs
  · exact hresults
  · have hlast : slotsOf name [⟨other, [⟨0, results.tokens.length⟩], accumulate⟩] = [] := by
      simp [slotsOf, hother]
    have hheld : slotsOf name (results.names.filter (·.name ≠ other)) = [] := by
      rw [slotsOf, List.filter_comm]
      exact congrArg _ hresults
    rw [slotsOf, List.filter_append]
    exact List.append_eq_nil_iff.mpr ⟨hheld, hlast⟩

end

/-! ### Collecting -/

/-- The tokens that a name keeps of several matches under it: those of all matches that have tokens
for a list name, and those of the last one of these for a plain name. -/
def keptOf (accumulate : Bool) (told : List (List Token)) : List (List Token) :=
  if accumulate then told else told.getLast?.toList

def toldOf (parts : List (List Token)) : List (List Token) := parts.filter (· ≠ [])

theorem toldOf_append (parts more : List (List Token)) :
    toldOf (parts ++ more) = toldOf parts ++ toldOf more :=
  List.filter_append ..

/-- What a list name keeps of further matches it has besides what it had. -/
theorem keptOf_true_append (told more : List (List Token)) :
    keptOf true (told ++ more) = keptOf true told ++ keptOf true more := rfl

/-- Of matches of which the further ones have tokens a plain name keeps what it keeps of these. -/
theorem keptOf_false_append {told more : List (List Token)} (hmore : more ≠ []) :
    keptOf false (told ++ more) = keptOf false more := by
  simp [keptOf, List.getLast?_append, List.getLast?_eq_some_getLast hmore]

theorem keptOf_eq_nil_iff {accumulate : Bool} {told : List (List Token)} :
    keptOf accumulate told = [] ↔ told = [] := by
  cases accumulate with
  | true => exact Iff.rfl
  | false => simp [keptOf]

/-- The last of the kept matches is the last of all. -/
theorem getLast?_keptOf (accumulate : Bool) (told : List (List Token)) :
    (keptOf accumulate told).getLast? = told.getLast? := by
  cases accumulate with
  | true => rfl
  | false => cases hlast : told.getLast? <;> simp [keptOf, hlast]

/-- The slots that a name has for ranges: none, if there are no ranges. -/
def slotsFor (name : String) (accumulate : Bool) (spans : List Span) : List Slot :=
  if spans = [] then [] else [⟨name, spans, accumulate⟩]

/-- Results are several matches under one name put together: they have the tokens of all, and the
name has ranges for the matches that it keeps. -/
structure Collects (name : String) (accumulate : Bool) (parts : List (List Token))
    (results : Results) : Prop where
  /-- The tokens are those of all matches. -/
  tokens : results.tokens = parts.flatten
  /-- The ranges stand for the tokens that are kept. -/
  slots : ∃ spans, slotsOf name results.names = slotsFor name accumulate spans ∧
    spans.map (·.slice? results.tokens) = (keptOf accumulate (toldOf parts)).map some

variable {name : String} {accumulate : Bool} {parts more : List (List Token)}
  {results other : Results}

/-- Results without tokens and names collect nothing. -/
theorem collects_empty (name : String) (accumulate : Bool) : Collects name accumulate [] .empty :=
  ⟨rfl, [], rfl, by cases accumulate <;> rfl⟩

/-- Results in which a name was not recorded are a single match when they are named. -/
theorem collects_setName (hunnamed : results.containsName name = false) :
    Collects name accumulate [results.tokens] (results.setName name accumulate) := by
  by_cases hnone : results.tokens = []
  · have hsame : results.setName name accumulate = results := by
      rw [Results.setName, if_pos (by rw [hnone]; rfl)]
    have htold : toldOf [results.tokens] = [] := by simp [toldOf, hnone]
    rw [hsame]
    refine ⟨by simp, [], containsName_eq_false_iff.mp hunnamed, ?_⟩
    rw [htold, keptOf_eq_nil_iff.mpr rfl]
    rfl
  · have htokens : (results.setName name accumulate).tokens = results.tokens := by
      unfold Results.setName
      split_ifs <;> rfl
    have htold : toldOf [results.tokens] = [results.tokens] := by simp [toldOf, hnone]
    have hkept : keptOf accumulate [results.tokens] = [results.tokens] := by
      cases accumulate <;> rfl
    refine ⟨by rw [htokens]; simp, [⟨0, results.tokens.length⟩],
      (slotsOf_setName results name accumulate hnone).trans (if_neg (List.cons_ne_nil _ _)).symm,
      ?_⟩
    rw [htold, hkept, htokens]
    exact congrArg (fun part ↦ [part]) (Span.slice?_whole results.tokens)

/-- Ranges that are joined under a list name, where both have some or one has none. -/
theorem mergeSlots_slotsFor_true (spans others : List Span) :
    mergeSlots (slotsFor name true spans) (slotsFor name true others) =
      slotsFor name true (spans ++ others) := by
  by_cases hspans : spans = [] <;> by_cases hothers : others = [] <;>
    simp [slotsFor, hspans, hothers, mergeSlots, mergeSlot]

/-- Ranges that are recorded under a plain name replace those that were there. -/
theorem mergeSlots_slotsFor_false {spans others : List Span} (hothers : others ≠ []) :
    mergeSlots (slotsFor name false spans) (slotsFor name false others) =
      slotsFor name false others := by
  by_cases hspans : spans = [] <;> simp [slotsFor, hspans, hothers, mergeSlots, mergeSlot]

/-- Ranges that fit results stand for the same tokens when others are put after these. -/
theorem map_slice?_append (further : List Token) {items : List Token} {spans : List Span}
    {kept : List (List Token)} (hkept : spans.map (·.slice? items) = kept.map some) :
    spans.map (·.slice? (items ++ further)) = kept.map some := by
  induction spans generalizing kept with
  | nil => exact hkept
  | cons span rest ih =>
    obtain ⟨part, others, rfl, hpart, hothers⟩ := List.map_eq_cons_iff.mp hkept.symm
    rw [List.map_cons, List.map_cons, ih hothers.symm, Span.slice?_append hpart.symm]

/-- Ranges that fit results stand for the same tokens when they are moved behind others. -/
theorem map_slice?_shift (before : List Token) {items : List Token} {spans : List Span}
    {kept : List (List Token)} (hkept : spans.map (·.slice? items) = kept.map some) :
    (spans.map (·.shift before.length)).map (·.slice? (before ++ items)) = kept.map some := by
  induction spans generalizing kept with
  | nil => exact hkept
  | cons span rest ih =>
    obtain ⟨part, others, rfl, hpart, hothers⟩ := List.map_eq_cons_iff.mp hkept.symm
    rw [List.map_cons, List.map_cons, List.map_cons, ih hothers.symm, Span.slice?_shift hpart.symm]

theorem map_shiftSlot_slotsFor (distance : Nat) (spans : List Span) :
    (slotsFor name accumulate spans).map (shiftSlot distance) =
      slotsFor name accumulate (spans.map (·.shift distance)) := by
  by_cases hspans : spans = [] <;> simp [slotsFor, hspans, shiftSlot]

/-- Matches under one name may be put after others under it. -/
theorem Collects.extend (hresults : Collects name accumulate parts results)
    (hother : Collects name accumulate more other) :
    Collects name accumulate (parts ++ more) (results.extend other) := by
  obtain ⟨spans, hslots, hkept⟩ := hresults.slots
  obtain ⟨others, hothers, hlast⟩ := hother.slots
  have htokens : (results.extend other).tokens = results.tokens ++ other.tokens := rfl
  have hbefore := map_slice?_append other.tokens hkept
  have hafter := map_slice?_shift results.tokens hlast
  have hrecorded : slotsOf name (results.extend other).names =
      mergeSlots (slotsFor name accumulate spans)
        (slotsFor name accumulate (others.map (·.shift results.tokens.length))) := by
    rw [names_extend, slotsOf_mergeSlots, slotsOf_map_shiftSlot, hslots, hothers,
      map_shiftSlot_slotsFor]
  refine ⟨by rw [htokens, hresults.tokens, hother.tokens, List.flatten_append], ?_⟩
  rw [hrecorded, htokens, toldOf_append]
  cases accumulate with
  | true =>
    refine ⟨_, mergeSlots_slotsFor_true _ _, ?_⟩
    rw [List.map_append, hbefore, hafter, keptOf_true_append, List.map_append]
  | false =>
    by_cases hnone : toldOf more = []
    · rw [hnone, keptOf_eq_nil_iff.mpr rfl] at hlast
      obtain rfl := List.map_eq_nil_iff.mp hlast
      refine ⟨spans, rfl, ?_⟩
      rw [hnone, List.append_nil]
      exact hbefore
    · have hsome : others.map (·.shift results.tokens.length) ≠ [] := by
        intro hnil
        obtain rfl := List.map_eq_nil_iff.mp hnil
        exact hnone (keptOf_eq_nil_iff.mp (List.map_eq_nil_iff.mp hlast.symm))
      refine ⟨_, mergeSlots_slotsFor_false hsome, ?_⟩
      rw [keptOf_false_append hnone]
      exact hafter

/-! ### What is told of a name -/

/-- The value of the tokens of a match: that of its token if it has one, a list otherwise. -/
def valueOf : List Token → Value
  | [token] => token.toValue
  | tokens => .list (Token.toValues tokens)

/-- The tokens of a match as results of their own; those of a single group are the group's, with its
names. -/
def inside (tokens : List Token) : Results :=
  match tokens with
  | [.group inner names] => ⟨inner, names⟩
  | _ => ofTokens tokens

/-- What results tell of a name under which there were matches with the given tokens, each of them
some. -/
structure Tells (results : Results) (name : String) (accumulate : Bool) (told : List (List Token)) :
    Prop where
  /-- If there were none, the name is absent. -/
  absent : told = [] → results.containsName name = false ∧ results.get? name = none
  /-- The value of a list name is the list of the values of all of them, in order, and that of a
  plain name is the value of the last one. -/
  get : ∀ last ∈ told.getLast?,
    results.get? name = some (if accumulate then .list (told.map valueOf) else valueOf last)
  /-- The token is the first one of the last match. -/
  token : ∀ last ∈ told.getLast?, results.token? name = last.head?
  /-- The results are those of the last match. -/
  inner : ∀ last ∈ told.getLast?, results.results? name = some (inside last)

/-- The value of a range is that of the tokens for which it stands. -/
theorem spanValue_of_slice? {span : Span} {part : List Token}
    (hpart : span.slice? results.tokens = some part) :
    results.spanValue span = valueOf part := by
  rw [spanValue, tokensOf, hpart, Option.getD_some]
  rfl

/-- The values of ranges are those of the tokens for which they stand. -/
theorem map_spanValue {spans : List Span} {kept : List (List Token)}
    (hkept : spans.map (·.slice? results.tokens) = kept.map some) :
    spans.map results.spanValue = kept.map valueOf := by
  induction spans generalizing kept with
  | nil =>
    obtain rfl := List.map_eq_nil_iff.mp hkept.symm
    rfl
  | cons span rest ih =>
    obtain ⟨part, others, rfl, hpart, hothers⟩ := List.map_eq_cons_iff.mp hkept.symm
    rw [List.map_cons, List.map_cons, ih hothers.symm, spanValue_of_slice? hpart.symm]

/-- The results under a name are the tokens of its last range. -/
theorem results?_of_slice? {slot : Slot} {span : Span} {part : List Token}
    (hslot : results.slot? name = some slot) (hspan : slot.spans.getLast? = some span)
    (hpart : span.slice? results.tokens = some part) :
    results.results? name = some (inside part) := by
  rw [results?, hslot, Option.bind_some, hspan, Option.bind_some, hpart, Option.map_some]
  rfl

/-- Where no match under a name had tokens, the name is absent. -/
theorem tells_nil (hslots : slotsOf name results.names = []) :
    results.Tells name accumulate [] := by
  have hslot : results.slot? name = none := by
    rw [slot?_eq_head?, hslots]
    rfl
  have habsent (last : List Token) : last ∉ ([] : List (List Token)).getLast? :=
    Option.not_mem_none last
  refine ⟨fun _ ↦ ⟨containsName_eq_false_iff.mpr hslots, by rw [get?, hslot]; rfl⟩, ?_, ?_, ?_⟩
  all_goals exact fun last hlast ↦ absurd hlast (habsent last)

/-- What matches under a name collect is what is told of it. -/
theorem Collects.tells (hcollects : Collects name accumulate parts results) :
    results.Tells name accumulate (toldOf parts) := by
  obtain ⟨spans, hslots, hkept⟩ := hcollects.slots
  by_cases hnone : toldOf parts = []
  · rw [hnone, keptOf_eq_nil_iff.mpr rfl] at hkept
    obtain rfl := List.map_eq_nil_iff.mp hkept
    exact hnone ▸ tells_nil hslots
  · have hspans : spans ≠ [] := by
      rintro rfl
      exact hnone (keptOf_eq_nil_iff.mp (List.map_eq_nil_iff.mp hkept.symm))
    have hslot : results.slot? name = some ⟨name, spans, accumulate⟩ := by
      rw [slot?_eq_head?, hslots, slotsFor, if_neg hspans]
      rfl
    have hrange (last : List Token) (hlast : last ∈ (toldOf parts).getLast?) :
        ∃ span, spans.getLast? = some span ∧ span.slice? results.tokens = some last := by
      have hsame := congrArg List.getLast? hkept
      rw [List.getLast?_map, List.getLast?_map, getLast?_keptOf, Option.mem_def.mp hlast] at hsame
      exact Option.map_eq_some_iff.mp hsame
    refine ⟨fun hnil ↦ absurd hnil hnone, fun last hlast ↦ ?_, fun last hlast ↦
      ?_, fun last hlast ↦ ?_⟩
    all_goals obtain ⟨span, hspan, hpart⟩ := hrange last hlast
    · rw [get?, hslot, Option.bind_some]
      cases accumulate with
      | true => exact congrArg (fun values ↦ some (Value.list values)) (map_spanValue hkept)
      | false =>
        change spans.getLast?.map results.spanValue = some (valueOf last)
        rw [hspan, Option.map_some, spanValue_of_slice? hpart]
    · have hsome : last ≠ [] := by
        have hmem := (List.mem_filter.mp (List.mem_of_getLast? (Option.mem_def.mp hlast))).2
        exact of_decide_eq_true hmem
      rw [token?, hslot, Option.bind_some, hspan, Option.bind_some]
      exact Span.getElem?_start hpart hsome
    · exact results?_of_slice? hslot hspan hpart

end Results

end Packrat
