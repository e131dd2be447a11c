import Mathlib.Data.List.Nodup
import Mathlib.Tactic.SplitIfs
import Packrat.Results.Basic

/-!
# Names over tokens

Names are views on ranges of tokens, and a range is no more than two numbers. What keeps the views
right is an invariant (`NamesFit`): names are distinct, each has ranges, a plain one exactly one,
and every range holds a token and ends within the tokens. Results are sound if this is so for them
and for all groups inside (`Results.Sound`), and every operation on results keeps them sound. In
sound results the views of a name agree, and no range is ever replaced by an empty one
(`Results.Sound.readable`).

`Results.Built` says that results were made by the operations alone; such results are sound
(`Results.Built.sound`).
-/

set_option autoImplicit false
set_option relaxedAutoImplicit false

namespace Packrat

/-! ### The invariant -/

/-- The ranges of a name fit a number of tokens. -/
structure Slot.Fits (slot : Slot) (count : Nat) : Prop where
  /-- There are some. -/
  nonempty : slot.spans ≠ []
  /-- There is one for a plain name. -/
  single : slot.accumulate = false → ∃ span, slot.spans = [span]
  /-- Each of them holds a token and ends within the tokens. -/
  spans : ∀ span ∈ slot.spans, span.start < span.stop ∧ span.stop ≤ count

/-- Names are distinct, and the ranges of each fit a number of tokens. -/
structure NamesFit (names : List Slot) (count : Nat) : Prop where
  /-- No name is recorded twice. -/
  nodup : (names.map Slot.name).Nodup
  /-- The ranges fit. -/
  fits : ∀ slot ∈ names, slot.Fits count

variable {slot : Slot} {names : List Slot} {count more : Nat}

/-- Ranges that fit still do when there are more tokens. -/
theorem Slot.Fits.mono (hfits : slot.Fits count) (hle : count ≤ more) : slot.Fits more := by
  refine ⟨hfits.nonempty, hfits.single, fun span hspan ↦ ?_⟩
  obtain ⟨hholds, hends⟩ := hfits.spans span hspan
  exact ⟨hholds, Nat.le_trans hends hle⟩

/-- Ranges that are moved fit when as many tokens are put in front. -/
theorem Slot.Fits.shift (hfits : slot.Fits count) (distance : Nat) :
    (Results.shiftSlot distance slot).Fits (distance + count) := by
  constructor
  · simpa [Results.shiftSlot] using hfits.nonempty
  · intro hplain
    obtain ⟨span, hspan⟩ := hfits.single hplain
    exact ⟨span.shift distance, by rw [Results.shiftSlot, hspan]; rfl⟩
  · intro span hspan
    obtain ⟨held, hheld, rfl⟩ := List.mem_map.mp hspan
    obtain ⟨hholds, hends⟩ := hfits.spans held hheld
    simp only [Span.shift]
    omega

/-- The ranges of a name that is recorded once more fit: a plain name has the new one, a list name
has all. -/
theorem fits_mergeSlot (hslot : slot.Fits count) (hnames : ∀ held ∈ names, held.Fits count) :
    ∀ held ∈ Results.mergeSlot slot names, held.Fits count := by
  induction names with
  | nil =>
    intro held hheld
    rw [List.mem_singleton.mp hheld]
    exact hslot
  | cons first rest ih =>
    obtain ⟨hfirst, hrest⟩ := List.forall_mem_cons.mp hnames
    unfold Results.mergeSlot
    split_ifs with hsame hlist
    · refine List.forall_mem_cons.mpr ⟨⟨?_, fun hplain ↦ (nomatch hplain), fun span hspan ↦ ?_⟩,
        hrest⟩
      · exact List.append_ne_nil_of_left_ne_nil hfirst.nonempty _
      · exact (List.mem_append.mp hspan).elim (hfirst.spans span) (hslot.spans span)
    · have hplain : slot.accumulate = false := by
        simp only [Bool.or_eq_true, not_or, Bool.not_eq_true] at hlist
        exact hlist.2
      exact List.forall_mem_cons.mpr
        ⟨⟨hslot.nonempty, fun _ ↦ hslot.single hplain, hslot.spans⟩, hrest⟩
    · exact List.forall_mem_cons.mpr ⟨hfirst, ih hrest⟩

/-- A name that is recorded once more stays where it is; a new one is added at the end. -/
theorem map_name_mergeSlot (slot : Slot) (names : List Slot) :
    (Results.mergeSlot slot names).map Slot.name =
      if slot.name ∈ names.map Slot.name then names.map Slot.name
      else names.map Slot.name ++ [slot.name] := by
  induction names with
  | nil => rfl
  | cons first rest ih =>
    unfold Results.mergeSlot
    by_cases hsame : first.name = slot.name
    · have hmem : slot.name ∈ (first :: rest).map Slot.name :=
        List.mem_map.mpr ⟨first, List.mem_cons_self, hsame⟩
      rw [if_pos hsame, if_pos hmem]
      split_ifs
      · rfl
      · rfl
    · have hmem : slot.name ∈ (first :: rest).map Slot.name ↔ slot.name ∈ rest.map Slot.name := by
        simp [Ne.symm hsame]
      rw [if_neg hsame, List.map_cons, ih]
      simp only [hmem]
      split_ifs
      · rfl
      · rfl

/-- Recording a name once more keeps names distinct. -/
theorem nodup_mergeSlot (hnames : (names.map Slot.name).Nodup) (slot : Slot) :
    ((Results.mergeSlot slot names).map Slot.name).Nodup := by
  rw [map_name_mergeSlot]
  split_ifs with hrecorded
  · exact hnames
  · exact List.nodup_append.mpr ⟨hnames, List.nodup_singleton _, fun name hname other hother ↦ by
      rw [List.mem_singleton.mp hother]
      exact fun heq ↦ hrecorded (heq ▸ hname)⟩

/-- Recording a name once more keeps the invariant. -/
theorem NamesFit.mergeSlot (hnames : NamesFit names count) (hslot : slot.Fits count) :
    NamesFit (Results.mergeSlot slot names) count :=
  ⟨nodup_mergeSlot hnames.nodup slot, fits_mergeSlot hslot hnames.fits⟩

/-- Recording several names keeps the invariant. -/
theorem NamesFit.foldl_mergeSlot {others : List Slot} :
    ∀ {names : List Slot}, NamesFit names count → (∀ slot ∈ others, slot.Fits count) →
      NamesFit (others.foldl (fun names slot ↦ Results.mergeSlot slot names) names) count := by
  induction others with
  | nil => exact fun hnames _ ↦ hnames
  | cons first rest ih =>
    intro names hnames hothers
    obtain ⟨hfirst, hrest⟩ := List.forall_mem_cons.mp hothers
    exact ih (hnames.mergeSlot hfirst) hrest

/-! ### Sound results -/

/-- The names of all groups in a token fit. -/
inductive Token.Sound : Token → Prop where
  /-- There are none in a scalar. -/
  | scalar {token : Token} (hscalar : Results.ofGroup? token = none) : token.Sound
  /-- They fit in a group if its own do and those of its tokens. -/
  | group {tokens : List Token} {names : List Slot} (hnames : NamesFit names tokens.length)
    (htokens : ∀ token ∈ tokens, token.Sound) : (Token.group tokens names).Sound

/-- The names of results fit, and so do those of all groups inside. -/
structure Results.Sound (results : Results) : Prop where
  /-- The names fit. -/
  names : NamesFit results.names results.tokens.length
  /-- The tokens are sound. -/
  tokens : ∀ token ∈ results.tokens, token.Sound

namespace Results

variable {results other : Results} {token : Token} {tokens : List Token} {name : String}

/-- Tokens without names are sound if each of them is. -/
theorem sound_ofTokens (htokens : ∀ token ∈ tokens, token.Sound) : (ofTokens tokens).Sound :=
  ⟨⟨List.nodup_nil, fun _ hslot ↦ nomatch hslot⟩, htokens⟩

/-- Naming results keeps names distinct: a name of the same spelling is replaced. -/
theorem nodup_setName (hnames : (results.names.map Slot.name).Nodup)
    (name : String) (accumulate : Bool) :
    ((results.setName name accumulate).names.map Slot.name).Nodup := by
  unfold Results.setName
  split_ifs
  · exact hnames
  · have hothers : ((results.names.filter (·.name ≠ name)).map Slot.name).Nodup :=
      hnames.sublist (List.filter_sublist.map _)
    rw [List.map_append]
    refine List.nodup_append.mpr ⟨hothers, List.nodup_singleton _, fun first hfirst last hlast ↦ ?_⟩
    obtain ⟨held, hheld, rfl⟩ := List.mem_map.mp hfirst
    rw [List.mem_singleton.mp hlast]
    exact of_decide_eq_true (List.mem_filter.mp hheld).2

namespace Sound

theorem push (hsound : results.Sound) (htoken : token.Sound) : (results.push token).Sound := by
  have hlonger : results.tokens.length ≤ (results.push token).tokens.length := by
    simp [Results.push]
  refine ⟨⟨hsound.names.nodup, fun slot hslot ↦ (hsound.names.fits slot hslot).mono hlonger⟩, ?_⟩
  intro one hone
  rcases List.mem_append.mp hone with hbefore | hlast
  · exact hsound.tokens one hbefore
  · rw [List.mem_singleton.mp hlast]
    exact htoken

/-- One results after others are sound if both are: the ranges of the second are moved. -/
theorem extend (hsound : results.Sound) (hother : other.Sound) : (results.extend other).Sound := by
  have hcount : (results.extend other).tokens.length =
      results.tokens.length + other.tokens.length := List.length_append
  constructor
  · rw [hcount]
    refine NamesFit.foldl_mergeSlot ⟨hsound.names.nodup, fun slot hslot ↦ ?_⟩ fun slot hslot ↦ ?_
    · exact (hsound.names.fits slot hslot).mono (Nat.le_add_right _ _)
    · obtain ⟨held, hheld, rfl⟩ := List.mem_map.mp hslot
      exact (hother.names.fits held hheld).shift _
  · exact fun token htoken ↦
      (List.mem_append.mp htoken).elim (hsound.tokens token) (hother.tokens token)

/-- Naming results keeps them sound: those without tokens are not named. -/
theorem setName (hsound : results.Sound) (name : String) (accumulate : Bool) :
    (results.setName name accumulate).Sound := by
  have hnodup := nodup_setName hsound.names.nodup name accumulate
  unfold Results.setName at hnodup ⊢
  by_cases hempty : results.tokens.isEmpty = true
  · rw [if_pos hempty]
    exact hsound
  rw [if_neg hempty] at hnodup ⊢
  have hpositive : 0 < results.tokens.length := by
    rw [List.length_pos_iff]
    exact fun hnil ↦ hempty (by rw [hnil]; rfl)
  refine ⟨⟨hnodup, fun slot hslot ↦ ?_⟩, hsound.tokens⟩
  rcases List.mem_append.mp hslot with hheld | hnew
  · exact hsound.names.fits slot (List.mem_filter.mp hheld).1
  · rw [List.mem_singleton.mp hnew]
    refine ⟨List.cons_ne_nil _ _, fun _ ↦ ⟨_, rfl⟩, fun span hspan ↦ ?_⟩
    rw [List.mem_singleton.mp hspan]
    exact ⟨hpositive, Nat.le_refl _⟩

theorem clearNames (hsound : results.Sound) : results.clearNames.Sound :=
  sound_ofTokens hsound.tokens

/-- Results nested in a token make a sound token. -/
theorem toGroup (hsound : results.Sound) : results.toGroup.Sound :=
  .group hsound.names hsound.tokens

end Sound

/-- The results nested in a sound token are sound. -/
theorem sound_of_group {names : List Slot} (hsound : (Token.group tokens names).Sound) :
    Results.Sound ⟨tokens, names⟩ := by
  match hsound with
  | .scalar hscalar => exact nomatch hscalar
  | .group hnames htokens => exact ⟨hnames, htokens⟩

theorem mem_of_slice? {α : Type} {span : Span} {items part : List α}
    (hpart : span.slice? items = some part) {item : α} (hitem : item ∈ part) : item ∈ items := by
  unfold Span.slice? at hpart
  split at hpart
  · obtain rfl := Option.some.inj hpart
    exact List.mem_of_mem_drop (List.mem_of_mem_take hitem)
  · exact nomatch hpart

/-- The results under a name of sound results are sound. -/
theorem Sound.results? (hsound : results.Sound) (hresults : results.results? name = some other) :
    other.Sound := by
  obtain ⟨slot, -, hslot⟩ := Option.bind_eq_some_iff.mp hresults
  obtain ⟨span, -, hspan⟩ := Option.bind_eq_some_iff.mp hslot
  obtain ⟨part, hpart, rfl⟩ := Option.map_eq_some_iff.mp hspan
  have hsounds (token : Token) (htoken : token ∈ part) : token.Sound :=
    hsound.tokens token (mem_of_slice? hpart htoken)
  split
  · exact sound_of_group (hsounds _ (List.mem_singleton_self _))
  · exact sound_ofTokens hsounds

end Results

/-! ### Views of names -/

/-- A range that holds a token and ends within some elements has some of them. -/
theorem exists_slice {α : Type} {span : Span} {items : List α} (hholds : span.start < span.stop)
    (hends : span.stop ≤ items.length) : ∃ part, span.slice? items = some part ∧ part ≠ [] := by
  refine ⟨(items.drop span.start).take (span.stop - span.start), ?_, ?_⟩
  · rw [Span.slice?, if_pos ⟨Nat.le_of_lt hholds, hends⟩]
  · rw [← List.length_pos_iff, List.length_take, List.length_drop]
    omega

/-- A list that is not empty has a last element. -/
theorem exists_getLast? {α : Type} {items : List α} (hitems : items ≠ []) :
    ∃ last ∈ items, items.getLast? = some last :=
  ⟨items.getLast hitems, List.getLast_mem hitems, List.getLast?_eq_some_getLast hitems⟩

/-- The keys after an entry is put in are the key of that entry and those before. -/
theorem mem_keys_insertEntry {key other : String} {value : Value}
    {entries : List (String × Value)} :
    key ∈ (Value.insertEntry other value entries).map Prod.fst ↔
      key = other ∨ key ∈ entries.map Prod.fst := by
  induction entries with
  | nil => simp [Value.insertEntry]
  | cons entry rest ih =>
    obtain ⟨held, given⟩ := entry
    unfold Value.insertEntry
    split_ifs with hsame hbefore
    · simp [hsame]
    · simp
    · simp only [List.map_cons, List.mem_cons, ih]
      exact or_left_comm

/-- The keys of a dictionary are those of the entries of which it is made. -/
theorem mem_keys_dictOf {key : String} {entries : List (String × Value)} :
    key ∈ (Value.dictOf entries).map Prod.fst ↔ key ∈ entries.map Prod.fst := by
  suffices hfold : ∀ sorted : List (String × Value),
      key ∈ (entries.foldl (fun sorted entry ↦ Value.insertEntry entry.1 entry.2 sorted) sorted).map
        Prod.fst ↔ key ∈ entries.map Prod.fst ∨ key ∈ sorted.map Prod.fst by
    rw [Value.dictOf, hfold []]
    simp
  induction entries with
  | nil => simp
  | cons entry rest ih =>
    intro sorted
    rw [List.foldl_cons, ih, mem_keys_insertEntry, List.map_cons, List.mem_cons]
    exact ⟨fun h ↦ by tauto, fun h ↦ by tauto⟩

/-- The dictionary values of tokens are as many as the tokens. -/
theorem length_dictValues (tokens : List Token) :
    (Results.dictValues tokens).length = tokens.length := by
  induction tokens with
  | nil => rfl
  | cons token rest ih => rw [Results.dictValues, List.length_cons, List.length_cons, ih]

/-- Entries that are made of slots have the names of the slots as keys, if each slot gives one. -/
theorem map_fst_filterMap {slots : List Slot} {entry : Slot → Option (String × Value)}
    (hentry : ∀ slot ∈ slots, (entry slot).map Prod.fst = some slot.name) :
    (slots.filterMap entry).map Prod.fst = slots.map Slot.name := by
  induction slots with
  | nil => rfl
  | cons first rest ih =>
    obtain ⟨hfirst, hrest⟩ := List.forall_mem_cons.mp hentry
    obtain ⟨given, hgiven, hname⟩ := Option.map_eq_some_iff.mp hfirst
    rw [List.filterMap_cons_some hgiven, List.map_cons, List.map_cons, ih hrest, hname]

namespace Results

/-- The five views of a name agree: all of them have it, or none. -/
structure ViewsAgree (results : Results) (name : String) : Prop where
  /-- The value. -/
  get : (results.get? name).isSome = results.containsName name
  /-- The first token. -/
  token : (results.token? name).isSome = results.containsName name
  /-- The results. -/
  inner : (results.results? name).isSome = results.containsName name
  /-- The entry of the dictionary. -/
  dict : name ∈ results.toDict.map Prod.fst ↔ results.containsName name = true

/-- The names of results can be read: they are distinct and fit the tokens, each range that is read
has tokens, and values in a dictionary, and the views of every name agree. -/
structure Readable (results : Results) : Prop where
  /-- The names fit. -/
  names : NamesFit results.names results.tokens.length
  /-- Every range has tokens. -/
  slices : ∀ slot ∈ results.names, ∀ span ∈ slot.spans,
    ∃ part, span.slice? results.tokens = some part ∧ part ≠ []
  /-- Every range has values in a dictionary. -/
  values : ∀ slot ∈ results.names, ∀ span ∈ slot.spans,
    ∃ part, span.slice? (dictValues results.tokens) = some part ∧ part ≠ []
  /-- The views agree. -/
  views : ∀ name, results.ViewsAgree name

variable {results : Results} {name : String}

theorem isSome_slot? (results : Results) (name : String) :
    (results.slot? name).isSome = results.containsName name := by
  rw [Bool.eq_iff_iff, slot?, containsName, List.find?_isSome, List.any_eq_true]

/-- The keys of a dictionary are the names, if all of them have ranges. -/
theorem mem_keys_toDict (hranges : ∀ slot ∈ results.names, slot.spans ≠ []) :
    name ∈ results.toDict.map Prod.fst ↔ results.containsName name = true := by
  rw [toDict, dictOfNames, mem_keys_dictOf, map_fst_filterMap]
  · simp [containsName]
  · intro slot hslot
    obtain ⟨span, -, hlast⟩ := exists_getLast? (hranges slot hslot)
    split_ifs
    · rfl
    · rw [hlast]
      rfl

theorem Sound.readable (hsound : results.Sound) : results.Readable := by
  have hfits := hsound.names.fits
  have hslices (slot : Slot) (hslot : slot ∈ results.names) (span : Span)
      (hspan : span ∈ slot.spans) :
      ∃ part, span.slice? results.tokens = some part ∧ part ≠ [] :=
    exists_slice ((hfits slot hslot).spans span hspan).1 ((hfits slot hslot).spans span hspan).2
  refine ⟨hsound.names, hslices, fun slot hslot span hspan ↦ ?_, fun name ↦ ?_⟩
  · obtain ⟨hholds, hends⟩ := (hfits slot hslot).spans span hspan
    exact exists_slice hholds (by rw [length_dictValues]; exact hends)
  have hdict : name ∈ results.toDict.map Prod.fst ↔ results.containsName name = true :=
    mem_keys_toDict fun slot hslot ↦ (hfits slot hslot).nonempty
  cases hslot? : results.slot? name with
  | none =>
    have hnone := results.isSome_slot? name
    rw [hslot?] at hnone
    exact ⟨by rw [get?, hslot?, ← hnone]; rfl, by rw [token?, hslot?, ← hnone]; rfl,
      by rw [Results.results?, hslot?, ← hnone]; rfl, hdict⟩
  | some slot =>
    have hsome := results.isSome_slot? name
    rw [hslot?] at hsome
    have hslot : slot ∈ results.names := List.mem_of_find?_eq_some hslot?
    obtain ⟨span, hspan, hlast⟩ := exists_getLast? (hfits slot hslot).nonempty
    obtain ⟨hholds, hends⟩ := (hfits slot hslot).spans span hspan
    obtain ⟨part, hpart, -⟩ := hslices slot hslot span hspan
    constructor
    case get =>
      rw [get?, hslot?, ← hsome, Option.bind_some]
      split_ifs
      · rfl
      · rw [hlast]
        rfl
    case token =>
      have hinside : span.start < results.tokens.length := Nat.lt_of_lt_of_le hholds hends
      rw [token?, hslot?, ← hsome, Option.bind_some, hlast, Option.bind_some,
        List.getElem?_eq_getElem hinside]
      rfl
    case inner =>
      rw [Results.results?, hslot?, ← hsome, Option.bind_some, hlast, Option.bind_some, hpart]
      rfl
    case dict => exact hdict

end Results

/-! ### Results made by the operations -/

mutual

/-- A token made by the operations: a scalar, results nested in a token, or a token of results. -/
inductive Token.Built : Token → Prop where
  /-- A scalar. -/
  | scalar {token : Token} (hscalar : Results.ofGroup? token = none) : token.Built
  /-- Results nested in a token. -/
  | toGroup {results : Results} (hresults : results.Built) : results.toGroup.Built
  /-- A token that is read from results. -/
  | mem {results : Results} {token : Token} (hresults : results.Built)
    (htoken : token ∈ results.tokens) : token.Built

/-- Results made by the operations. -/
inductive Results.Built : Results → Prop where
  /-- Results without tokens. -/
  | empty : Results.empty.Built
  /-- Results of one token. -/
  | ofToken {token : Token} (htoken : token.Built) : (Results.ofToken token).Built
  /-- Results of the given tokens. -/
  | ofTokens {tokens : List Token} (htokens : ∀ token ∈ tokens, token.Built) :
    (Results.ofTokens tokens).Built
  /-- One more token. -/
  | push {results : Results} {token : Token} (hresults : results.Built) (htoken : token.Built) :
    (results.push token).Built
  /-- Results after others. -/
  | extend {results other : Results} (hresults : results.Built) (hother : other.Built) :
    (results.extend other).Built
  /-- Results with a name. -/
  | setName {results : Results} (hresults : results.Built) (name : String) (accumulate : Bool) :
    (results.setName name accumulate).Built
  /-- Results without their names. -/
  | clearNames {results : Results} (hresults : results.Built) : results.clearNames.Built
  /-- The results under a name. -/
  | results? {results other : Results} {name : String} (hresults : results.Built)
    (hother : results.results? name = some other) : other.Built
  /-- The results nested in a token. -/
  | ofGroup? {results : Results} {token : Token} (htoken : token.Built)
    (hgroup : Results.ofGroup? token = some results) : results.Built

end

mutual

theorem Token.Built.sound {token : Token} : token.Built → token.Sound
  | .scalar hscalar => .scalar hscalar
  | .toGroup hresults => hresults.sound.toGroup
  | .mem hresults htoken => hresults.sound.tokens _ htoken

theorem Results.Built.sound {results : Results} : results.Built → results.Sound
  | .empty => Results.sound_ofTokens fun _ htoken ↦ nomatch htoken
  | .ofToken htoken => Results.sound_ofTokens fun one hone ↦
      List.mem_singleton.mp hone ▸ htoken.sound
  | .ofTokens htokens => Results.sound_ofTokens fun token htoken ↦ (htokens token htoken).sound
  | .push hresults htoken => hresults.sound.push htoken.sound
  | .extend hresults hother => hresults.sound.extend hother.sound
  | .setName hresults name accumulate => hresults.sound.setName name accumulate
  | .clearNames hresults => hresults.sound.clearNames
  | .results? hresults hother => hresults.sound.results? hother
  | .ofGroup? htoken hgroup => by
      have hsound := htoken.sound
      unfold Results.ofGroup? at hgroup
      split at hgroup
      · obtain rfl := Option.some.inj hgroup
        exact Results.sound_of_group hsound
      · exact nomatch hgroup

end

end Packrat
