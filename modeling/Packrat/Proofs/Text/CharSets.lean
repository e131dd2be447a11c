import Mathlib.Data.Char
import Mathlib.Data.List.TakeWhile
import Mathlib.Data.Set.Lattice
import Mathlib.Order.Bounds.Defs
import Mathlib.Order.Interval.Set.Basic
import Packrat.Text.CharSet

/-!
# What sets of characters hold

A set of characters keeps its members in two places: one bit for each ASCII character, and ranges
for the characters beyond. `CharSet.members` sees through that. Each operation does to the members
what it is named for (`CharSet.members_insertRange`, `CharSet.members_union`); only
`CharSet.without` is a difference in part, as it leaves the characters beyond ASCII alone
(`CharSet.members_without`). The ranges that are kept begin beyond ASCII and are not inverted
(`CharSet.WellFormed`), and so a set that keeps anything has a member
(`CharSet.WellFormed.isEmpty_iff`). What is measured at the head of a text is the longest run of
members there (`CharSet.isGreatest_span`).

All together they tell the answers of any set that is made by these operations
(`CharSet.Recipe.answers_build`).
-/

set_option autoImplicit false
set_option relaxedAutoImplicit false

namespace Packrat.CharSet

variable {set other : CharSet} {first last c : Char} {high index : Nat}

/-! ### Bits -/

/-- The bits that are set are those of the codes of the range. The induction is on the bits left. -/
theorem getLsbD_mark (hindex : index < 128) (left : Nat) : ∀ (code : Nat) (bits : BitVec 128),
    (mark high left code bits).1.getLsbD index = true ↔
      bits.getLsbD index = true ∨ code ≤ index ∧ index < code + left ∧ index ≤ high := by
  induction left with
  | zero =>
    intro code bits
    exact (or_iff_left fun ⟨hle, hlt, _⟩ ↦ absurd hle (Nat.not_le_of_lt hlt)).symm
  | succ left ih =>
    intro code bits
    rw [mark]
    split_ifs with hcode
    · rw [ih, BitVec.getLsbD_or, BitVec.getLsbD_twoPow, Bool.or_eq_true, Bool.and_eq_true,
        decide_eq_true_iff, decide_eq_true_iff, or_assoc]
      refine or_congr_right ?_
      omega
    · exact (or_iff_left fun ⟨hle, _, hhigh⟩ ↦ hcode (hle.trans hhigh)).symm

/-- If the range goes on beyond the bits left, all of these are set. -/
theorem snd_mark (left : Nat) : ∀ (code : Nat) (bits : BitVec 128), code + left ≤ high + 1 →
    (mark high left code bits).2 = code + left := by
  induction left with
  | zero => exact fun _ _ _ ↦ rfl
  | succ left ih =>
    intro code bits hroom
    have hcode : code ≤ high := by omega
    rw [mark, if_pos hcode, ih (code + 1) _ (by omega)]
    omega

/-! ### Members -/

def members (set : CharSet) : Set Char := {c | set.contains c = true}

theorem mem_members : c ∈ set.members ↔ set.contains c = true := Iff.rfl

theorem mem_members_of_lt (hc : c.toNat < 128) :
    c ∈ set.members ↔ set.ascii.getLsbD c.toNat = true := by
  rw [mem_members, contains, if_pos hc]

theorem mem_members_of_le (hc : 128 ≤ c.toNat) :
    c ∈ set.members ↔ ∃ range ∈ set.ranges, c ∈ Set.Icc range.1 range.2 := by
  rw [mem_members, contains, if_neg (by omega), List.any_eq_true]
  refine exists_congr fun range ↦ and_congr_right fun _ ↦ ?_
  rw [Bool.and_eq_true, decide_eq_true_iff, decide_eq_true_iff]
  exact Iff.rfl

theorem members_empty : empty.members = ∅ := by
  refine Set.eq_empty_of_forall_notMem fun c hc ↦ ?_
  rcases Nat.lt_or_ge c.toNat 128 with hascii | hbeyond
  · exact Bool.false_ne_true (BitVec.getLsbD_zero.symm.trans ((mem_members_of_lt hascii).mp hc))
  · obtain ⟨range, hrange, -⟩ := (mem_members_of_le hbeyond).mp hc
    cases hrange

/-- Where the part of a range beyond ASCII begins. -/
def firstBeyond (first : Char) : Char := if first.toNat < 128 then '\x80' else first

theorem le_firstBeyond (first : Char) : 128 ≤ (firstBeyond first).toNat := by
  rw [firstBeyond]
  split_ifs with hfirst
  · exact le_rfl
  · exact not_lt.mp hfirst

theorem firstBeyond_le_iff (hc : 128 ≤ c.toNat) : firstBeyond first ≤ c ↔ first ≤ c := by
  rw [firstBeyond]
  split_ifs with hfirst
  · exact iff_of_true hc (hfirst.le.trans hc)
  · exact Iff.rfl

theorem insertRange_of_lt (set : CharSet) (hinverted : last < first) :
    set.insertRange first last = set :=
  if_pos hinverted

theorem insertRange_of_le (set : CharSet) (hordered : first ≤ last) :
    set.insertRange first last =
      ⟨(mark last.toNat (128 - first.toNat) first.toNat set.ascii).1,
        if 128 ≤ last.toNat then set.ranges ++ [(firstBeyond first, last)] else set.ranges⟩ := by
  rw [insertRange, if_neg (show ¬first.toNat > last.toNat from not_lt.mpr hordered)]
  refine congrArg (CharSet.mk _) (ite_congr rfl (fun hlast ↦ ?_) fun _ ↦ rfl)
  have hstop : (mark last.toNat (128 - first.toNat) first.toNat set.ascii).2 =
      first.toNat + (128 - first.toNat) := snd_mark _ _ _ (by
    have hle : first.toNat ≤ last.toNat := hordered
    omega)
  rw [hstop, firstBeyond]
  split_ifs with hvalid hfirst hfirst
  · rw [show max (first.toNat + (128 - first.toNat)) 128 = 128 by omega]
  · rw [show max (first.toNat + (128 - first.toNat)) 128 = first.toNat by omega,
      Char.ofNat_toNat]
  · rw [show max (first.toNat + (128 - first.toNat)) 128 = 128 by omega] at hvalid
    exact absurd (by decide) hvalid
  · rfl

/-- A range adds the characters in it, an inverted one nothing. -/
theorem members_insertRange (set : CharSet) (first last : Char) :
    (set.insertRange first last).members = set.members ∪ Set.Icc first last := by
  rcases lt_or_ge last first with hinverted | hordered
  · rw [insertRange_of_lt set hinverted, Set.Icc_eq_empty (not_le.mpr hinverted), Set.union_empty]
  rw [insertRange_of_le set hordered]
  ext c
  rw [Set.mem_union]
  rcases Nat.lt_or_ge c.toNat 128 with hascii | hbeyond
  · rw [mem_members_of_lt hascii, mem_members_of_lt hascii, getLsbD_mark hascii, Set.mem_Icc]
    have hfirst : first ≤ c ↔ first.toNat ≤ c.toNat := Iff.rfl
    have hlast : c ≤ last ↔ c.toNat ≤ last.toNat := Iff.rfl
    rw [hfirst, hlast]
    refine or_congr_right ?_
    omega
  · rw [mem_members_of_le hbeyond, mem_members_of_le hbeyond]
    split_ifs with hlast
    · simp only [List.mem_append, List.mem_singleton, or_and_right, exists_or,
        exists_eq_left, Set.mem_Icc, firstBeyond_le_iff hbeyond]
    · exact (or_iff_left fun hrange ↦ hlast (hbeyond.le.trans hrange.2)).symm

theorem members_insert (set : CharSet) (c : Char) : (set.insert c).members = set.members ∪ {c} := by
  rw [insert, members_insertRange, Set.Icc_self]

theorem members_union (set other : CharSet) :
    (set.union other).members = set.members ∪ other.members := by
  ext c
  rw [Set.mem_union]
  rcases Nat.lt_or_ge c.toNat 128 with hascii | hbeyond
  · rw [mem_members_of_lt hascii, mem_members_of_lt hascii, mem_members_of_lt hascii,
      union, BitVec.getLsbD_or, Bool.or_eq_true]
  · simp only [mem_members_of_le hbeyond, union, List.mem_append, or_and_right, exists_or]

/-- Only ASCII characters are taken away. -/
theorem members_without (set other : CharSet) :
    (set.without other).members = set.members \ {c ∈ other.members | c.toNat < 128} := by
  ext c
  rw [Set.mem_sdiff, Set.mem_sep_iff]
  rcases Nat.lt_or_ge c.toNat 128 with hascii | hbeyond
  · rw [mem_members_of_lt hascii, mem_members_of_lt hascii, mem_members_of_lt hascii,
      without, BitVec.getLsbD_and, BitVec.getLsbD_not, Bool.and_eq_true, and_iff_left hascii]
    simp only [hascii, decide_true, Bool.true_and, Bool.not_eq_true', Bool.not_eq_true]
  · have hkept : c ∈ (set.without other).members ↔ c ∈ set.members := by
      rw [mem_members_of_le hbeyond, mem_members_of_le hbeyond, without]
    rw [hkept]
    exact (and_iff_left fun hother ↦ absurd hother.2 (by omega)).symm

example : ((ofRanges [('a', 'é')]).without (ofRanges [('a', 'é')])).contains 'é' = true := by decide

theorem members_ofRanges (ranges : List (Char × Char)) :
    (ofRanges ranges).members = ⋃ range ∈ ranges, Set.Icc range.1 range.2 := by
  suffices hrun : ∀ set : CharSet,
      (ranges.foldl (fun set range ↦ set.insertRange range.1 range.2) set).members =
        set.members ∪ ⋃ range ∈ ranges, Set.Icc range.1 range.2 by
    rw [ofRanges, hrun, members_empty, Set.empty_union]
  induction ranges with
  | nil =>
    simp only [List.foldl_nil, List.not_mem_nil, Set.iUnion_of_empty, Set.iUnion_empty,
      Set.union_empty, implies_true]
  | cons range rest ih =>
    intro set
    rw [List.foldl_cons, ih, members_insertRange, Set.union_assoc]
    simp only [List.mem_cons, Set.iUnion_iUnion_eq_or_left]

theorem ofChars_eq (chars : List Char) : ofChars chars = ofRanges (chars.map fun c ↦ (c, c)) := by
  rw [ofChars, ofRanges, List.foldl_map]
  rfl

theorem members_ofChars (chars : List Char) : (ofChars chars).members = {c | c ∈ chars} := by
  rw [ofChars_eq, members_ofRanges]
  ext c
  simp only [Set.mem_iUnion, List.mem_map, exists_prop, exists_exists_and_eq_and, Set.Icc_self,
    Set.mem_singleton_iff, exists_eq_right', Set.mem_ofPred_eq]

/-! ### Sets without members -/

/-- The ranges that are kept lie beyond ASCII, and none is inverted. -/
def WellFormed (set : CharSet) :
    Prop := ∀ range ∈ set.ranges, 128 ≤ range.1.toNat ∧ range.1 ≤ range.2

theorem wellFormed_empty : empty.WellFormed := fun _ hrange ↦ nomatch hrange

theorem toNat_ofNat (hindex : index < 128) : (Char.ofNat index).toNat = index := by
  rw [Char.ofNat, dif_pos (Or.inl (by omega))]
  rfl

namespace WellFormed

theorem insertRange (hset : set.WellFormed) (first last : Char) :
    (set.insertRange first last).WellFormed := by
  rcases lt_or_ge last first with hinverted | hordered
  · rwa [insertRange_of_lt set hinverted]
  rw [insertRange_of_le set hordered]
  intro range hrange
  split_ifs at hrange with hlast
  · rcases List.mem_append.mp hrange with hkept | hadded
    · exact hset range hkept
    · obtain rfl := List.mem_singleton.mp hadded
      exact ⟨le_firstBeyond first, (firstBeyond_le_iff hlast).mpr hordered⟩
  · exact hset range hrange

theorem union (hset : set.WellFormed) (hother : other.WellFormed) : (set.union other).WellFormed :=
  fun range hrange ↦ (List.mem_append.mp hrange).elim (hset range) (hother range)

theorem without (hset : set.WellFormed) (other : CharSet) : (set.without other).WellFormed := hset

/-- A set that keeps a bit or a range has a member. -/
theorem isEmpty_iff (hset : set.WellFormed) : set.isEmpty = true ↔ set.members = ∅ := by
  rw [isEmpty, Bool.and_eq_true, beq_iff_eq, List.isEmpty_iff]
  constructor
  · intro ⟨hascii, hranges⟩
    have hempty : set = empty := by
      cases set
      exact congr (congrArg CharSet.mk hascii) hranges
    rw [hempty, members_empty]
  · intro hmembers
    constructor
    · refine BitVec.eq_of_getLsbD_eq fun index hindex ↦ ?_
      have hcode : (Char.ofNat index).toNat = index := toNat_ofNat hindex
      have hmem : Char.ofNat index ∉ set.members := hmembers ▸ Set.notMem_empty _
      rw [mem_members_of_lt (hcode.trans_lt hindex), hcode, Bool.not_eq_true] at hmem
      rw [hmem]
      exact BitVec.getLsbD_zero.symm
    · refine List.eq_nil_iff_forall_not_mem.mpr fun range hrange ↦ ?_
      obtain ⟨hbeyond, hordered⟩ := hset range hrange
      have hmem : range.1 ∈ set.members :=
        (mem_members_of_le hbeyond).mpr ⟨range, hrange, le_rfl, hordered⟩
      exact Set.notMem_empty _ (hmembers ▸ hmem)

end WellFormed

theorem wellFormed_ofRanges (ranges : List (Char × Char)) : (ofRanges ranges).WellFormed :=
  List.foldlRecOn ranges _ wellFormed_empty fun _ hset range _ ↦ hset.insertRange range.1 range.2

theorem wellFormed_ofChars (chars : List Char) : (ofChars chars).WellFormed :=
  ofChars_eq chars ▸ wellFormed_ofRanges _

/-! ### Runs of members -/

/-- The span is the greatest length of a run of members at the head of a text. -/
theorem isGreatest_span (set : CharSet) (chars : List Char) :
    IsGreatest {length | ∃ run, run <+: chars ∧ (∀ c ∈ run, c ∈ set.members) ∧
      byteLength run = length} (set.span chars) := by
  refine ⟨⟨_, List.takeWhile_prefix _, fun c ↦ List.mem_takeWhile_imp, rfl⟩, ?_⟩
  rintro _ ⟨run, ⟨more, rfl⟩, hrun, rfl⟩
  rw [span, List.takeWhile_append_of_pos hrun, byteLength_append]
  exact Nat.le_add_right _ _

/-! ### Ways to make a set -/

/-- A way to make a set of characters. -/
inductive Recipe where
  /-- The characters of a string. -/
  | ofString (s : String)
  /-- The characters of inclusive ranges. -/
  | ofRanges (ranges : List (Char × Char))
  /-- One more character. -/
  | insert (recipe : Recipe) (c : Char)
  /-- The characters of one more inclusive range. -/
  | insertRange (recipe : Recipe) (first last : Char)
  /-- The characters of either. -/
  | union (recipe other : Recipe)
  /-- The characters of the first but for the ASCII characters of the second. -/
  | without (recipe other : Recipe)

namespace Recipe

def build : Recipe → CharSet
  | ofString s => CharSet.ofString s
  | ofRanges ranges => CharSet.ofRanges ranges
  | insert recipe c => recipe.build.insert c
  | insertRange recipe first last => recipe.build.insertRange first last
  | union recipe other => recipe.build.union other.build
  | without recipe other => recipe.build.without other.build

def chars : Recipe → Set Char
  | ofString s => {c | c ∈ s.toList}
  | ofRanges ranges => ⋃ range ∈ ranges, Set.Icc range.1 range.2
  | insert recipe c => recipe.chars ∪ {c}
  | insertRange recipe first last => recipe.chars ∪ Set.Icc first last
  | union recipe other => recipe.chars ∪ other.chars
  | without recipe other => recipe.chars \ {c ∈ other.chars | c.toNat < 128}

theorem members_build (recipe : Recipe) : recipe.build.members = recipe.chars := by
  induction recipe with
  | ofString s => exact members_ofChars s.toList
  | ofRanges ranges => exact members_ofRanges ranges
  | insert recipe c ih => rw [build, members_insert, ih, chars]
  | insertRange recipe first last ih => rw [build, members_insertRange, ih, chars]
  | union recipe other ih ihOther => rw [build, members_union, ih, ihOther, chars]
  | without recipe other ih ihOther => rw [build, members_without, ih, ihOther, chars]

theorem wellFormed_build (recipe : Recipe) : recipe.build.WellFormed := by
  induction recipe with
  | ofString s => exact wellFormed_ofChars s.toList
  | ofRanges ranges => exact wellFormed_ofRanges ranges
  | insert recipe c ih => exact ih.insertRange c c
  | insertRange recipe first last ih => exact ih.insertRange first last
  | union recipe other ih ihOther => exact ih.union ihOther
  | without recipe other ih ihOther => exact ih.without other.build

/-- A set contains the characters that were asked for and no others, it is empty just when it
contains none, and its span is the length of the longest run of them at the head of a text. -/
theorem answers_build (recipe : Recipe) :
    (∀ c, recipe.build.contains c = true ↔ c ∈ recipe.chars) ∧
      (recipe.build.isEmpty = true ↔ ∀ c, recipe.build.contains c = false) ∧
      ∀ text, IsGreatest
        {length | ∃ run, run <+: text ∧ (∀ c ∈ run, c ∈ recipe.chars) ∧ byteLength run = length}
        (recipe.build.span text) := by
  refine ⟨fun c ↦ ?_, ?_, fun text ↦ ?_⟩
  · rw [← members_build, mem_members]
  · rw [recipe.wellFormed_build.isEmpty_iff, Set.eq_empty_iff_forall_notMem]
    simp only [mem_members, Bool.not_eq_true]
  · rw [← members_build]
    exact isGreatest_span recipe.build text

end Recipe

end Packrat.CharSet
