import Mathlib.Order.Bounds.Basic
import Mathlib.Order.MinMax
import Packrat.Report.Suggestion

/-!
# Edits between names

An `Edit` inserts, deletes or replaces one character somewhere in a name, and `Edits` counts edits
that are made one after another. How many are needed can be told from the first characters of the
two names (`leastEdits`): some edits reach that number (`edits_leastEdits`), and as one edit changes
it by one at most (`Edit.leastEdits_le`), fewer never do (`Edits.leastEdits_le`).

The distance of two names is computed from their last characters instead. Entry by entry the row of
a beginning of the first name holds the least numbers of edits to the beginnings of the second, all
of them written backwards (`nextRow_eq`, `distanceRow_eq`). Edits can be read backwards, too
(`edits_reverse_iff`), so the entry at the end is the number in question. That edits can be undone
and put together makes it a metric (`editDistance_counts_edits`).
-/

set_option autoImplicit false
set_option relaxedAutoImplicit false

namespace Packrat

variable {first second third : List Char} {count more : Nat}

/-! ### Edits -/

/-- One name becomes another by an edit of a single character. -/
inductive Edit : List Char → List Char → Prop
  | insertion (before after : List Char) (c : Char) : Edit (before ++ after) (before ++ c :: after)
  | deletion (before after : List Char) (c : Char) : Edit (before ++ c :: after) (before ++ after)
  | substitution (before after : List Char) (c d : Char) :
      Edit (before ++ c :: after) (before ++ d :: after)

/-- One name becomes another by a number of edits. -/
inductive Edits : Nat → List Char → List Char → Prop
  | unchanged (name : List Char) : Edits 0 name name
  | next {count : Nat} {first second third : List Char} (hedit : Edit first second)
      (hedits : Edits count second third) : Edits (count + 1) first third

namespace Edit

theorem symm (hedit : Edit first second) : Edit second first := by
  cases hedit with
  | insertion before after c => exact deletion before after c
  | deletion before after c => exact insertion before after c
  | substitution before after c d => exact substitution before after d c

theorem cons (hedit : Edit first second) (c : Char) : Edit (c :: first) (c :: second) := by
  cases hedit with
  | insertion before after d => exact insertion (c :: before) after d
  | deletion before after d => exact deletion (c :: before) after d
  | substitution before after d e => exact substitution (c :: before) after d e

theorem reverse (hedit : Edit first second) : Edit first.reverse second.reverse := by
  cases hedit with
  | insertion before after c => simpa using insertion after.reverse before.reverse c
  | deletion before after c => simpa using deletion after.reverse before.reverse c
  | substitution before after c d => simpa using substitution after.reverse before.reverse c d

end Edit

namespace Edits

theorem cons (hedits : Edits count first second) (c : Char) :
    Edits count (c :: first) (c :: second) := by
  induction hedits with
  | unchanged name => exact unchanged (c :: name)
  | next hedit _ ih => exact next (hedit.cons c) ih

theorem trans (hfirst : Edits count first second) (hsecond : Edits more second third) :
    Edits (count + more) first third := by
  induction hfirst with
  | unchanged name => rwa [Nat.zero_add]
  | next hedit _ ih =>
    rw [Nat.add_right_comm]
    exact next hedit (ih hsecond)

theorem fewer (hedits : Edits count first second) (hothers : Edits more first second) :
    Edits (min count more) first second :=
  min_rec' (fun count ↦ Edits count first second) hedits hothers

theorem symm (hedits : Edits count first second) : Edits count second first := by
  induction hedits with
  | unchanged name => exact unchanged name
  | next hedit _ ih => exact ih.trans (next hedit.symm (unchanged _))

theorem reverse (hedits : Edits count first second) : Edits count first.reverse second.reverse := by
  induction hedits with
  | unchanged name => exact unchanged name.reverse
  | next hedit _ ih => exact next hedit.reverse ih

end Edits

theorem edits_zero_iff : Edits 0 first second ↔ first = second := by
  constructor
  · intro hedits
    cases hedits
    rfl
  · rintro rfl
    exact .unchanged first

theorem edits_reverse_iff : Edits count first.reverse second.reverse ↔
    Edits count first second := by
  refine ⟨fun hedits ↦ ?_, Edits.reverse⟩
  simpa only [List.reverse_reverse] using hedits.reverse

/-! ### The least number of edits -/

/-- The least number of edits between two names, told from their first characters: that of the first
name is deleted, that of the second one inserted, or the one takes the place of the other, at no
cost if they are the same. -/
def leastEdits : List Char → List Char → Nat
  | [], second => second.length
  | c :: first, [] => (c :: first).length
  | c :: first, d :: second =>
    min (min (leastEdits first (d :: second) + 1) (leastEdits (c :: first) second + 1))
      (leastEdits first second + if c = d then 0 else 1)

theorem leastEdits_nil_left (second : List Char) : leastEdits [] second = second.length := by
  rw [leastEdits]

theorem leastEdits_nil_right (first : List Char) : leastEdits first [] = first.length := by
  cases first with
  | nil => rw [leastEdits]
  | cons c first => rw [leastEdits]

theorem leastEdits_cons (c d : Char) (first second : List Char) :
    leastEdits (c :: first) (d :: second) =
      min (min (leastEdits first (d :: second) + 1) (leastEdits (c :: first) second + 1))
        (leastEdits first second + if c = d then 0 else 1) := by
  rw [leastEdits]

theorem leastEdits_comm (first second : List Char) :
    leastEdits first second = leastEdits second first := by
  fun_induction leastEdits first second with
  | case1 second => rw [leastEdits_nil_right]
  | case2 c first => rw [leastEdits_nil_left]
  | case3 c first d second ihDelete ihInsert ihReplace =>
    rw [leastEdits_cons, ihDelete, ihInsert, ihReplace, min_comm (_ + 1) (_ + 1)]
    simp only [eq_comm]

theorem edits_length (name : List Char) : Edits name.length [] name := by
  induction name with
  | nil => exact .unchanged []
  | cons c name ih => exact .next (.insertion [] [] c) (ih.cons c)

theorem edits_leastEdits (first second : List Char) :
    Edits (leastEdits first second) first second := by
  fun_induction leastEdits first second with
  | case1 second => exact edits_length second
  | case2 c first => exact (edits_length (c :: first)).symm
  | case3 c first d second ihDelete ihInsert ihReplace =>
    have hdelete : Edits (leastEdits first (d :: second) + 1) (c :: first) (d :: second) :=
      .next (.deletion [] first c) ihDelete
    have hinsert : Edits (leastEdits (c :: first) second + 1) (c :: first) (d :: second) :=
      .next (.insertion [] (c :: first) d) (ihInsert.cons d)
    have hreplace : Edits (leastEdits first second + if c = d then 0 else 1)
        (c :: first) (d :: second) := by
      split_ifs with hcd
      · exact hcd ▸ ihReplace.cons c
      · exact .next (.substitution [] first c d) (ihReplace.cons d)
    exact (hdelete.fewer hinsert).fewer hreplace

theorem leastEdits_cons_le (c : Char) (first second : List Char) :
    leastEdits (c :: first) second ≤ leastEdits first second + 1 := by
  cases second with
  | nil => simp only [leastEdits_nil_right, List.length_cons, le_refl]
  | cons d second =>
    rw [leastEdits_cons]
    omega

theorem leastEdits_le_cons (c : Char) (first second : List Char) :
    leastEdits first second ≤ leastEdits (c :: first) second + 1 := by
  induction second with
  | nil =>
    rw [leastEdits_nil_right, leastEdits_nil_right, List.length_cons]
    omega
  | cons d second ih =>
    -- If the added character stays, `first` does without it and lets the next one of the other name
    -- be inserted.
    have hlonger : leastEdits first (d :: second) ≤ leastEdits first second + 1 := by
      rw [leastEdits_comm first, leastEdits_comm first]
      exact leastEdits_cons_le d second first
    rw [leastEdits_cons]
    omega

/-- If one name never needs many more edits than another, this stays so with one more character
each. -/
theorem leastEdits_cons_le_cons {first second : List Char}
    (hle : ∀ third, leastEdits first third ≤ leastEdits second third + count)
    (c d : Char) (third : List Char) :
    leastEdits (c :: first) third ≤ leastEdits (d :: second) third +
      (count + if c = d then 0 else 1) := by
  induction third with
  | nil =>
    have hlength := hle []
    rw [leastEdits_nil_right, leastEdits_nil_right] at hlength ⊢
    rw [List.length_cons, List.length_cons]
    omega
  | cons e third ih =>
    have hcost : (if c = e then 0 else 1) ≤ (if c = d then 0 else 1) + if d = e then 0 else 1 := by
      rcases eq_or_ne c d with rfl | hcd
      · rw [if_pos rfl, Nat.zero_add]
      · rw [if_neg hcd]
        split_ifs <;> omega
    have hdelete := hle (e :: third)
    have hreplace := hle third
    rw [leastEdits_cons, leastEdits_cons]
    omega

theorem leastEdits_append_le_append {first second : List Char}
    (hle : ∀ third, leastEdits first third ≤ leastEdits second third + 1)
    (before third : List Char) :
    leastEdits (before ++ first) third ≤ leastEdits (before ++ second) third + 1 := by
  induction before generalizing third with
  | nil => exact hle third
  | cons c before ih => simpa using leastEdits_cons_le_cons ih c c third

theorem Edit.leastEdits_le (hedit : Edit first second) (third : List Char) :
    leastEdits first third ≤ leastEdits second third + 1 := by
  cases hedit with
  | insertion before after c =>
    exact leastEdits_append_le_append (leastEdits_le_cons c after) before third
  | deletion before after c =>
    exact leastEdits_append_le_append (leastEdits_cons_le c after) before third
  | substitution before after c d =>
    refine leastEdits_append_le_append (fun third ↦ ?_) before third
    refine (leastEdits_cons_le_cons (fun _ ↦ Nat.le_add_right _ 0) c d third).trans ?_
    split_ifs <;> omega

theorem leastEdits_self (name : List Char) : leastEdits name name = 0 := by
  induction name with
  | nil => rw [leastEdits_nil_left, List.length_nil]
  | cons c name ih => rw [leastEdits_cons, ih, if_pos rfl, Nat.min_zero]

theorem Edits.leastEdits_le (hedits : Edits count first second) :
    leastEdits first second ≤ count := by
  induction hedits with
  | unchanged name => exact (leastEdits_self name).le
  | next hedit _ ih => exact (hedit.leastEdits_le _).trans (Nat.add_le_add_right ih 1)

theorem isLeast_leastEdits (first second : List Char) :
    IsLeast {count | Edits count first second} (leastEdits first second) :=
  ⟨edits_leastEdits first second, fun _ hedits ↦ hedits.leastEdits_le⟩

/-! ### Rows of distances -/

/-- The least numbers of edits from one name to a second one with more and more of the rest of its
characters, where both names are written backwards. -/
def leastEditsAlong (first second : List Char) : List Char → List Nat
  | [] => []
  | d :: rest => leastEdits first (d :: second) :: leastEditsAlong first (d :: second) rest

theorem nextRow_eq (c : Char) (first second rest : List Char) :
    nextRow c (leastEdits (c :: first) second) (leastEdits first second) rest
      (leastEditsAlong first second rest) = leastEditsAlong (c :: first) second rest := by
  induction rest generalizing second with
  | nil => rfl
  | cons d rest ih => rw [leastEditsAlong, leastEditsAlong, nextRow, ← leastEdits_cons, ih]

/-- The row of a name: the least numbers of edits to all beginnings of the second one. -/
def leastEditsRow (first second : List Char) : List Nat :=
  leastEdits first [] :: leastEditsAlong first [] second

/-- After some characters of the first name its row is that of these characters, which stand
backwards: the last one was read last. -/
theorem distanceRow_eq (second done rest : List Char) :
    distanceRow second done.length (leastEditsRow done second) rest =
      leastEditsRow (rest.reverse ++ done) second := by
  induction rest generalizing done with
  | nil => rfl
  | cons c rest ih =>
    have hnext : (done.length + 1) :: nextRow c (done.length + 1)
        ((leastEditsRow done second).headD 0) second (leastEditsRow done second).tail =
        leastEditsRow (c :: done) second := by
      have hlength : done.length + 1 = leastEdits (c :: done) [] :=
        (leastEdits_nil_right (c :: done)).symm
      rw [hlength, leastEditsRow, List.headD_cons, List.tail_cons, nextRow_eq, leastEditsRow]
    rw [List.reverse_cons, List.append_assoc, List.singleton_append, ← ih]
    exact congrArg (distanceRow second (c :: done).length · rest) hnext

theorem leastEditsAlong_nil (second rest : List Char) :
    leastEditsAlong [] second rest = List.range' (second.length + 1) rest.length := by
  induction rest generalizing second with
  | nil => rfl
  | cons d rest ih =>
    rw [leastEditsAlong, ih, leastEdits_nil_left, List.length_cons, List.length_cons,
      List.range'_succ]

theorem leastEditsRow_nil (second : List Char) :
    leastEditsRow [] second = List.range (second.length + 1) := by
  rw [leastEditsRow, leastEditsAlong_nil, List.range_eq_range', List.range'_succ,
    leastEdits_nil_left]
  rfl

theorem getLast?_leastEditsAlong (first second rest : List Char) :
    (leastEdits first second :: leastEditsAlong first second rest).getLast? =
      some (leastEdits first (rest.reverse ++ second)) := by
  induction rest generalizing second with
  | nil => rfl
  | cons d rest ih =>
    rw [leastEditsAlong, List.getLast?_cons_cons, ih, List.reverse_cons, List.append_assoc]
    rfl

theorem editDistance_eq (first second : List Char) :
    editDistance first second = leastEdits first.reverse second.reverse := by
  have hrow := distanceRow_eq second [] first
  rw [List.length_nil, leastEditsRow_nil, List.append_nil] at hrow
  rw [editDistance, hrow, leastEditsRow, getLast?_leastEditsAlong, List.append_nil,
    Option.getD_some]

/-! ### The distance -/

theorem isLeast_editDistance (first second : List Char) :
    IsLeast {count | Edits count first second} (editDistance first second) := by
  simpa only [editDistance_eq, edits_reverse_iff]
    using isLeast_leastEdits first.reverse second.reverse

/-- The distance of two names is the least number of edits that turn one into the other, which is
the number told from their first characters. It is the same in both directions, it is zero just for
a name and itself, and a third name in between makes no way shorter. -/
theorem editDistance_counts_edits (first second : List Char) :
    IsLeast {count | Edits count first second} (editDistance first second) ∧
      editDistance first second = leastEdits first second ∧
      editDistance first second = editDistance second first ∧
      (editDistance first second = 0 ↔ first = second) ∧
      ∀ third, editDistance first third ≤ editDistance first second +
        editDistance second third := by
  have hleast := isLeast_editDistance first second
  have hback := isLeast_editDistance second first
  refine ⟨hleast, hleast.unique (isLeast_leastEdits first second), ?_, ⟨fun hzero ↦ ?_, ?_⟩,
    fun third ↦ ?_⟩
  · exact (hleast.2 hback.1.symm).antisymm (hback.2 hleast.1.symm)
  · exact edits_zero_iff.mp (hzero ▸ hleast.1)
  · rintro rfl
    exact Nat.le_zero.mp (hleast.2 (.unchanged first))
  · exact (isLeast_editDistance first third).2
      (hleast.1.trans (isLeast_editDistance second third).1)

example : editDistance "kitten".toList "sitting".toList = 3 := by decide

end Packrat
