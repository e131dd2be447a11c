import Packrat.Proofs.Terminal.Prefixes

/-!
# Places in a text

`Text.At` says how a text goes on from an offset. The offsets of which this can be said are the
boundaries of the text (`Text.IsBoundary.at`). A place is ahead of another when it is a boundary at
or after it (`Text.Ahead`): taking an initial part of what follows, skipping characters and going to
the next character lead from boundaries to places ahead. What stands between a boundary and a place
ahead of it is a run of characters (`Text.Ahead.exists_run`), and the characters of two adjacent
stretches make up those of the whole (`Text.Ahead.slice_append`).
-/

set_option autoImplicit false
set_option relaxedAutoImplicit false

namespace Packrat

/-! ### Runs of characters -/

/-- Of two runs of characters exactly the first one is taken if its characters have a property and
the next one has not. -/
theorem takeWhile_append_eq {property : Char → Bool} {first second : List Char}
    (hfirst : ∀ c ∈ first, property c = true) (hsecond : ∀ c ∈ second.head?, ¬ property c = true) :
    (first ++ second).takeWhile property = first := by
  have hstop : second.takeWhile property = [] := by
    cases second with
    | nil => rfl
    | cons c rest => rw [List.takeWhile_cons_of_neg (hsecond c rfl)]
  rw [List.takeWhile_append_of_pos hfirst, hstop, List.append_nil]

/-- The characters that fit exactly are those that are taken. -/
theorem takeBytes_byteLength (first second : List Char) :
    takeBytes (byteLength first) (first ++ second) = first := by
  induction first with
  | nil =>
    cases second with
    | nil => rfl
    | cons c rest =>
      have hpositive := c.utf8Size_pos
      simp only [byteLength_nil, List.nil_append, takeBytes]
      rw [if_neg (by omega)]
  | cons c rest ih =>
    simp only [byteLength_cons, List.cons_append, takeBytes]
    rw [if_pos (Nat.le_add_right _ _), Nat.add_sub_cancel_left, ih]

theorem eq_nil_of_byteLength_eq_zero {chars : List Char} (hzero : byteLength chars = 0) :
    chars = [] := by
  cases chars with
  | nil => rfl
  | cons c rest => exact absurd hzero (Nat.ne_of_gt (byteLength_pos (List.cons_ne_nil c rest)))

namespace Text

/-! ### How a text goes on -/

/-- From an offset on a text goes on with the given characters, up to its end. -/
def At (text : Text) (offset : Nat) (chars : List Char) : Prop :=
  ∃ before, text.chars = before ++ chars ∧ offset = byteLength before

variable {text : Text} {offset start middle stop : Nat} {chars first second : List Char}

/-- At its start a text goes on with all of its characters. -/
theorem at_start (chars : List Char) : (ofChars chars).At 0 chars := ⟨[], rfl, rfl⟩

theorem At.rest_eq (hat : text.At offset chars) : text.rest offset = chars := by
  obtain ⟨before, hchars, rfl⟩ := hat
  rw [rest, boundary?_byteLength hchars]

theorem At.advance (hat : text.At offset (first ++ second)) :
    text.At (offset + byteLength first) second := by
  obtain ⟨before, hchars, rfl⟩ := hat
  exact ⟨before ++ first, by rw [hchars, List.append_assoc], (byteLength_append _ _).symm⟩

/-- The last characters end where the text ends. -/
theorem At.add_byteLength (hat : text.At offset chars) : offset + byteLength chars = text.size := by
  obtain ⟨before, hchars, rfl⟩ := hat
  rw [text.size_eq, hchars, byteLength_append]

/-- Skipping goes over the characters of a set, up to one that does not belong to it. -/
theorem At.skipFrom_eq {set : CharSet} (hat : text.At offset (first ++ second))
    (hfirst : ∀ c ∈ first, set.contains c = true)
    (hsecond : ∀ c ∈ second.head?, ¬ set.contains c = true) :
    skipFrom (some set) text offset = offset + byteLength first := by
  rw [skipFrom, hat.rest_eq, CharSet.span, takeWhile_append_eq hfirst hsecond]

/-! ### Boundaries -/

theorem At.isBoundary (hat : text.At offset chars) : text.IsBoundary offset := by
  obtain ⟨before, hchars, rfl⟩ := hat
  rw [IsBoundary, boundary?_byteLength hchars]
  rfl

/-- At a boundary a text goes on with what follows. -/
theorem IsBoundary.at (hboundary : text.IsBoundary offset) : text.At offset (text.rest offset) := by
  obtain ⟨boundary, hsome⟩ := Option.isSome_iff_exists.mp hboundary
  have htable : (boundaries none text.chars)[offset]? = some (some boundary) := by
    rw [boundary?, text.table_eq, Option.join_eq_some_iff] at hsome
    simpa using hsome
  have hrest : text.rest offset = boundary.after := by
    rw [rest, hsome]
  rw [hrest]
  exact split_of_getElem? htable

theorem isBoundary_zero (text : Text) : text.IsBoundary 0 := by
  have hat : text.At 0 text.chars := ⟨[], rfl, rfl⟩
  exact hat.isBoundary

theorem IsBoundary.le_size (hboundary : text.IsBoundary offset) : offset ≤ text.size := by
  have hwhole := hboundary.at.add_byteLength
  omega

/-- What is taken of the text at a boundary ends at a boundary. -/
theorem IsBoundary.add_byteLength (hboundary : text.IsBoundary offset) {taken : List Char}
    (hinitial : taken <+: text.rest offset) : text.IsBoundary (offset + byteLength taken) := by
  obtain ⟨more, hrest⟩ := hinitial
  have hat := hboundary.at
  rw [← hrest] at hat
  exact hat.advance.isBoundary

/-! ### Places ahead -/

/-- A place of a text that is ahead of another: a boundary at or after it, not past the end. -/
structure Ahead (text : Text) (start stop : Nat) : Prop where
  /-- It is not before the other place. -/
  le : start ≤ stop
  /-- It is not past the end of the text. -/
  le_size : stop ≤ text.size
  /-- It is a boundary. -/
  boundary : text.IsBoundary stop

/-- A boundary is ahead of every place that is not after it. -/
theorem IsBoundary.ahead (hboundary : text.IsBoundary stop) (hle : start ≤ stop) :
    text.Ahead start stop :=
  ⟨hle, hboundary.le_size, hboundary⟩

theorem IsBoundary.ahead_self (hboundary : text.IsBoundary offset) : text.Ahead offset offset :=
  hboundary.ahead (Nat.le_refl offset)

theorem Ahead.trans (hfirst : text.Ahead start middle) (hsecond : text.Ahead middle stop) :
    text.Ahead start stop :=
  hsecond.boundary.ahead (Nat.le_trans hfirst.le hsecond.le)

/-- What is taken of the text at a boundary ends ahead. -/
theorem IsBoundary.ahead_add (hboundary : text.IsBoundary offset) {taken : List Char}
    (hinitial : taken <+: text.rest offset) : text.Ahead offset (offset + byteLength taken) :=
  (hboundary.add_byteLength hinitial).ahead (Nat.le_add_right _ _)

/-- Skipping characters at a boundary leads ahead. -/
theorem IsBoundary.ahead_skipFrom (hboundary : text.IsBoundary offset) (skip : Option CharSet) :
    text.Ahead offset (skipFrom skip text offset) := by
  cases skip with
  | none => exact hboundary.ahead_self
  | some set => exact hboundary.ahead_add (List.takeWhile_prefix set.contains)

theorem Ahead.min (hfirst : text.Ahead start middle) (hsecond : text.Ahead start stop) :
    text.Ahead start (min middle stop) := by
  rcases Nat.le_total middle stop with hle | hle
  · rwa [Nat.min_eq_left hle]
  · rwa [Nat.min_eq_right hle]

/-- The next character after a boundary starts at a boundary, unless the text ends before it. -/
theorem IsBoundary.next (hboundary : text.IsBoundary offset)
    (hinside : text.next offset ≤ text.size) :
    text.IsBoundary (text.next offset) := by
  have hwhole := hboundary.at.add_byteLength
  unfold Text.next at hinside ⊢
  cases hrest : text.rest offset with
  | nil =>
    rw [hrest, byteLength_nil] at hwhole
    simp only [hrest] at hinside
    omega
  | cons c rest =>
    have hinitial : [c] <+: text.rest offset := by
      rw [hrest]
      exact ⟨rest, rfl⟩
    simpa using hboundary.add_byteLength hinitial

/-! ### What stands between two places -/

/-- Between a boundary and a place ahead stands a run of characters. -/
theorem Ahead.exists_run (hahead : text.Ahead start stop) (hstart : text.IsBoundary start) :
    ∃ run, text.rest start = run ++ text.rest stop ∧ stop = start + byteLength run := by
  obtain ⟨before, hbefore, hlength⟩ := hstart.at
  obtain ⟨other, hother, hlonger⟩ := hahead.boundary.at
  have hle := hahead.le
  rw [hbefore] at hother
  rcases List.append_eq_append_iff.mp hother with ⟨run, rfl, hrest⟩ | ⟨run, rfl, hrest⟩
  · refine ⟨run, hrest, ?_⟩
    rw [hlonger, hlength, byteLength_append]
  · rw [byteLength_append] at hlength
    have hnone : run = [] := eq_nil_of_byteLength_eq_zero (by omega)
    subst hnone
    refine ⟨[], by simpa using hrest.symm, ?_⟩
    rw [hlonger, hlength, byteLength_nil]
    rfl

/-- The next boundary after one is where the next character starts. -/
theorem IsBoundary.next_le (hstart : text.IsBoundary start) (hstop : text.IsBoundary stop)
    (hlt : start < stop) :
    text.next start ≤ stop := by
  obtain ⟨run, hrest, rfl⟩ := (hstop.ahead (Nat.le_of_lt hlt)).exists_run hstart
  cases run with
  | nil => exact absurd hlt (Nat.lt_irrefl start)
  | cons c run =>
    have hnext : text.next start = start + c.utf8Size := by rw [Text.next, hrest, List.cons_append]
    rw [hnext, byteLength_cons]
    exact Nat.add_le_add_left (Nat.le_add_right _ _) start

theorem slice_of_rest_eq {run : List Char} (hrest : text.rest start = run ++ chars) :
    text.slice start (start + byteLength run) = run := by
  rw [slice, hrest, Nat.add_sub_cancel_left, takeBytes_byteLength]

theorem slice_self (text : Text) (offset : Nat) : text.slice offset offset = [] :=
  slice_of_rest_eq (List.nil_append _).symm

/-- The characters of two adjacent stretches of a text make up those of the whole. -/
theorem Ahead.slice_append (hfirst : text.Ahead start middle) (hsecond : text.Ahead middle stop)
    (hstart : text.IsBoundary start) :
    text.slice start middle ++ text.slice middle stop = text.slice start stop := by
  obtain ⟨run, hrun, rfl⟩ := hfirst.exists_run hstart
  obtain ⟨more, hmore, rfl⟩ := hsecond.exists_run hfirst.boundary
  have hboth : text.rest start =
      (run ++ more) ++ text.rest (start + byteLength run + byteLength more) := by
    rw [hrun, hmore, List.append_assoc]
  have hwhole := slice_of_rest_eq hboth
  rw [byteLength_append, ← Nat.add_assoc] at hwhole
  rw [slice_of_rest_eq hrun, slice_of_rest_eq hmore, hwhole]

end Text

end Packrat
