import Mathlib.Data.List.Chain
import Mathlib.Data.List.Infix
import Mathlib.Data.List.TakeWhile
import Mathlib.Data.Prod.Lex
import Packrat.Proofs.Text.Places
import Packrat.Text.Lines

/-!
# The lines of a text

A text is cut into lines by a reading of its characters that knows no offsets (`linesOf`): a line
has a content, in which nothing ends a line, and a terminator. The line index is computed in one
pass over the offsets. It holds the places where these lines start (`cons_lineBreaks`), one for each
terminator and one for the line after the last of them (`length_lineBreaks`).

So each of its lines stands in the text where it starts (`LineIndex.HasLine`), and a boundary of the
text cuts the line that it is in (`LineIndex.InLine`), of which the first part gives the column. The
line is found by halving: what is left of the index always encloses the offset
(`LineIndex.Encloses`), and so the search ends at the last line that starts at or before it
(`LineIndex.start_le_iff`). Later boundaries have later places (`LineIndex.lineCol_lt`), and all
together the index partitions the text (`LineIndex.ofText_partitions`).
-/

set_option autoImplicit false
set_option relaxedAutoImplicit false

namespace Packrat

open LineIndex (isTerminator trimTerminators)

/-! ### Cutting into lines -/

/-- A line: its characters, none of which ends a line, and the terminator after them. -/
structure Line where
  /-- The characters before the terminator. -/
  content : List Char
  /-- The terminator; the last line of a text has none. -/
  ending : List Char
  /-- No character of the content ends a line. -/
  content_plain : ∀ c ∈ content, isTerminator c = false
  /-- The terminator is made of characters that end lines. -/
  ending_terminates : ∀ c ∈ ending, isTerminator c = true

namespace Line

def chars (line : Line) : List Char := line.content ++ line.ending

/-- The line with one more character in front. -/
def push (c : Char) (hplain : isTerminator c = false) (line : Line) : Line where
  content := c :: line.content
  ending := line.ending
  content_plain := List.forall_mem_cons.mpr ⟨hplain, line.content_plain⟩
  ending_terminates := line.ending_terminates

@[simp] theorem chars_push (c : Char) (hplain : isTerminator c = false) (line : Line) :
    (line.push c hplain).chars = c :: line.chars := rfl

theorem trimTerminators_chars (line : Line) : trimTerminators line.chars = line.content := by
  have hending : ∀ c ∈ line.ending.reverse, isTerminator c = true := fun c hc ↦
    line.ending_terminates c (List.mem_reverse.mp hc)
  have hcontent : line.content.reverse.dropWhile isTerminator = line.content.reverse := by
    refine List.dropWhile_eq_self_iff.mpr fun hlength hfirst ↦ ?_
    rw [line.content_plain _ (List.mem_reverse.mp (List.getElem_mem hlength))] at hfirst
    exact Bool.false_ne_true hfirst
  rw [trimTerminators, chars, List.reverse_append, List.dropWhile_append_of_pos hending,
    hcontent, List.reverse_reverse]

end Line

/-- The lines of a run of characters. -/
def linesOf : List Char → List Line
  | [] => [⟨[], [], nofun, nofun⟩]
  | '\r' :: '\n' :: rest => ⟨[], ['\r', '\n'], nofun, List.all_eq_true.mp rfl⟩ :: linesOf rest
  | c :: rest =>
    if hc : isTerminator c = true then ⟨[], [c], nofun, List.forall_mem_singleton.mpr hc⟩ ::
      linesOf rest
    else (linesOf rest).modifyHead (Line.push c (Bool.eq_false_iff.mpr hc))

variable {c : Char} {chars rest : List Char} {offset number start : Nat} {line : Line}
  {lines first more : List Line}

/-- A character ends a line if it is a newline or a carriage return. -/
theorem isTerminator_iff : isTerminator c = true ↔ c = '\n' ∨ c = '\r' := by
  simp [isTerminator]

theorem exists_linesOf_eq_cons (chars : List Char) : ∃ line more, linesOf chars = line :: more := by
  fun_induction linesOf chars with
  | case1 => exact ⟨_, _, rfl⟩
  | case2 rest ih => exact ⟨_, _, rfl⟩
  | case3 c rest hpair hc ih => exact ⟨_, _, rfl⟩
  | case4 c rest hpair hc ih =>
    obtain ⟨line, more, hlines⟩ := ih
    exact ⟨_, _, by rw [hlines, List.modifyHead_cons]⟩

theorem flatMap_chars_linesOf (chars : List Char) : (linesOf chars).flatMap Line.chars = chars := by
  fun_induction linesOf chars with
  | case1 => rfl
  | case2 rest ih => rw [List.flatMap_cons, ih]; rfl
  | case3 c rest hpair hc ih => rw [List.flatMap_cons, ih]; rfl
  | case4 c rest hpair hc ih =>
    obtain ⟨line, more, hlines⟩ := exists_linesOf_eq_cons rest
    rw [hlines, List.flatMap_cons] at ih
    rw [hlines, List.modifyHead_cons, List.flatMap_cons, Line.chars_push, List.cons_append, ih]

/-- After a line with a terminator there is another one. -/
theorem ending_eq_nil_iff_of_terminated {head : Line} (hending : head.ending ≠ [])
    (hrest : ∀ {first}, linesOf rest = first ++ line :: more → (line.ending = [] ↔ more = []))
    (hlines : head :: linesOf rest = first ++ line :: more) : line.ending = [] ↔ more = [] := by
  rcases List.cons_eq_append_iff.mp hlines with ⟨-, hline⟩ | ⟨others, -, hothers⟩
  · obtain ⟨rfl, rfl⟩ := List.cons.inj hline
    obtain ⟨next, later, hnext⟩ := exists_linesOf_eq_cons rest
    exact iff_of_false hending (hnext ▸ List.cons_ne_nil next later)
  · exact hrest hothers

/-- Only the last line has no terminator. -/
theorem ending_eq_nil_iff (hlines : linesOf chars = first ++ line :: more) :
    line.ending = [] ↔ more = [] := by
  fun_induction linesOf chars generalizing first line with
  | case1 =>
    rcases List.cons_eq_append_iff.mp hlines with ⟨-, hline⟩ | ⟨others, -, hothers⟩
    · obtain ⟨rfl, rfl⟩ := List.cons.inj hline
      exact iff_of_true rfl rfl
    · simp at hothers
  | case2 rest ih => exact ending_eq_nil_iff_of_terminated (List.cons_ne_nil _ _) ih hlines
  | case3 c rest hpair hc ih =>
    exact ending_eq_nil_iff_of_terminated (List.cons_ne_nil _ _) ih hlines
  | case4 c rest hpair hc ih =>
    obtain ⟨head, later, hrest⟩ := exists_linesOf_eq_cons rest
    rw [hrest, List.modifyHead_cons] at hlines
    rcases List.cons_eq_append_iff.mp hlines with ⟨-, hline⟩ | ⟨others, -, hothers⟩
    · obtain ⟨rfl, rfl⟩ := List.cons.inj hline
      have hhead : head.ending = [] ↔ more = [] := ih (hrest.trans (List.nil_append _).symm)
      exact hhead
    · have hlater : linesOf rest = (head :: others) ++ line :: more := by
        rw [hrest, hothers, List.cons_append]
      exact ih hlater

/-! ### Where lines start -/

/-- Where the lines start that follow one another from an offset on. -/
def startsFrom (offset : Nat) : List Line → List Nat
  | [] => []
  | line :: more => offset :: startsFrom (offset + byteLength line.chars) more

/-- The offsets after the terminators are those where the further lines start. -/
theorem cons_lineBreaks (offset : Nat) (chars : List Char) :
    offset :: lineBreaks offset chars = startsFrom offset (linesOf chars) := by
  fun_induction linesOf chars generalizing offset with
  | case1 => rfl
  | case2 rest ih => exact congrArg (offset :: ·) (ih (offset + 2))
  | case3 c rest hpair hc ih =>
    have hsize : c.utf8Size = 1 := by rcases isTerminator_iff.mp hc with rfl | rfl <;> rfl
    rw [lineBreaks, if_pos (isTerminator_iff.mp hc)]
    · exact congrArg (offset :: ·) (hsize ▸ ih (offset + c.utf8Size))
    · exact hpair
  | case4 c rest hpair hc ih =>
    obtain ⟨line, more, hlines⟩ := exists_linesOf_eq_cons rest
    have hmore := ih (offset + c.utf8Size)
    rw [hlines] at hmore
    rw [lineBreaks, if_neg fun hends ↦ hc (isTerminator_iff.mpr hends),
      (List.cons.inj hmore).2, hlines, List.modifyHead_cons, startsFrom, Line.chars_push,
      byteLength_cons, Nat.add_assoc]
    exact hpair

@[simp] theorem length_startsFrom (offset : Nat) (lines : List Line) :
    (startsFrom offset lines).length = lines.length := by
  induction lines generalizing offset with
  | nil => rfl
  | cons line more ih => rw [startsFrom, List.length_cons, ih, List.length_cons]

theorem getElem?_startsFrom (offset : Nat) (first : List Line) (line : Line) (more : List Line) :
    (startsFrom offset (first ++ line :: more))[first.length]? =
      some (offset + byteLength (first.flatMap Line.chars)) := by
  induction first generalizing offset with
  | nil => rfl
  | cons head first ih =>
    rw [List.cons_append, startsFrom, List.length_cons, List.getElem?_cons_succ, ih,
      List.flatMap_cons, byteLength_append, Nat.add_assoc]

/-- Lines that follow one another start further and further on. -/
theorem isChain_cons_lineBreaks (offset : Nat) (chars : List Char) :
    (offset :: lineBreaks offset chars).IsChain (· < ·) := by
  fun_induction lineBreaks offset chars with
  | case1 => exact .singleton _
  | case2 offset rest ih => exact List.isChain_cons_cons.mpr ⟨by omega, ih⟩
  | case3 offset c rest hpair hc ih => exact List.isChain_cons_cons.mpr ⟨by omega, ih⟩
  | case4 offset c rest hpair hc ih => exact ih.imp_head fun hlt ↦ by omega

/-! ### Counting terminators -/

/-- Whether a carriage return stands at the head of a text that no newline follows. -/
def startsWithReturn : List Char → Bool
  | c :: rest => c == '\r' && rest.head? != some '\n'
  | [] => false

/-- The number of line terminators: newlines, and carriage returns that no newline follows. -/
def terminatorCount (chars : List Char) : Nat :=
  chars.count '\n' + chars.tails.countP startsWithReturn

theorem terminatorCount_cons (c : Char) (rest : List Char) :
    terminatorCount (c :: rest) =
      terminatorCount rest + (if c = '\n' then 1 else 0) + if startsWithReturn (c :: rest) then
        1 else 0 := by
  simp only [terminatorCount, List.count_cons, List.tails_cons, List.countP_cons, beq_iff_eq]
  omega

theorem length_lineBreaks (offset : Nat) (chars : List Char) :
    (lineBreaks offset chars).length = terminatorCount chars := by
  fun_induction lineBreaks offset chars with
  | case1 => rfl
  | case2 offset rest ih =>
    rw [List.length_cons, ih, terminatorCount_cons, terminatorCount_cons]; rfl
  | case3 offset c rest hpair hc ih =>
    rw [List.length_cons, ih, terminatorCount_cons]
    rcases hc with rfl | rfl
    · rfl
    · have hlone : startsWithReturn ('\r' :: rest) = true := by
        cases rest with
        | nil => rfl
        | cons next rest =>
          have hnext : next ≠ '\n' := fun hnewline ↦ hpair rest rfl (hnewline ▸ rfl)
          simpa [startsWithReturn] using hnext
      rw [if_pos hlone]
      rfl
  | case4 offset c rest hpair hc ih =>
    obtain ⟨hnewline, hreturn⟩ := not_or.mp hc
    have hother : ¬ startsWithReturn (c :: rest) = true := by simp [startsWithReturn, hreturn]
    rw [ih, terminatorCount_cons, if_neg hnewline, if_neg hother, Nat.add_zero]

/-- The line and the column of a place, which are compared in this order. -/
def LineCol.toPair (place : LineCol) : Nat ×ₗ Nat := toLex (place.line, place.column)

namespace LineIndex

variable {text : Text} {bound stop : Nat}

/-! ### Lines by their numbers -/

@[simp] theorem text_ofText (text : Text) : (ofText text).text = text := rfl

/-- The characters from where a line starts to where the next one does, or to the end of the
text. -/
def cut (index : LineIndex) (number : Nat) : List Char :=
  index.text.slice ((index.start? number).getD 0) ((index.start? (number + 1)).getD index.text.size)

/-- The first line starts where the text does, and the others further and further on. -/
theorem pairwise_starts (text : Text) : (ofText text).starts.Pairwise (· < ·) :=
  List.isChain_iff_pairwise.mp (isChain_cons_lineBreaks 0 text.chars)

/-- A line of a text with its number, counted from zero, where it starts, and what follows it. -/
structure HasLine (text : Text) (number start : Nat) (line : Line) (rest : List Char) : Prop where
  /-- It starts where the index says. -/
  start_eq : (ofText text).start? number = some start
  /-- It is the one of this number. -/
  line_eq : (linesOf text.chars)[number]? = some line
  /-- It stands there in the text. -/
  stands : text.At start (line.chars ++ rest)
  /-- It ends where the next one starts, or where the text ends. -/
  stop_eq : ((ofText text).start? (number + 1)).getD text.size = start + byteLength line.chars
  /-- If it has no terminator it is the last one. -/
  last : line.ending = [] → (ofText text).start? (number + 1) = none

/-- Where the index says that a line starts there is one. -/
theorem exists_hasLine (hstart : (ofText text).start? number = some start) :
    ∃ line rest, HasLine text number start line rest := by
  have hstarts : (ofText text).starts = startsFrom 0 (linesOf text.chars) :=
    cons_lineBreaks 0 text.chars
  obtain ⟨hlt, -⟩ := List.getElem?_eq_some_iff.mp hstart
  rw [hstarts, length_startsFrom] at hlt
  obtain ⟨first, line, more, hlines, rfl⟩ :
      ∃ first line more, linesOf text.chars = first ++ line :: more ∧ first.length = number := by
    refine ⟨(linesOf text.chars).take number, (linesOf text.chars)[number],
      (linesOf text.chars).drop (number + 1), ?_, List.length_take_of_le (Nat.le_of_lt hlt)⟩
    rw [← List.drop_eq_getElem_cons hlt, List.take_append_drop]
  have hget : (ofText text).start? first.length = some (byteLength (first.flatMap Line.chars)) := by
    rw [start?, hstarts, hlines, getElem?_startsFrom, Nat.zero_add]
  obtain rfl := Option.some.inj (hget.symm.trans hstart)
  have hwhole : text.chars = first.flatMap Line.chars ++
      (line.chars ++ more.flatMap Line.chars) := by
    rw [← flatMap_chars_linesOf text.chars, hlines, List.flatMap_append, List.flatMap_cons]
  have hnext : more = [] → (ofText text).start? (first.length + 1) = none := by
    rintro rfl
    rw [start?, hstarts, hlines, List.getElem?_eq_none_iff, length_startsFrom]
    simp
  refine ⟨line, more.flatMap Line.chars, hget, ?_, ⟨_, hwhole, rfl⟩, ?_, fun hending ↦
    hnext ((ending_eq_nil_iff hlines).mp hending)⟩
  · rw [hlines, List.getElem?_append_right (Nat.le_refl _), Nat.sub_self, List.getElem?_cons_zero]
  · cases more with
    | nil =>
      rw [hnext rfl, Option.getD_none, text.size_eq, hwhole, byteLength_append, List.flatMap_nil,
        List.append_nil]
    | cons next later =>
      have hfurther := getElem?_startsFrom 0 (first ++ [line]) next later
      rw [List.append_assoc, List.singleton_append, ← hlines, ← hstarts, List.length_append,
        List.flatMap_append, Nat.zero_add, byteLength_append] at hfurther
      rw [start?, ← List.length_singleton, hfurther, Option.getD_some, List.flatMap_singleton]

namespace HasLine

variable (hline : HasLine text number start line rest)

include hline

theorem rest_eq_nil (hlast : (ofText text).start? (number + 1) = none) : rest = [] := by
  have hstop := hline.stop_eq
  have hwhole := hline.stands.add_byteLength
  rw [hlast, Option.getD_none] at hstop
  rw [byteLength_append] at hwhole
  exact eq_nil_of_byteLength_eq_zero (by omega)

/-- The characters up to the next line are those of the line. -/
theorem cut_eq : (ofText text).cut number = line.chars := by
  rw [cut, hline.start_eq, Option.getD_some]
  exact (congrArg (text.slice start) hline.stop_eq).trans
    (Text.slice_of_rest_eq hline.stands.rest_eq)

theorem lineText_eq (hnumber : (ofText text).lineOf offset = number) :
    (ofText text).lineText offset = line.content := by
  subst hnumber
  exact (congrArg trimTerminators hline.cut_eq).trans line.trimTerminators_chars

end HasLine

/-! ### The line of an offset -/

/-- Two places of an increasing list enclose a number: what stands before the first is less, and
what stands from the second on is greater. -/
structure Encloses (numbers : List Nat) (wanted low high : Nat) : Prop where
  /-- The places are those of a part of the list. -/
  le : low ≤ high ∧ high ≤ numbers.length
  /-- Before the part all numbers are less. -/
  before : ∀ number found, numbers[number]? = some found → number < low → found < wanted
  /-- After the part all numbers are greater. -/
  after : ∀ number found, numbers[number]? = some found → high ≤ number → wanted < found

/-- What a search tells: where the number stands, or where it could be inserted. -/
def IsSearched (numbers : List Nat) (wanted : Nat) : Except Nat Nat → Prop
  | .ok place => numbers[place]? = some wanted
  | .error place => Encloses numbers wanted place place

section Search

variable {numbers : List Nat} {wanted low high middle found : Nat}

theorem lt_of_getElem? (hsorted : numbers.Pairwise (· < ·)) {later further : Nat}
    (hlt : number < later) (hget : numbers[number]? = some found)
    (hlater : numbers[later]? = some further) :
    found < further := by
  obtain ⟨hnumber, rfl⟩ := List.getElem?_eq_some_iff.mp hget
  obtain ⟨hbound, rfl⟩ := List.getElem?_eq_some_iff.mp hlater
  exact List.pairwise_iff_getElem.mp hsorted _ _ hnumber hbound hlt

theorem le_of_getElem? (hsorted : numbers.Pairwise (· < ·)) {later further : Nat}
    (hle : number ≤ later) (hget : numbers[number]? = some found)
    (hlater : numbers[later]? = some further) :
    found ≤ further := by
  rcases hle.eq_or_lt with rfl | hlt
  · exact (Option.some.inj (hget.symm.trans hlater)).le
  · exact (lt_of_getElem? hsorted hlt hget hlater).le

namespace Encloses

variable (hencloses : Encloses numbers wanted low high) (hsorted : numbers.Pairwise (· < ·))

include hencloses hsorted

/-- If the number in the middle is less, the first half is done with. -/
theorem upper (hmiddle : middle < high) (hget : numbers[middle]? = some found)
    (hless : found < wanted) :
    Encloses numbers wanted (middle + 1) high where
  le := ⟨hmiddle, hencloses.le.2⟩
  before _ _ hnumber hlt := (le_of_getElem? hsorted (Nat.le_of_lt_succ hlt) hnumber hget).trans_lt
    hless
  after := hencloses.after

/-- If it is greater, the second half is. -/
theorem lower (hlow : low ≤ middle) (hmiddle : middle < high) (hget : numbers[middle]? = some found)
    (hgreater : wanted < found) : Encloses numbers wanted low middle where
  le := ⟨hlow, hmiddle.le.trans hencloses.le.2⟩
  before := hencloses.before
  after _ _ hnumber hle := hgreater.trans_le (le_of_getElem? hsorted hle hget hnumber)

end Encloses

theorem isSearched_binarySearch (hsorted : numbers.Pairwise (· < ·)) (left : Nat) :
    ∀ low high, high ≤ low + left → Encloses numbers wanted low high →
      IsSearched numbers wanted (binarySearch numbers wanted left low high) := by
  induction left with
  | zero =>
    intro low high hleft hencloses
    obtain rfl : low = high := hencloses.le.1.antisymm hleft
    exact hencloses
  | succ left ih =>
    intro low high hleft hencloses
    rw [binarySearch]
    by_cases hlt : low < high
    · rw [if_pos hlt]
      dsimp only
      have hmiddle : (low + high) / 2 < numbers.length := by
        have hlength := hencloses.le.2
        omega
      have hget : numbers[(low + high) / 2]? = some (numbers.getD ((low + high) / 2) 0) := by
        rw [List.getD_eq_getElem?_getD, List.getElem?_eq_getElem hmiddle, Option.getD_some]
      generalize numbers.getD ((low + high) / 2) 0 = found at hget
      rcases lt_trichotomy found wanted with hless | rfl | hgreater
      · rw [if_neg hless.ne, if_pos hless]
        exact ih _ _ (by omega) (hencloses.upper hsorted (by omega) hget hless)
      · rw [if_pos rfl]
        exact hget
      · rw [if_neg hgreater.ne', if_neg hgreater.not_gt]
        exact ih _ _ (by omega) (hencloses.lower hsorted (by omega) (by omega) hget hgreater)
    · rw [if_neg hlt]
      obtain rfl : low = high := hencloses.le.1.antisymm (not_lt.mp hlt)
      exact hencloses

end Search

/-- The line of an offset starts at or before it, and the lines after it start after the offset. -/
theorem exists_start_lineOf_of_lt (text : Text) (offset : Nat) :
    ∃ start, (ofText text).start? ((ofText text).lineOf offset) = some start ∧
      start ≤ min offset text.size ∧ ∀ later further, (ofText text).lineOf offset < later →
        (ofText text).start? later = some further → min offset text.size < further := by
  have hsearched : IsSearched (ofText text).starts (min offset text.size) _ :=
    isSearched_binarySearch (pairwise_starts text) (ofText text).count 0 (ofText text).count
    (Nat.zero_add _).ge ⟨⟨Nat.zero_le _, Nat.le_refl _⟩, fun _ _ _ hlt ↦
      absurd hlt (Nat.not_lt_zero _), fun _ _ hget hle ↦
        absurd (List.getElem?_eq_some_iff.mp hget).1 (not_lt.mpr hle)⟩
  have hline : (ofText text).lineOf offset =
      match binarySearch (ofText text).starts (min offset text.size) (ofText text).count 0
        (ofText text).count with
      | .ok line => line
      | .error line => line - 1 := rfl
  rw [hline]
  generalize binarySearch _ (min offset text.size) _ _ _ = result at hsearched ⊢
  cases result with
  | ok line =>
    exact ⟨_, hsearched, le_rfl, fun later further hlt hlater ↦
      lt_of_getElem? (pairwise_starts text) hlt hsearched hlater⟩
  | error line =>
    obtain ⟨⟨-, hlength⟩, hbefore, hafter⟩ := hsearched
    have hpositive : 0 < line := Nat.pos_of_ne_zero fun hzero ↦
      absurd (hafter 0 0 rfl hzero.le) (Nat.not_lt_zero _)
    have hlt : line - 1 < (ofText text).starts.length := by omega
    have hget := List.getElem?_eq_getElem hlt
    dsimp only
    refine ⟨_, hget, (hbefore _ _ hget (by omega)).le, fun later further hlt ↦ ?_⟩
    exact fun hlater ↦ hafter later further hlater (by omega)

theorem exists_start_lineOf (text : Text) (offset : Nat) :
    ∃ start, (ofText text).start? ((ofText text).lineOf offset) = some start ∧
      start ≤ min offset text.size := by
  obtain ⟨start, hstart, hle, -⟩ := exists_start_lineOf_of_lt text offset
  exact ⟨start, hstart, hle⟩

/-- A line starts at or before an offset just if its number is at most that of the line of the
offset. -/
theorem start_le_iff (hstart : (ofText text).start? number = some start) :
    start ≤ min offset text.size ↔ number ≤ (ofText text).lineOf offset := by
  obtain ⟨found, hfound, hle, hlater⟩ := exists_start_lineOf_of_lt text offset
  constructor
  · exact fun hstarts ↦ not_lt.mp fun hlt ↦ absurd (hlater number start hlt hstart)
      (not_lt.mpr hstarts)
  · exact fun hnumber ↦ (le_of_getElem? (pairwise_starts text) hnumber hstart hfound).trans hle

/-- A boundary of a text in its line: the characters of the line before the boundary and those after
it. -/
structure InLine (text : Text) (offset start : Nat) (line : Line) (rest run after : List Char) :
    Prop where
  /-- The line is that of the boundary. -/
  hasLine : HasLine text ((ofText text).lineOf offset) start line rest
  /-- The characters of the line stand before or after the boundary. -/
  chars_eq : line.chars = run ++ after
  /-- Those before the boundary end there. -/
  offset_eq : offset = start + byteLength run
  /-- Those after the boundary follow it. -/
  rest_eq : text.rest offset = after ++ rest
  /-- At the end of the line the text ends. -/
  last : after = [] → rest = []

theorem exists_inLine (hoffset : text.IsBoundary offset) :
    ∃ start line rest run after, InLine text offset start line rest run after := by
  obtain ⟨start, hstart, hle⟩ := exists_start_lineOf text offset
  obtain ⟨line, rest, hline⟩ := exists_hasLine hstart
  have hsize := hoffset.le_size
  rw [Nat.min_eq_left hsize] at hle
  have hend := hline.stands.advance
  have hwithin : offset < start + byteLength line.chars ∨ offset ≤ start + byteLength line.chars ∧
      rest = [] := by
    have hstop := hline.stop_eq
    cases hnext : (ofText text).start? ((ofText text).lineOf offset + 1) with
    | none =>
      rw [hnext, Option.getD_none] at hstop
      exact Or.inr ⟨hstop ▸ hsize, hline.rest_eq_nil hnext⟩
    | some next =>
      have hlater : ¬ next ≤ min offset text.size :=
        fun hle ↦ Nat.not_succ_le_self _ ((start_le_iff hnext).mp hle)
      rw [hnext, Option.getD_some] at hstop
      rw [Nat.min_eq_left hsize] at hlater
      exact Or.inl (by omega)
  obtain ⟨run, hrun, rfl⟩ := (hoffset.ahead hle).exists_run hline.stands.isBoundary
  obtain ⟨after, hafter, hlength⟩ := (hend.isBoundary.ahead (by omega)).exists_run hoffset
  rw [hend.rest_eq] at hafter
  refine ⟨start, line, rest, run, after, hline, ?_, rfl, hafter, ?_⟩
  · rw [hline.stands.rest_eq, hafter, ← List.append_assoc] at hrun
    exact List.append_cancel_right hrun
  · rintro rfl
    rw [byteLength_nil] at hlength
    exact (hwithin.resolve_left (by omega)).2

/-! ### Columns -/

/-- The characters that begin before an offset are those that stand before it. -/
theorem charsBefore_eq (start : Nat) (run more : List Char) :
    charsBefore start (start + byteLength run) (run ++ more) = run.length := by
  induction run generalizing start with
  | nil => cases more <;> simp [charsBefore]
  | cons c run ih =>
    have hpositive := c.utf8Size_pos
    rw [List.cons_append, charsBefore, if_pos (by rw [byteLength_cons]; omega), byteLength_cons,
      ← Nat.add_assoc, ih, List.length_cons]

namespace InLine

variable {run after : List Char} (hin : InLine text offset start line rest run after)

include hin

/-- The line stands in the text around the boundary. -/
theorem rest_start_eq : text.rest start = run ++ text.rest offset := by
  rw [hin.hasLine.stands.rest_eq, hin.chars_eq, hin.rest_eq, List.append_assoc]

/-- The column of a boundary is one more than the number of characters of its line before it. -/
theorem lineCol_eq (hoffset : text.IsBoundary offset) :
    (ofText text).lineCol offset = ⟨(ofText text).lineOf offset + 1, run.length + 1⟩ := by
  have hbefore : charsBefore start offset (text.rest start) = run.length := by
    rw [hin.rest_start_eq, hin.offset_eq, charsBefore_eq]
  unfold lineCol
  simp only [text_ofText, Nat.min_eq_left hoffset.le_size, hin.hasLine.start_eq,
    Option.getD_some, hbefore]

end InLine

/-- Of two boundaries the later one has the greater line, or the same line and the greater
column. -/
theorem lineCol_lt {first second : Nat} (hfirst : text.IsBoundary first)
    (hsecond : text.IsBoundary second) (hlt : first < second) :
    ((ofText text).lineCol first).toPair < ((ofText text).lineCol second).toPair := by
  obtain ⟨start, line, rest, run, after, hearlier⟩ := exists_inLine hfirst
  obtain ⟨other, otherLine, otherRest, otherRun, otherAfter, hlater⟩ := exists_inLine hsecond
  rw [hearlier.lineCol_eq hfirst, hlater.lineCol_eq hsecond, LineCol.toPair, LineCol.toPair,
    Prod.Lex.toLex_lt_toLex]
  have hle : (ofText text).lineOf first ≤ (ofText text).lineOf second := by
    have hstart := (start_le_iff hearlier.hasLine.start_eq).mpr (Nat.le_refl _)
    refine (start_le_iff hearlier.hasLine.start_eq).mp (hstart.trans ?_)
    omega
  rcases Nat.lt_or_eq_of_le hle with hless | hsame
  · exact Or.inl (Nat.succ_lt_succ hless)
  · refine Or.inr ⟨congrArg (· + 1) hsame, Nat.succ_lt_succ ?_⟩
    have hstart := hearlier.hasLine.start_eq
    rw [hsame, hlater.hasLine.start_eq] at hstart
    obtain rfl := Option.some.inj hstart
    have hruns : run ++ text.rest first = otherRun ++ text.rest second :=
      hearlier.rest_start_eq.symm.trans hlater.rest_start_eq
    have hbytes : byteLength run < byteLength otherRun := by
      have hone := hearlier.offset_eq
      have htwo := hlater.offset_eq
      omega
    rcases List.append_eq_append_iff.mp hruns with ⟨between, rfl, -⟩ | ⟨between, rfl, -⟩
    · rw [byteLength_append] at hbytes
      have hnonempty : between ≠ [] := fun hnone ↦ by simp [hnone] at hbytes
      have hpositive := List.length_pos_iff.mpr hnonempty
      rw [List.length_append]
      omega
    · rw [byteLength_append] at hbytes
      omega

/-! ### The whole text -/

/-- Every line starts at a boundary of the text. -/
theorem isBoundary_of_mem_starts (hstart : start ∈ (ofText text).starts) :
    text.IsBoundary start := by
  obtain ⟨number, hget⟩ := List.getElem?_of_mem hstart
  obtain ⟨line, rest, hline⟩ := exists_hasLine hget
  exact hline.stands.isBoundary

/-- Cutting the text where lines start makes its lines. -/
theorem map_cut_range (text : Text) :
    (List.range (ofText text).count).map (ofText text).cut =
      (linesOf text.chars).map Line.chars := by
  have hcount : (ofText text).count = (linesOf text.chars).length := by
    rw [← length_startsFrom 0, ← cons_lineBreaks]
    rfl
  refine List.ext_getElem (by simp [hcount]) fun number hnumber _ ↦ ?_
  rw [List.length_map, List.length_range] at hnumber
  obtain ⟨line, rest, hline⟩ := exists_hasLine (List.getElem?_eq_getElem hnumber)
  obtain ⟨_, hget⟩ := List.getElem?_eq_some_iff.mp hline.line_eq
  rw [List.getElem_map, List.getElem_map, List.getElem_range, hline.cut_eq, hget]

/-- In the line of an offset nothing ends a line. -/
theorem not_terminator_of_mem_lineText {c : Char} (hc : c ∈ (ofText text).lineText offset) :
    isTerminator c = false := by
  obtain ⟨start, hstart, -⟩ := exists_start_lineOf text offset
  obtain ⟨line, rest, hline⟩ := exists_hasLine hstart
  rw [hline.lineText_eq rfl] at hc
  exact line.content_plain c hc

/-- The line index cuts a text into lines. They start further and further on, at boundaries of the
text and first at its start; there is one for each terminator and one more, they make up the text,
and without their terminators no newline or carriage return is left in them. The line of an offset
is the last one that starts at or before it. Of two boundaries the later one has the later place. -/
theorem ofText_partitions (text : Text) :
    let index := ofText text
    (index.starts.head? = some 0 ∧ index.starts.Pairwise (· < ·) ∧ ∀ start ∈ index.starts,
      text.IsBoundary start) ∧ index.count = terminatorCount text.chars + 1 ∧
      (List.range index.count).flatMap index.cut = text.chars ∧
      (∀ offset, '\n' ∉ index.lineText offset ∧ '\r' ∉ index.lineText offset) ∧
      (∀ offset, ∃ start, index.start? (index.lineOf offset) = some start ∧
        start ≤ min offset text.size ∧ ∀ number later, index.start? number = some later →
          later ≤ min offset text.size → number ≤ index.lineOf offset) ∧
      (∀ first second, text.IsBoundary first → text.IsBoundary second → first < second →
        (index.lineCol first).toPair < (index.lineCol second).toPair) ∧
      ∀ first second, text.IsBoundary first → text.IsBoundary second →
        index.lineCol first = index.lineCol second → first = second := by
  intro index
  refine ⟨⟨rfl, pairwise_starts text, fun _ ↦ isBoundary_of_mem_starts⟩,
    congrArg (· + 1) (length_lineBreaks 0 text.chars), ?_, fun offset ↦
    ⟨fun hmem ↦ ?_, fun hmem ↦ ?_⟩, fun offset ↦ ?_, fun _ _ ↦ lineCol_lt,
    fun first second hfirst hsecond hsame ↦ ?_⟩
  · rw [List.flatMap_def, map_cut_range, ← List.flatMap_def, flatMap_chars_linesOf]
  · exact absurd (not_terminator_of_mem_lineText hmem) (by decide)
  · exact absurd (not_terminator_of_mem_lineText hmem) (by decide)
  · obtain ⟨start, hstart, hle⟩ := exists_start_lineOf text offset
    exact ⟨start, hstart, hle, fun number later hlater ↦ (start_le_iff hlater).mp⟩
  · rcases Nat.lt_trichotomy first second with hlt | rfl | hlt
    · exact absurd (hsame ▸ lineCol_lt hfirst hsecond hlt) (lt_irrefl _)
    · rfl
    · exact absurd (hsame ▸ lineCol_lt hsecond hfirst hlt) (lt_irrefl _)

/-- A text with all three terminators. -/
theorem ofText_partitions_mixed :
    let text := Text.ofChars ['é', '\r', '\n', '\r', 'b', '\n']
    let index := ofText text
    index.starts = [0, 4, 5, 7] ∧ terminatorCount text.chars = 3 ∧ index.lineText 5 = ['b'] ∧
      index.lineOf 100 = 3 ∧ (List.range 4).flatMap index.cut = text.chars ∧ text.IsBoundary 3 ∧
      text.IsBoundary 4 ∧ (index.lineCol 3).toPair < (index.lineCol 4).toPair := by
  intro text index
  obtain ⟨-, -, hwhole, -, -, hlt, -⟩ := ofText_partitions text
  exact ⟨by decide, by decide, by decide, by decide, hwhole, by decide, by decide,
    hlt 3 4 (by decide) (by decide) (by decide)⟩

end LineIndex

end Packrat
