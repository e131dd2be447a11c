import Packrat.Proofs.Text.Lines
import Packrat.Report.Failure

/-!
# Where reports point

A report of a failure shows the line of the failure with a marker, and a caret below it. At a
boundary that is not in a terminator the column is that of the character there: the marker stands
between what precedes the boundary in its line and what follows it. In a terminator, and where the
text ends, the marker stands at the end of the line (`FailureReport.marks_place`). The caret is the
last character of its line, in the same column (`exists_caretLine_eq`).
-/

set_option autoImplicit false
set_option relaxedAutoImplicit false

namespace Packrat

open LineIndex (isTerminator InLine HasLine)

/-! ### Markers and carets -/

/-- The marker stands before the character in the column. -/
theorem markLine_append (run more marker : List Char) :
    markLine (run ++ more) (run.length + 1) marker = run ++ marker ++ more := by
  rw [markLine, Nat.add_sub_cancel, List.take_left, List.drop_left]

/-- Past the end of the line the marker stands at its end. -/
theorem markLine_of_length_lt {line : List Char} {column : Nat} (hcolumn : line.length < column)
    (marker : List Char) : markLine line column marker = line ++ marker := by
  have hle : line.length ≤ column - 1 := by omega
  rw [markLine, List.take_of_length_le hle, List.drop_eq_nil_of_le hle, List.append_nil]

/-- The caret stands after blanks, in its column. -/
theorem exists_caretLine_eq (line : List Char) {column : Nat} (hcolumn : 0 < column) :
    ∃ indent, caretLine line column = indent ++ ['^'] ∧ indent.length + 1 = column ∧
      ∀ c ∈ indent, c = ' ' ∨ c = '\t' := by
  refine ⟨_, rfl, ?_, fun c hc ↦ ?_⟩
  · simp only [List.length_append, List.length_map, List.length_take, List.length_replicate]
    omega
  · rcases List.mem_append.mp hc with hechoed | hpadded
    · obtain ⟨original, -, rfl⟩ := List.mem_map.mp hechoed
      split_ifs
      · exact Or.inr rfl
      · exact Or.inl rfl
    · exact Or.inl (List.eq_of_mem_replicate hpadded)

namespace LineIndex.InLine

variable {text : Text} {offset start : Nat} {line : Line} {rest run after : List Char}
  (hin : InLine text offset start line rest run after)

include hin

/-- After the content of a line a line ends, or the text does. -/
theorem terminator_of_mem_head? {c : Char} (hc : c ∈ (line.ending ++ rest).head?) :
    isTerminator c = true := by
  cases hending : line.ending with
  | nil =>
    rw [hending, hin.hasLine.rest_eq_nil (hin.hasLine.last hending)] at hc
    cases hc
  | cons first others =>
    rw [hending] at hc
    obtain rfl := Option.some.inj hc
    exact line.ending_terminates _ (hending ▸ List.mem_cons_self)

/-- Before a character that ends no line the content of the line goes on with it. -/
theorem exists_content_eq {c : Char} {further : List Char} (hrest : text.rest offset = c :: further)
    (hc : isTerminator c = false) :
    ∃ more, line.content = run ++ c :: more ∧ text.rest offset = (c :: more) ++
      (line.ending ++ rest) := by
  have hafter := hin.rest_eq
  rw [hrest] at hafter
  rcases List.append_eq_append_iff.mp hin.chars_eq with ⟨inner, rfl, hending⟩
    | ⟨inner, hcontent, rfl⟩
  · cases after with
    | nil =>
      rw [hin.last rfl] at hafter
      cases hafter
    | cons first others =>
      obtain ⟨rfl, -⟩ := List.cons.inj hafter
      rw [line.ending_terminates c (hending ▸ List.mem_append_right inner List.mem_cons_self)] at hc
      cases hc
  · cases inner with
    | nil =>
      have hhead : c ∈ (line.ending ++ rest).head? := by
        rw [List.nil_append] at hafter
        exact hafter ▸ rfl
      rw [hin.terminator_of_mem_head? hhead] at hc
      cases hc
    | cons first more =>
      obtain ⟨rfl, rfl⟩ := List.cons.inj hafter
      exact ⟨more, hcontent, hrest.trans
        (congrArg (c :: ·) (List.append_assoc more line.ending rest))⟩

/-- Then the content is what precedes the boundary, and what follows it up to the end of the
line. -/
theorem content_eq {c : Char} {further : List Char} (hrest : text.rest offset = c :: further)
    (hc : isTerminator c = false) :
    line.content = run ++ (text.rest offset).takeWhile fun c ↦ !isTerminator c := by
  obtain ⟨more, hcontent, hsplit⟩ := hin.exists_content_eq hrest hc
  have hplain : ∀ other ∈ c :: more, (!isTerminator other) = true := fun other hother ↦ by
    rw [line.content_plain other (hcontent ▸ List.mem_append_right run hother)]
    rfl
  have hends : ∀ other ∈ (line.ending ++ rest).head?, ¬ (!isTerminator other) = true :=
    fun other hother ↦ by
    rw [hin.terminator_of_mem_head? hother]
    exact Bool.false_ne_true
  rw [hcontent, hsplit, takeWhile_append_eq hplain hends]

/-- The text from where the line starts to the boundary precedes it. -/
theorem slice_eq : text.slice start offset = run := by
  rw [hin.offset_eq]
  exact Text.slice_of_rest_eq hin.rest_start_eq

/-- In a terminator, and where the text ends, the content of the line is over. -/
theorem content_isPrefix (hends : ∀ c ∈ (text.rest offset).head?, isTerminator c = true) :
    line.content <+: run := by
  rcases List.append_eq_append_iff.mp hin.chars_eq with ⟨inner, rfl, hending⟩
    | ⟨inner, hcontent, rfl⟩
  · exact List.prefix_append line.content inner
  · cases inner with
    | nil => rw [hcontent, List.append_nil]
    | cons first more =>
      have hplain := line.content_plain first
        (by rw [hcontent]; exact List.mem_append_right run List.mem_cons_self)
      rw [hends first (by rw [hin.rest_eq]; rfl)] at hplain
      cases hplain

end LineIndex.InLine

namespace FailureReport

variable {text : Text} {offset : Nat}

/-- The parts of a report at a boundary of the text. -/
theorem ofText_eq (hoffset : text.IsBoundary offset) (message : String) (fatal : Bool) :
    (ofText text offset message fatal).place = (LineIndex.ofText text).lineCol offset ∧
      (ofText text offset message fatal).lineText = (LineIndex.ofText text).lineText offset := by
  simp only [ofText, Nat.min_eq_left hoffset.le_size, and_self]

/-- A report at a boundary of a text points at the character there. If it ends no line, it is the
one in the column of the report, and the marker stands between what precedes it in its line and what
follows. In a terminator, and where the text ends, the marker stands at the end of the line. The
caret stands in the same column. -/
theorem marks_place (hoffset : text.IsBoundary offset) (message : String) (fatal : Bool) :
    let report := ofText text offset message fatal
    (∀ c further, text.rest offset = c :: further → isTerminator c = false →
      report.lineText[report.place.column - 1]? = some c ∧
        ∃ start, (LineIndex.ofText text).start? (report.place.line - 1) = some start ∧
          start ≤ offset ∧ (∀ other ∈ text.slice start offset, isTerminator other = false) ∧
          report.markedLine = String.ofList (text.slice start offset ++ ['>', '!', '<'] ++
            (text.rest offset).takeWhile fun c ↦ !isTerminator c)) ∧
      ((∀ c ∈ (text.rest offset).head?, isTerminator c = true) →
        report.markedLine = String.ofList (report.lineText ++ ['>', '!', '<'])) ∧
      ∃ indent, caretLine report.lineText report.place.column = indent ++ ['^'] ∧
        indent.length + 1 = report.place.column ∧ ∀ c ∈ indent, c = ' ' ∨ c = '\t' := by
  intro report
  obtain ⟨start, line, rest, run, after, hin⟩ := LineIndex.exists_inLine hoffset
  have hplace : report.place = ⟨(LineIndex.ofText text).lineOf offset + 1, run.length + 1⟩ :=
    (ofText_eq hoffset message fatal).1.trans (hin.lineCol_eq hoffset)
  have hline : report.lineText = line.content :=
    (ofText_eq hoffset message fatal).2.trans (hin.hasLine.lineText_eq rfl)
  rw [markedLine, hplace, hline]
  refine ⟨fun c further hrest hc ↦ ?_, fun hends ↦ ?_, exists_caretLine_eq _ (Nat.succ_pos _)⟩
  · have hcontent := hin.content_eq hrest hc
    refine ⟨?_, start, hin.hasLine.start_eq, ?_, fun other hother ↦ ?_, ?_⟩
    · rw [hcontent, Nat.add_sub_cancel, List.getElem?_append_right (Nat.le_refl _),
        Nat.sub_self, hrest, List.takeWhile_cons, hc]
      rfl
    · rw [hin.offset_eq]
      exact Nat.le_add_right _ _
    · rw [hin.slice_eq] at hother
      exact line.content_plain other (hcontent ▸ List.mem_append_left _ hother)
    · rw [hcontent, markLine_append, hin.slice_eq]
  · have hle := (hin.content_isPrefix hends).length_le
    rw [markLine_of_length_lt (Nat.lt_succ_of_le hle)]

/-- A report at a wide character after a tab in the second line, and one inside the terminator of
the first line. -/
theorem marks_place_tabbed :
    let text := Text.ofChars ['a', '\r', '\n', '\t', 'é', '!', '\n']
    let inside := ofText text 4 "Expected integer" false
    let between := ofText text 2 "Expected integer" true
    text.IsBoundary 4 ∧ text.IsBoundary 2 ∧ inside.place = ⟨2, 2⟩ ∧
      inside.lineText = ['\t', 'é', '!'] ∧ inside.lineText[inside.place.column - 1]? = some 'é' ∧
      between.place = ⟨1, 3⟩ ∧ between.markedLine = String.ofList (['a'] ++ ['>', '!', '<']) := by
  intro text inside between
  have hinside : text.IsBoundary 4 := by decide
  have hbetween : text.IsBoundary 2 := by decide
  have hcharacter := (marks_place hinside "Expected integer" false).1 'é' ['!', '\n']
    (by decide) (by decide)
  have hrest : text.rest 2 = ['\n', '\t', 'é', '!', '\n'] := by decide
  have hline : between.lineText = ['a'] := by decide
  have hend : between.markedLine = String.ofList (['a'] ++ ['>', '!', '<']) := by
    rw [← hline]
    exact (marks_place hbetween "Expected integer" true).2.1 (by rw [hrest]; rintro _ ⟨⟩; rfl)
  exact ⟨hinside, hbetween, by decide, by decide, hcharacter.1, by decide, hend⟩

end FailureReport

end Packrat
