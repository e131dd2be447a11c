import Packrat.Proofs.Terminal.Quoted

/-!
# Newlines in quoted strings

A quoted string that may not span lines ends its attempt at a newline. But what follows an escape
character is taken whatever it is, a newline too. So in the text that such a string takes every
newline follows an escape character (`Quoted.newlinesEscaped_of_scan`).

Whether a newline can be taken at all can be told from the form: it has an escape character of which
the sign is not hidden by a quote, and its closing quote is not hidden by the escaped one
(`Quoted.EscapesNewlines`). Of the other forms no text that is taken has a newline in it
(`Quoted.newline_not_mem_scan_iff`). A string between double quotes with a backslash as its escape
character spans lines (`Quoted.newline_mem_scan_continued`).
-/

set_option autoImplicit false
set_option relaxedAutoImplicit false

namespace Packrat

namespace Quoted

/-! ### Forms of one line -/

/-- A form that may not span lines, and has no newline in its quotes nor as its escape character. -/
structure OneLine (quoted : Quoted) : Prop where
  /-- The string may not span lines. -/
  single : quoted.multiline = false
  /-- There is no newline in the opening quote. -/
  opening : '\n' ∉ quoted.opening
  /-- There is no newline in the closing quote. -/
  closing : '\n' ∉ quoted.closing
  /-- There is no newline in the escaped quote. -/
  escapedQuote : ∀ sequence ∈ quoted.escapedQuote, '\n' ∉ sequence
  /-- The escape character is no newline. -/
  escape : quoted.escape ≠ some '\n'

/-- Every newline follows an escape character of the form. -/
def NewlinesEscaped (quoted : Quoted) (chars : List Char) : Prop :=
  ∀ before after, chars = before ++ '\n' :: after → ∃ escape, quoted.escape = some escape ∧
  [escape] <:+ before

/-- An escape character of the form can stand before a newline without being taken for a quote, and
the closing quote can be found without being taken for the escaped one. -/
structure EscapesNewlines (quoted : Quoted) : Prop where
  /-- There is an opening quote. -/
  opening : quoted.opening ≠ []
  /-- There is a closing quote. -/
  closing : quoted.closing ≠ []
  /-- The closing quote does not start with the escaped one, as it does with an empty one. -/
  closes : ∀ sequence ∈ quoted.escapedQuote, ¬ sequence <+: quoted.closing
  /-- There is an escape character, which is neither of the two quotes. -/
  escapes : ∃ escape, quoted.escape = some escape ∧ quoted.closing ≠ [escape] ∧
    quoted.escapedQuote ≠ some [escape]

variable {quoted : Quoted} {escape : Char} {chars rest first second taken content : List Char}
  {found : List Char × List Char}

/-! ### Where newlines are -/

/-- Where there is no newline every newline is escaped. -/
theorem newlinesEscaped_of_not_mem (hnone : '\n' ∉ chars) : quoted.NewlinesEscaped chars := by
  rintro before after rfl
  exact absurd (List.mem_append_right before List.mem_cons_self) hnone

/-- Newlines that are escaped in two parts are escaped in the whole. -/
theorem NewlinesEscaped.append (hfirst : quoted.NewlinesEscaped first)
    (hsecond : quoted.NewlinesEscaped second) :
    quoted.NewlinesEscaped (first ++ second) := by
  intro before after hsplit
  rcases List.append_eq_append_iff.mp hsplit with ⟨inner, rfl, hinner⟩ | ⟨inner, hinner, hrest⟩
  · obtain ⟨escape, hescape, hends⟩ := hsecond inner after hinner
    exact ⟨escape, hescape, hends.trans (List.suffix_append first inner)⟩
  · cases inner with
    | nil =>
      obtain ⟨escape, -, hends⟩ := hsecond [] after hrest.symm
      exact absurd (List.suffix_nil.mp hends) (List.cons_ne_nil escape [])
    | cons c others =>
      obtain ⟨rfl, -⟩ := List.cons.inj hrest
      exact hfirst before others hinner

/-- What stands for a part of the content has no newline in it, unless it is an escaped newline. -/
theorem Stands.newline_mem (hstands : quoted.Stands taken content) (hline : quoted.OneLine)
    (hmem : '\n' ∈ taken) :
    ∃ escape, quoted.escape = some escape ∧ taken = [escape, '\n'] := by
  cases hstands with
  | escapedQuote hsequence => exact absurd hmem (hline.escapedQuote _ hsequence)
  | @escaped c next hescape =>
    rcases List.mem_cons.mp hmem with rfl | hnext
    · exact absurd hescape hline.escape
    · exact ⟨c, hescape, by rw [List.mem_singleton.mp hnext]⟩
  | plain _ hmulti =>
    rw [hline.single] at hmulti
    exact absurd (hmulti (List.mem_singleton.mp hmem).symm) Bool.false_ne_true

/-- In what stands for a part of the content newlines are escaped. -/
theorem Stands.newlinesEscaped (hstands : quoted.Stands taken content) (hline : quoted.OneLine) :
    quoted.NewlinesEscaped taken := by
  by_cases hmem : '\n' ∈ taken
  · obtain ⟨escape, hescape, rfl⟩ := hstands.newline_mem hline hmem
    rintro (_ | ⟨c, _ | ⟨d, others⟩⟩) after hsplit
    · obtain ⟨rfl, -⟩ := List.cons.inj hsplit
      exact absurd hescape hline.escape
    · obtain ⟨rfl, -⟩ := List.cons.inj hsplit
      exact ⟨escape, hescape, List.suffix_refl _⟩
    · have hlength := congrArg List.length hsplit
      simp at hlength
  · exact newlinesEscaped_of_not_mem hmem

/-- In what is read up to the end of the closing quote newlines are escaped. -/
theorem newlinesEscaped_of_read (hline : quoted.OneLine)
    (hfound : quoted.read chars = .found found) :
    quoted.NewlinesEscaped found.1 := by
  fun_induction read quoted chars generalizing found with
  | case1 chars hsign => cases hfound
  | case2 chars hsign =>
    obtain rfl := Scan.found.inj hfound
    exact newlinesEscaped_of_not_mem hline.closing
  | case3 chars content hsign => cases hfound
  | case4 chars taken content hsign _ ih =>
    obtain ⟨inner, hinner, rfl⟩ := Scan.map_eq_found_iff.mp hfound
    exact ((stands_of_sign hsign).1.newlinesEscaped hline).append (ih hinner)

/-- A quoted string that is found was read after the opening quote. -/
theorem exists_read_of_scan (hfound : quoted.scan chars = .found found) :
    quoted.opening ≠ [] ∧ quoted.closing ≠ [] ∧
      ∃ inside inner, chars = quoted.opening ++ inside ∧ quoted.read inside = .found inner ∧
        found.1 = quoted.opening ++ inner.1 := by
  have hquotes : quoted.opening ≠ [] ∧ quoted.closing ≠ [] := by
    constructor <;>
    · intro hnone
      simp [scan, hnone] at hfound
  by_cases hinitial : quoted.opening <+: chars
  · obtain ⟨inside, rfl⟩ := hinitial
    have hescaped := escapedQuote_ne_of_scan hfound
    rw [scan_of_opening hquotes.1 hquotes.2 hescaped] at hfound
    obtain ⟨inner, hinner, rfl⟩ := Scan.map_eq_found_iff.mp hfound
    exact ⟨hquotes.1, hquotes.2, inside, inner, rfl, hinner, rfl⟩
  · rw [scan_of_not_opening hinitial] at hfound
    cases hfound

/-- In the text that a string of one line takes every newline follows an escape character. -/
theorem newlinesEscaped_of_scan (hline : quoted.OneLine)
    (hfound : quoted.scan chars = .found found) :
    quoted.NewlinesEscaped found.1 := by
  obtain ⟨-, -, inside, inner, -, hinner, htaken⟩ := exists_read_of_scan hfound
  rw [htaken]
  exact (newlinesEscaped_of_not_mem hline.opening).append (newlinesEscaped_of_read hline hinner)

/-! ### When newlines are taken -/

/-- Without newlines, what a text starts with ends before a newline in it. -/
theorem eq_nil_or_eq_singleton_of_isPrefix (hinitial : first <+: escape :: '\n' :: rest)
    (hnone : '\n' ∉ first) :
    first = [] ∨ first = [escape] := by
  rcases first with _ | ⟨c, _ | ⟨d, others⟩⟩
  · exact Or.inl rfl
  · obtain ⟨rfl, -⟩ := List.cons_prefix_cons.mp hinitial
    exact Or.inr rfl
  · obtain ⟨-, hmore⟩ := List.cons_prefix_cons.mp hinitial
    obtain ⟨rfl, -⟩ := List.cons_prefix_cons.mp hmore
    simp at hnone

/-- An escape character before a newline is taken with it just if it is neither of the two
quotes. -/
theorem exists_sign_escape_newline_iff (hline : quoted.OneLine) (hclosing : quoted.closing ≠ [])
    (hnonempty : quoted.escapedQuote ≠ some []) (hescape : quoted.escape = some escape)
    (rest : List Char) :
    (∃ content, quoted.sign (escape :: '\n' :: rest) = .standsFor [escape, '\n'] content) ↔
      quoted.closing ≠ [escape] ∧ quoted.escapedQuote ≠ some [escape] := by
  have hcloses : quoted.closing <+: escape :: '\n' :: rest ↔ quoted.closing = [escape] := by
    refine ⟨fun hinitial ↦ ?_, fun hsame ↦ hsame ▸ List.prefix_append [escape] _⟩
    exact (eq_nil_or_eq_singleton_of_isPrefix hinitial hline.closing).resolve_left hclosing
  have hescaped : quoted.atEscapedQuote (escape :: '\n' :: rest) = true ↔
      quoted.escapedQuote = some [escape] := by
    rw [atEscapedQuote_iff]
    constructor
    · rintro ⟨sequence, hsequence, hinitial⟩
      have hnone := hline.escapedQuote sequence hsequence
      rcases eq_nil_or_eq_singleton_of_isPrefix hinitial hnone with rfl | rfl
      · exact absurd hsequence hnonempty
      · exact hsequence
    · exact fun hsame ↦ ⟨[escape], hsame, List.prefix_append [escape] _⟩
  rw [ne_eq, ne_eq, ← hcloses, ← hescaped, sign]
  split_ifs with hsame hend
  · refine iff_of_false ?_ fun hother ↦ hother.2 hsame
    rintro ⟨content, htaken⟩
    rw [hescaped.mp hsame, Option.getD_some] at htaken
    exact absurd (List.cons.inj (Sign.standsFor.inj htaken).1).2 (List.cons_ne_nil _ _).symm
  · exact iff_of_false (by rintro ⟨_, ⟨⟩⟩) fun hother ↦ hother.1 hend
  · exact iff_of_true ⟨_, rfl⟩ ⟨hend, hsame⟩

/-- Where the closing quote is found it does not start with the escaped one. -/
theorem not_isPrefix_closing_of_sign (hsign : quoted.sign chars = .closes) :
    ∀ sequence ∈ quoted.escapedQuote, ¬ sequence <+: quoted.closing := by
  intro sequence hsequence hinitial
  have hescaped : quoted.atEscapedQuote chars = true :=
    atEscapedQuote_iff.mpr ⟨sequence, hsequence, hinitial.trans (closing_isPrefix_of_sign hsign)⟩
  cases chars with
  | nil => cases hsign
  | cons c rest =>
    rw [sign, if_pos hescaped] at hsign
    cases hsign

/-- The closing quote by itself is found if it does not start with the escaped one. -/
theorem sign_closing_self (hclosing : quoted.closing ≠ [])
    (hall : ∀ sequence ∈ quoted.escapedQuote, ¬ sequence <+: quoted.closing) :
    quoted.sign quoted.closing = .closes := by
  obtain ⟨quote, others, hquote⟩ := List.exists_cons_of_ne_nil hclosing
  have hnone : ¬ quoted.atEscapedQuote (quoted.closing ++ []) = true := by
    rw [List.append_nil, atEscapedQuote_iff]
    rintro ⟨sequence, hsequence, hinitial⟩
    exact hall sequence hsequence hinitial
  simpa only [List.append_nil] using sign_closing hquote hnone

/-- A string of one line that was read has the closing quote, and an escaped newline if it has a
newline in it. -/
theorem exists_signs_of_read (hline : quoted.OneLine) (hfound : quoted.read chars = .found found) :
    (∃ chars, quoted.sign chars = .closes) ∧
      ('\n' ∈ found.1 → ∃ escape rest content, quoted.escape = some escape ∧
        quoted.sign (escape :: '\n' :: rest) = .standsFor [escape, '\n'] content) := by
  fun_induction read quoted chars generalizing found with
  | case1 chars hsign => cases hfound
  | case2 chars hsign =>
    obtain rfl := Scan.found.inj hfound
    exact ⟨⟨chars, hsign⟩, fun hmem ↦ absurd hmem hline.closing⟩
  | case3 chars content hsign => cases hfound
  | case4 chars taken content hsign _ ih =>
    obtain ⟨inner, hinner, rfl⟩ := Scan.map_eq_found_iff.mp hfound
    obtain ⟨hcloses, hlater⟩ := ih hinner
    refine ⟨hcloses, fun hmem ↦ ?_⟩
    rcases List.mem_append.mp hmem with hhere | hthere
    · obtain ⟨hstands, more, rfl⟩ := stands_of_sign hsign
      obtain ⟨escape, hescape, rfl⟩ := hstands.newline_mem hline hhere
      exact ⟨escape, more, content, hescape, hsign⟩
    · exact hlater hthere

/-- A form of one line that takes a newline can escape newlines. -/
theorem escapesNewlines_of_scan (hline : quoted.OneLine) (hfound : quoted.scan chars = .found found)
    (hmem : '\n' ∈ found.1) : quoted.EscapesNewlines := by
  obtain ⟨hopening, hclosing, inside, inner, -, hinner, htaken⟩ := exists_read_of_scan hfound
  obtain ⟨⟨ended, hcloses⟩, hlater⟩ := exists_signs_of_read hline hinner
  rw [htaken, List.mem_append] at hmem
  obtain ⟨escape, rest, content, hescape, hsign⟩ := hlater (hmem.resolve_left hline.opening)
  exact ⟨hopening, hclosing, not_isPrefix_closing_of_sign hcloses, escape, hescape,
    (exists_sign_escape_newline_iff hline hclosing (escapedQuote_ne_of_scan hfound) hescape rest).mp
    ⟨content, hsign⟩⟩

/-- A form that can escape newlines takes one between its quotes. -/
theorem EscapesNewlines.exists_scan (hescapes : quoted.EscapesNewlines) (hline : quoted.OneLine) :
    ∃ chars found, quoted.scan chars = .found found ∧ '\n' ∈ found.1 := by
  have hnonempty : quoted.escapedQuote ≠ some [] :=
    fun hempty ↦ hescapes.closes [] hempty List.nil_prefix
  obtain ⟨escape, hescape, hneither⟩ := hescapes.escapes
  obtain ⟨content, hsign⟩ :=
    (exists_sign_escape_newline_iff hline hescapes.closing hnonempty hescape quoted.closing).mpr
    hneither
  have hread : quoted.read (escape :: '\n' :: quoted.closing) =
      .found (escape :: '\n' :: quoted.closing, content ++ []) := by
    rw [read_of_standsFor hsign (List.cons_ne_nil _ _)]
    change (quoted.read quoted.closing).map _ = _
    rw [read_of_closes (sign_closing_self hescapes.closing hescapes.closes)]
    rfl
  have hscan := scan_of_opening hescapes.opening hescapes.closing hnonempty
    (escape :: '\n' :: quoted.closing)
  rw [hread, Scan.map_found] at hscan
  exact ⟨_, _, hscan, by simp⟩

/-- In the text that a string of one line takes newlines are escaped, and there is a text with a
newline in it that is taken just if the form can escape newlines. -/
theorem newline_not_mem_scan_iff (hline : quoted.OneLine) :
    (∀ (text : Text) (offset : Nat) (found : List Char × List Char),
      quoted.scan (text.rest offset) = .found found → quoted.NewlinesEscaped found.1) ∧
    ((∀ (text : Text) (offset : Nat) (found : List Char × List Char),
      quoted.scan (text.rest offset) = .found found → '\n' ∉ found.1) ↔
        ¬ quoted.EscapesNewlines) := by
  refine ⟨fun text offset found hfound ↦ newlinesEscaped_of_scan hline hfound,
    fun hnone hescapes ↦ ?_, fun hnot text offset found hfound hmem ↦
    hnot (escapesNewlines_of_scan hline hfound hmem)⟩
  obtain ⟨chars, found, hfound, hmem⟩ := hescapes.exists_scan hline
  refine hnone (.ofChars chars) 0 found ?_ hmem
  rwa [(Text.at_start chars).rest_eq]

/-- A string of which the quotes are doubled inside takes no newline. -/
theorem newline_not_mem_scan_doubled :
    let quoted : Quoted := { opening := ['"'], closing := ['"'], escapedQuote := some ['"', '"'] }
    quoted.OneLine ∧ ¬ quoted.EscapesNewlines ∧
      ∀ (text : Text) (offset : Nat) (found : List Char × List Char),
        quoted.scan (text.rest offset) = .found found → '\n' ∉ found.1 := by
  intro quoted
  have hline : quoted.OneLine := ⟨rfl, by decide, by decide, by decide, by decide⟩
  have hnot : ¬ quoted.EscapesNewlines := fun hescapes ↦ nomatch hescapes.escapes
  exact ⟨hline, hnot, (newline_not_mem_scan_iff hline).2.mpr hnot⟩

/-- A backslash at the end of a line lets a string between double quotes go on in the next line. -/
theorem newline_mem_scan_continued :
    let quoted : Quoted := { opening := ['"'], closing := ['"'], escape := some '\\' }
    let text := Text.ofChars ['"', 'a', '\\', '\n', 'b', '"']
    quoted.OneLine ∧ quoted.scan (text.rest 0) = .found
      (['"', 'a', '\\', '\n', 'b', '"'], ['a', '\n', 'b']) ∧
        ¬ ∀ (text : Text) (offset : Nat) (found : List Char × List Char),
        quoted.scan (text.rest offset) = .found found → '\n' ∉ found.1 := by
  intro quoted text
  have hline : quoted.OneLine := ⟨rfl, by decide, by decide, by decide, by decide⟩
  have hscan : quoted.scan (text.rest 0) = .found
      (['"', 'a', '\\', '\n', 'b', '"'], ['a', '\n', 'b']) := by
    decide +kernel
  exact ⟨hline, hscan, fun hnone ↦ hnone text 0 _ hscan (by decide)⟩

end Quoted

end Packrat
