import Mathlib.Tactic.ByContra
import Packrat.Proofs.Text.Places

/-!
# Quoted strings, one character at a time

Inside the quotes a text can be read one character at a time: what stands at its head is an escaped
quote, the closing quote, an escaped character, a newline or a plain character, and is looked for in
this order (`Quoted.sign`). Reading goes from sign to sign up to the closing quote (`Quoted.read`).

The scanner runs ahead instead to the first byte with which a sign could start. A character that
does not start with such a byte is plain (`Quoted.sign_of_not_starts`), so that the scanner takes
the same steps (`Quoted.scanBody_of_sign`) and finds the same strings: at every boundary of a text
it ends where going through the text sign by sign ends, with the same string
(`Quoted.scan_eq_scanAt`).

All this is so unless the escaped quote is empty. Then it stands everywhere, the scanner goes round
for ever as soon as it stops anywhere (`Quoted.scan_eq_endless_iff`), and otherwise finds nothing.
To go round for ever is that no number of rounds is enough (`Quoted.scanBody_eq_endless_iff`).

A content is written by writing each of its characters so that it reads back as itself, between the
quotes (`Quoted.Encodes`). What is written so is read back, whatever follows it
(`Quoted.scan_of_encodes`).
-/

set_option autoImplicit false
set_option relaxedAutoImplicit false

namespace Packrat

namespace Quoted

/-! ### Signs -/

/-- What stands at the head of a text inside the quotes. -/
inductive Sign where
  /-- Characters that stand for a part of the content. -/
  | standsFor (taken content : List Char)
  /-- The closing quote. -/
  | closes
  /-- Nothing with which the string could go on. -/
  | refused
deriving DecidableEq, Repr

/-- The sign of an escape character, by what follows it. -/
def escapeSign (c : Char) : List Char → Sign
  | [] => .refused
  | next :: _ => .standsFor [c, next] [unescape next]

/-- The sign at the head of a text. -/
def sign (quoted : Quoted) : List Char → Sign
  | [] => .refused
  | c :: rest =>
    if quoted.atEscapedQuote (c :: rest) = true then
      .standsFor (quoted.escapedQuote.getD []) quoted.closing
    else if quoted.closing <+: c :: rest then .closes
    else if quoted.escape = some c then escapeSign c rest
    else if c = '\n' ∧ ¬ quoted.multiline then .refused
    else .standsFor [c] [c]

variable {quoted : Quoted} {c : Char} {chars rest more taken content : List Char}

/-- Where an escaped quote stands is where it is an initial part of the text. -/
theorem atEscapedQuote_iff :
    quoted.atEscapedQuote chars = true ↔
      ∃ sequence, quoted.escapedQuote = some sequence ∧ sequence <+: chars := by
  simp [atEscapedQuote, Option.any_eq_true, List.isPrefixOf_iff_prefix]

/-- A sign that stands for a part of the content is the escaped quote, an escape character with the
one after it, or a plain character. -/
inductive Stands (quoted : Quoted) : List Char → List Char → Prop
  | escapedQuote {sequence : List Char} (hsequence : quoted.escapedQuote = some sequence) :
    Stands quoted sequence quoted.closing
  | escaped {c next : Char} (hescape : quoted.escape = some c) :
      Stands quoted [c, next] [unescape next]
  | plain {c : Char} (hescape : quoted.escape ≠ some c)
    (hline : c = '\n' → quoted.multiline = true) :
    Stands quoted [c] [c]

/-- A sign that stands for a part of the content takes characters of the text. -/
theorem stands_of_sign (hsign : quoted.sign chars = .standsFor taken content) :
    quoted.Stands taken content ∧ taken <+: chars := by
  cases chars with
  | nil => cases hsign
  | cons c rest =>
    rw [sign] at hsign
    split_ifs at hsign with hescaped hcloses hescape hline
    · obtain ⟨sequence, hsequence, hinitial⟩ := atEscapedQuote_iff.mp hescaped
      obtain ⟨rfl, rfl⟩ := Sign.standsFor.inj hsign
      rw [hsequence, Option.getD_some]
      exact ⟨.escapedQuote hsequence, hinitial⟩
    · cases rest with
      | nil => cases hsign
      | cons next more =>
        obtain ⟨rfl, rfl⟩ := Sign.standsFor.inj hsign
        exact ⟨.escaped hescape, more, rfl⟩
    · obtain ⟨rfl, rfl⟩ := Sign.standsFor.inj hsign
      refine ⟨.plain hescape fun hnewline ↦ ?_, rest, rfl⟩
      by_contra hsingle
      exact hline ⟨hnewline, hsingle⟩

/-- What stands for a part of the content is not empty, unless the escaped quote is. -/
theorem Stands.ne_nil (hstands : quoted.Stands taken content)
    (hescaped : quoted.escapedQuote ≠ some []) :
    taken ≠ [] := by
  cases hstands with
  | escapedQuote hsequence =>
    rintro rfl
    exact hescaped hsequence
  | escaped _ => exact List.cons_ne_nil _ _
  | plain _ _ => exact List.cons_ne_nil _ _

theorem closing_isPrefix_of_sign (hsign : quoted.sign chars = .closes) :
    quoted.closing <+: chars := by
  cases chars with
  | nil => cases hsign
  | cons c rest =>
    rw [sign] at hsign
    split_ifs at hsign with hescaped hcloses hescape hline
    · exact hcloses
    · cases rest with
      | nil => cases hsign
      | cons next more => cases hsign

/-- What follows a sign that takes something is shorter. -/
theorem length_drop_lt_of_sign (hsign : quoted.sign chars = .standsFor taken content)
    (htaken : taken ≠ []) :
    (chars.drop taken.length).length < chars.length := by
  have hpositive := List.length_pos_iff.mpr htaken
  have hle := (stands_of_sign hsign).2.length_le
  rw [List.length_drop]
  omega

/-! ### Reading from sign to sign -/

/-- The characters up to the end of the closing quote, and the content that they stand for, in a
text that starts inside the quotes. -/
def read (quoted : Quoted) (chars : List Char) : Scan (List Char × List Char) :=
  match _hsign : quoted.sign chars with
  | .refused => .missing
  | .closes => .found (quoted.closing, [])
  | .standsFor taken content =>
    if _htaken : taken = [] then .endless
    else
      (quoted.read (chars.drop taken.length)).map fun found ↦ (taken ++ found.1, content ++ found.2)
termination_by chars.length
decreasing_by exact length_drop_lt_of_sign _hsign _htaken

/-- Where the string could not go on there is nothing to read. -/
theorem read_of_refused (hsign : quoted.sign chars = .refused) : quoted.read chars = .missing := by
  rw [read]
  split <;> simp_all

theorem read_of_closes (hsign : quoted.sign chars = .closes) :
    quoted.read chars = .found (quoted.closing, []) := by
  rw [read]
  split <;> simp_all

/-- A sign that stands for something is read before what follows it. -/
theorem read_of_standsFor (hsign : quoted.sign chars = .standsFor taken content)
    (htaken : taken ≠ []) :
    quoted.read chars =
      (quoted.read (chars.drop taken.length)).map fun found ↦
        (taken ++ found.1, content ++ found.2) := by
  rw [read]
  split <;> simp_all

/-- What is read is an initial part of the text. -/
theorem isPrefix_of_read {found : List Char × List Char}
    (hfound : quoted.read chars = .found found) :
    found.1 <+: chars := by
  fun_induction read quoted chars generalizing found with
  | case1 chars hsign => cases hfound
  | case2 chars hsign =>
    obtain rfl := Scan.found.inj hfound
    exact closing_isPrefix_of_sign hsign
  | case3 chars content hsign => cases hfound
  | case4 chars taken content hsign _ ih =>
    obtain ⟨inner, hinner, rfl⟩ := Scan.map_eq_found_iff.mp hfound
    exact append_isPrefix (stands_of_sign hsign).2 (ih hinner)

/-! ### Running ahead -/

theorem exists_leadByte (c : Char) : ∃ byte, leadByte? [c] = some byte := by
  have hpositive := c.utf8Size_pos
  rw [← String.length_utf8EncodeChar] at hpositive
  exact ⟨_, List.head?_eq_some_head (List.length_pos_iff.mp hpositive)⟩

/-- A character starts a sign if it is the first of a sequence whose first byte stops the
scanner. -/
theorem starts_of_isPrefix {sequence : List Char} (hnonempty : sequence ≠ [])
    (hinitial : sequence <+: c :: rest) (hstops : ∀ byte, leadByte? sequence = some byte →
      byte ∈ quoted.stops) : quoted.Starts c := by
  obtain ⟨byte, hbyte⟩ := exists_leadByte c
  cases sequence with
  | nil => exact absurd rfl hnonempty
  | cons first others =>
    obtain ⟨rfl, -⟩ := List.cons_prefix_cons.mp hinitial
    exact ⟨byte, hbyte, hstops byte hbyte⟩

theorem sign_of_not_starts (hclosing : quoted.closing ≠ [])
    (hescaped : quoted.escapedQuote ≠ some []) (hplain : ¬ quoted.Starts c) :
    quoted.sign (c :: rest) = .standsFor [c] [c] := by
  have hmem {byte : UInt8} : byte ∈ quoted.stops ↔ ((leadByte? quoted.closing = some byte ∨
      (∃ sequence, quoted.escapedQuote = some sequence ∧ leadByte? sequence = some byte)) ∨
      (∃ e, quoted.escape = some e ∧ leadByte? [e] = some byte)) ∨
      byte ∈ (if quoted.multiline then [] else (leadByte? ['\n']).toList) := by
    simp only [stops, List.mem_append, Option.mem_toList, Option.bind_eq_some_iff]
  rw [sign, if_neg, if_neg, if_neg, if_neg]
  · rintro ⟨rfl, hsingle⟩
    refine hplain (starts_of_isPrefix (List.cons_ne_nil _ _) (List.prefix_append ['\n'] rest)
      fun byte hbyte ↦ ?_)
    exact hmem.mpr (Or.inr (by rw [if_neg hsingle]; exact Option.mem_toList.mpr hbyte))
  · intro hescape
    refine hplain (starts_of_isPrefix (List.cons_ne_nil _ _) (List.prefix_append [c] rest)
      fun byte hbyte ↦ ?_)
    exact hmem.mpr (Or.inl (Or.inr ⟨c, hescape, hbyte⟩))
  · intro hinitial
    exact hplain (starts_of_isPrefix hclosing hinitial fun byte hbyte ↦
      hmem.mpr (Or.inl (Or.inl (Or.inl hbyte))))
  · intro hat
    obtain ⟨sequence, hsequence, hinitial⟩ := atEscapedQuote_iff.mp hat
    have hnonempty : sequence ≠ [] := by
      rintro rfl
      exact hescaped hsequence
    exact hplain (starts_of_isPrefix hnonempty hinitial fun byte hbyte ↦
      hmem.mpr (Or.inl (Or.inl (Or.inr ⟨sequence, hsequence, hbyte⟩))))

/-- A round at a place where the scanner stopped, when it ran over plain characters before. -/
def roundAt (quoted : Quoted) (plain chars : List Char) : Round :=
  match quoted.sign chars with
  | .refused => .done none
  | .closes => .done (some (plain, chars.drop quoted.closing.length))
  | .standsFor taken content => .more (plain ++ content) (chars.drop taken.length)

/-- The scanner runs ahead and then looks at the sign. -/
theorem round_eq (quoted : Quoted) (chars : List Char) :
    quoted.round chars =
      match firstStop quoted.stops chars with
      | none => .done none
      | some distance => quoted.roundAt (takeBytes distance chars) (dropBytes distance chars) := by
  rw [round]
  cases firstStop quoted.stops chars with
  | none => rfl
  | some distance =>
    simp only
    split
    next hdrop => rw [hdrop]; rfl
    next c rest hdrop =>
      rw [hdrop, roundAt, sign]
      simp only [List.isPrefixOf_iff_prefix]
      split_ifs with hescaped hcloses hescape hline
      · rfl
      · rfl
      · cases rest with
        | nil => rfl
        | cons next more => rfl
      · rfl
      · rfl

/-- A round that read some characters before. -/
def Round.after (plain : List Char) : Round → Round
  | .done found => .done (found.map (precede plain))
  | .more content rest => .more (plain ++ content) rest

/-- Running over a plain character leaves the round to what follows it. -/
theorem round_of_not_starts (hplain : ¬ quoted.Starts c) (rest : List Char) :
    quoted.round (c :: rest) = (quoted.round rest).after [c] := by
  rw [round_eq, round_eq, firstStop_of_not_starts hplain]
  cases firstStop quoted.stops rest with
  | none => rfl
  | some distance =>
    have hroom : c.utf8Size ≤ c.utf8Size + distance := Nat.le_add_right _ _
    simp only [Option.map_some, takeBytes, dropBytes, if_pos hroom,
      Nat.add_sub_cancel_left, roundAt]
    cases quoted.sign (dropBytes distance rest) <;> rfl

/-- Where the scanner stops at once, the round is what the sign says. -/
theorem round_of_starts (hstarts : quoted.Starts c) (rest : List Char) :
    quoted.round (c :: rest) = quoted.roundAt [] (c :: rest) := by
  have hpositive := c.utf8Size_pos
  rw [round_eq, firstStop_of_starts hstarts]
  simp only [takeBytes, dropBytes]
  rw [if_neg (by omega), if_neg (by omega)]

theorem scanBody_of_done {found : Option (List Char × List Char)}
    (hround : quoted.round chars = .done found) :
    quoted.scanBody chars = .ofOption found := by
  rw [scanBody, hround]

/-- After a round that gets on comes the next one. -/
theorem scanBody_of_more (hround : quoted.round chars = .more content rest)
    (hshorter : rest.length < chars.length) :
    quoted.scanBody chars = (quoted.scanBody rest).map (precede content) := by
  rw [scanBody, hround]
  simp only [if_pos hshorter]

/-- A round that does not get on ends where it began. -/
theorem eq_of_round_of_not_lt (hround : quoted.round chars = .more content rest)
    (hstuck : ¬ rest.length < chars.length) : rest = chars := by
  have hsuffix : rest <:+ chars := isSuffix_of_left (by rw [hround]; rfl)
  exact hsuffix.eq_of_length_le (Nat.le_of_not_lt hstuck)

/-- A round that ends where it began is gone through for ever. -/
theorem scanBody_of_stuck (hround : quoted.round chars = .more content chars) :
    quoted.scanBody chars = .endless := by
  rw [scanBody, hround]
  simp only [Nat.lt_irrefl, if_false]

/-- Running over a plain character comes to the same as looking at it. -/
theorem scanBody_of_not_starts (hplain : ¬ quoted.Starts c) (rest : List Char) :
    quoted.scanBody (c :: rest) = (quoted.scanBody rest).map (precede [c]) := by
  have hround := round_of_not_starts hplain rest
  cases hinner : quoted.round rest with
  | done found =>
    rw [hinner] at hround
    rw [scanBody_of_done hround, scanBody_of_done hinner, Scan.map_ofOption]
  | more content left =>
    rw [hinner] at hround
    have hle : left.length ≤ rest.length := (isSuffix_of_left (by rw [hinner]; rfl)).length_le
    rw [scanBody_of_more hround (Nat.lt_succ_of_le hle)]
    by_cases hshorter : left.length < rest.length
    · rw [scanBody_of_more hinner hshorter, Scan.map_map]
      rfl
    · obtain rfl := eq_of_round_of_not_lt hinner hshorter
      rw [scanBody_of_stuck hinner]
      rfl

/-- The scanner takes the step that the sign at the head of the text says, whether it runs ahead or
not. -/
theorem scanBody_of_sign (hclosing : quoted.closing ≠ []) (hescaped : quoted.escapedQuote ≠ some [])
    (chars : List Char) :
    quoted.scanBody chars =
      match quoted.sign chars with
      | .refused => .missing
      | .closes => .found ([], chars.drop quoted.closing.length)
      | .standsFor taken content => (quoted.scanBody (chars.drop taken.length)).map
          (precede content) := by
  cases chars with
  | nil => exact scanBody_of_done (quoted.round_eq [])
  | cons c rest =>
    by_cases hstarts : quoted.Starts c
    · have hround := round_of_starts hstarts rest
      rw [roundAt] at hround
      cases hsign : quoted.sign (c :: rest) with
      | refused => exact scanBody_of_done (by rw [hround, hsign])
      | closes => exact scanBody_of_done (by rw [hround, hsign])
      | standsFor taken content =>
        have htaken := (stands_of_sign hsign).1.ne_nil hescaped
        exact scanBody_of_more (by rw [hround, hsign]; rfl) (length_drop_lt_of_sign hsign htaken)
    · rw [scanBody_of_not_starts hstarts, sign_of_not_starts hclosing hescaped hstarts]
      rfl

/-- The scanner finds the content that is read from sign to sign. -/
theorem scanBody_eq_read (hclosing : quoted.closing ≠ []) (hescaped : quoted.escapedQuote ≠ some [])
    (chars : List Char) :
    quoted.scanBody chars = (quoted.read chars).map fun found ↦
      (found.2, chars.drop found.1.length) := by
  fun_induction read quoted chars with
  | case1 chars hsign => rw [scanBody_of_sign hclosing hescaped, hsign]; rfl
  | case2 chars hsign => rw [scanBody_of_sign hclosing hescaped, hsign]; rfl
  | case3 chars content hsign => exact absurd rfl ((stands_of_sign hsign).1.ne_nil hescaped)
  | case4 chars taken content hsign _ ih =>
    rw [scanBody_of_sign hclosing hescaped, hsign]
    simp only [ih, Scan.map_map]
    congr 1
    funext found
    simp only [Function.comp_apply, precede, List.drop_drop, List.length_append]

/-! ### Going round for ever -/

/-- The rounds of the scanner, broken off after a number of them. -/
def scanWithin (quoted : Quoted) : Nat → List Char → Option (Option (List Char × List Char))
  | 0, _ => none
  | rounds + 1, chars =>
    match quoted.round chars with
    | .done found => some found
    | .more content rest => (quoted.scanWithin rounds rest).map (Option.map (precede content))

/-- The scanner comes to an end with an outcome just if some number of rounds is enough for it. -/
theorem scanBody_eq_ofOption_iff {outcome : Option (List Char × List Char)} :
    quoted.scanBody chars = .ofOption outcome ↔ ∃ rounds,
      quoted.scanWithin rounds chars = some outcome := by
  constructor
  · intro hended
    fun_induction scanBody quoted chars generalizing outcome with
    | case1 chars found hround =>
      obtain rfl := Scan.ofOption_injective hended
      exact ⟨1, by rw [scanWithin, hround]⟩
    | case2 chars content rest hround _ ih =>
      obtain ⟨inner, hinner, rfl⟩ := Scan.map_eq_ofOption_iff.mp hended
      obtain ⟨rounds, hrounds⟩ := ih hinner
      exact ⟨rounds + 1, by rw [scanWithin, hround]; simp only [hrounds, Option.map_some]⟩
    | case3 chars content rest hround _ =>
      exact absurd hended.symm (Scan.ofOption_ne_endless outcome)
  · rintro ⟨rounds, hrounds⟩
    induction rounds generalizing chars outcome with
    | zero => cases hrounds
    | succ rounds ih =>
      rw [scanWithin] at hrounds
      cases hround : quoted.round chars with
      | done found =>
        rw [hround] at hrounds
        rw [scanBody_of_done hround, Option.some.inj hrounds]
      | more content rest =>
        rw [hround] at hrounds
        obtain ⟨inner, hinner, rfl⟩ := Option.map_eq_some_iff.mp hrounds
        have hended := ih hinner
        by_cases hshorter : rest.length < chars.length
        · rw [scanBody_of_more hround hshorter, hended, Scan.map_ofOption]
        · obtain rfl := eq_of_round_of_not_lt hround hshorter
          rw [scanBody_of_stuck hround] at hended
          exact absurd hended.symm (Scan.ofOption_ne_endless inner)

/-- The scanner goes round for ever just if no number of rounds is enough. -/
theorem scanBody_eq_endless_iff :
    quoted.scanBody chars = .endless ↔ ∀ rounds, quoted.scanWithin rounds chars = none := by
  constructor
  · intro hendless rounds
    cases hrounds : quoted.scanWithin rounds chars with
    | none => rfl
    | some outcome =>
      have hended := scanBody_eq_ofOption_iff.mpr ⟨rounds, hrounds⟩
      exact absurd (hended.symm.trans hendless) (Scan.ofOption_ne_endless outcome)
  · intro hnever
    have hnot (outcome : Option (List Char × List Char)) :
        quoted.scanBody chars ≠ .ofOption outcome := by
      intro hended
      obtain ⟨rounds, hrounds⟩ := scanBody_eq_ofOption_iff.mp hended
      cases (hnever rounds).symm.trans hrounds
    cases hscan : quoted.scanBody chars with
    | found value => exact absurd hscan (hnot (some value))
    | missing => exact absurd hscan (hnot none)
    | endless => rfl

/-- With an empty escaped quote the scanner goes round for ever as soon as it stops anywhere. -/
theorem scanBody_of_escapedQuote_nil (hescaped : quoted.escapedQuote = some [])
    (chars : List Char) :
    quoted.scanBody chars = if (firstStop quoted.stops chars).isSome then .endless
      else .missing := by
  induction chars with
  | nil => exact scanBody_of_done (quoted.round_eq [])
  | cons c rest ih =>
    by_cases hstarts : quoted.Starts c
    · have hsign : quoted.sign (c :: rest) = .standsFor [] quoted.closing := by
        rw [sign, atEscapedQuote, hescaped]
        rfl
      have hround : quoted.round (c :: rest) = .more quoted.closing (c :: rest) := by
        rw [round_of_starts hstarts, roundAt, hsign]
        rfl
      rw [scanBody_of_stuck hround, firstStop_of_starts hstarts]
      rfl
    · rw [scanBody_of_not_starts hstarts, ih, firstStop_of_not_starts hstarts, Option.isSome_map]
      split <;> rfl

/-- Reading comes to an end, unless the escaped quote is empty. -/
theorem read_ne_endless (hescaped : quoted.escapedQuote ≠ some []) (chars : List Char) :
    quoted.read chars ≠ .endless := by
  fun_induction read quoted chars with
  | case1 chars hsign => exact nofun
  | case2 chars hsign => exact nofun
  | case3 chars content hsign => exact absurd rfl ((stands_of_sign hsign).1.ne_nil hescaped)
  | case4 chars taken content hsign _ ih => rwa [ne_eq, Scan.map_eq_endless_iff]

/-- The quotes of a form, and a text that starts with the opening one. -/
theorem scan_eq_of_opening (hopening : quoted.opening ≠ []) (hclosing : quoted.closing ≠ [])
    (inside : List Char) :
    quoted.scan (quoted.opening ++ inside) =
      (quoted.scanBody inside).map fun found ↦
        let matched := (quoted.opening ++ inside).take
          ((quoted.opening ++ inside).length - found.2.length)
        (matched, if quoted.keepQuotes then matched else found.1) := by
  have hquotes : (quoted.opening.isEmpty || quoted.closing.isEmpty ||
      !quoted.opening.isPrefixOf (quoted.opening ++ inside)) = false := by
    rw [List.isEmpty_eq_false_iff.mpr hopening, List.isEmpty_eq_false_iff.mpr hclosing,
      List.isPrefixOf_iff_prefix.mpr (List.prefix_append quoted.opening inside)]
    rfl
  rw [scan, if_neg (Bool.eq_false_iff.mp hquotes), List.drop_left]

/-- There is no quoted string without the opening quote. -/
theorem scan_of_not_opening (hnone : ¬ quoted.opening <+: chars) :
    quoted.scan chars = .missing := by
  have hother : quoted.opening.isPrefixOf chars = false := by
    rw [Bool.eq_false_iff, ne_eq, List.isPrefixOf_iff_prefix]
    exact hnone
  rw [scan, hother, Bool.not_false, Bool.or_true, if_pos rfl]

theorem scan_of_quote_nil (hnone : quoted.opening = [] ∨ quoted.closing = []) :
    quoted.scan chars = .missing := by
  rw [scan, if_pos]
  rcases hnone with hnone | hnone <;> simp [hnone]

/-- The scan of a quoted string goes round for ever just if its escaped quote is empty, the opening
quote is there, and one of the bytes at which the scanner stops comes after it. -/
theorem scan_eq_endless_iff :
    quoted.scan chars = .endless ↔ quoted.opening ≠ [] ∧ quoted.closing ≠ [] ∧
      quoted.escapedQuote = some [] ∧ ∃ inside, chars = quoted.opening ++ inside ∧
        (firstStop quoted.stops inside).isSome = true := by
  by_cases hquotes : quoted.opening ≠ [] ∧ quoted.closing ≠ []
  · obtain ⟨hopening, hclosing⟩ := hquotes
    by_cases hinitial : quoted.opening <+: chars
    · obtain ⟨inside, rfl⟩ := hinitial
      rw [scan_eq_of_opening hopening hclosing, Scan.map_eq_endless_iff]
      by_cases hescaped : quoted.escapedQuote = some []
      · rw [scanBody_of_escapedQuote_nil hescaped]
        simp [hopening, hclosing, hescaped, Option.isSome_iff_ne_none]
      · rw [scanBody_eq_read hclosing hescaped, Scan.map_eq_endless_iff]
        simp [hescaped, read_ne_endless hescaped]
    · rw [scan_of_not_opening hinitial]
      refine iff_of_false nofun ?_
      rintro ⟨-, -, -, inside, rfl, -⟩
      exact hinitial (List.prefix_append _ _)
  · have hnone : quoted.opening = [] ∨ quoted.closing = [] := by
      rwa [ne_eq, ne_eq, not_and_or, not_not, not_not] at hquotes
    rw [scan_of_quote_nil hnone]
    exact iff_of_false nofun fun hboth ↦ hquotes ⟨hboth.1, hboth.2.1⟩

/-- With an empty escaped quote nothing is found. -/
theorem escapedQuote_ne_of_scan {found : List Char × List Char}
    (hfound : quoted.scan chars = .found found) :
    quoted.escapedQuote ≠ some [] := by
  intro hescaped
  rw [scan] at hfound
  split at hfound
  · cases hfound
  · obtain ⟨inner, hinner, -⟩ := Scan.map_eq_found_iff.mp hfound
    rw [scanBody_of_escapedQuote_nil hescaped] at hinner
    split at hinner <;> cases hinner

/-! ### Strings that are found -/

/-- The quoted string at the head of a text that starts with the opening quote. -/
theorem scan_of_opening (hopening : quoted.opening ≠ []) (hclosing : quoted.closing ≠ [])
    (hescaped : quoted.escapedQuote ≠ some []) (inside : List Char) :
    quoted.scan (quoted.opening ++ inside) =
      (quoted.read inside).map fun found ↦
        (quoted.opening ++ found.1, if quoted.keepQuotes then quoted.opening ++ found.1
          else found.2) := by
  rw [scan_eq_of_opening hopening hclosing, scanBody_eq_read hclosing hescaped, Scan.map_map]
  refine Scan.map_congr fun found hfound ↦ ?_
  obtain ⟨more, rfl⟩ := isPrefix_of_read hfound
  have hmatched : (quoted.opening ++ (found.1 ++ more)).take
      ((quoted.opening ++ (found.1 ++ more)).length -
        ((found.1 ++ more).drop found.1.length).length) = quoted.opening ++ found.1 := by
    rw [List.drop_left, ← List.append_assoc, List.length_append, Nat.add_sub_cancel, List.take_left]
  simp only [Function.comp_apply, hmatched]

/-! ### Going through a text -/

variable {text : Text} {offset : Nat}

/-- What a sign takes of a text ends further on inside the text. -/
theorem size_sub_lt_of_sign (hsign : quoted.sign (text.rest offset) = .standsFor taken content)
    (htaken : taken ≠ []) :
    text.size - (offset + byteLength taken) < text.size - offset := by
  have hpositive := byteLength_pos htaken
  have hinside := text.add_byteLength_le (stands_of_sign hsign).2
  omega

/-- Goes through a text from an offset inside the quotes, one sign after another, and collects the
content: where the closing quote ends, and the whole content. -/
def walk (quoted : Quoted) (text : Text) (offset : Nat) (collected : List Char) :
    Scan (Nat × List Char) :=
  match _hsign : quoted.sign (text.rest offset) with
  | .refused => .missing
  | .closes => .found (offset + byteLength quoted.closing, collected)
  | .standsFor taken content =>
    if _htaken : taken = [] then .endless
    else quoted.walk text (offset + byteLength taken) (collected ++ content)
termination_by text.size - offset
decreasing_by exact size_sub_lt_of_sign _hsign _htaken

/-- Where the quoted string at an offset ends, and the string that it yields, when every character
is looked at. -/
def scanAt (quoted : Quoted) (text : Text) (offset : Nat) : Scan (Nat × List Char) :=
  if quoted.opening <+: text.rest offset then
    (quoted.walk text (offset + byteLength quoted.opening) []).map fun found ↦
      (found.1, if quoted.keepQuotes then text.slice offset found.1 else found.2)
  else .missing

/-- Going through a text is reading what follows. -/
theorem walk_eq_read (hoffset : text.IsBoundary offset) (collected : List Char) :
    quoted.walk text offset collected =
      (quoted.read (text.rest offset)).map fun found ↦
        (offset + byteLength found.1, collected ++ found.2) := by
  fun_induction walk quoted text offset collected with
  | case1 offset collected hsign => rw [read_of_refused hsign, Scan.map_missing]
  | case2 offset collected hsign => rw [read_of_closes hsign, Scan.map_found, List.append_nil]
  | case3 offset collected content hsign =>
    rw [read]
    split <;> simp_all
  | case4 offset collected taken content hsign htaken ih =>
    obtain ⟨more, hmore⟩ := (stands_of_sign hsign).2
    have hrest : text.rest (offset + byteLength taken) = more := by
      have hat := hoffset.at
      rw [← hmore] at hat
      exact hat.advance.rest_eq
    rw [ih (hoffset.add_byteLength ⟨more, hmore⟩), read_of_standsFor hsign htaken, hrest,
      ← hmore, List.drop_left, Scan.map_map]
    congr 1
    funext found
    simp only [Function.comp_apply, byteLength_append, Nat.add_assoc, List.append_assoc]

/-- The scanner that runs ahead finds the same end and the same string at every boundary of a text
as the one that looks at every character. -/
theorem scan_eq_scanAt (hopening : quoted.opening ≠ []) (hclosing : quoted.closing ≠ [])
    (hescaped : quoted.escapedQuote ≠ some []) (hoffset : text.IsBoundary offset) :
    ((quoted.scan (text.rest offset)).map fun found ↦ (offset + byteLength found.1, found.2)) =
      quoted.scanAt text offset := by
  by_cases hinitial : quoted.opening <+: text.rest offset
  · obtain ⟨inside, hrest⟩ := hinitial
    have hat := hoffset.at
    rw [← hrest] at hat
    rw [scanAt, if_pos ⟨inside, hrest⟩, walk_eq_read hat.advance.isBoundary,
      hat.advance.rest_eq, ← hrest, scan_of_opening hopening hclosing hescaped,
      Scan.map_map, Scan.map_map]
    refine Scan.map_congr fun found hfound ↦ ?_
    obtain ⟨more, rfl⟩ := isPrefix_of_read hfound
    have hslice : text.slice offset (offset + byteLength quoted.opening + byteLength found.1) =
        quoted.opening ++ found.1 := by
      rw [← List.append_assoc] at hrest
      rw [Nat.add_assoc, ← byteLength_append]
      exact Text.slice_of_rest_eq hrest.symm
    simp only [Function.comp_apply, byteLength_append, ← Nat.add_assoc, hslice, List.nil_append]
  · rw [scan_of_not_opening hinitial, scanAt, if_neg hinitial, Scan.map_missing]

/-- A pound sign starts with the same byte as a closing guillemet, and an escaped one does not
close. -/
theorem scan_eq_scanAt_guillemets :
    let quoted : Quoted := { opening := ['«'], closing := ['»'], escape := some '\\' }
    let text := Text.ofChars ['x', '«', '£', '\\', '»', '»', '»']
    quoted.opening ≠ [] ∧ quoted.closing ≠ [] ∧ quoted.escapedQuote ≠ some [] ∧ text.IsBoundary 1 ∧
      quoted.scan (text.rest 1) = .found (['«', '£', '\\', '»', '»'], ['£', '»']) ∧
      quoted.scanAt text 1 = .found (10, ['£', '»']) := by
  intro quoted text
  have hscan : quoted.scan (text.rest 1) = .found (['«', '£', '\\', '»', '»'], ['£', '»']) := by
    decide +kernel
  have hsame : _ = quoted.scanAt text 1 :=
    scan_eq_scanAt (by decide) (by decide) (by decide) (by decide)
  rw [hscan] at hsame
  exact ⟨by decide, by decide, by decide, by decide, hscan, hsame.symm⟩

/-! ### Writing -/

/-- Writes a character of the content with an escape character before it if it is one itself or
starts the closing quote; a newline is written as an escaped letter. -/
def escapeChar (escape quote c : Char) : List Char :=
  if c = escape ∨ c = quote then [escape, c] else if c = '\n' then [escape, 'n'] else [c]

/-- Writes a character of the content, a quote twice. -/
def doubleChar (quote c : Char) : List Char := if c = quote then [quote, quote] else [c]

/-- Characters that an escape character turns into others. -/
def escapeLetters : List Char := ['t', 'n', 'r', 'f']

/-- Ways to write a content as a quoted string that certain characters follow: with an escape
character, or between quotes that are doubled inside. -/
inductive Encodes (quoted : Quoted) (content more : List Char) : List Char → Prop
  | escaping {escape quote : Char} {others : List Char} (hescape : quoted.escape = some escape)
    (hplain : quoted.escapedQuote = none) (hclosing : quoted.closing = quote :: others)
    (hne : escape ≠ quote) (hletter : escape ∉ escapeLetters) (hother : quote ∉ escapeLetters) :
    Encodes quoted content more (quoted.opening ++ content.flatMap (escapeChar escape quote) ++
      quoted.closing)
  | doubling {quote : Char} (hopening : quoted.opening = [quote])
    (hclosing : quoted.closing = [quote]) (hescaped : quoted.escapedQuote = some [quote, quote])
    (hplain : quoted.escape = none) (hlines : '\n' ∈ content → quoted.multiline = true)
    (hmore : more.head? ≠ some quote) :
    Encodes quoted content more (quoted.opening ++ content.flatMap (doubleChar quote) ++
      quoted.closing)

/-- A character other than the escape letters stands for itself after an escape character. -/
theorem unescape_of_not_mem (hc : c ∉ escapeLetters) : unescape c = c := by
  simp only [escapeLetters, List.mem_cons, List.not_mem_nil, not_or] at hc
  obtain ⟨ht, hn, hr, hf, -⟩ := hc
  rw [unescape, if_neg ht, if_neg hn, if_neg hr, if_neg hf]

/-- A content is read back when each of its characters is written as a sign that stands for it, and
the closing quote is found after them. -/
theorem read_flatMap {write : Char → List Char} (hnonempty : ∀ c ∈ content, write c ≠ [])
    (hwrite : ∀ c ∈ content, ∀ rest, quoted.sign (write c ++ rest) = .standsFor (write c) [c])
    (hcloses : quoted.sign (quoted.closing ++ more) = .closes) :
    quoted.read (content.flatMap write ++ (quoted.closing ++ more)) =
      .found (content.flatMap write ++ quoted.closing, content) := by
  induction content with
  | nil => exact read_of_closes hcloses
  | cons c others ih =>
    have hothers := ih (fun other hother ↦ hnonempty other (List.mem_cons_of_mem c hother))
      fun other hother ↦ hwrite other (List.mem_cons_of_mem c hother)
    rw [List.flatMap_cons, List.append_assoc,
      read_of_standsFor (hwrite c List.mem_cons_self _) (hnonempty c List.mem_cons_self),
      List.drop_left, hothers, Scan.map_found, List.append_assoc, List.singleton_append]

/-- Without an escaped quote, nothing at the head of a text is one. -/
theorem not_atEscapedQuote (hplain : quoted.escapedQuote = none) (chars : List Char) :
    ¬ quoted.atEscapedQuote chars = true := by
  rw [atEscapedQuote, hplain]
  exact Bool.false_ne_true

section

variable {escape quote : Char} {others : List Char}

/-- Text that starts otherwise does not start with the closing quote. -/
theorem not_closing_isPrefix (hclosing : quoted.closing = quote :: others) (hne : c ≠ quote)
    (rest : List Char) :
    ¬ quoted.closing <+: c :: rest := by
  rw [hclosing, List.cons_prefix_cons]
  exact fun hboth ↦ hne hboth.1.symm

/-- A character that has no meaning of its own is plain. -/
theorem sign_plain (hescaped : ¬ quoted.atEscapedQuote (c :: rest) = true)
    (hclosing : quoted.closing = quote :: others) (hne : c ≠ quote)
    (hescape : quoted.escape ≠ some c) (hline : c = '\n' → quoted.multiline = true) :
    quoted.sign (c :: rest) = .standsFor [c] [c] := by
  rw [sign, if_neg hescaped, if_neg (not_closing_isPrefix hclosing hne rest),
    if_neg hescape, if_neg]
  exact fun hnewline ↦ hnewline.2 (hline hnewline.1)

/-- The closing quote is found where no escaped quote stands. -/
theorem sign_closing (hclosing : quoted.closing = quote :: others)
    (hescaped : ¬ quoted.atEscapedQuote (quoted.closing ++ more) = true) :
    quoted.sign (quoted.closing ++ more) = .closes := by
  have hinitial : quoted.closing <+: quote :: (others ++ more) := by
    rw [hclosing]
    exact List.prefix_append (quote :: others) more
  rw [hclosing, List.cons_append] at hescaped ⊢
  rw [sign, if_neg hescaped, if_pos hinitial]

/-- What is written with an escape character stands for the character written. -/
theorem sign_escapeChar (hescape : quoted.escape = some escape)
    (hplain : quoted.escapedQuote = none) (hclosing : quoted.closing = quote :: others)
    (hne : escape ≠ quote) (hletter : escape ∉ escapeLetters) (hother : quote ∉ escapeLetters)
    (c : Char) (rest : List Char) :
    quoted.sign (escapeChar escape quote c ++ rest) =
      .standsFor (escapeChar escape quote c) [c] := by
  have hescaped (next : Char) :
      quoted.sign (escape :: next :: rest) = .standsFor [escape, next] [unescape next] := by
    rw [sign, if_neg (not_atEscapedQuote hplain _), if_neg (not_closing_isPrefix hclosing hne _),
      if_pos hescape, escapeSign]
  unfold escapeChar
  split_ifs with hmeant hline
  · have hself : unescape c = c := by
      rcases hmeant with rfl | rfl
      · exact unescape_of_not_mem hletter
      · exact unescape_of_not_mem hother
    rw [List.cons_append, List.cons_append, List.nil_append, hescaped c, hself]
  · rw [hline]
    exact hescaped 'n'
  · obtain ⟨hfirst, hsecond⟩ := not_or.mp hmeant
    exact sign_plain (not_atEscapedQuote hplain _) hclosing hsecond
      (fun hsame ↦ hfirst (Option.some.inj (hescape.symm.trans hsame)).symm) fun hnewline ↦
      absurd hnewline hline

/-- What is written with doubled quotes stands for the character written. -/
theorem sign_doubleChar (hclosing : quoted.closing = [quote])
    (hescaped : quoted.escapedQuote = some [quote, quote]) (hplain : quoted.escape = none)
    {c : Char} (hline : c = '\n' → quoted.multiline = true) (rest : List Char) :
    quoted.sign (doubleChar quote c ++ rest) = .standsFor (doubleChar quote c) [c] := by
  unfold doubleChar
  split_ifs with hquote
  · have hfound : quoted.atEscapedQuote (quote :: quote :: rest) = true := by
      rw [atEscapedQuote, hescaped]
      exact List.isPrefixOf_iff_prefix.mpr (List.prefix_append [quote, quote] rest)
    rw [List.cons_append, List.cons_append, List.nil_append, sign, if_pos hfound,
      hescaped, hclosing, hquote]
    rfl
  · refine sign_plain (fun hfound ↦ ?_) hclosing hquote (by rw [hplain]; exact nofun) hline
    obtain ⟨sequence, hsequence, hinitial⟩ := atEscapedQuote_iff.mp hfound
    obtain rfl := Option.some.inj (hescaped.symm.trans hsequence)
    exact hquote (List.cons_prefix_cons.mp hinitial).1.symm

end

/-- A content that is written as a quoted string is read back, with the whole of what was
written. -/
theorem scan_of_encodes (hopening : quoted.opening ≠ []) (hkeep : quoted.keepQuotes = false)
    {written : List Char} (hwritten : quoted.Encodes content more written) :
    quoted.scan (written ++ more) = .found (written, content) := by
  have hread {write : Char → List Char} (hclosing : quoted.closing ≠ [])
      (hescaped : quoted.escapedQuote ≠ some []) (hwrite : ∀ c ∈ content, ∀ rest,
        quoted.sign (write c ++ rest) = .standsFor (write c) [c])
      (hcloses : quoted.sign (quoted.closing ++ more) = .closes) :
      quoted.scan (quoted.opening ++ content.flatMap write ++ quoted.closing ++ more) =
        .found (quoted.opening ++ content.flatMap write ++ quoted.closing, content) := by
    have hnonempty (c : Char) (hc : c ∈ content) : write c ≠ [] :=
      (stands_of_sign (hwrite c hc [])).1.ne_nil hescaped
    simp only [List.append_assoc]
    rw [scan_of_opening hopening hclosing hescaped, read_flatMap hnonempty hwrite hcloses,
      Scan.map_found, hkeep]
    rfl
  cases hwritten with
  | escaping hescape hplain hclosing hne hletter hother =>
    exact hread (hclosing ▸ List.cons_ne_nil _ _) (by rw [hplain]; exact nofun)
      (fun c _ rest ↦ sign_escapeChar hescape hplain hclosing hne hletter hother c rest)
      (sign_closing hclosing (not_atEscapedQuote hplain _))
  | @doubling quote hopens hclosing hescaped hplain hlines hmore =>
    refine hread (hclosing ▸ List.cons_ne_nil _ _) (by rw [hescaped]; exact nofun)
      (fun c hc rest ↦ sign_doubleChar hclosing hescaped hplain
        (fun hline ↦ hlines (hline ▸ hc)) rest)
      (sign_closing hclosing fun hfound ↦ ?_)
    -- Two quotes in a row would need one more after the closing one.
    obtain ⟨sequence, hsequence, hinitial⟩ := atEscapedQuote_iff.mp hfound
    obtain rfl := Option.some.inj (hescaped.symm.trans hsequence)
    rw [hclosing, List.singleton_append] at hinitial
    obtain ⟨after, rfl⟩ := (List.cons_prefix_cons.mp hinitial).2
    exact hmore rfl

end Quoted

/-- Only the scan of a quoted string can go round for ever. -/
theorem Terminal.exists_of_scan_endless {terminal : Terminal} {before : Option Char}
    {chars : List Char} (hendless : terminal.scan before chars = .endless) :
    ∃ form, terminal = .quoted form ∧ form.scan chars = .endless := by
  cases terminal with
  | quoted form => exact ⟨form, rfl, Scan.map_eq_endless_iff.mp hendless⟩
  | _ => exact absurd hendless (Scan.ofOption_ne_endless _)

end Packrat
