import Mathlib.Tactic.SplitIfs
import Packrat.Grammar.Compile
import Packrat.Matching.Matcher

/-!
# What terminals take

A terminal takes an initial part of what follows in the text (`Terminal.scan_eq_found`), and so
does a regular expression (`CompiledRegex.scanRegex_eq_found`). An initial part of the rest of a
text ends inside the text, which bounds the offset that a match reaches (`Text.add_byteLength_le`,
`skipFrom_le`).

A terminal that is accepted when a grammar is compiled takes at least one character. Only an empty
string could take none, and it becomes the empty node.
-/

set_option autoImplicit false
set_option relaxedAutoImplicit false

namespace Packrat

/-! ### Offsets -/

theorem byteLength_le_of_prefix {first second : List Char} (hinitial : first <+: second) :
    byteLength first ≤ byteLength second := by
  obtain ⟨more, rfl⟩ := hinitial
  rw [byteLength_append]
  exact Nat.le_add_right _ _

theorem byteLength_pos {chars : List Char} (hchars : chars ≠ []) : 0 < byteLength chars := by
  have hlength := List.length_pos_iff.mpr hchars
  have hle := length_le_byteLength chars
  omega

/-- The entry of an offset splits the characters: the first of them end there and the others
follow. -/
theorem split_of_getElem? {before : Option Char} {chars : List Char} {offset : Nat}
    {boundary : Boundary} (hboundary : (boundaries before chars)[offset]? = some (some boundary)) :
    ∃ first, chars = first ++ boundary.after ∧ offset = byteLength first := by
  induction chars generalizing before offset with
  | nil =>
    cases offset with
    | zero =>
      simp only [boundaries, List.getElem?_cons_zero, Option.some.injEq] at hboundary
      exact ⟨[], by rw [← hboundary, List.nil_append], rfl⟩
    | succ offset => simp [boundaries] at hboundary
  | cons c rest ih =>
    cases offset with
    | zero =>
      simp only [boundaries, List.getElem?_cons_zero, Option.some.injEq] at hboundary
      exact ⟨[], by rw [← hboundary, List.nil_append], rfl⟩
    | succ offset =>
      have hpositive := c.utf8Size_pos
      simp only [boundaries, List.getElem?_cons_succ] at hboundary
      rw [List.getElem?_append] at hboundary
      split at hboundary
      next hinside =>
        rw [List.getElem?_replicate] at hboundary
        split at hboundary <;> cases hboundary
      next houtside =>
        obtain ⟨first, hsplit, hoffset⟩ := ih hboundary
        simp only [List.length_replicate, Nat.not_lt] at houtside hoffset
        refine ⟨c :: first, congrArg (c :: ·) hsplit, ?_⟩
        rw [byteLength_cons]
        omega

/-- An offset and the bytes after it make up the whole. -/
theorem add_byteLength_of_getElem? {before : Option Char} {chars : List Char} {offset : Nat}
    {boundary : Boundary} (hboundary : (boundaries before chars)[offset]? = some (some boundary)) :
    offset + byteLength boundary.after = byteLength chars := by
  obtain ⟨first, hsplit, rfl⟩ := split_of_getElem? hboundary
  rw [hsplit, byteLength_append]

namespace Text

/-- What follows an offset ends where the text ends. -/
theorem add_byteLength_rest_le (text : Text) (offset : Nat) :
    offset + byteLength (text.rest offset) ≤ max offset text.size := by
  unfold rest
  cases hboundary : text.boundary? offset with
  | none => exact Nat.le_max_left offset text.size
  | some boundary =>
    have htable : (boundaries none text.chars)[offset]? = some (some boundary) := by
      rw [boundary?, text.table_eq, Option.join_eq_some_iff] at hboundary
      simpa using hboundary
    have hwhole := add_byteLength_of_getElem? htable
    rw [← text.size_eq] at hwhole
    simp only
    omega

/-- What is taken of the text ends inside the text. -/
theorem add_byteLength_le (text : Text) {offset : Nat} {taken : List Char}
    (hinitial : taken <+: text.rest offset) : offset + byteLength taken ≤ max offset text.size := by
  have hle := byteLength_le_of_prefix hinitial
  have hrest := text.add_byteLength_rest_le offset
  omega

end Text

theorem le_skipFrom (skip : Option CharSet) (text : Text) (offset : Nat) :
    offset ≤ skipFrom skip text offset := by
  cases skip with
  | none => exact Nat.le_refl offset
  | some set => exact Nat.le_add_right offset _

theorem skipFrom_le (skip : Option CharSet) (text : Text) (offset : Nat) :
    skipFrom skip text offset ≤ max offset text.size := by
  cases skip with
  | none => exact Nat.le_max_left offset text.size
  | some set => exact text.add_byteLength_le (List.takeWhile_prefix set.contains)

/-! ### Strings -/

/-- A string in any case takes as many characters of the text as it has. -/
theorem caselessPrefix_eq_some {expected chars matched : List Char}
    (hmatched : caselessPrefix expected chars = some matched) :
    matched <+: chars ∧ matched.length = expected.length := by
  induction expected generalizing chars matched with
  | nil =>
    cases hmatched
    exact ⟨List.nil_prefix, rfl⟩
  | cons first more ih =>
    cases chars with
    | nil => cases hmatched
    | cons c rest =>
      unfold caselessPrefix at hmatched
      split at hmatched
      · obtain ⟨inner, hinner, rfl⟩ := Option.map_eq_some_iff.mp hmatched
        obtain ⟨hinitial, hlength⟩ := ih hinner
        exact ⟨List.cons_prefix_cons.mpr ⟨rfl, hinitial⟩, congrArg (· + 1) hlength⟩
      · cases hmatched

/-- A string takes as many characters of the text as it has. -/
theorem stringPrefix_eq_some {caseless : Bool} {expected chars matched : List Char}
    (hmatched : stringPrefix caseless expected chars = some matched) :
    matched <+: chars ∧ matched.length = expected.length := by
  unfold stringPrefix at hmatched
  split at hmatched
  · exact caselessPrefix_eq_some hmatched
  · split at hmatched
    next hinitial =>
      cases hmatched
      exact ⟨List.isPrefixOf_iff_prefix.mp hinitial, rfl⟩
    next => cases hmatched

theorem ne_nil_of_stringPrefix {caseless : Bool} {expected chars matched : List Char}
    (hexpected : expected ≠ []) (hmatched : stringPrefix caseless expected chars = some matched) :
    matched ≠ [] := by
  have hlength := (stringPrefix_eq_some hmatched).2
  rw [← List.length_pos_iff] at hexpected ⊢
  omega

/-! ### Words, quoted strings and numbers -/

/-- A word is an initial part of the text that is not empty. -/
theorem Word.scan_eq_some {word : Word} {before : Option Char} {chars matched : List Char}
    (hmatched : word.scan before chars = some matched) : matched <+: chars ∧ matched ≠ [] := by
  cases chars with
  | nil => cases hmatched
  | cons first rest =>
    have hrun (count : Nat) :
        (rest.takeWhile word.body.contains).take count <+: rest :=
      (List.take_prefix _ _).trans (List.takeWhile_prefix _)
    simp only [Word.scan] at hmatched
    cases hmost : word.most with
    | none =>
      simp only [hmost] at hmatched
      split_ifs at hmatched
      cases hmatched
      exact ⟨List.cons_prefix_cons.mpr ⟨rfl, List.takeWhile_prefix _⟩, List.cons_ne_nil _ _⟩
    | some most =>
      simp only [hmost] at hmatched
      split_ifs at hmatched
      cases hmatched
      exact ⟨List.cons_prefix_cons.mpr ⟨rfl, hrun _⟩, List.cons_ne_nil _ _⟩

/-- Every byte at which a quoted string stops is the first of a character. -/
theorem Quoted.isUTF8FirstByte_of_mem_stops {quoted : Quoted} {byte : UInt8}
    (hbyte : byte ∈ quoted.stops) : byte.IsUTF8FirstByte := by
  have hlead {chars : List Char} (hchars : leadByte? chars = some byte) : byte.IsUTF8FirstByte := by
    obtain ⟨c, -, hc⟩ := Option.bind_eq_some_iff.mp hchars
    obtain ⟨hpositive, rfl⟩ := List.getElem?_eq_some_iff.mp (List.head?_eq_getElem? .. ▸ hc)
    exact UInt8.isUTF8FirstByte_getElem_utf8EncodeChar.mpr rfl
  simp only [stops, List.mem_append, Option.mem_toList, Option.bind_eq_some_iff] at hbyte
  obtain ((hclosing | ⟨sequence, -, hescaped⟩) | ⟨c, -, hescape⟩) | hnewline := hbyte
  · exact hlead hclosing
  · exact hlead hescaped
  · exact hlead hescape
  · split at hnewline
    · exact nomatch hnewline
    · exact hlead (Option.mem_toList.mp hnewline)

/-- Something of meaning can start with a character if a quoted string stops at its first byte. -/
def Quoted.Starts (quoted : Quoted) (c : Char) : Prop := ∃ byte ∈ leadByte? [c], byte ∈ quoted.stops

/-- A quoted string stops at a character with which something of meaning can start. -/
theorem Quoted.firstStop_of_starts {quoted : Quoted} {c : Char} (hstarts : quoted.Starts c)
    (rest : List Char) :
    firstStop quoted.stops (c :: rest) = some 0 := by
  obtain ⟨byte, hbyte, hstop⟩ := hstarts
  have hfirst : (String.utf8EncodeChar c).head? = some byte := hbyte
  obtain ⟨others, hothers⟩ := List.head?_eq_some_iff.mp hfirst
  rw [firstStop, hothers, List.findIdx?_cons, if_pos (List.contains_iff_mem.mpr hstop)]

/-- A quoted string does not stop at another character, nor inside it. -/
theorem Quoted.firstStop_of_not_starts {quoted : Quoted} {c : Char} (hplain : ¬ quoted.Starts c)
    (rest : List Char) :
    firstStop quoted.stops (c :: rest) = (firstStop quoted.stops rest).map (c.utf8Size + ·) := by
  rw [firstStop]
  split
  next index hindex =>
    obtain ⟨hinside, hfound, -⟩ := List.findIdx?_eq_some_iff_getElem.mp hindex
    have hstop := List.contains_iff_mem.mp hfound
    have hzero : index = 0 :=
      UInt8.isUTF8FirstByte_getElem_utf8EncodeChar.mp (isUTF8FirstByte_of_mem_stops hstop)
    subst hzero
    exact absurd ⟨_, List.head?_eq_getElem?.trans (List.getElem?_eq_getElem hinside), hstop⟩ hplain
  next => rfl

/-- The distance to the first byte at which a quoted string stops is that to the start of a
character. -/
theorem Quoted.firstStop_eq_some {quoted : Quoted} {chars : List Char} :
    ∀ {distance : Nat}, firstStop quoted.stops chars = some distance →
      ∃ first second, chars = first ++ second ∧ second ≠ [] ∧ distance = byteLength first := by
  induction chars with
  | nil => exact fun hnone ↦ nomatch hnone
  | cons c rest ih =>
    intro distance hstop
    by_cases hstarts : quoted.Starts c
    · rw [firstStop_of_starts hstarts] at hstop
      exact ⟨[], c :: rest, rfl, List.cons_ne_nil c rest, (Option.some.inj hstop).symm⟩
    · rw [firstStop_of_not_starts hstarts] at hstop
      obtain ⟨more, hmore, rfl⟩ := Option.map_eq_some_iff.mp hstop
      obtain ⟨first, second, rfl, hsecond, rfl⟩ := ih hmore
      exact ⟨c :: first, second, rfl, hsecond, rfl⟩

/-- What is left of the text after a round, unless the attempt ends with it. -/
def Quoted.Round.left? : Quoted.Round → Option (List Char)
  | .done found => found.map Prod.snd
  | .more _ rest => some rest

/-- What a round leaves is an end part of the text. -/
theorem Quoted.isSuffix_of_left {quoted : Quoted} {chars left : List Char}
    (hleft : (quoted.round chars).left? = some left) :
    left <:+ chars := by
  unfold Quoted.round at hleft
  split at hleft
  next => cases hleft
  next distance _ =>
    have hdropped := dropBytes_suffix distance chars
    simp only at hleft
    split at hleft
    next => cases hleft
    next c rest hdrop =>
      rw [hdrop] at hdropped
      refine List.IsSuffix.trans ?_ hdropped
      split_ifs at hleft with hescaped hcloses hescape hline
      · exact Option.some.inj hleft ▸ List.drop_suffix _ _
      · exact Option.some.inj hleft ▸ List.drop_suffix _ _
      · cases rest with
        | nil => cases hleft
        | cons next others => exact Option.some.inj hleft ▸ List.suffix_append [c, next] others
      · cases hleft
      · exact Option.some.inj hleft ▸ List.suffix_cons c rest

/-- What follows a quoted string is an end part of the text. -/
theorem Quoted.isSuffix_of_scanBody {quoted : Quoted} {chars : List Char}
    {found : List Char × List Char} (hfound : quoted.scanBody chars = .found found) :
    found.2 <:+ chars := by
  fun_induction Quoted.scanBody quoted chars generalizing found with
  | case1 chars outcome hround =>
    have hleft : (quoted.round chars).left? = some found.2 := by
      rw [hround, Scan.ofOption_eq_found_iff.mp hfound]
      rfl
    exact isSuffix_of_left hleft
  | case2 chars content rest hround _ ih =>
    obtain ⟨inner, hinner, rfl⟩ := Scan.map_eq_found_iff.mp hfound
    have hleft : (quoted.round chars).left? = some rest := by
      rw [hround]
      rfl
    exact (ih hinner).trans (isSuffix_of_left hleft)
  | case3 chars content rest hround _ => cases hfound

/-- A quoted string is an initial part of the text that is not empty. -/
theorem Quoted.scan_eq_found {quoted : Quoted} {chars : List Char} {found : List Char × List Char}
    (hfound : quoted.scan chars = .found found) : found.1 <+: chars ∧ found.1 ≠ [] := by
  unfold Quoted.scan at hfound
  split at hfound
  next => cases hfound
  next hquotes =>
    simp only [Bool.or_eq_true, List.isEmpty_iff, Bool.not_eq_true', not_or] at hquotes
    obtain ⟨⟨hopening, -⟩, hinitial⟩ := hquotes
    obtain ⟨body, hbody, rfl⟩ := Scan.map_eq_found_iff.mp hfound
    have hle := (Quoted.isSuffix_of_scanBody hbody).length_le
    have hpositive := List.length_pos_iff.mpr hopening
    have hopens : quoted.opening <+: chars :=
      List.isPrefixOf_iff_prefix.mp (by simpa using hinitial)
    have hlength := hopens.length_le
    rw [List.length_drop] at hle
    refine ⟨List.take_prefix _ _, ?_⟩
    rw [← List.length_pos_iff, List.length_take]
    omega

/-- An initial part of a text, and one of what follows it, make up an initial part. -/
theorem append_isPrefix {first second chars : List Char} (hfirst : first <+: chars)
    (hsecond : second <+: chars.drop first.length) : first ++ second <+: chars := by
  obtain ⟨rest, rfl⟩ := hfirst
  rw [List.drop_left] at hsecond
  exact (List.prefix_append_right_inj first).mpr hsecond

namespace Numeral

theorem sign_isPrefix (kind : Numeral) (chars : List Char) : kind.sign chars <+: chars := by
  cases chars with
  | nil => exact List.nil_prefix
  | cons c rest =>
    simp only [sign]
    split_ifs
    · exact List.cons_prefix_cons.mpr ⟨rfl, List.nil_prefix⟩
    · exact List.nil_prefix

theorem fraction_isPrefix (afterDigits : Bool) (chars : List Char) :
    fraction afterDigits chars <+: chars := by
  unfold fraction
  split
  · simp only
    split_ifs
    · exact List.cons_prefix_cons.mpr ⟨rfl, List.takeWhile_prefix _⟩
    · exact List.nil_prefix
  · exact List.nil_prefix

theorem exponent_isPrefix (chars : List Char) : exponent chars <+: chars := by
  cases chars with
  | nil => exact List.nil_prefix
  | cons c rest =>
    simp only [exponent]
    split_ifs
    · exact List.nil_prefix
    · exact List.cons_prefix_cons.mpr
        ⟨rfl, append_isPrefix (sign_isPrefix .integer rest) (List.takeWhile_prefix _)⟩
    · exact List.nil_prefix

/-- A number is an initial part of the text that is not empty. -/
theorem scan_eq_some {kind : Numeral} {chars taken : List Char} {token : Token}
    (hscan : kind.scan chars = some (taken, token)) : taken <+: chars ∧ taken ≠ [] := by
  unfold scan at hscan
  extract_lets sign negative unsigned digits afterDigits fraction exponent matched float at hscan
  split at hscan
  next => cases hscan
  next hdigits =>
    have hsign : sign ++ digits <+: chars :=
      append_isPrefix (kind.sign_isPrefix chars) (List.takeWhile_prefix _)
    have hafter : chars.drop (sign ++ digits).length = afterDigits := by
      have hunsigned : digits ++ afterDigits = unsigned := List.takeWhile_append_dropWhile
      rw [List.length_append, ← List.drop_drop]
      change unsigned.drop digits.length = afterDigits
      rw [← hunsigned, List.drop_left]
    have hfraction : fraction <+: afterDigits := by
      simp only [fraction]
      split_ifs
      · exact fraction_isPrefix _ _
      · exact List.nil_prefix
    have hexponent : exponent <+: afterDigits.drop fraction.length := by
      simp only [exponent]
      split_ifs
      · exact exponent_isPrefix _
      · exact List.nil_prefix
    have hmatched : matched <+: chars := by
      refine append_isPrefix (append_isPrefix hsign (hafter ▸ hfraction)) ?_
      rw [List.length_append, ← List.drop_drop, hafter]
      exact hexponent
    have hnonempty : matched ≠ [] := by
      simp only [Bool.and_eq_true, List.isEmpty_iff] at hdigits
      intro hempty
      simp only [matched, List.append_eq_nil_iff] at hempty
      exact hdigits ⟨hempty.1.1.2, hempty.1.2⟩
    have htaken : matched = taken := by
      split at hscan
      · split at hscan
        · exact congrArg Prod.fst (Option.some.inj hscan)
        · split at hscan
          · exact congrArg Prod.fst (Option.some.inj hscan)
          · cases hscan
      · exact congrArg Prod.fst (Option.some.inj hscan)
    rw [← htaken]
    exact ⟨hmatched, hnonempty⟩

end Numeral

/-! ### Terminals and regular expressions -/

namespace Terminal

/-- A terminal is accepted when a grammar is compiled, and is no empty string. -/
def IsSound (terminal : Terminal) : Prop :=
  terminal ≠ .literal "" true ∧ terminal ≠ .literal "" false ∧ Compile.fault? terminal = none

/-- What a terminal takes is an initial part of the text, and not empty if the terminal is accepted
when a grammar is compiled. -/
theorem scan_eq_found {terminal : Terminal} {before : Option Char} {chars taken : List Char}
    {token : Token} (hscan : terminal.scan before chars = .found (taken, token)) :
    taken <+: chars ∧ (terminal.IsSound → taken ≠ []) := by
  cases terminal with
  | literal content caseless =>
    obtain ⟨matched, hmatched, hpair⟩ :=
      Option.map_eq_some_iff.mp (Scan.ofOption_eq_found_iff.mp hscan)
    cases hpair
    refine ⟨(stringPrefix_eq_some hmatched).1, fun hsound ↦ ne_nil_of_stringPrefix ?_ hmatched⟩
    intro hempty
    have hcontent : content = "" := String.toList_eq_nil_iff.mp hempty
    obtain ⟨htrue, hfalse, -⟩ := hsound
    cases caseless
    · exact hfalse (by rw [hcontent])
    · exact htrue (by rw [hcontent])
  | keyword content caseless identifierChars =>
    obtain ⟨matched, hmatched, htaken⟩ :=
      Option.bind_eq_some_iff.mp (Scan.ofOption_eq_found_iff.mp hscan)
    split at htaken
    next => cases htaken
    next =>
      cases htaken
      refine ⟨(stringPrefix_eq_some hmatched).1, fun hsound ↦ ne_nil_of_stringPrefix ?_ hmatched⟩
      intro hempty
      have hcontent : content = "" := String.toList_eq_nil_iff.mp hempty
      simp [IsSound, Compile.fault?, hcontent] at hsound
  | word form =>
    obtain ⟨matched, hmatched, hpair⟩ :=
      Option.map_eq_some_iff.mp (Scan.ofOption_eq_found_iff.mp hscan)
    cases hpair
    obtain ⟨hinitial, hnonempty⟩ := Word.scan_eq_some hmatched
    exact ⟨hinitial, fun _ ↦ hnonempty⟩
  | oneOf options caseless =>
    obtain ⟨option, hoption, hmatch⟩ :=
      List.exists_of_findSome?_eq_some (Scan.ofOption_eq_found_iff.mp hscan)
    obtain ⟨matched, hmatched, hpair⟩ := Option.map_eq_some_iff.mp hmatch
    cases hpair
    exact ⟨(stringPrefix_eq_some hmatched).1,
      fun _ ↦ ne_nil_of_stringPrefix (options.nonempty option hoption) hmatched⟩
  | quoted form =>
    obtain ⟨found, hfound, hpair⟩ := Scan.map_eq_found_iff.mp hscan
    cases hpair
    obtain ⟨hinitial, hnonempty⟩ := Quoted.scan_eq_found hfound
    exact ⟨hinitial, fun _ ↦ hnonempty⟩
  | numeral kind =>
    obtain ⟨hinitial, hnonempty⟩ := Numeral.scan_eq_some (Scan.ofOption_eq_found_iff.mp hscan)
    exact ⟨hinitial, fun _ ↦ hnonempty⟩

end Terminal

namespace CompiledRegex

/-- Where a regular expression takes nothing from a text, it matches the empty text. -/
def IsHonest (regex : CompiledRegex) : Prop :=
  ∀ chars found, regex.find? chars = some found → found.skipped ++ found.matched = [] →
    regex.matchesEmpty = true

/-- What a regular expression takes is an initial part of the text, and not empty if the expression
does not match the empty text, provided that it takes nothing only where it matches the empty
text. -/
theorem scanRegex_eq_found {regex : CompiledRegex} {before : Option Char} {chars taken : List Char}
    {token : Token} (hscan : Matcher.scanRegex regex before chars = .found (taken, token)) :
    taken <+: chars ∧ (regex.IsHonest → regex.matchesEmpty = false → taken ≠ []) := by
  obtain ⟨found, hfound, hpair⟩ := Option.map_eq_some_iff.mp (Scan.ofOption_eq_found_iff.mp hscan)
  cases hpair
  refine ⟨regex.isPrefix_of_find? hfound, fun hhonest hempty htaken ↦ ?_⟩
  rw [hhonest chars found hfound htaken] at hempty
  cases hempty

end CompiledRegex

end Packrat
