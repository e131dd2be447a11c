import Mathlib.Order.Nat
import Packrat.Regex.Parser

/-!
# Patterns inside a group

Around a pattern a group can be opened and closed again, so that a parenthesis stands after it. What
can be read of the pattern by itself is read alike then, and leaves the parenthesis behind whatever
is left of the pattern. Only the comments of a verbose pattern, which end with the line, can take
the parenthesis with them. `Enclosed` tells what is left in both cases, and `Carries` that a reader
goes on alike.

Here are the blanks and comments between the parts of a pattern, and what stands after a backslash
(`carries_readEscape`).
-/

set_option autoImplicit false
set_option relaxedAutoImplicit false

namespace Packrat

namespace Regex

/-! ### What is left of a pattern -/

/-- What is left of a pattern, and what is then left of it with a closing parenthesis after it. -/
inductive Enclosed : List Char → List Char → Prop
  /-- The parenthesis stands after what is left. -/
  | before (chars : List Char) : Enclosed chars (chars ++ [')'])
  /-- A comment has taken the parenthesis. -/
  | taken : Enclosed [] []

/-- What is dropped from the front of characters is none of the last one, if that is of another
kind. -/
theorem dropWhile_concat {p : Char → Bool} {last : Char} (hlast : p last = false)
    (chars : List Char) :
    (chars ++ [last]).dropWhile p = chars.dropWhile p ++ [last] := by
  induction chars with
  | nil => simp [hlast]
  | cons c rest ih =>
    by_cases hc : p c = true
    · simpa [hc] using ih
    · simp [hc]

/-- If some characters are left when those of one kind are dropped, the same are dropped when there
are more. -/
theorem dropWhile_append_of_eq_cons {p : Char → Bool} {c : Char} {chars rest : List Char}
    (hdropped : chars.dropWhile p = c :: rest) (more : List Char) :
    (chars ++ more).dropWhile p = c :: (rest ++ more) ∧
      (chars ++ more).takeWhile p = chars.takeWhile p := by
  induction chars with
  | nil => cases hdropped
  | cons d chars ih =>
    by_cases hd : p d = true
    · rw [List.dropWhile_cons_of_pos hd] at hdropped
      simpa [hd] using ih hdropped
    · rw [List.dropWhile_cons_of_neg hd] at hdropped
      cases hdropped
      simp [hd]

namespace Enclosed

variable {chars more : List Char} {c : Char}

/-- As long as something is left of the pattern, the parenthesis is there. -/
theorem eq_cons (henclosed : Enclosed (c :: chars) more) : more = c :: (chars ++ [')']) := by
  cases henclosed with
  | before => rfl

/-- A character that is next with the parenthesis, and is not the parenthesis, is next without
it. -/
theorem exists_of_cons (henclosed : Enclosed chars (c :: more)) (hc : c ≠ ')') :
    ∃ rest, chars = c :: rest ∧ Enclosed rest more := by
  cases chars with
  | nil =>
    cases henclosed with
    | before => exact absurd rfl hc
  | cons d rest =>
    obtain ⟨rfl, rfl⟩ := List.cons.inj henclosed.eq_cons
    exact ⟨rest, rfl, .before rest⟩

theorem exists_of_cons_cons {d : Char} (henclosed : Enclosed chars (c :: d :: more))
    (hc : c ≠ ')') (hd : d ≠ ')') :
    ∃ rest, chars = c :: d :: rest := by
  obtain ⟨inside, rfl, hinside⟩ := henclosed.exists_of_cons hc
  obtain ⟨rest, rfl, -⟩ := hinside.exists_of_cons hd
  exact ⟨rest, rfl⟩

/-- Where nothing is left with the parenthesis, nothing is left without it. -/
theorem eq_nil (henclosed : Enclosed chars []) : chars = [] := by
  cases chars with
  | nil => rfl
  | cons c rest => cases henclosed.eq_cons

theorem length_le (henclosed : Enclosed chars more) : chars.length ≤ more.length := by
  cases henclosed with
  | before => simp
  | taken => exact Nat.le_refl _

/-- Characters of one kind, not the parenthesis, are dropped alike. -/
theorem dropWhile {p : Char → Bool} (hp : p ')' = false) (henclosed : Enclosed chars more) :
    Enclosed (chars.dropWhile p) (more.dropWhile p) := by
  cases henclosed with
  | taken => exact .taken
  | before =>
    rw [dropWhile_concat hp]
    exact .before _

/-- The rest of a line is dropped alike. Without a newline in it the parenthesis goes, too. -/
theorem drop_line (chars : List Char) :
    Enclosed ((chars.dropWhile (· ≠ '\n')).drop 1)
      (((chars ++ [')']).dropWhile (· ≠ '\n')).drop 1) := by
  induction chars with
  | nil => exact .taken
  | cons c rest ih =>
    by_cases hc : c = '\n'
    · simpa [List.dropWhile_cons, hc] using before rest
    · simpa [List.dropWhile_cons, hc] using ih

end Enclosed

/-! ### Blanks and comments -/

theorem length_drop_line_le (chars : List Char) :
    ((chars.dropWhile (· ≠ '\n')).drop 1).length ≤ chars.length := by
  rw [List.length_drop]
  exact (Nat.sub_le _ _).trans (List.dropWhile_sublist _).length_le

/-- Blanks and comments are passed over alike. The induction is on the number of steps. -/
theorem enclosed_go : ∀ {steps further : Nat} {chars more : List Char}, Enclosed chars more →
    chars.length ≤ steps → more.length ≤ further →
      Enclosed (Switches.skip.go steps chars) (Switches.skip.go further more)
  | steps, further, [], more, henclosed, _, hfurther => by
    have hnone (steps : Nat) : Switches.skip.go steps [] = [] := by cases steps <;> rfl
    rw [hnone]
    cases henclosed with
    | taken =>
      rw [hnone]
      exact .taken
    | before =>
      cases further with
      | zero => cases hfurther
      | succ further => exact .before []
  | steps + 1, further, c :: rest, more, henclosed, hsteps, hfurther => by
    rw [henclosed.eq_cons] at hfurther ⊢
    cases further with
    | zero => cases hfurther
    | succ further =>
      rw [List.length_cons, Nat.add_le_add_iff_right] at hsteps hfurther
      rw [Switches.skip.go, Switches.skip.go]
      split
      · exact enclosed_go (.before rest) hsteps hfurther
      split
      · exact enclosed_go (.drop_line rest) ((length_drop_line_le _).trans hsteps)
          ((length_drop_line_le _).trans hfurther)
      · exact .before (c :: rest)

theorem length_go_le : ∀ (steps : Nat) (chars : List Char),
    (Switches.skip.go steps chars).length ≤ chars.length
  | 0, _ => Nat.le_refl _
  | _ + 1, [] => Nat.le_refl _
  | steps + 1, c :: rest => by
    rw [Switches.skip.go]
    split
    · exact (length_go_le steps rest).trans (Nat.le_succ _)
    split
    · exact ((length_go_le steps _).trans (length_drop_line_le rest)).trans (Nat.le_succ _)
    · exact Nat.le_refl _

/-- Passing over the blanks and comments at the front leaves no more. -/
theorem Switches.length_skip_le (switches : Switches) (chars : List Char) :
    (switches.skip chars).length ≤ chars.length := by
  unfold skip
  split
  · exact length_go_le _ _
  · exact Nat.le_refl _

theorem Enclosed.skip {chars more : List Char} (henclosed : Enclosed chars more)
    (switches : Switches) :
    Enclosed (switches.skip chars) (switches.skip more) := by
  unfold Switches.skip
  split
  · exact enclosed_go henclosed (Nat.le_refl _) (Nat.le_refl _)
  · exact henclosed

/-- Whether the next character is a certain one, neither a blank nor the mark of a comment, does not
depend on the parenthesis. -/
theorem Enclosed.peek_eq_some_iff {chars more : List Char} (henclosed : Enclosed chars more)
    (switches : Switches) {c : Char} (hblank : isBlank c = false) (hmark : c ≠ '#')
    (hparen : c ≠ ')') :
    switches.peek more = some c ↔ switches.peek chars = some c := by
  cases henclosed with
  | taken => rfl
  | before =>
    have hhead (hc : chars.head? = some c) : ∃ rest, chars.dropWhile isBlank = c :: rest := by
      cases chars with
      | nil => cases hc
      | cons d rest =>
        cases hc
        exact ⟨rest, by simp [hblank]⟩
    unfold Switches.peek
    split
    · rw [dropWhile_concat (by decide)]
      cases hdropped : chars.dropWhile isBlank with
      | nil =>
        refine iff_of_false (fun heq ↦ hparen (Option.some.inj heq).symm) fun heq ↦ ?_
        obtain ⟨rest, hrest⟩ := hhead heq
        cases hdropped.symm.trans hrest
      | cons d rest =>
        by_cases hd : d = '#'
        · subst hd
          simp only [List.cons_append, dropWhile_concat (show isBlank ')' = false by decide)]
          cases rest.dropWhile isBlank with
          | cons e after => rfl
          | nil =>
            refine iff_of_false (fun heq ↦ hparen (Option.some.inj heq).symm) fun heq ↦ ?_
            obtain ⟨after, hafter⟩ := hhead heq
            rw [hdropped] at hafter
            exact hmark (List.cons.inj hafter).1.symm
        · simp [hd]
    · cases chars <;> simp [hparen.symm]

/-! ### Readers -/

/-- What one reader reads of a pattern another one reads when a parenthesis stands after the
pattern, and leaves the parenthesis. -/
def Carries {α : Type} (read other : List Char → Option (α × List Char)) : Prop :=
  ∀ ⦃chars more : List Char⦄ ⦃value : α⦄ ⦃rest : List Char⦄, Enclosed chars more →
    read chars = some (value, rest) → ∃ left, other more = some (value, left) ∧ Enclosed rest left

section

variable {α β : Type} {read other : List Char → Option (α × List Char)}

/-- A reader that reads nothing, and gives a value that is made from another one, if there is
one. -/
theorem carries_bind_value (found : Option β) (make : β → α) :
    Carries (fun rest ↦ found.bind fun one ↦ some (make one, rest))
      fun rest ↦ found.bind fun one ↦ some (make one, rest) := by
  intro chars more value rest henclosed hread
  obtain ⟨one, rfl, hpair⟩ := Option.bind_eq_some_iff.mp hread
  cases hpair
  exact ⟨more, rfl, henclosed⟩

/-- A reader that reads nothing, and gives a value, or fails. -/
theorem carries_value (value : Option α) :
    Carries (fun rest ↦ value.map (·, rest)) fun rest ↦ value.map (·, rest) := by
  intro chars more found rest henclosed hread
  obtain ⟨_, rfl, hpair⟩ := Option.map_eq_some_iff.mp hread
  cases hpair
  exact ⟨more, rfl, henclosed⟩

theorem Carries.bind {next after : α → List Char → Option (β × List Char)}
    (hread : Carries read other) (hnext : ∀ value, Carries (next value) (after value)) :
    Carries (fun chars ↦ (read chars).bind fun found ↦ next found.1 found.2)
      fun chars ↦ (other chars).bind fun found ↦ after found.1 found.2 := by
  intro chars more value rest henclosed hboth
  obtain ⟨⟨first, middle⟩, hfirst, hsecond⟩ := Option.bind_eq_some_iff.mp hboth
  obtain ⟨left, hother, hleft⟩ := hread henclosed hfirst
  obtain ⟨last, hafter, hlast⟩ := hnext first hleft hsecond
  exact ⟨last, by simp only [hother, Option.bind_some, hafter], hlast⟩

/-- A reader that fails where nothing is left goes by the next character. -/
theorem carries_of_cons (hnone : read [] = none)
    (hcons : ∀ c, Carries (fun rest ↦ read (c :: rest)) fun rest ↦ other (c :: rest)) :
    Carries read other := by
  intro chars more value rest henclosed hread
  cases chars with
  | nil => cases hnone.symm.trans hread
  | cons c chars =>
    rw [henclosed.eq_cons]
    exact hcons c (.before chars) hread

end

/-! ### Escapes -/

theorem carries_readFixed (switches : Switches) : ∀ count : Nat,
    Carries (readFixed? switches count) (readFixed? switches count)
  | 0 => carries_value (some [])
  | count + 1 => by
    intro chars more value rest henclosed hread
    rw [readFixed?] at hread ⊢
    replace henclosed := henclosed.skip switches
    generalize switches.skip chars = passed at henclosed hread
    generalize switches.skip more = further at henclosed ⊢
    cases passed with
    | nil => cases hread
    | cons c passed =>
      rw [henclosed.eq_cons]
      obtain ⟨⟨digits, after⟩, hdigits, hpair⟩ := Option.map_eq_some_iff.mp hread
      cases hpair
      obtain ⟨left, hleft, hrest⟩ := carries_readFixed switches count (.before passed) hdigits
      exact ⟨left, by simp only [hleft, Option.map_some], hrest⟩

theorem carries_readBraced (switches : Switches) : ∀ {steps further : Nat}, steps ≤ further →
    Carries (readBraced? switches steps) (readBraced? switches further)
  | 0, _, _ => fun _ _ _ _ _ hread ↦ nomatch hread
  | steps + 1, further + 1, hle => by
    intro chars more value rest henclosed hread
    rw [readBraced?] at hread ⊢
    replace henclosed := henclosed.skip switches
    generalize switches.skip chars = passed at henclosed hread
    generalize switches.skip more = beyond at henclosed ⊢
    cases passed with
    | nil => cases hread
    | cons c passed =>
      rw [henclosed.eq_cons]
      by_cases hc : c = '\x7d'
      · subst hc
        cases hread
        exact ⟨_, rfl, .before _⟩
      · simp only at hread ⊢
        obtain ⟨⟨digits, after⟩, hdigits, hpair⟩ := Option.map_eq_some_iff.mp hread
        cases hpair
        obtain ⟨left, hleft, hrest⟩ :=
          carries_readBraced switches (Nat.le_of_succ_le_succ hle) (.before passed) hdigits
        exact ⟨left, by simp only [hleft, Option.map_some], hrest⟩

/-- What stands before a closing brace, which may be anywhere. -/
theorem carries_braced (switches : Switches) :
    Carries (fun rest ↦ readBraced? switches (rest.length + 1) rest)
      fun rest ↦ readBraced? switches (rest.length + 1) rest :=
  fun _ _ _ _ henclosed ↦ carries_readBraced switches
  (Nat.succ_le_succ henclosed.length_le) henclosed

theorem carries_readHex (switches : Switches) (count : Nat) :
    Carries (readHex? switches count) (readHex? switches count) := by
  intro chars more value rest henclosed hread
  unfold readHex? at hread ⊢
  replace henclosed := henclosed.skip switches
  generalize switches.skip chars = passed at henclosed hread
  generalize switches.skip more = further at henclosed ⊢
  split at hread
  next inside =>
    rw [henclosed.eq_cons]
    exact ((carries_braced switches).bind fun digits ↦
      carries_bind_value (hexChar? digits) (Escape.char · false)) (.before inside) hread
  next hplain =>
    split
    next =>
      obtain ⟨inside, rfl, -⟩ := henclosed.exists_of_cons (by decide)
      exact absurd rfl (hplain inside)
    next =>
      exact ((carries_readFixed switches count).bind fun digits ↦
        carries_bind_value (hexChar? digits) (Escape.char · (count == 2))) henclosed hread

theorem carries_readProperty (switches : Switches) (negated : Bool) :
    Carries (readProperty? switches negated) (readProperty? switches negated) := by
  have hfinish (found : CharClass) (negated : Bool) :
      Carries (fun rest ↦ if switches.wide = true then
          (switches.negate? negated (switches.fold found)).bind fun accepted ↦
          some (.charClass accepted, rest)
          else none)
        (fun rest ↦ if switches.wide = true then
          (switches.negate? negated (switches.fold found)).bind fun accepted ↦
          some (Escape.charClass accepted, rest)
          else none) := by
    split
    · exact carries_bind_value _ Escape.charClass
    · exact fun _ _ _ _ _ hread ↦ nomatch hread
  intro chars more value rest henclosed hread
  unfold readProperty? at hread ⊢
  replace henclosed := henclosed.skip switches
  generalize switches.skip chars = passed at henclosed hread
  generalize switches.skip more = further at henclosed ⊢
  simp only [Option.bind_eq_bind] at hread ⊢
  split at hread
  next => cases hread
  next inside =>
    rw [henclosed.eq_cons]
    obtain ⟨found, hname, hread⟩ := Option.bind_eq_some_iff.mp hread
    obtain ⟨left, hleft, hrest⟩ := carries_braced switches (.before inside) hname
    simp only [hleft, Option.bind_some]
    cases hsplit : splitProperty found.1 with
    | none =>
      simp only [hsplit] at hread ⊢
      obtain ⟨named, hnamed, hread⟩ := Option.bind_eq_some_iff.mp hread
      rw [hnamed]
      exact hfinish _ _ hrest hread
    | some parts =>
      simp only [hsplit] at hread ⊢
      obtain ⟨valued, hvalued, hread⟩ := Option.bind_eq_some_iff.mp hread
      rw [hvalued]
      exact hfinish _ _ hrest hread
  next c inside hletter =>
    rw [henclosed.eq_cons]
    obtain ⟨named, hnamed, hread⟩ := Option.bind_eq_some_iff.mp hread
    simp only [hnamed]
    exact hfinish _ _ (.before inside) hread

theorem carries_readWordLook (switches : Switches) :
    Carries (readWordLook? switches) (readWordLook? switches) := by
  have hplain : Carries (fun rest ↦ some (Escape.look (.wordBoundary !switches.wide), rest))
      fun rest ↦ some (.look (.wordBoundary !switches.wide), rest) := carries_value (some _)
  have hnamed : Carries
      (fun rest ↦ (readBraced? switches (rest.length + 1) rest).bind fun found ↦
        (wordLook? (!switches.wide) found.1).bind fun look ↦ some (Escape.look look, found.2))
      (fun rest ↦ (readBraced? switches (rest.length + 1) rest).bind fun found ↦
        (wordLook? (!switches.wide) found.1).bind fun look ↦ some (Escape.look look, found.2)) :=
    (carries_braced switches).bind fun name ↦ carries_bind_value (wordLook? _ name) Escape.look
  intro chars more value rest henclosed hread
  unfold readWordLook? at hread ⊢
  simp only at hread ⊢
  split at hread
  next inside =>
    rw [henclosed.eq_cons]
    have hskipped := (Enclosed.before inside).skip switches
    simp only at hread ⊢
    split at hread
    next => cases hread
    next c after heq =>
      rw [heq] at hskipped
      rw [hskipped.eq_cons]
      simp only at hread ⊢
      split at hread
      next hletter =>
        rw [if_pos hletter]
        exact hnamed (.before inside) hread
      next hletter =>
        rw [if_neg hletter]
        exact hplain (.before ('\x7b' :: inside)) hread
  next hother =>
    split
    next =>
      obtain ⟨inside, rfl, -⟩ := henclosed.exists_of_cons (by decide)
      exact absurd rfl (hother inside)
    next => exact hplain henclosed hread

/-- What a letter or sign after a backslash has to be followed by. -/
theorem readEscape_cons_cases (switches : Switches) (c : Char) :
    (∃ found : Option Escape, ∀ rest, readEscape? switches (c :: rest) = found.map (·, rest)) ∨
      (∃ negated, ∀ rest, readEscape? switches (c :: rest) = readProperty? switches negated rest) ∨
      (∃ count, ∀ rest, readEscape? switches (c :: rest) = readHex? switches count rest) ∨
      ∀ rest, readEscape? switches (c :: rest) = readWordLook? switches rest := by
  by_cases hp : c = 'p'
  · exact Or.inr (Or.inl ⟨false, fun rest ↦ by rw [hp]; rfl⟩)
  by_cases hP : c = 'P'
  · exact Or.inr (Or.inl ⟨true, fun rest ↦ by rw [hP]; rfl⟩)
  by_cases hx : c = 'x'
  · exact Or.inr (Or.inr (Or.inl ⟨2, fun rest ↦ by rw [hx]; rfl⟩))
  by_cases hu : c = 'u'
  · exact Or.inr (Or.inr (Or.inl ⟨4, fun rest ↦ by rw [hu]; rfl⟩))
  by_cases hU : c = 'U'
  · exact Or.inr (Or.inr (Or.inl ⟨8, fun rest ↦ by rw [hU]; rfl⟩))
  by_cases hb : c = 'b'
  · exact Or.inr (Or.inr (Or.inr fun rest ↦ by rw [hb]; rfl))
  refine Or.inl ⟨(readEscape? switches [c]).map Prod.fst, fun rest ↦ ?_⟩
  simp only [readEscape?]
  split <;> first | exact absurd rfl ‹_› | simp [Function.comp_def]

theorem carries_readEscape (switches : Switches) :
    Carries (readEscape? switches) (readEscape? switches) := by
  refine carries_of_cons rfl fun c ↦ ?_
  rcases readEscape_cons_cases switches c with ⟨found, heq⟩ | ⟨negated, heq⟩ | ⟨count, heq⟩
    | heq <;> simp only [heq]
  · exact carries_value found
  · exact carries_readProperty switches negated
  · exact carries_readHex switches count
  · exact carries_readWordLook switches

end Regex

end Packrat
