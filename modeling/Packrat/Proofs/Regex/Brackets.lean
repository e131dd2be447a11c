import Packrat.Proofs.Regex.Enclosing

/-!
# Bracketed classes inside a group

A bracketed class is read by looking ahead: whether a dash starts a range, whether a bracket and a
colon start the name of a class, and how many dashes come first. None of this looks at a parenthesis
after the pattern, as long as something of the pattern is left. So a class that is closed in the
pattern is read alike inside a group (`carries_readClass`).
-/

set_option autoImplicit false
set_option relaxedAutoImplicit false

namespace Packrat

namespace Regex

/-! ### Members and ranges -/

theorem carries_readMember (switches : Switches) :
    Carries (readMember? switches) (readMember? switches) := by
  refine carries_of_cons rfl fun c ↦ ?_
  by_cases hc : c = '\\'
  · subst hc
    exact carries_readEscape switches
  · have heq (rest : List Char) : readMember? switches (c :: rest) =
        some (.char c false, rest) := by
      unfold readMember?
      split
      next heq => cases heq
      next heq => exact absurd (List.cons.inj heq).1 hc
      next heq =>
        cases heq
        rfl
    simp only [heq]
    exact carries_value (some (Escape.char c false))

/-- What follows the dash of a range, if there is one. -/
def rangeEnd? (switches : Switches) : List Char → Option (List Char)
  | '-' :: more =>
    if switches.peek more = some ']' ∨ switches.peek more = some '-' then none
      else some (switches.skip more)
  | _ => none

/-- What is made of a member when the dash of a range may follow. -/
def afterMember? (switches : Switches) (first : Escape) (range : Option (List Char))
    (rest : List Char) :
    Option (CharClass × List Char) :=
  match range, first with
  | none, .char c _ => (switches.members? c c).bind fun found ↦ some (found, rest)
  | none, .charClass accepted => some (accepted, rest)
  | some more, .char low _ =>
    (readMember? switches more).bind fun found ↦
      match found with
      | (.char high _, rest) =>
        if low ≤ high then (switches.members? low high).bind
          fun accepted ↦ some (accepted, rest) else none
      | _ => none
  | _, _ => none

theorem readRange_eq (switches : Switches) (chars : List Char) :
    readRange? switches chars = (readMember? switches chars).bind fun found ↦
      afterMember? switches found.1 (rangeEnd? switches (switches.skip found.2))
        (switches.skip found.2) := by
  rfl

theorem rangeEnd_cases {chars more : List Char} (henclosed : Enclosed chars more)
    (switches : Switches) :
    (rangeEnd? switches chars = none ∧ rangeEnd? switches more = none) ∨
      ∃ after beyond, rangeEnd? switches chars = some after ∧
        rangeEnd? switches more = some beyond ∧
        Enclosed after beyond := by
  cases chars with
  | nil => cases henclosed <;> exact Or.inl ⟨rfl, rfl⟩
  | cons c chars =>
    rw [henclosed.eq_cons]
    by_cases hc : c = '-'
    · subst hc
      have hinside := Enclosed.before chars
      have hclosing := hinside.peek_eq_some_iff switches (c := ']') (by decide)
        (by decide) (by decide)
      have hdash := hinside.peek_eq_some_iff switches (c := '-') (by decide) (by decide) (by decide)
      simp only [rangeEnd?, hclosing, hdash]
      split
      · exact Or.inl ⟨rfl, rfl⟩
      · exact Or.inr ⟨_, _, rfl, rfl, hinside.skip switches⟩
    · have hnone (rest : List Char) : rangeEnd? switches (c :: rest) = none := by
        unfold rangeEnd?
        split
        next heq => exact absurd (List.cons.inj heq).1 hc
        next => rfl
      exact Or.inl ⟨hnone chars, hnone _⟩

theorem carries_readRange (switches : Switches) :
    Carries (readRange? switches) (readRange? switches) := by
  intro chars more value rest henclosed hread
  rw [readRange_eq] at hread ⊢
  obtain ⟨⟨first, middle⟩, hfirst, hread⟩ := Option.bind_eq_some_iff.mp hread
  obtain ⟨left, hleft, hmiddle⟩ := carries_readMember switches henclosed hfirst
  rw [hleft, Option.bind_some]
  replace hmiddle := hmiddle.skip switches
  simp only at hread hmiddle ⊢
  generalize switches.skip middle = middle at hread hmiddle
  generalize switches.skip left = left at hmiddle ⊢
  rcases rangeEnd_cases hmiddle switches with ⟨hnone, hnone'⟩
    | ⟨after, beyond, hsome, hsome', hafter⟩
  · rw [hnone] at hread
    rw [hnone']
    cases first with
    | char c coded => exact carries_bind_value (switches.members? c c) id hmiddle hread
    | charClass accepted => exact carries_value (some accepted) hmiddle hread
    | look condition => cases hread
  · rw [hsome] at hread
    rw [hsome']
    cases first with
    | char low coded =>
      obtain ⟨⟨second, last⟩, hsecond, hread⟩ := Option.bind_eq_some_iff.mp hread
      obtain ⟨left, hleft, hlast⟩ := carries_readMember switches hafter hsecond
      simp only [afterMember?, hleft, Option.bind_some]
      cases second with
      | char high coded =>
        simp only at hread ⊢
        split at hread
        next hle =>
          rw [if_pos hle]
          exact carries_bind_value (switches.members? low high) id hlast hread
        next => cases hread
      | charClass accepted => cases hread
      | look condition => cases hread
    | charClass accepted => cases hread
    | look condition => cases hread

/-! ### Named classes -/

/-- A class by the name up to the next colon, if a closing bracket follows it. -/
def namedClass? (negated : Bool) (chars : List Char) : Option (Bool × CharClass × List Char) :=
  match chars.dropWhile (· ≠ ':') with
  | ':' :: ']' :: more => (asciiClass? (chars.takeWhile (· ≠ ':'))).map
      fun found ↦ (negated, found, more)
  | _ => none

/-- The name of a class of ASCII does not depend on the parenthesis. -/
theorem namedClass_concat (negated : Bool) (chars : List Char) :
    namedClass? negated (chars ++ [')']) =
      (namedClass? negated chars).map fun found ↦ (found.1, found.2.1, found.2.2 ++ [')']) := by
  unfold namedClass?
  cases hdropped : chars.dropWhile (· ≠ ':') with
  | nil =>
    have hnone : (chars ++ [')']).dropWhile (· ≠ ':') = [] := by
      rw [List.dropWhile_append, hdropped]
      rfl
    rw [hnone]
    rfl
  | cons c after =>
    obtain ⟨hmore, hsame⟩ := dropWhile_append_of_eq_cons hdropped [')']
    rw [hmore, hsame]
    split
    next more heq =>
      cases after with
      | nil => cases heq
      | cons d after =>
        cases heq
        simp [Function.comp_def]
    next hnone =>
      split
      next more heq =>
        exact absurd (by rw [(List.cons.inj heq).1, (List.cons.inj heq).2]; rfl)
          (hnone (more ++ [')']))
      next => rfl

/-- Whether a circumflex comes first, and what follows it. -/
def readCaret : List Char → Bool × List Char
  | '^' :: rest => (true, rest)
  | chars => (false, chars)

/-- What follows a character that is no circumflex is left as it is. -/
theorem readCaret_of_ne {c : Char} (hc : c ≠ '^') (rest : List Char) :
    readCaret (c :: rest) = (false, c :: rest) := by
  simp [readCaret, hc]

theorem readCaret_concat (chars : List Char) :
    readCaret (chars ++ [')']) = ((readCaret chars).1, (readCaret chars).2 ++ [')']) := by
  cases chars with
  | nil => rfl
  | cons c rest =>
    by_cases hc : c = '^'
    · subst hc
      rfl
    · rw [List.cons_append, readCaret_of_ne hc, readCaret_of_ne hc]
      rfl

theorem readAsciiClass_colon (rest : List Char) :
    readAsciiClass? (':' :: rest) = namedClass? (readCaret rest).1 (readCaret rest).2 := by
  have heq : (match rest with
      | '^' :: more => (true, more)
      | _ => (false, rest)) = readCaret rest := by
    cases rest with
    | nil => rfl
    | cons c rest =>
      by_cases hc : c = '^'
      · subst hc
        rfl
      · rw [readCaret_of_ne hc]
        split
        next heq => exact absurd (List.cons.inj heq).1 hc
        next => rfl
  rw [← heq]
  rfl

/-- Whether a class of ASCII stands somewhere does not depend on the parenthesis. -/
theorem readAsciiClass_concat (chars : List Char) :
    readAsciiClass? (chars ++ [')']) =
      (readAsciiClass? chars).map fun found ↦ (found.1, found.2.1, found.2.2 ++ [')']) := by
  cases chars with
  | nil => rfl
  | cons c rest =>
    by_cases hc : c = ':'
    · subst hc
      rw [List.cons_append, readAsciiClass_colon, readAsciiClass_colon, readCaret_concat]
      exact namedClass_concat _ _
    · have hnone (rest : List Char) : readAsciiClass? (c :: rest) = none := by
        unfold readAsciiClass?
        split
        next heq => exact absurd (List.cons.inj heq).1 hc
        next => rfl
      rw [List.cons_append, hnone, hnone]
      rfl

/-! ### Classes -/

/-- Dashes at the start of a class are taken alike. -/
theorem exists_dashes (switches : Switches) :
    ∀ {steps further : Nat} (level : ClassLevel) {chars more : List Char}, Enclosed chars more →
      chars.length ≤ steps → more.length ≤ further →
    ∃ left, openClass.dashes switches further level more =
      ((openClass.dashes switches steps level chars).1, left) ∧
        Enclosed (openClass.dashes switches steps level chars).2 left
  | steps, further, level, [], more, henclosed, _, _ => by
    have hnil (steps : Nat) : openClass.dashes switches steps level [] = (level, []) := by
      cases steps <;> rfl
    have hclosed (steps : Nat) : openClass.dashes switches steps level [')'] = (level, [')']) := by
      cases steps <;> rfl
    rw [hnil]
    cases henclosed with
    | before => exact ⟨[')'], hclosed further, .before []⟩
    | taken => exact ⟨[], hnil further, .taken⟩
  | steps + 1, further, level, c :: rest, more, henclosed, hsteps, hfurther => by
    rw [henclosed.eq_cons] at hfurther ⊢
    cases further with
    | zero => cases hfurther
    | succ further =>
      rw [List.length_cons, Nat.add_le_add_iff_right] at hsteps hfurther
      by_cases hdash : c = '-'
      · subst hdash
        rw [openClass.dashes, openClass.dashes]
        exact exists_dashes switches _ ((Enclosed.before rest).skip switches)
          ((switches.length_skip_le rest).trans hsteps) ((switches.length_skip_le _).trans hfurther)
      by_cases hclosing : c = ']'
      · subst hclosing
        simp only [openClass.dashes]
        split
        · exact ⟨_, rfl, .before rest⟩
        · exact ⟨_, rfl, .before (']' :: rest)⟩
      · have hother (steps : Nat) (rest : List Char) :
            openClass.dashes switches steps level (c :: rest) = (level, c :: rest) := by
          unfold openClass.dashes
          split
          next heq => exact absurd (List.cons.inj heq).1 hdash
          next heq => exact absurd (List.cons.inj heq).1 hclosing
          next => rfl
        rw [hother, hother]
        exact ⟨_, rfl, .before (c :: rest)⟩

theorem openClass_eq (switches : Switches) (chars : List Char) :
    openClass switches chars =
      let found := readCaret (switches.skip chars)
      let rest := if found.1 then switches.skip found.2 else found.2
      openClass.dashes switches rest.length (.opened found.1) rest := by
  have heq : (match switches.skip chars with
      | '^' :: rest => (true, switches.skip rest)
      | _ => (false, switches.skip chars)) =
      ((readCaret (switches.skip chars)).1, if (readCaret (switches.skip chars)).1 then
        switches.skip (readCaret (switches.skip chars)).2
          else (readCaret (switches.skip chars)).2) := by
    cases switches.skip chars with
    | nil => rfl
    | cons c rest =>
      by_cases hc : c = '^'
      · subst hc
        rfl
      · rw [readCaret_of_ne hc]
        split
        next heq => exact absurd (List.cons.inj heq).1 hc
        next => rfl
  exact congrArg (fun found ↦ openClass.dashes switches found.2.length (.opened found.1) found.2)
    heq

theorem exists_openClass {chars more : List Char} (henclosed : Enclosed chars more)
    (switches : Switches) :
    ∃ left, openClass switches more = ((openClass switches chars).1, left) ∧
      Enclosed (openClass switches chars).2 left := by
  rw [openClass_eq, openClass_eq]
  replace henclosed := henclosed.skip switches
  generalize switches.skip chars = passed at henclosed ⊢
  generalize switches.skip more = further at henclosed ⊢
  have hcaret : (readCaret further).1 = (readCaret passed).1 ∧
      Enclosed (readCaret passed).2 (readCaret further).2 := by
    cases henclosed with
    | before =>
      rw [readCaret_concat]
      exact ⟨rfl, .before _⟩
    | taken => exact ⟨rfl, .taken⟩
  obtain ⟨hsame, hrest⟩ := hcaret
  simp only [hsame]
  split
  · exact exists_dashes switches _ (hrest.skip switches) (Nat.le_refl _) (Nat.le_refl _)
  · exact exists_dashes switches _ hrest (Nat.le_refl _) (Nat.le_refl _)

theorem carries_readClass (switches : Switches) : ∀ {steps further : Nat} (level : ClassLevel)
    (outer : List ClassLevel), steps ≤ further →
      Carries (readClass? switches steps level outer) (readClass? switches further level outer)
  | 0, _, _, _, _ => fun _ _ _ _ _ hread ↦ nomatch hread
  | steps + 1, further + 1, level, outer, hle => by
    replace hle := Nat.le_of_succ_le_succ hle
    intro chars more value rest henclosed hread
    unfold readClass? at hread ⊢
    replace henclosed := henclosed.skip switches
    generalize switches.skip chars = passed at henclosed hread
    generalize switches.skip more = beyond at henclosed ⊢
    split at hread
    next => cases hread
    next inside =>
      rw [henclosed.eq_cons]
      simp only [readAsciiClass_concat]
      cases hascii : readAsciiClass? inside with
      | some found =>
        simp only [hascii, Option.map_some] at hread ⊢
        split at hread
        next => cases hread
        next accepted haccepted =>
          rw [haccepted]
          exact carries_readClass switches _ outer hle (.before _) hread
      | none =>
        simp only [hascii, Option.map_none] at hread ⊢
        obtain ⟨left, hleft, hrest⟩ := exists_openClass (.before inside) switches
        rw [hleft]
        exact carries_readClass switches _ _ hle hrest hread
    next after =>
      rw [henclosed.eq_cons]
      simp only at hread ⊢
      split at hread
      next => cases hread
      next found hfound => exact carries_value (some found) (.before after) hread
      next found enclosing outside hfound =>
        exact carries_readClass switches _ _ hle (.before after) hread
    next after =>
      rw [henclosed.eq_cons]
      exact carries_readClass switches _ _ hle (.before after) hread
    next after =>
      rw [henclosed.eq_cons]
      exact carries_readClass switches _ _ hle (.before after) hread
    next after =>
      rw [henclosed.eq_cons]
      exact carries_readClass switches _ _ hle (.before after) hread
    next hnone hopening hclosing hand hdash htilde =>
      split
      next => exact absurd henclosed.eq_nil hnone
      next =>
        obtain ⟨inside, rfl, -⟩ := henclosed.exists_of_cons (by decide)
        exact absurd rfl (hopening inside)
      next =>
        obtain ⟨inside, rfl, -⟩ := henclosed.exists_of_cons (by decide)
        exact absurd rfl (hclosing inside)
      next =>
        obtain ⟨inside, rfl⟩ := henclosed.exists_of_cons_cons (by decide) (by decide)
        exact absurd rfl (hand inside)
      next =>
        obtain ⟨inside, rfl⟩ := henclosed.exists_of_cons_cons (by decide) (by decide)
        exact absurd rfl (hdash inside)
      next =>
        obtain ⟨inside, rfl⟩ := henclosed.exists_of_cons_cons (by decide) (by decide)
        exact absurd rfl (htilde inside)
      next =>
        split at hread
        next => cases hread
        next accepted after hrange =>
          obtain ⟨left, hleft, hafter⟩ := carries_readRange switches henclosed hrange
          rw [hleft]
          exact carries_readClass switches _ _ hle hafter hread

end Regex

end Packrat
