import Packrat.Proofs.Regex.Brackets

/-!
# Patterns pasted into a group

A pattern is searched as a group after the start of the text. This makes one text of the two, and a
pattern with a parenthesis too many closes the group early: what stands in it after a bar is then a
branch that is not bound to the start. A pattern that can be read by itself has no such parenthesis.
It is read part by part (`Reading.next?`), inside the group it is read alike
(`Reading.exists_next`), and where it ends the parenthesis closes the group. So what is searched is
the start of the text and after it the expression of the pattern (`eq_cat_of_anchored`).
-/

set_option autoImplicit false
set_option relaxedAutoImplicit false

namespace Packrat

namespace Regex

/-! ### Repetition -/

/-- Digits are read alike. The induction is on the number of steps. -/
theorem exists_readDigits (switches : Switches) : ∀ {steps further : Nat} {chars more : List Char},
    Enclosed chars more → chars.length ≤ steps → more.length ≤ further →
    ∃ left, readDigits switches further more = ((readDigits switches steps chars).1, left) ∧
      Enclosed (readDigits switches steps chars).2 left
  | steps, further, [], more, henclosed, _, _ => by
    have hnil (steps : Nat) : readDigits switches steps [] = ([], []) := by cases steps <;> rfl
    have hclosed (steps : Nat) : readDigits switches steps [')'] = ([], [')']) := by
      cases steps <;> rfl
    rw [hnil]
    cases henclosed with
    | before => exact ⟨[')'], hclosed further, .before []⟩
    | taken => exact ⟨[], hnil further, .taken⟩
  | steps + 1, further, c :: rest, more, henclosed, hsteps, hfurther => by
    rw [henclosed.eq_cons] at hfurther ⊢
    cases further with
    | zero => cases hfurther
    | succ further =>
      rw [List.length_cons, Nat.add_le_add_iff_right] at hsteps hfurther
      rw [readDigits, readDigits]
      split
      · obtain ⟨left, hleft, hrest⟩ :=
          exists_readDigits switches ((Enclosed.before rest).skip switches)
            ((switches.length_skip_le rest).trans hsteps)
            ((switches.length_skip_le _).trans hfurther)
        exact ⟨left, by rw [hleft], hrest⟩
      · exact ⟨_, rfl, .before (c :: rest)⟩

theorem carries_readCount (switches : Switches) :
    Carries (readCount? switches) (readCount? switches) := by
  intro chars more value rest henclosed hread
  simp only [readCount?] at hread ⊢
  obtain ⟨left, hleft, hrest⟩ :=
    exists_readDigits switches (henclosed.dropWhile (p := isBlank) (by decide))
      (Nat.le_refl _) (Nat.le_refl _)
  rw [hleft]
  split at hread
  next => cases hread
  next hcount =>
    cases hread
    rw [if_neg hcount]
    exact ⟨_, rfl, (hrest.dropWhile (by decide)).skip switches⟩

theorem exists_readBounds {chars more rest : List Char} {least : Nat} {most : Option Nat}
    (henclosed : Enclosed chars more) (switches : Switches)
    (hread : readBounds? switches chars = some (least, most, rest)) :
    ∃ left, readBounds? switches more = some (least, most, left) ∧ Enclosed rest left := by
  unfold readBounds? at hread ⊢
  simp only [Option.bind_eq_bind] at hread ⊢
  obtain ⟨⟨low, afterLow⟩, hlow, hread⟩ := Option.bind_eq_some_iff.mp hread
  obtain ⟨left, hleft, hrest⟩ := carries_readCount switches (henclosed.skip switches) hlow
  rw [hleft, Option.bind_some]
  simp only at hread ⊢
  split at hread
  next =>
    cases hread
    rw [hrest.eq_cons]
    exact ⟨_, rfl, .before _⟩
  next inside =>
    rw [hrest.eq_cons]
    have hinside := (Enclosed.before inside).skip switches
    simp only
    generalize switches.skip inside = passed at hread hinside
    generalize switches.skip (inside ++ [')']) = beyond at hinside ⊢
    split at hread
    next =>
      cases hread
      rw [hinside.eq_cons]
      exact ⟨_, rfl, .before _⟩
    next hclosing =>
      obtain ⟨⟨high, afterHigh⟩, hhigh, hread⟩ := Option.bind_eq_some_iff.mp hread
      split
      next =>
        obtain ⟨after, rfl, -⟩ := hinside.exists_of_cons (by decide)
        exact absurd rfl (hclosing after)
      next =>
        obtain ⟨last, hlast, hend⟩ := carries_readCount switches hinside hhigh
        rw [hlast, Option.bind_some]
        split at hread
        next heq =>
          cases heq
          rw [hend.eq_cons]
          split at hread
          next hle =>
            cases hread
            exact ⟨_, if_pos hle, .before _⟩
          next => cases hread
        next => cases hread
  next => cases hread

/-- Whether a repetition is greedy is read alike. -/
theorem exists_readGreed {chars more : List Char} (henclosed : Enclosed chars more)
    (switches : Switches) :
    ∃ left, readGreed switches more = ((readGreed switches chars).1, left) ∧
      Enclosed (readGreed switches chars).2 left := by
  cases chars with
  | nil => cases henclosed <;> exact ⟨_, rfl, by constructor⟩
  | cons c rest =>
    rw [henclosed.eq_cons]
    by_cases hc : c = '?'
    · subst hc
      exact ⟨_, rfl, .before rest⟩
    · have hplain (rest : List Char) :
          readGreed switches (c :: rest) = (!switches.swapGreed, c :: rest) := by
        simp [readGreed, hc]
      rw [hplain, hplain]
      exact ⟨_, rfl, .before (c :: rest)⟩

theorem carries_readName : Carries readName? readName? := by
  intro chars more value rest henclosed hread
  unfold readName? at hread
  split at hread
  next first named c _ htaken hdropped =>
    split at hread
    next hname =>
      cases hread
      cases henclosed with
      | taken => cases hdropped
      | before =>
        obtain ⟨hmore, hsame⟩ := dropWhile_append_of_eq_cons hdropped [')']
        refine ⟨_, ?_, .before rest⟩
        unfold readName?
        rw [hmore, hsame, htaken]
        simp only [hname]
        rfl
    next => cases hread
  next => cases hread

/-- What is left after the characters of one kind at the front. -/
theorem drop_length_takeWhile (p : Char → Bool) (chars : List Char) :
    chars.drop (chars.takeWhile p).length = chars.dropWhile p := by
  induction chars with
  | nil => rfl
  | cons c rest ih => by_cases hc : p c = true <;> simp [hc, ih]

/-- What the letters of a group of switches make of it, up to the colon or the parenthesis after
them. -/
def readChange? (switches : Switches) (rest : List Char) : Option (GroupHead × List Char) :=
  let letters := rest.takeWhile fun c ↦ c ≠ ':' ∧ c ≠ ')'
  (readSwitches? letters switches).bind fun changed ↦
    match rest.drop letters.length with
    | ':' :: more => some (.group changed false, more)
    | ')' :: more => some (.switches changed, more)
    | _ => none

/-- Letters for switches are followed by a colon or by a parenthesis, so they do not reach the
parenthesis at the end. -/
theorem carries_readChange (switches : Switches) :
    Carries (readChange? switches) (readChange? switches) := by
  intro chars more value rest henclosed hread
  obtain ⟨changed, hchanged, hread⟩ := Option.bind_eq_some_iff.mp hread
  rw [drop_length_takeWhile] at hread
  cases hdropped : chars.dropWhile fun c ↦ decide (c ≠ ':' ∧ c ≠ ')') with
  | nil =>
    rw [hdropped] at hread
    cases hread
  | cons c after =>
    cases henclosed with
    | taken => cases hdropped
    | before =>
      obtain ⟨hmore, hsame⟩ := dropWhile_append_of_eq_cons hdropped [')']
      rw [hdropped] at hread
      simp only [readChange?, drop_length_takeWhile]
      rw [hmore, hsame, hchanged, Option.bind_some]
      split at hread
      next heq =>
        cases heq
        cases hread
        exact ⟨_, rfl, .before _⟩
      next heq =>
        cases heq
        cases hread
        exact ⟨_, rfl, .before _⟩
      next => cases hread

/-- The name of a group, as what follows an opening parenthesis. -/
theorem carries_named : Carries (fun rest ↦ (readName? rest).map fun found ↦
      (GroupHead.named found.1, found.2))
    fun rest ↦ (readName? rest).map fun found ↦ (.named found.1, found.2) := by
  intro chars more value rest henclosed hread
  obtain ⟨⟨name, after⟩, hname, hpair⟩ := Option.map_eq_some_iff.mp hread
  cases hpair
  obtain ⟨left, hleft, hrest⟩ := carries_readName henclosed hname
  exact ⟨left, by simp only [hleft, Option.map_some], hrest⟩

theorem carries_readGroupHead (switches : Switches) :
    Carries (readGroupHead? switches) (readGroupHead? switches) := by
  intro chars more value rest henclosed hread
  unfold readGroupHead? at hread ⊢
  replace henclosed := henclosed.skip switches
  generalize switches.skip chars = passed at henclosed hread
  generalize switches.skip more = further at henclosed ⊢
  split at hread
  next inside =>
    rw [henclosed.eq_cons]
    exact carries_named (.before inside) hread
  next inside =>
    rw [henclosed.eq_cons]
    exact carries_named (.before inside) hread
  next inside =>
    rw [henclosed.eq_cons]
    cases hread
    exact ⟨_, rfl, .before _⟩
  next inside hnamed hangle hcolon =>
    rw [henclosed.eq_cons]
    have hinside := Enclosed.before inside
    split
    next heq =>
      obtain ⟨after, rfl⟩ := (List.cons.inj heq).2 ▸ hinside |>.exists_of_cons_cons
        (by decide) (by decide)
      exact absurd rfl (hnamed after)
    next heq =>
      obtain ⟨after, rfl, -⟩ := (List.cons.inj heq).2 ▸ hinside |>.exists_of_cons (by decide)
      exact absurd rfl (hangle after)
    next heq =>
      obtain ⟨after, rfl, -⟩ := (List.cons.inj heq).2 ▸ hinside |>.exists_of_cons (by decide)
      exact absurd rfl (hcolon after)
    next heq =>
      cases heq
      exact carries_readChange switches hinside hread
    next hplain => exact absurd rfl (hplain _)
  next hnamed hangle hcolon hplain =>
    cases hread
    have hother (inside : List Char) : further ≠ '?' :: inside := by
      rintro rfl
      obtain ⟨inside, rfl, -⟩ := henclosed.exists_of_cons (by decide)
      exact hplain inside rfl
    split
    next => exact absurd rfl (hother _)
    next => exact absurd rfl (hother _)
    next => exact absurd rfl (hother _)
    next => exact absurd rfl (hother _)
    next => exact ⟨_, rfl, henclosed⟩

/-! ### Patterns -/

/-- In front of nothing there is nothing to pass over. -/
theorem Switches.skip_nil (switches : Switches) : switches.skip [] = [] := by
  unfold skip
  split <;> rfl

/-- What is known when some of a pattern has been read. -/
structure Reading where
  /-- The switches at the place. -/
  switches : Switches
  /-- The innermost open group. -/
  level : Level
  /-- The groups around it. -/
  outer : List Level
  /-- The names of groups met so far. -/
  names : List (List Char)

namespace Reading

/-- The expression of the pattern when the rest of it is read. -/
def finish? (reading : Reading) (steps : Nat) (chars : List Char) : Option (Nested Regex) :=
  readFrom? steps reading.switches reading.level reading.outer reading.names chars

/-- The same in a group around everything. -/
def within (base : Level) (reading : Reading) : Reading :=
  { reading with outer := reading.outer ++ [base] }

/-- The group around all others, which is the pattern. -/
def bottom (reading : Reading) : Level := reading.outer.getLastD reading.level

@[simp] theorem within_switches (base : Level) (reading : Reading) :
    (reading.within base).switches = reading.switches := rfl

@[simp] theorem within_outer (base : Level) (reading : Reading) :
    (reading.within base).outer = reading.outer ++ [base] := rfl

def item? (reading : Reading) (found : Option Regex) (depth : Nat) (rest : List Char) :
    Option (Reading × List Char) :=
  found.map fun found ↦ ({ reading with level := reading.level.push ⟨found, depth⟩ }, rest)

def repeated? (reading : Reading) (least : Nat) (most : Option Nat) (rest : List Char) :
    Option (Reading × List Char) :=
  (reading.level.repeatLast? least most (readGreed reading.switches rest).1).map fun level ↦
    ({ reading with level := level }, (readGreed reading.switches rest).2)

def open? (reading : Reading) (rest : List Char) : GroupHead → Option (Reading × List Char)
  | .group inside captures =>
    some (⟨inside, .opened reading.switches captures, reading.level :: reading.outer,
      reading.names⟩, rest)
  | .named name =>
    if reading.names.contains name then none
    else some (⟨reading.switches, .opened reading.switches true, reading.level :: reading.outer,
      name :: reading.names⟩, rest)
  | .switches after =>
    some (⟨after, { reading.level with items := none :: reading.level.items },
      reading.outer, reading.names⟩, rest)

/-- After one part of the pattern, which starts with the given character. -/
def next? (reading : Reading) (c : Char) (rest : List Char) : Option (Reading × List Char) :=
  match c with
  | '(' => (readGroupHead? reading.switches rest).bind fun found ↦ reading.open? found.2 found.1
  | ')' =>
    match reading.outer with
    | [] => none
    | enclosing :: more =>
      some (⟨reading.level.outer, enclosing.push reading.level.close, more, reading.names⟩, rest)
  | '|' => some ({ reading with level := reading.level.branch }, rest)
  | '*' => reading.repeated? 0 none rest
  | '+' => reading.repeated? 1 none rest
  | '?' => reading.repeated? 0 (some 1) rest
  | '\x7b' =>
    (readBounds? reading.switches rest).bind fun (least, most, rest) ↦
      reading.repeated? least most (reading.switches.skip rest)
  | '\\' =>
    (readEscape? reading.switches rest).bind fun (escape, rest) ↦
      reading.item? (ofEscape? reading.switches escape) 0 rest
  | '[' =>
    let (opened, rest) := openClass reading.switches rest
    (readClass? reading.switches (rest.length + 1) opened [] rest).bind fun (accepted, rest) ↦
      reading.item? (some (.char accepted.value)) accepted.depth rest
  | '.' => reading.item? (reading.switches.dot?.map .char) 0 rest
  | '^' => reading.item? (some (.look reading.switches.startLook)) 0 rest
  | '$' => reading.item? (some (.look reading.switches.endLook)) 0 rest
  | _ => reading.item? ((reading.switches.literal? c false).map .char) 0 rest

theorem item_bind_finish (reading : Reading) (found : Option Regex) (depth : Nat) (rest : List Char)
    (steps : Nat) :
    ((reading.item? found depth rest).bind fun next ↦ next.1.finish? steps next.2) =
      found.bind fun found ↦ readFrom? steps reading.switches (reading.level.push ⟨found, depth⟩)
        reading.outer
        reading.names rest := by
  cases found <;> rfl

theorem repeated_bind_finish (reading : Reading) (least : Nat) (most : Option Nat)
    (rest : List Char) (steps : Nat) :
    ((reading.repeated? least most rest).bind fun next ↦ next.1.finish? steps next.2) =
      (reading.level.repeatLast? least most (readGreed reading.switches rest).1).bind fun level ↦
        readFrom? steps reading.switches level reading.outer reading.names
          (readGreed reading.switches rest).2 := by
  unfold repeated?
  cases reading.level.repeatLast? least most (readGreed reading.switches rest).1 <;> rfl

/-- At the end of the pattern no group may be open. -/
theorem finish_of_skip_eq_nil {reading : Reading} {chars : List Char}
    (hskip : reading.switches.skip chars = []) (steps : Nat) :
    reading.finish? (steps + 1) chars = if reading.outer.isEmpty then some reading.level.content
      else none := by
  unfold finish? readFrom?
  rw [hskip]

theorem finish_of_skip_eq_cons {reading : Reading} {c : Char} {chars rest : List Char}
    (hskip : reading.switches.skip chars = c :: rest) (steps : Nat) :
    reading.finish? (steps + 1) chars = (reading.next? c rest).bind fun found ↦
      found.1.finish? steps found.2 := by
  rw [finish?, readFrom?, hskip]
  simp only
  split
  next =>
    simp only [next?]
    cases readGroupHead? reading.switches rest with
    | none => rfl
    | some found =>
      obtain ⟨head, after⟩ := found
      cases head with
      | group inside captures => rfl
      | named name =>
        simp only [Option.bind_some, open?, List.contains_iff_mem]
        split <;> rfl
      | switches after => rfl
  next =>
    simp only [next?]
    cases reading.outer with
    | nil => rfl
    | cons enclosing more => rfl
  next => rfl
  next => exact (reading.repeated_bind_finish _ _ _ _).symm
  next => exact (reading.repeated_bind_finish _ _ _ _).symm
  next => exact (reading.repeated_bind_finish _ _ _ _).symm
  next =>
    simp only [next?]
    cases readBounds? reading.switches rest with
    | none => rfl
    | some found => exact (reading.repeated_bind_finish _ _ _ _).symm
  next =>
    simp only [next?]
    cases readEscape? reading.switches rest with
    | none => rfl
    | some found => exact (reading.item_bind_finish _ _ _ _).symm
  next =>
    simp only [next?]
    cases readClass? reading.switches ((openClass reading.switches rest).2.length + 1)
      (openClass reading.switches rest).1 [] (openClass reading.switches rest).2 with
    | none => rfl
    | some found => rfl
  next => exact (reading.item_bind_finish _ _ _ _).symm
  next => rfl
  next => rfl
  next =>
    rw [next?]
    exact (reading.item_bind_finish _ _ _ _).symm
    all_goals assumption

variable {reading next : Reading} {chars more rest : List Char}

theorem exists_item {found : Option Regex} {depth : Nat} (base : Level)
    (henclosed : Enclosed chars more)
    (hread : reading.item? found depth chars = some (next, rest)) :
    ∃ left, (reading.within base).item? found depth more = some (next.within base, left) ∧
      Enclosed rest left := by
  obtain ⟨inner, rfl, hpair⟩ := Option.map_eq_some_iff.mp hread
  cases hpair
  exact ⟨more, rfl, henclosed⟩

theorem exists_repeated {least : Nat} {most : Option Nat} (base : Level)
    (henclosed : Enclosed chars more)
    (hread : reading.repeated? least most chars = some (next, rest)) :
    ∃ left, (reading.within base).repeated? least most more = some (next.within base, left) ∧
      Enclosed rest left := by
  obtain ⟨left, hleft, hrest⟩ := exists_readGreed henclosed reading.switches
  obtain ⟨level, hlevel, hpair⟩ := Option.map_eq_some_iff.mp hread
  cases hpair
  refine ⟨left, ?_, hrest⟩
  simp only [repeated?, within, hleft, hlevel, Option.map_some]

theorem exists_open {head : GroupHead} (base : Level) (henclosed : Enclosed chars more)
    (hread : reading.open? chars head = some (next, rest)) :
    ∃ left, (reading.within base).open? more head = some (next.within base, left) ∧
      Enclosed rest left := by
  cases head with
  | group inside captures =>
    cases hread
    exact ⟨more, rfl, henclosed⟩
  | named name =>
    simp only [open?] at hread
    split at hread
    next => cases hread
    next hname =>
      cases hread
      exact ⟨more, if_neg hname, henclosed⟩
  | switches after =>
    cases hread
    exact ⟨more, rfl, henclosed⟩

/-- One part of a pattern is read alike in a group around the pattern. -/
theorem exists_next {c : Char} (base : Level) (henclosed : Enclosed chars more)
    (hread : reading.next? c chars = some (next, rest)) :
    ∃ left, (reading.within base).next? c more = some (next.within base, left) ∧
      Enclosed rest left := by
  unfold next? at hread ⊢
  split at hread
  next =>
    obtain ⟨⟨head, after⟩, hhead, hread⟩ := Option.bind_eq_some_iff.mp hread
    obtain ⟨left, hleft, hafter⟩ := carries_readGroupHead reading.switches henclosed hhead
    obtain ⟨last, hlast, hrest⟩ := exists_open base hafter hread
    refine ⟨last, ?_, hrest⟩
    simp only [within_switches, hleft, Option.bind_some, hlast]
  next =>
    simp only [within_outer]
    split at hread
    next => cases hread
    next enclosing outside heq =>
      cases hread
      rw [heq]
      exact ⟨more, rfl, henclosed⟩
  next =>
    cases hread
    exact ⟨more, rfl, henclosed⟩
  next => exact exists_repeated base henclosed hread
  next => exact exists_repeated base henclosed hread
  next => exact exists_repeated base henclosed hread
  next =>
    obtain ⟨⟨least, most, after⟩, hbounds, hread⟩ := Option.bind_eq_some_iff.mp hread
    obtain ⟨left, hleft, hafter⟩ := exists_readBounds henclosed reading.switches hbounds
    obtain ⟨last, hlast, hrest⟩ := exists_repeated base (hafter.skip reading.switches) hread
    refine ⟨last, ?_, hrest⟩
    simp only [within_switches, hleft, Option.bind_some, hlast]
  next =>
    obtain ⟨⟨escape, after⟩, hescape, hread⟩ := Option.bind_eq_some_iff.mp hread
    obtain ⟨left, hleft, hafter⟩ := carries_readEscape reading.switches henclosed hescape
    obtain ⟨last, hlast, hrest⟩ := exists_item base hafter hread
    refine ⟨last, ?_, hrest⟩
    simp only [within_switches, hleft, Option.bind_some, hlast]
  next =>
    obtain ⟨beyond, hopened, hinside⟩ := exists_openClass henclosed reading.switches
    simp only [within_switches, hopened]
    generalize openClass reading.switches chars = opened at hread hinside ⊢
    obtain ⟨opened, inside⟩ := opened
    obtain ⟨⟨accepted, after⟩, hclass, hread⟩ := Option.bind_eq_some_iff.mp hread
    obtain ⟨left, hleft, hafter⟩ :=
      carries_readClass reading.switches _ [] (Nat.succ_le_succ hinside.length_le) hinside hclass
    obtain ⟨last, hlast, hrest⟩ := exists_item base hafter hread
    refine ⟨last, ?_, hrest⟩
    simp only [hleft, Option.bind_some, hlast]
  next => exact exists_item base henclosed hread
  next => exact exists_item base henclosed hread
  next => exact exists_item base henclosed hread
  next => exact exists_item base henclosed hread

/-- Whether the pattern captures does not depend on what is added to a level. -/
theorem captures_bottom (houter : next.outer = reading.outer)
    (hlevel : next.level.captures = reading.level.captures) :
    next.bottom.captures = reading.bottom.captures := by
  rw [bottom, bottom, houter]
  cases reading.outer with
  | nil => exact hlevel
  | cons level outer => rfl

/-- An item, the mark of a repetition and the start of a group leave it as it is whether the pattern
captures. -/
theorem captures_item {found : Option Regex} {depth : Nat}
    (hread : reading.item? found depth chars = some (next, rest)) :
    next.bottom.captures = reading.bottom.captures := by
  obtain ⟨inner, rfl, hpair⟩ := Option.map_eq_some_iff.mp hread
  cases hpair
  exact captures_bottom rfl rfl

theorem captures_repeated {least : Nat} {most : Option Nat}
    (hread : reading.repeated? least most chars = some (next, rest)) :
    next.bottom.captures = reading.bottom.captures := by
  obtain ⟨level, hlevel, hpair⟩ := Option.map_eq_some_iff.mp hread
  cases hpair
  refine captures_bottom rfl ?_
  unfold Level.repeatLast? at hlevel
  split at hlevel
  next =>
    cases hlevel
    rfl
  next => cases hlevel

theorem captures_open {head : GroupHead} (hread : reading.open? chars head = some (next, rest)) :
    next.bottom.captures = reading.bottom.captures := by
  unfold open? at hread
  split at hread
  next =>
    cases hread
    exact congrArg Level.captures (List.getLastD_cons ..)
  next =>
    split at hread
    next => cases hread
    next =>
      cases hread
      exact congrArg Level.captures (List.getLastD_cons ..)
  next =>
    cases hread
    exact captures_bottom rfl rfl

/-- One part of a pattern leaves it as it is whether the pattern captures. -/
theorem captures_next {c : Char} (hread : reading.next? c chars = some (next, rest)) :
    next.bottom.captures = reading.bottom.captures := by
  unfold next? at hread
  split at hread
  next =>
    obtain ⟨found, -, hread⟩ := Option.bind_eq_some_iff.mp hread
    exact captures_open hread
  next =>
    split at hread
    next => cases hread
    next enclosing outside heq =>
      cases hread
      have hbottom : reading.bottom =
          (⟨reading.switches, enclosing, outside, reading.names⟩ : Reading).bottom := by
        rw [bottom, bottom, heq, List.getLastD_cons]
      rw [hbottom]
      exact captures_bottom rfl rfl
  next =>
    cases hread
    exact captures_bottom rfl rfl
  next => exact captures_repeated hread
  next => exact captures_repeated hread
  next => exact captures_repeated hread
  next =>
    obtain ⟨found, -, hread⟩ := Option.bind_eq_some_iff.mp hread
    exact captures_repeated hread
  next =>
    obtain ⟨found, -, hread⟩ := Option.bind_eq_some_iff.mp hread
    exact captures_item hread
  next =>
    obtain ⟨found, -, hread⟩ := Option.bind_eq_some_iff.mp hread
    exact captures_item hread
  next => exact captures_item hread
  next => exact captures_item hread
  next => exact captures_item hread
  next => exact captures_item hread

/-- Where the pattern has ended, the parenthesis after it closes the group around it. -/
theorem eq_content_of_closing {steps : Nat} {base : Level} {other : Nested Regex}
    (houter : reading.outer = []) (hcaptures : reading.bottom.captures = false)
    (hskip : reading.switches.skip more = [')'])
    (hother : (reading.within base).finish? (steps + 1) more = some other) :
    other = (base.push ⟨reading.level.content.value, reading.level.content.depth + 1⟩).content := by
  rw [@finish_of_skip_eq_cons (reading.within base) _ _ _ hskip] at hother
  simp only [next?, within_outer, houter, List.nil_append, Option.bind_some] at hother
  cases steps with
  | zero => cases hother
  | succ steps =>
    rw [finish_of_skip_eq_nil (Switches.skip_nil _)] at hother
    cases hother
    rw [bottom, houter, List.getLastD_nil] at hcaptures
    simp only [within, Level.close, hcaptures]
    rfl

/-- A pattern that is well formed by itself is all that a group around it holds: when both can be
read, the group is closed by the parenthesis after the pattern, where reading has come back to the
level outside. The induction is on the number of steps. -/
theorem eq_content_of_finish {base : Level} :
    ∀ {steps further : Nat} {reading : Reading} {chars more : List Char} {found other :
      Nested Regex}, Enclosed chars more → reading.bottom.captures = false →
        reading.finish? steps chars = some found → (reading.within base).finish?
          further more = some other →
        other = (base.push ⟨found.value, found.depth + 1⟩).content
  | 0, _, _, _, _, _, _, _, _, hfinish, _ => nomatch hfinish
  | _ + 1, 0, _, _, _, _, _, _, _, _, hother => nomatch hother
  | steps + 1, further + 1, reading, chars, more, found, other, henclosed,
      hcaptures, hfinish, hother => by
    have hskipped := henclosed.skip reading.switches
    cases hskip : reading.switches.skip chars with
    | nil =>
      rw [finish_of_skip_eq_nil hskip] at hfinish
      split at hfinish
      next houter =>
        cases hfinish
        rw [hskip] at hskipped
        generalize hbeyond : reading.switches.skip more = beyond at hskipped
        cases hskipped with
        | before =>
          exact eq_content_of_closing (List.isEmpty_iff.mp houter) hcaptures hbeyond hother
        | taken =>
          rw [@finish_of_skip_eq_nil (reading.within base) _ hbeyond, within_outer,
            if_neg (by simp)] at hother
          cases hother
      next => cases hfinish
    | cons c rest =>
      rw [hskip] at hskipped
      rw [finish_of_skip_eq_cons hskip] at hfinish
      rw [@finish_of_skip_eq_cons (reading.within base) _ _ _ hskipped.eq_cons] at hother
      obtain ⟨⟨next, after⟩, hnext, hfinish⟩ := Option.bind_eq_some_iff.mp hfinish
      obtain ⟨left, hleft, hafter⟩ := exists_next base (.before rest) hnext
      rw [hleft, Option.bind_some] at hother
      exact eq_content_of_finish hafter ((captures_next hnext).trans hcaptures) hfinish hother

end Reading

/-- A pattern that can be read has an expression, and is neither nested too deeply nor too large. -/
theorem exists_of_ofPattern {pattern : List Char} {found : Regex}
    (hfound : ofPattern? pattern = some found) :
    ∃ read, readFrom? (pattern.length + 1) {} (.opened {} false) [] [] pattern = some read ∧
      read.value = found := by
  obtain ⟨read, hread, hfits⟩ := Option.bind_eq_some_iff.mp hfound
  split at hfits
  next => exact ⟨read, hread, Option.some.inj hfits⟩
  next => cases hfits

/-- A pattern that is well formed by itself is bound to the start of the text as a whole: what is
put around it neither takes a part of it away nor leaves a branch of it outside. -/
theorem eq_cat_of_anchored {pattern : List Char} {own found : Regex}
    (hown : ofPattern? pattern = some own)
    (hfound : ofPattern? (['\\', 'A', '(', '?', ':'] ++ pattern ++ [')']) = some found) :
    found = .cat (.look .textStart) own := by
  obtain ⟨read, hread, rfl⟩ := exists_of_ofPattern hown
  obtain ⟨whole, hwhole, rfl⟩ := exists_of_ofPattern hfound
  let start : Reading := ⟨{}, .opened {} false, [], []⟩
  let base := (Level.opened {} false).push ⟨.look .textStart, 0⟩
  have halone : start.finish? (pattern.length + 1) pattern = some read := hread
  have hgroup : (start.within base).finish? ((pattern ++ [')']).length + 4) (pattern ++ [')']) =
      some whole := hwhole
  rw [Reading.eq_content_of_finish (.before pattern) rfl halone hgroup]
  rfl

end Regex

end Packrat
