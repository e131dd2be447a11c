import Packrat.Grammar.Compile
import Packrat.Proofs.Regex.Pasting

/-!
# What engines promise

An engine is known by what its regular expressions find. What is said of it beyond that is said in
terms of where patterns occur in texts (`RegexEngine.Lawful`): what is found is an occurrence, none
starts before it, a condition on the start of the text holds there alone, and a pattern that stands
in a group after this condition occurs where both occur one after the other, provided that it is a
pattern by itself.

The standard engine keeps these promises (`RegexEngine.lawful_standard`).
-/

set_option autoImplicit false
set_option relaxedAutoImplicit false

namespace Packrat

/-- What an engine promises of the places where patterns occur: of a pattern, `occurs` tells whether
it matches some characters of a text between those before and those after them. -/
structure RegexEngine.Lawful (engine : RegexEngine)
    (occurs : List Char → List Char → List Char → List Char → Prop) : Prop where
  /-- What is found is an occurrence of the pattern. -/
  occurs_of_find? : ∀ {pattern chars : List Char} {regex : CompiledRegex} {found : RegexMatch},
    engine.compile? pattern = some regex → regex.find? chars = some found →
      ∃ after, chars = found.skipped ++ found.matched ++ after ∧
        occurs pattern found.skipped found.matched after
  /-- If the pattern occurs, something is found that starts no later. -/
  leftmost : ∀ {pattern before matched after : List Char} {regex : CompiledRegex},
    engine.compile? pattern = some regex → occurs pattern before matched after →
      ∃ found, regex.find? (before ++ matched ++ after) = some found ∧
        found.skipped.length ≤ before.length
  /-- The start of the text is there alone, and takes nothing. -/
  textStart : ∀ {before matched after : List Char},
    occurs ['\\', 'A'] before matched after ↔ before = [] ∧ matched = []
  /-- A pattern in a group after the start of the text occurs after the start of the text. -/
  pasted : ∀ {pattern : String}, engine.compile? pattern.toList ≠ none →
    engine.compile? (Compile.anchored pattern) ≠ none → ∀ {before matched after : List Char},
      occurs (Compile.anchored pattern) before matched after ↔ ∃ first second,
        matched = first ++ second ∧ occurs ['\\', 'A'] before first (second ++ after) ∧
          occurs pattern.toList (before ++ first) second after

namespace RegexEngine.Lawful

variable {engine : RegexEngine} {occurs : List Char → List Char → List Char → List Char → Prop}
  {pattern : String} {regex : CompiledRegex} {chars matched after : List Char} {found : RegexMatch}

/-- What is found of a pattern after the start of the text is an occurrence of the pattern at the
start of the text. -/
theorem exists_of_find? (hlawful : engine.Lawful occurs)
    (hown : engine.compile? pattern.toList ≠ none)
    (hregex : engine.compile? (Compile.anchored pattern) = some regex)
    (hfound : regex.find? chars = some found) :
    found.skipped = [] ∧ ∃ after, chars = found.matched ++ after ∧
      occurs pattern.toList [] found.matched after := by
  obtain ⟨after, hchars, hoccurs⟩ := hlawful.occurs_of_find? hregex hfound
  have hpasted : engine.compile? (Compile.anchored pattern) ≠ none := by rw [hregex]; nofun
  obtain ⟨first, second, hmatched, hstart, hrest⟩ := (hlawful.pasted hown hpasted).mp hoccurs
  obtain ⟨hskipped, rfl⟩ := hlawful.textStart.mp hstart
  rw [hskipped] at hchars hrest
  rw [List.nil_append] at hmatched hchars hrest
  exact ⟨hskipped, after, hchars, hmatched ▸ hrest⟩

/-- Where the pattern occurs at the start of a text, it is found there after the start of the
text. -/
theorem exists_find? (hlawful : engine.Lawful occurs) (hown : engine.compile? pattern.toList ≠ none)
    (hregex : engine.compile? (Compile.anchored pattern) = some regex)
    (hoccurs : occurs pattern.toList [] matched after) :
    ∃ found, regex.find? (matched ++ after) = some found := by
  have hpasted : engine.compile? (Compile.anchored pattern) ≠ none := by rw [hregex]; nofun
  have hboth : occurs (Compile.anchored pattern) [] matched after :=
    (hlawful.pasted hown hpasted).mpr ⟨[], matched, rfl, hlawful.textStart.mpr ⟨rfl, rfl⟩, hoccurs⟩
  obtain ⟨found, hfound, -⟩ := hlawful.leftmost hregex hboth
  exact ⟨found, hfound⟩

end RegexEngine.Lawful

/-! ### Searches with programs -/

namespace Program

variable {program : Program}

theorem lengthFrom_le : ∀ {chars : List Char} {places : List Nat} {count : Nat},
    program.lengthFrom? places chars = some count → count ≤ chars.length := by
  intro chars
  induction chars with
  | nil =>
    intro places count hcount
    unfold lengthFrom? at hcount
    split at hcount
    · exact (Option.some.inj hcount) ▸ Nat.le_refl 0
    · cases hcount
  | cons c rest ih =>
    intro places count hcount
    unfold lengthFrom? at hcount
    dsimp only at hcount
    split at hcount
    next further hfurther =>
      split at hfurther
      · cases hfurther
      · obtain rfl := Option.some.inj hcount
        exact Nat.succ_le_succ (ih hfurther)
    next =>
      split at hcount
      · exact (Option.some.inj hcount) ▸ Nat.zero_le _
      · cases hcount

/-- What is found after a character is a match at the place where it is found. -/
theorem exists_of_findFrom {chars : List Char} :
    ∀ {before : Option Char} {found : RegexMatch}, program.findFrom before chars = some found →
      ∃ after, chars = found.skipped ++ found.matched ++ after ∧
        program.length? (found.skipped.getLast?.or before) (found.matched ++ after) =
          some found.matched.length := by
  have hhead {before : Option Char} {chars : List Char} {count : Nat}
      (hcount : program.length? before chars = some count) :
      ∃ after, chars = [] ++ chars.take count ++ after ∧
        program.length? (([] : List Char).getLast?.or before) (chars.take count ++ after) =
          some (chars.take count).length := by
    refine ⟨chars.drop count, (List.take_append_drop count chars).symm, ?_⟩
    rw [List.take_append_drop, List.length_take_of_le (lengthFrom_le hcount)]
    exact hcount
  induction chars with
  | nil =>
    intro before found hfound
    unfold findFrom at hfound
    split at hfound
    next count hcount =>
      cases hfound
      exact hhead hcount
    next => cases hfound
  | cons c rest ih =>
    intro before found hfound
    unfold findFrom at hfound
    split at hfound
    next count hcount =>
      cases hfound
      exact hhead hcount
    next =>
      obtain ⟨inner, hinner, rfl⟩ := Option.map_eq_some_iff.mp hfound
      obtain ⟨after, hrest, hlength⟩ := ih hinner
      refine ⟨after, congrArg (c :: ·) hrest, ?_⟩
      rw [List.getLast?_cons, Option.some_or]
      cases hlast : inner.skipped.getLast? with
      | none => rw [hlast] at hlength; exact hlength
      | some last => rw [hlast] at hlength; exact hlength

/-- If there is a match somewhere, something is found that starts no later. -/
theorem exists_findFrom {matched after : List Char} {count : Nat} (skipped : List Char) :
    ∀ {before : Option Char},
      program.length? (skipped.getLast?.or before) (matched ++ after) = some count →
        ∃ found, program.findFrom before (skipped ++ matched ++ after) = some found ∧
          found.skipped.length ≤ skipped.length := by
  induction skipped with
  | nil =>
    intro before hlength
    refine ⟨⟨[], (matched ++ after).take count⟩, ?_, Nat.le_refl 0⟩
    change program.findFrom before (matched ++ after) = _
    rw [findFrom.eq_def]
    change program.length? before (matched ++ after) = some count at hlength
    rw [hlength]
  | cons c rest ih =>
    intro before hlength
    have hrest : program.length? (rest.getLast?.or (some c)) (matched ++ after) = some count := by
      rw [List.getLast?_cons, Option.some_or] at hlength
      cases hlast : rest.getLast? with
      | none => rw [hlast] at hlength; exact hlength
      | some last => rw [hlast] at hlength; exact hlength
    obtain ⟨found, hfound, hle⟩ := ih hrest
    change ∃ found, program.findFrom before (c :: (rest ++ matched ++ after)) = some found ∧ _
    rw [findFrom.eq_def]
    cases hhere : program.length? before (c :: (rest ++ matched ++ after)) with
    | some count => exact ⟨_, rfl, Nat.zero_le _⟩
    | none =>
      refine ⟨⟨c :: found.skipped, found.matched⟩, ?_, Nat.succ_le_succ hle⟩
      simp only [hfound, Option.map_some]

end Program

/-! ### The standard engine -/

namespace Regex

/-- An expression matches some characters of a text, between those before and those after them. -/
def Occurs (r : Regex) (before matched after : List Char) : Prop :=
  (r.isBound = true → before = []) ∧
    r.unbound.program.length? before.getLast? (matched ++ after) = some matched.length

variable {r own : Regex} {before matched after chars : List Char} {found : RegexMatch}

theorem exists_occurs_of_find? (hfound : r.compiled.find? chars = some found) :
    ∃ after, chars = found.skipped ++ found.matched ++ after ∧
      r.Occurs found.skipped found.matched after := by
  change findWith r.unbound.program r.isBound chars = some found at hfound
  unfold findWith at hfound
  split at hfound
  next hbound =>
    obtain ⟨count, hcount, rfl⟩ := Option.map_eq_some_iff.mp hfound
    refine ⟨chars.drop count, (List.take_append_drop count chars).symm, fun _ ↦ rfl, ?_⟩
    rw [List.take_append_drop, List.length_take_of_le (Program.lengthFrom_le hcount)]
    exact hcount
  next hbound =>
    obtain ⟨after, hchars, hlength⟩ := Program.exists_of_findFrom hfound
    rw [Option.or_none] at hlength
    exact ⟨after, hchars, fun hcontrary ↦ absurd hcontrary hbound, hlength⟩

theorem Occurs.exists_find? (hoccurs : r.Occurs before matched after) :
    ∃ found, r.compiled.find? (before ++ matched ++ after) = some found ∧
      found.skipped.length ≤ before.length := by
  change ∃ found, findWith r.unbound.program r.isBound _ = some found ∧ _
  unfold findWith
  split
  next hbound =>
    obtain rfl := hoccurs.1 hbound
    refine ⟨⟨[], (matched ++ after).take matched.length⟩, ?_, Nat.le_refl 0⟩
    have hlength : r.unbound.program.length? none (matched ++ after) = some matched.length :=
      hoccurs.2
    rw [List.nil_append, hlength, Option.map_some]
  next => exact Program.exists_findFrom before (by rw [Option.or_none]; exact hoccurs.2)

theorem ofPattern_textStart : ofPattern? ['\\', 'A'] = some (.look .textStart) := by
  cbv

theorem occurs_textStart :
    (look .textStart).Occurs before matched after ↔ before = [] ∧ matched = [] := by
  have hprogram : (look .textStart).unbound.program = ⟨#[.accept, .look .textStart 0], 1⟩ := rfl
  rw [Occurs, hprogram]
  cases hlast : before.getLast? with
  | some last =>
    have hlength : (⟨#[.accept, .look .textStart 0], 1⟩ : Program).length? (some last)
        (matched ++ after) = none := by
      cases matched ++ after <;> rfl
    rw [hlength]
    refine iff_of_false (fun hoccurs ↦ nomatch hoccurs.2) ?_
    rintro ⟨rfl, -⟩
    cases hlast
  | none =>
    obtain rfl := List.getLast?_eq_none_iff.mp hlast
    have hlength : (⟨#[.accept, .look .textStart 0], 1⟩ : Program).length? none (matched ++ after) =
        some 0 := by
      cases matched ++ after <;> rfl
    rw [hlength, Option.some.injEq]
    constructor
    · rintro ⟨-, hnone⟩
      exact ⟨rfl, List.length_eq_zero_iff.mp hnone.symm⟩
    · rintro ⟨-, rfl⟩
      exact ⟨fun _ ↦ rfl, rfl⟩

theorem occurs_cat_textStart :
    (cat (.look .textStart) own).Occurs before matched after ↔ ∃ first second,
      matched = first ++ second ∧ (look .textStart).Occurs before first (second ++ after) ∧
        own.Occurs (before ++ first) second after := by
  constructor
  · rintro ⟨hbound, hlength⟩
    obtain rfl := hbound rfl
    exact ⟨[], matched, rfl, occurs_textStart.mpr ⟨rfl, rfl⟩, fun _ ↦ rfl, hlength⟩
  · rintro ⟨first, second, rfl, hstart, hown⟩
    obtain ⟨rfl, rfl⟩ := occurs_textStart.mp hstart
    exact ⟨fun _ ↦ rfl, hown.2⟩

end Regex

namespace RegexEngine

/-- Where patterns occur for the standard engine. -/
def Occurs (pattern before matched after : List Char) : Prop :=
  ∃ r, Regex.ofPattern? pattern = some r ∧ r.Occurs before matched after

theorem compile?_standard {pattern : List Char} {regex : CompiledRegex} :
    standard.compile? pattern = some regex ↔ ∃ r, Regex.ofPattern? pattern = some r ∧
      r.compiled = regex :=
  Option.map_eq_some_iff

/-- A pattern that can be read occurs where its expression does. -/
theorem occurs_iff {pattern before matched after : List Char} {r : Regex}
    (hr : Regex.ofPattern? pattern = some r) :
    Occurs pattern before matched after ↔ r.Occurs before matched after := by
  constructor
  · rintro ⟨other, hother, hoccurs⟩
    exact Option.some.inj (hother.symm.trans hr) ▸ hoccurs
  · exact fun hoccurs ↦ ⟨r, hr, hoccurs⟩

/-- The standard engine keeps its promises. -/
theorem lawful_standard : standard.Lawful Occurs where
  occurs_of_find? hregex hfound := by
    obtain ⟨r, hr, rfl⟩ := compile?_standard.mp hregex
    obtain ⟨after, hchars, hoccurs⟩ := Regex.exists_occurs_of_find? hfound
    exact ⟨after, hchars, r, hr, hoccurs⟩
  leftmost := by
    rintro pattern before matched after regex hregex ⟨r, hr, hoccurs⟩
    obtain ⟨other, hother, rfl⟩ := compile?_standard.mp hregex
    obtain rfl := Option.some.inj (hr.symm.trans hother)
    exact hoccurs.exists_find?
  textStart := by
    intro before matched after
    exact (occurs_iff Regex.ofPattern_textStart).trans Regex.occurs_textStart
  pasted := by
    intro pattern hown hpasted before matched after
    obtain ⟨alone, halone⟩ := Option.ne_none_iff_exists'.mp hown
    obtain ⟨own, hown, -⟩ := compile?_standard.mp halone
    obtain ⟨whole, hwhole⟩ := Option.ne_none_iff_exists'.mp hpasted
    obtain ⟨both, hboth, -⟩ := compile?_standard.mp hwhole
    obtain rfl := Regex.eq_cat_of_anchored hown hboth
    rw [occurs_iff hboth, Regex.occurs_cat_textStart]
    simp only [occurs_iff hown, occurs_iff Regex.ofPattern_textStart]

end RegexEngine

end Packrat
