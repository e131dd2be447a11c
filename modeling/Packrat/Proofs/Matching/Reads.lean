import Mathlib.Order.Filter.AtTopBot.Basic
import Packrat.Proofs.Matching.Readings

/-!
# Readings with enough room

`Draft.Reads` says that an expression reads as a given match once there is enough room, and
`Draft.Misses` that it fails in a way over which callers may go back. There is one statement for
each way of combining expressions; how much room is enough never has to be said. Sequences and
repetitions are gone through part by part and round by round (`Draft.ReadsAll`,
`Draft.ReadsRounds`).
-/

set_option autoImplicit false
set_option relaxedAutoImplicit false

namespace Packrat

open MatchMonad

/-! ### Accounts that decline -/

namespace Account

variable {α β : Type}

/-- An account ends with a failure over which callers may go back. -/
def Declines (account : Account α) : Prop :=
  ∃ failure : Failure, account.outcome = .error (.failure failure) ∧ failure.fatal = false

theorem outcome_bind_of_ok {account : Account α} {value : α}
    (houtcome : account.outcome = .ok value) (next : α → Account β) :
    (account >>= next).outcome = (next value).outcome := by
  rw [bind_of_ok houtcome]

/-- What follows an account that declines makes no difference. -/
theorem Declines.bind {account : Account α} (hdeclines : account.Declines) (next : α → Account β) :
    (account >>= next).Declines := by
  obtain ⟨failure, houtcome, hordinary⟩ := hdeclines
  refine ⟨failure, ?_, hordinary⟩
  rw [bind_of_error houtcome]

theorem outcome_backtrack_of_ok {account : Account α} {value : α}
    (houtcome : account.outcome = .ok value) :
    (backtrack account : Account _).outcome = .ok (.ok value) := by
  have hattempt : (attempt account : Account _).outcome = .ok (.ok value) := by
    simp only [attempt, houtcome]
  rw [backtrack, outcome_bind_of_ok hattempt]
  rfl

theorem Declines.outcome_backtrack {account : Account α} (hdeclines : account.Declines) :
    ∃ failure, (backtrack account : Account _).outcome = .ok (.error failure) ∧
      failure.fatal = false := by
  obtain ⟨failure, houtcome, hordinary⟩ := hdeclines
  have hattempt : (attempt account : Account _).outcome = .ok (.error failure) := by
    simp only [attempt, houtcome]
  refine ⟨failure, ?_, hordinary⟩
  rw [backtrack, outcome_bind_of_ok hattempt]
  simp only [hordinary]
  rfl

end Account

/-! ### Matchers -/

namespace Matcher

variable {text : Text} {skip : Option CharSet} {offset : Nat} {found : Match}

/-- A terminal that takes something of the text. -/
theorem outcome_scanned {expected : String} {scan : Option Char → List Char →
      Scan (List Char × Token)}
    {taken : List Char} {token : Token}
    (hscan : scan (text.before? (skipFrom skip text offset))
      (text.rest (skipFrom skip text offset)) = .found (taken, token)) :
    (scanned text skip expected scan offset : Account Match).outcome =
      .ok ⟨skipFrom skip text offset + byteLength taken, .ofToken token⟩ := by
  simp only [scanned, hscan]
  rfl

theorem declines_scanned {expected : String}
    {scan : Option Char → List Char → Scan (List Char × Token)}
    (hscan : scan (text.before? (skipFrom skip text offset))
      (text.rest (skipFrom skip text offset)) = .missing) :
        (scanned text skip expected scan offset : Account Match).Declines := by
  refine ⟨.ordinary (skipFrom skip text offset) expected, ?_, rfl⟩
  simp only [scanned, hscan]
  rfl

variable {first : Matcher Account} {rest : List (Matcher Account)}

/-- A choice of which the first alternative matches. -/
theorem outcome_choiceFrom_of_ok (hfirst : (first offset).outcome = .ok found)
    (best : Option Failure) :
    (choiceFrom offset (first :: rest) best : Account Match).outcome = .ok found := by
  rw [choiceFrom, Account.outcome_bind_of_ok (Account.outcome_backtrack_of_ok hfirst)]
  rfl

/-- A choice of which the first alternative declines. -/
theorem outcome_choiceFrom_of_declines (hfirst : (first offset).Declines) (best : Option Failure) :
    ∃ held, (choiceFrom offset (first :: rest) best : Account Match).outcome =
      (choiceFrom offset rest held : Account Match).outcome := by
  obtain ⟨failure, hfailure, -⟩ := hfirst.outcome_backtrack
  refine ⟨Failure.further best failure, ?_⟩
  rw [choiceFrom, Account.outcome_bind_of_ok hfailure]

theorem outcome_sequenceFrom {index : Nat} {done next : Match}
    (hfirst : (first done.stop).outcome = .ok next) :
    (sequenceFrom none index (first :: rest) done : Account Match).outcome =
      (sequenceFrom none (index + 1) rest (done.append next) : Account Match).outcome := by
  rw [sequenceFrom]
  exact Account.outcome_bind_of_ok hfirst _

/-- A sequence declines when its first part does. -/
theorem declines_sequenceFrom {index : Nat} {done : Match} (hfirst : (first done.stop).Declines) :
    (sequenceFrom none index (first :: rest) done : Account Match).Declines := by
  rw [sequenceFrom]
  exact hfirst.bind _

variable {child : Matcher Account} {least count : Nat} {what : String} {done next : Match}

theorem outcome_repetitionFrom (hround : (child done.stop).outcome = .ok next)
    (hadvances : Advances text done.stop next.stop) :
    (repetitionFrom text child least none what count done : Account Match).outcome =
      (repetitionFrom text child least none what (count + 1) (done.append next) :
        Account Match).outcome := by
  rw [repetitionFrom, Account.outcome_bind_of_ok (Account.outcome_backtrack_of_ok hround)]
  simp only [if_pos hadvances]

theorem outcome_repetitionFrom_of_declines (hround : (child done.stop).Declines)
    (hcount : least ≤ count) :
    (repetitionFrom text child least none what count done : Account Match).outcome = .ok done := by
  obtain ⟨failure, hfailure, -⟩ := hround.outcome_backtrack
  rw [repetitionFrom, Account.outcome_bind_of_ok hfailure]
  simp only [if_neg (Nat.not_lt.mpr hcount)]
  rfl

theorem declines_repetitionFrom (hround : (child done.stop).Declines) (hcount : count < least) :
    (repetitionFrom text child least none what count done : Account Match).Declines := by
  obtain ⟨failure, hfailure, hordinary⟩ := hround.outcome_backtrack
  refine ⟨failure, ?_, hordinary⟩
  rw [repetitionFrom, Account.outcome_bind_of_ok hfailure]
  simp only [if_pos hcount]
  rfl

theorem outcome_mapResults {f : Results → Results} (hchild : (child offset).outcome = .ok found) :
    (mapResults f child offset).outcome = .ok { found with results := f found.results } := by
  rw [mapResults, Account.outcome_bind_of_ok hchild]
  rfl

end Matcher

/-! ### Expressions -/

namespace Draft

/-- With enough room an expression reads at an offset as the given match. -/
def Reads (draft : Draft) (text : Text) (skip : Option CharSet) (expr : Expr) (offset : Nat)
    (found : Match) : Prop :=
  ∀ᶠ room in Filter.atTop,
    (draft.reading text room skip expr offset : Account Match).outcome = .ok found

/-- With enough room an expression declines at an offset. -/
def Misses (draft : Draft) (text : Text) (skip : Option CharSet) (expr : Expr) (offset : Nat) :
    Prop :=
  ∀ᶠ room in Filter.atTop, (draft.reading text room skip expr offset : Account Match).Declines

variable {draft : Draft} {text : Text} {skip : Option CharSet} {identity offset : Nat}
  {found : Match}

/-- What holds of a shape with enough room holds of its expression. -/
theorem eventually_reading (property : Account Match → Prop) {shape : Shape}
    (hplain : (⟨identity, shape⟩ : Expr).innermost skip = (skip, ⟨identity, shape⟩))
    (hshape : ∀ᶠ room in Filter.atTop, property (shape.matcher text (draft.reading text room)
      (draft.readRule (draft.reading text room)) skip identity offset)) :
    ∀ᶠ room in Filter.atTop, property (draft.reading text room skip ⟨identity, shape⟩ offset) := by
  obtain ⟨enough, henough⟩ := Filter.eventually_atTop.mp hshape
  refine Filter.eventually_atTop.mpr ⟨enough + 1, fun room hroom ↦ ?_⟩
  obtain ⟨less, rfl⟩ := Nat.exists_eq_add_of_lt hroom
  have hless := henough (enough + less) (Nat.le_add_right enough less)
  rw [reading, hplain]
  exact hless

theorem reads_of_shape {shape : Shape}
    (hplain : (⟨identity, shape⟩ : Expr).innermost skip = (skip, ⟨identity, shape⟩))
    (hshape : ∀ᶠ room in Filter.atTop, (shape.matcher text (draft.reading text room)
      (draft.readRule (draft.reading text room)) skip identity offset : Account Match).outcome =
        .ok found) : draft.Reads text skip ⟨identity, shape⟩ offset found :=
  eventually_reading (fun account ↦ account.outcome = .ok found) hplain hshape

/-- An expression declines where its shape does. -/
theorem misses_of_shape {shape : Shape}
    (hplain : (⟨identity, shape⟩ : Expr).innermost skip = (skip, ⟨identity, shape⟩))
    (hshape : ∀ᶠ room in Filter.atTop, (shape.matcher text (draft.reading text room)
      (draft.readRule (draft.reading text room)) skip identity offset : Account Match).Declines) :
    draft.Misses text skip ⟨identity, shape⟩ offset :=
  eventually_reading Account.Declines hplain hshape

/-! ### Terminals and rules -/

/-- A terminal that takes something after the skipped characters. -/
theorem reads_terminal {form : Terminal} {taken : List Char} {token : Token}
    (hproper : ¬ form.IsEmptyLiteral)
    (hscan : form.scan (text.before? (skipFrom skip text offset))
      (text.rest (skipFrom skip text offset)) = .found (taken, token)) :
    draft.Reads text skip ⟨identity, .terminal form⟩ offset
      ⟨skipFrom skip text offset + byteLength taken, .ofToken token⟩ := by
  refine reads_of_shape rfl (Filter.Eventually.of_forall fun room ↦ ?_)
  rw [Shape.matcher, if_neg hproper]
  exact Matcher.outcome_scanned hscan

/-- A terminal that takes nothing after the skipped characters. -/
theorem misses_terminal {form : Terminal} (hproper : ¬ form.IsEmptyLiteral)
    (hscan : form.scan (text.before? (skipFrom skip text offset))
      (text.rest (skipFrom skip text offset)) = .missing) :
    draft.Misses text skip ⟨identity, .terminal form⟩ offset := by
  refine misses_of_shape rfl (Filter.Eventually.of_forall fun room ↦ ?_)
  rw [Shape.matcher, if_neg hproper]
  exact Matcher.declines_scanned hscan

theorem reads_rule {name : String} {body : Expr} (hbody : draft.body? name = some body)
    (hreads : draft.Reads text draft.config.skip body offset found) :
    draft.Reads text skip ⟨identity, .rule name⟩ offset found := by
  refine reads_of_shape rfl (hreads.mono fun room hroom ↦ ?_)
  rw [Shape.matcher, readRule, hbody]
  exact hroom

/-! ### Choices -/

variable {first second : Expr} {rest : List Expr}

theorem reads_choice_first (hfirst : draft.Reads text skip first offset found) :
    draft.Reads text skip ⟨identity, .choice (first :: rest)⟩ offset found := by
  refine reads_of_shape rfl (hfirst.mono fun room hroom ↦ ?_)
  exact Matcher.outcome_choiceFrom_of_ok hroom none

/-- A choice whose first alternative declines and whose second one matches. -/
theorem reads_choice_second (hfirst : draft.Misses text skip first offset)
    (hsecond : draft.Reads text skip second offset found) :
    draft.Reads text skip ⟨identity, .choice (first :: second :: rest)⟩ offset found := by
  refine reads_of_shape rfl ?_
  filter_upwards [hfirst, hsecond] with room hmissed hfound
  obtain ⟨held, hheld⟩ := Matcher.outcome_choiceFrom_of_declines hmissed none
  refine hheld.trans ?_
  exact Matcher.outcome_choiceFrom_of_ok hfound held

/-! ### Results -/

variable {child : Expr}

theorem reads_suppress (hchild : draft.Reads text skip child offset found) :
    draft.Reads text skip ⟨identity, .suppress child⟩ offset { found with results := .empty } :=
  reads_of_shape rfl (hchild.mono fun _ hroom ↦ Matcher.outcome_mapResults hroom)

/-- An expression with its results as one token. -/
theorem reads_group (hchild : draft.Reads text skip child offset found) :
    draft.Reads text skip ⟨identity, .group child⟩ offset
      { found with results := .ofToken found.results.toGroup } :=
  reads_of_shape rfl (hchild.mono fun _ hroom ↦ Matcher.outcome_mapResults hroom)

/-- An expression that declines with its results as one token. -/
theorem misses_group (hchild : draft.Misses text skip child offset) :
    draft.Misses text skip ⟨identity, .group child⟩ offset :=
  misses_of_shape rfl (hchild.mono fun _ hroom ↦ hroom.bind _)

/-! ### Sequences -/

/-- Parts read one after another. -/
inductive ReadsAll (draft : Draft) (text : Text) (skip : Option CharSet) :
    List Expr → Match → Match → Prop
  | nil (done : Match) : ReadsAll draft text skip [] done done
  | cons {part : Expr} {rest : List Expr} {done next last : Match}
    (hpart : draft.Reads text skip part done.stop next)
    (hrest : ReadsAll draft text skip rest (done.append next) last) :
    ReadsAll draft text skip (part :: rest) done last

/-- One of several parts declines after the others before it were read. -/
inductive MissesSome (draft : Draft) (text : Text) (skip : Option CharSet) :
    List Expr → Match → Prop
  | here {part : Expr} {rest : List Expr} {done : Match}
    (hpart : draft.Misses text skip part done.stop) : MissesSome draft text skip (part :: rest) done
  | later {part : Expr} {rest : List Expr} {done next : Match}
    (hpart : draft.Reads text skip part done.stop next)
    (hrest : MissesSome draft text skip rest (done.append next)) :
    MissesSome draft text skip (part :: rest) done

variable {parts : List Expr} {last : Match}

/-- A sequence whose parts are read one after another. -/
theorem reads_sequence (hparts : draft.ReadsAll text skip parts (.nothing offset) last) :
    draft.Reads text skip ⟨identity, .sequence parts none⟩ offset last := by
  have hall {parts : List Expr} {done last : Match}
      (hparts : draft.ReadsAll text skip parts done last) :
      ∀ᶠ room in Filter.atTop, ∀ index, (Matcher.sequenceFrom none index
        (parts.map (draft.reading text room skip)) done : Account Match).outcome = .ok last := by
    induction hparts with
    | nil done => exact Filter.Eventually.of_forall fun _ _ ↦ rfl
    | cons hpart _ ih =>
      filter_upwards [hpart, ih] with room hfirst hrest index
      rw [List.map_cons, Matcher.outcome_sequenceFrom hfirst, hrest]
  exact reads_of_shape rfl ((hall hparts).mono fun room hroom ↦ hroom 0)

theorem misses_sequence (hparts : draft.MissesSome text skip parts (.nothing offset)) :
    draft.Misses text skip ⟨identity, .sequence parts none⟩ offset := by
  have hsome {parts : List Expr} {done : Match} (hparts : draft.MissesSome text skip parts done) :
      ∀ᶠ room in Filter.atTop, ∀ index, (Matcher.sequenceFrom none index
        (parts.map (draft.reading text room skip)) done : Account Match).Declines := by
    induction hparts with
    | here hpart => exact hpart.mono fun room hroom index ↦ Matcher.declines_sequenceFrom hroom
    | later hpart _ ih =>
      filter_upwards [hpart, ih] with room hfirst hrest index
      rw [List.map_cons, Account.Declines, Matcher.outcome_sequenceFrom hfirst]
      exact hrest _
  exact misses_of_shape rfl ((hsome hparts).mono fun room hroom ↦ hroom 0)

/-! ### Repetitions -/

/-- Rounds of a repetition, each of which advances, and a last one that declines. -/
inductive ReadsRounds (draft : Draft) (text : Text) (skip : Option CharSet) (child : Expr) :
    Match → Nat → Match → Prop
  | done {done : Match} (hlast : draft.Misses text skip child done.stop) :
    ReadsRounds draft text skip child done 0 done
  | round {done next last : Match} {count : Nat}
    (hround : draft.Reads text skip child done.stop next)
    (hadvances : Matcher.Advances text done.stop next.stop)
    (hrest : ReadsRounds draft text skip child (done.append next) count last) :
    ReadsRounds draft text skip child done (count + 1) last

theorem reads_repetition {least count : Nat}
    (hrounds : draft.ReadsRounds text skip child (.nothing offset) count last)
    (hleast : least ≤ count) :
    draft.Reads text skip ⟨identity, .repetition child least none⟩ offset last := by
  have hall {done last : Match} {count : Nat}
      (hrounds : draft.ReadsRounds text skip child done count last) :
      ∀ᶠ room in Filter.atTop, ∀ before what, least ≤ before + count → (Matcher.repetitionFrom text
        (draft.reading text room skip child) least none what before done : Account Match).outcome =
          .ok last := by
    induction hrounds with
    | done hlast =>
      refine hlast.mono fun room hroom before what henough ↦ ?_
      exact Matcher.outcome_repetitionFrom_of_declines hroom henough
    | round hround hadvances _ ih =>
      filter_upwards [hround, ih] with room hfirst hrest before what henough
      rw [Matcher.outcome_repetitionFrom hfirst hadvances]
      exact hrest _ what (by omega)
  exact reads_of_shape rfl ((hall hrounds).mono fun room hroom ↦
    hroom 0 _ (by omega))

/-- A repetition whose first round declines though it is needed. -/
theorem misses_repetition {least : Nat} (hchild : draft.Misses text skip child offset)
    (hleast : 0 < least) :
    draft.Misses text skip ⟨identity, .repetition child least none⟩ offset :=
  misses_of_shape rfl (hchild.mono fun _ hroom ↦ Matcher.declines_repetitionFrom hroom hleast)

end Draft

end Packrat
