import Packrat.Proofs.Matching.Reads
import Packrat.Proofs.Text.Places

/-!
# What expressions take of a text

`Draft.Takes` says that an expression takes some characters wherever a text goes on with them and
with a given tail, and which tokens it yields; `Draft.Leaves` that it declines wherever a text goes
on in a given way. Both are about characters, not about offsets, so that what is taken piece by
piece is taken as a whole (`Draft.takes_sequence`, `Draft.takes_repetition`). Characters of a set
are skipped before terminals.
-/

set_option autoImplicit false
set_option relaxedAutoImplicit false

namespace Packrat

namespace Draft

/-! ### Taking and leaving -/

/-- Where a text goes on with some characters and a tail, an expression takes these characters and
yields the given tokens. -/
def Takes (draft : Draft) (set : CharSet) (expr : Expr) (chars tail : List Char)
    (tokens : List Token) :
    Prop :=
  ∀ (text : Text) (offset : Nat), text.At offset (chars ++ tail) →
    draft.Reads text (some set) expr offset ⟨offset + byteLength chars, .ofTokens tokens⟩

/-- Where a text goes on with some characters, an expression declines. -/
def Leaves (draft : Draft) (set : CharSet) (expr : Expr) (chars : List Char) : Prop :=
  ∀ (text : Text) (offset : Nat), text.At offset chars → draft.Misses text (some set) expr offset

variable {draft : Draft} {set : CharSet} {identity : Nat} {chars tail blanks : List Char}
  {tokens : List Token}

/-! ### Terminals and rules -/

/-- A terminal takes what it scans, after skipped characters. -/
theorem takes_terminal {form : Terminal} {taken : List Char} {token : Token}
    (hproper : ¬ form.IsEmptyLiteral) (hblanks : ∀ c ∈ blanks, set.contains c = true)
    (hhead : ∀ c ∈ (taken ++ tail).head?, ¬ set.contains c = true)
    (hscan : ∀ before, form.scan before (taken ++ tail) = .found (taken, token)) :
    draft.Takes set ⟨identity, .terminal form⟩ (blanks ++ taken) tail [token] := by
  intro text offset hat
  rw [List.append_assoc] at hat
  have hskip := hat.skipFrom_eq hblanks hhead
  have hrest := hat.advance.rest_eq
  have hreads : draft.Reads text (some set) ⟨identity, .terminal form⟩ offset
      ⟨skipFrom (some set) text offset + byteLength taken, .ofToken token⟩ :=
    reads_terminal hproper (by rw [hskip, hrest]; exact hscan _)
  rwa [hskip, Nat.add_assoc, ← byteLength_append] at hreads

/-- A terminal leaves what it does not scan, after skipped characters. -/
theorem leaves_terminal {form : Terminal} {body : List Char} (hproper : ¬ form.IsEmptyLiteral)
    (hblanks : ∀ c ∈ blanks, set.contains c = true)
    (hhead : ∀ c ∈ body.head?, ¬ set.contains c = true)
    (hscan : ∀ before, form.scan before body = .missing) :
    draft.Leaves set ⟨identity, .terminal form⟩ (blanks ++ body) := by
  intro text offset hat
  have hskip := hat.skipFrom_eq hblanks hhead
  have hrest := hat.advance.rest_eq
  exact misses_terminal hproper (by rw [hskip, hrest]; exact hscan _)

theorem takes_rule (hskip : draft.config.skip = some set) {name : String} {body : Expr}
    (hname : draft.body? name = some body) (hbody : draft.Takes set body chars tail tokens) :
    draft.Takes set ⟨identity, .rule name⟩ chars tail tokens :=
  fun text offset hat ↦ reads_rule hname (hskip ▸ hbody text offset hat)

/-! ### Choices and results -/

variable {first second child : Expr} {rest : List Expr}

/-- A choice takes what its first alternative takes. -/
theorem takes_choice_first (hfirst : draft.Takes set first chars tail tokens) :
    draft.Takes set ⟨identity, .choice (first :: rest)⟩ chars tail tokens :=
  fun text offset hat ↦ reads_choice_first (hfirst text offset hat)

/-- A choice takes what its second alternative takes and the first one leaves. -/
theorem takes_choice_second (hfirst : draft.Leaves set first (chars ++ tail))
    (hsecond : draft.Takes set second chars tail tokens) :
    draft.Takes set ⟨identity, .choice (first :: second :: rest)⟩ chars tail tokens :=
  fun text offset hat ↦ reads_choice_second (hfirst text offset hat) (hsecond text offset hat)

theorem takes_suppress (hchild : draft.Takes set child chars tail tokens) :
    draft.Takes set ⟨identity, .suppress child⟩ chars tail [] :=
  fun text offset hat ↦ reads_suppress (hchild text offset hat)

theorem takes_group (hchild : draft.Takes set child chars tail tokens) :
    draft.Takes set ⟨identity, .group child⟩ chars tail [.group tokens []] :=
  fun text offset hat ↦ reads_group (hchild text offset hat)

theorem leaves_group (hchild : draft.Leaves set child chars) :
    draft.Leaves set ⟨identity, .group child⟩ chars :=
  fun text offset hat ↦ misses_group (hchild text offset hat)

/-! ### Sequences -/

/-- Parts take pieces one after another. -/
inductive TakesAll (draft : Draft) (set : CharSet) (tail : List Char) :
    List Expr → List Char → List Token → Prop
  | nil : TakesAll draft set tail [] [] []
  | cons {part : Expr} {parts : List Expr} {piece chars : List Char} {tokens more : List Token}
    (hpart : draft.Takes set part piece (chars ++ tail) tokens)
    (hparts : TakesAll draft set tail parts chars more) :
    TakesAll draft set tail (part :: parts) (piece ++ chars) (tokens ++ more)

theorem TakesAll.single {part : Expr} (hpart : draft.Takes set part chars tail tokens) :
    draft.TakesAll set tail [part] chars tokens := by
  have hcons : draft.TakesAll set tail [part] (chars ++ []) (tokens ++ []) := .cons hpart .nil
  simpa using hcons

/-- Parts that take pieces one after another are read one after another. The induction is on the
parts. -/
theorem TakesAll.readsAll {parts : List Expr} (hparts : draft.TakesAll set tail parts chars tokens)
    (text : Text) : ∀ done : Match, text.At done.stop (chars ++ tail) →
      draft.ReadsAll text (some set) parts done
        ⟨done.stop + byteLength chars, ⟨done.results.tokens ++ tokens, done.results.names⟩⟩ := by
  induction hparts with
  | nil =>
    intro done _
    simpa using ReadsAll.nil done
  | @cons part parts piece chars tokens more hpart _ ih =>
    intro done hat
    rw [List.append_assoc] at hat
    have hrest := ih (done.append ⟨done.stop + byteLength piece, .ofTokens tokens⟩) hat.advance
    have hall := ReadsAll.cons (hpart text done.stop hat) hrest
    simpa [Match.append, Results.extend, Results.ofTokens, Nat.add_assoc] using hall

/-- A sequence takes the pieces of its parts together. -/
theorem takes_sequence {parts : List Expr} (hparts : draft.TakesAll set tail parts chars tokens) :
    draft.Takes set ⟨identity, .sequence parts none⟩ chars tail tokens :=
  fun text offset hat ↦ reads_sequence (hparts.readsAll text (.nothing offset) hat)

/-- A sequence leaves what a part leaves after the pieces of the parts before it. -/
theorem leaves_sequence {done : List Expr} {part : Expr}
    (hdone : draft.TakesAll set tail done chars tokens) (hpart : draft.Leaves set part tail) :
    draft.Leaves set ⟨identity, .sequence (done ++ part :: rest) none⟩ (chars ++ tail) := by
  have hsome {text : Text} {before : Match} (hat : text.At before.stop (chars ++ tail)) :
      draft.MissesSome text (some set) (done ++ part :: rest) before := by
    induction hdone generalizing before with
    | nil => exact .here (hpart text _ hat)
    | cons hfirst _ ih =>
      rw [List.append_assoc] at hat
      exact .later (hfirst text _ hat) (ih hat.advance)
  exact fun text offset hat ↦ misses_sequence (hsome hat)

/-! ### Repetitions -/

/-- Rounds take pieces one after another, none of which is empty, and then there is no further
round. -/
inductive TakesRounds (draft : Draft) (set : CharSet) (tail : List Char) (child : Expr) :
    Nat → List Char → List Token → Prop
  | done (hlast : draft.Leaves set child tail) : TakesRounds draft set tail child 0 [] []
  | round {count : Nat} {piece chars : List Char} {tokens more : List Token}
    (hround : draft.Takes set child piece (chars ++ tail) tokens) (hpiece : piece ≠ [])
    (hrounds : TakesRounds draft set tail child count chars more) :
    TakesRounds draft set tail child (count + 1) (piece ++ chars) (tokens ++ more)

theorem TakesRounds.single (hround : draft.Takes set child chars tail tokens) (hchars : chars ≠ [])
    (hlast : draft.Leaves set child tail) : draft.TakesRounds set tail child 1 chars tokens := by
  have hrounds : draft.TakesRounds set tail child 1 (chars ++ []) (tokens ++ []) :=
    .round hround hchars (.done hlast)
  simpa using hrounds

/-- Rounds that take pieces one after another are read one after another. The induction is on the
rounds. -/
theorem TakesRounds.readsRounds {count : Nat}
    (hrounds : draft.TakesRounds set tail child count chars tokens) (text : Text) :
    ∀ done : Match, text.At done.stop (chars ++ tail) →
      draft.ReadsRounds text (some set) child done count
        ⟨done.stop + byteLength chars, ⟨done.results.tokens ++ tokens, done.results.names⟩⟩ := by
  induction hrounds with
  | done hlast =>
    intro done hat
    simpa using ReadsRounds.done (hlast text done.stop hat)
  | @round count piece chars tokens more hround hpiece _ ih =>
    intro done hat
    rw [List.append_assoc] at hat
    have hpositive := byteLength_pos hpiece
    have hsize := hat.add_byteLength
    rw [byteLength_append] at hsize
    have hadvances : Matcher.Advances text done.stop (done.stop + byteLength piece) :=
      ⟨by omega, by omega⟩
    have hrest := ih (done.append ⟨done.stop + byteLength piece, .ofTokens tokens⟩) hat.advance
    have hall := ReadsRounds.round (hround text done.stop hat) hadvances hrest
    simpa [Match.append, Results.extend, Results.ofTokens, Nat.add_assoc] using hall

/-- A repetition takes the pieces of enough rounds together. -/
theorem takes_repetition {least count : Nat}
    (hrounds : draft.TakesRounds set tail child count chars tokens) (hleast : least ≤ count) :
    draft.Takes set ⟨identity, .repetition child least none⟩ chars tail tokens :=
  fun text offset hat ↦ reads_repetition (hrounds.readsRounds text (.nothing offset) hat) hleast

/-- A repetition that needs a round leaves what its child leaves. -/
theorem leaves_repetition {least : Nat} (hchild : draft.Leaves set child chars)
    (hleast : 0 < least) :
    draft.Leaves set ⟨identity, .repetition child least none⟩ chars :=
  fun text offset hat ↦ misses_repetition (hchild text offset hat) hleast

end Draft

end Packrat
