import Packrat.Proofs.Matching.Items
import Packrat.Proofs.Results.Collected

/-!
# Names in loops

A repetition goes on while there is room and a further round matches (`Matcher.Repeats`), and a list
while a separator and an item do (`Matcher.Lists`). The rounds of a loop from an offset on are so
determined, and with them where it ends (`Shape.Turns.unique`). If what is repeated is an expression
under a name that it does not record itself, the name loses nothing: a list name has one value for
every round that gave tokens, in order, and a plain name has that of the last such round
(`Draft.tells_after`). That an expression does not record a name can be read off the nodes whose
names come to the surface of its results (`Grammar.Records`).
-/

set_option autoImplicit false
set_option relaxedAutoImplicit false

namespace Packrat

open MatchMonad

namespace Matcher

/-! ### Rounds -/

/-- After a number of rounds a repetition goes on from a place with further ones, and ends at
another place. It ends when it is full, when no further round matches, and with a round that takes
nothing once there are enough. -/
inductive Repeats (child : Matcher Ending) (least : Nat) (most : Option Nat) :
    Nat → Nat → List Match → Nat → Prop
  | full {count place : Nat} (hfull : most.all (count < ·) = false) :
    Repeats child least most count place [] place
  | failed {count place : Nat} {failure : Failure} (hroom : most.all (count < ·) = true)
    (hfailed : child place = .halted (.failure failure)) (hordinary : failure.fatal = false)
    (henough : least ≤ count) : Repeats child least most count place [] place
  | idle {count place : Nat} {last : Match} (hroom : most.all (count < ·) = true)
    (hlast : child place = .ended last) (hidle : last.stop = place) (hbounded : most ≠ none)
    (henough : least ≤ count + 1) : Repeats child least most count place [last] last.stop
  | next {count place stop : Nat} {next : Match} {rest : List Match}
    (hroom : most.all (count < ·) = true) (hnext : child place = .ended next)
    (hgoes : next.stop = place → most ≠ none ∧ count + 1 < least)
    (hrest : Repeats child least most (count + 1) next.stop rest stop) :
    Repeats child least most count place (next :: rest) stop

/-- Where a list ends after a separator that no item follows. -/
def stopAfter (form : ListForm) (place : Nat) (between : Match) : Nat :=
  if form.trailing then between.stop else place

/-- After a number of items, the last of which ends at a place, a list goes on with further ones,
and ends at another place. It ends when no separator follows, when it is full or no item follows the
separator, and when a list of bounded length would get an item that does not end further on. -/
inductive Lists (item separator : Matcher Ending) (form : ListForm) :
    Nat → Nat → List Match → Nat → Prop
  | apart {count place : Nat} {failure : Failure}
    (hfailed : separator place = .halted (.failure failure)) (hordinary : failure.fatal = false)
    (henough : form.least ≤ count) : Lists item separator form count place [] place
  | full {count place : Nat} {between : Match} (hbetween : separator place = .ended between)
    (hfull : form.most.all (count < ·) = false) (henough : form.least ≤ count) :
    Lists item separator form count place [] (stopAfter form place between)
  | failed {count place : Nat} {between : Match} {failure : Failure}
    (hbetween : separator place = .ended between) (hroom : form.most.all (count < ·) = true)
    (hfailed : item between.stop = .halted (.failure failure)) (hordinary : failure.fatal = false)
    (henough : form.least ≤ count) :
    Lists item separator form count place [] (stopAfter form place between)
  | idle {count place : Nat} {between next : Match} (hbetween : separator place = .ended between)
    (hroom : form.most.all (count < ·) = true) (hnext : item between.stop = .ended next)
    (hidle : ¬ place < next.stop) (hbounded : form.most ≠ none) (henough : form.least ≤ count) :
    Lists item separator form count place [] place
  | next {count place stop : Nat} {between next : Match} {rest : List Match}
    (hbetween : separator place = .ended between) (hroom : form.most.all (count < ·) = true)
    (hnext : item between.stop = .ended next) (hmoves : place < next.stop)
    (hrest : Lists item separator form (count + 1) next.stop rest stop) :
    Lists item separator form count place (next :: rest) stop

/-- The tokens of matches, one list for each. -/
def tokensOf (turns : List Match) : List (List Token) := turns.map (·.results.tokens)

variable {text : Text} {inner separator : Matcher Ending} {name : String} {accumulate : Bool}
  {count place stop least : Nat} {most : Option Nat} {form : ListForm} {what : String}
  {turns : List Match} {done found : Match} {parts : List (List Token)}

theorem Repeats.unique (hrepeats : Repeats inner least most count place turns stop) :
    ∀ {others : List Match} {elsewhere : Nat},
      Repeats inner least most count place others elsewhere →
        others = turns ∧ elsewhere = stop := by
  induction hrepeats with
  | full hfull =>
    intro others elsewhere hother
    cases hother with
    | full _ => exact ⟨rfl, rfl⟩
    | failed hroom _ _ _ => cases hfull.symm.trans hroom
    | idle hroom _ _ _ _ => cases hfull.symm.trans hroom
    | next hroom _ _ _ => cases hfull.symm.trans hroom
  | failed hroom hfailed _ _ =>
    intro others elsewhere hother
    cases hother with
    | full hfull => cases hfull.symm.trans hroom
    | failed _ _ _ _ => exact ⟨rfl, rfl⟩
    | idle _ hlast _ _ _ => cases hfailed.symm.trans hlast
    | next _ hnext _ _ => cases hfailed.symm.trans hnext
  | idle hroom hlast hidle hbounded henough =>
    intro others elsewhere hother
    cases hother with
    | full hfull => cases hfull.symm.trans hroom
    | failed _ hfailed _ _ => cases hlast.symm.trans hfailed
    | idle _ hsame _ _ _ =>
      obtain rfl := Ending.ended.inj (hlast.symm.trans hsame)
      exact ⟨rfl, rfl⟩
    | next _ hsame hgoes _ =>
      obtain rfl := Ending.ended.inj (hlast.symm.trans hsame)
      exact absurd henough (Nat.not_le_of_lt (hgoes hidle).2)
  | next hroom hnext hgoes _ ih =>
    intro others elsewhere hother
    cases hother with
    | full hfull => cases hfull.symm.trans hroom
    | failed _ hfailed _ _ => cases hnext.symm.trans hfailed
    | idle _ hsame hidle _ henough =>
      obtain rfl := Ending.ended.inj (hnext.symm.trans hsame)
      exact absurd henough (Nat.not_le_of_lt (hgoes hidle).2)
    | next _ hsame _ hrest =>
      obtain rfl := Ending.ended.inj (hnext.symm.trans hsame)
      obtain ⟨rfl, rfl⟩ := ih hrest
      exact ⟨rfl, rfl⟩

theorem Lists.unique (hlists : Lists inner separator form count place turns stop) :
    ∀ {others : List Match} {elsewhere : Nat},
      Lists inner separator form count place others elsewhere →
        others = turns ∧ elsewhere = stop := by
  induction hlists with
  | apart hapart _ _ =>
    intro others elsewhere hother
    cases hother with
    | apart _ _ _ => exact ⟨rfl, rfl⟩
    | full hbetween _ _ => cases hapart.symm.trans hbetween
    | failed hbetween _ _ _ _ => cases hapart.symm.trans hbetween
    | idle hbetween _ _ _ _ _ => cases hapart.symm.trans hbetween
    | next hbetween _ _ _ _ => cases hapart.symm.trans hbetween
  | full hbetween hfull _ =>
    intro others elsewhere hother
    cases hother with
    | apart hapart _ _ => cases hbetween.symm.trans hapart
    | full hsame _ _ =>
      obtain rfl := Ending.ended.inj (hbetween.symm.trans hsame)
      exact ⟨rfl, rfl⟩
    | failed _ hroom _ _ _ => cases hfull.symm.trans hroom
    | idle _ hroom _ _ _ _ => cases hfull.symm.trans hroom
    | next _ hroom _ _ _ => cases hfull.symm.trans hroom
  | failed hbetween hroom hfailed _ _ =>
    intro others elsewhere hother
    cases hother with
    | apart hapart _ _ => cases hbetween.symm.trans hapart
    | full _ hfull _ => cases hfull.symm.trans hroom
    | failed hsame _ _ _ _ =>
      obtain rfl := Ending.ended.inj (hbetween.symm.trans hsame)
      exact ⟨rfl, rfl⟩
    | idle hsame _ hnext _ _ _ =>
      obtain rfl := Ending.ended.inj (hbetween.symm.trans hsame)
      cases hfailed.symm.trans hnext
    | next hsame _ hnext _ _ =>
      obtain rfl := Ending.ended.inj (hbetween.symm.trans hsame)
      cases hfailed.symm.trans hnext
  | idle hbetween hroom hnext hidle _ _ =>
    intro others elsewhere hother
    cases hother with
    | apart hapart _ _ => cases hbetween.symm.trans hapart
    | full _ hfull _ => cases hfull.symm.trans hroom
    | failed hsame _ hfailed _ _ =>
      obtain rfl := Ending.ended.inj (hbetween.symm.trans hsame)
      cases hnext.symm.trans hfailed
    | idle _ _ _ _ _ _ => exact ⟨rfl, rfl⟩
    | next hsame _ hagain hmoves _ =>
      obtain rfl := Ending.ended.inj (hbetween.symm.trans hsame)
      obtain rfl := Ending.ended.inj (hnext.symm.trans hagain)
      exact absurd hmoves hidle
  | next hbetween hroom hnext hmoves _ ih =>
    intro others elsewhere hother
    cases hother with
    | apart hapart _ _ => cases hbetween.symm.trans hapart
    | full _ hfull _ => cases hfull.symm.trans hroom
    | failed hsame _ hfailed _ _ =>
      obtain rfl := Ending.ended.inj (hbetween.symm.trans hsame)
      cases hnext.symm.trans hfailed
    | idle hsame _ hagain hidle _ _ =>
      obtain rfl := Ending.ended.inj (hbetween.symm.trans hsame)
      obtain rfl := Ending.ended.inj (hnext.symm.trans hagain)
      exact absurd hmoves hidle
    | next hsame _ hagain _ hrest =>
      obtain rfl := Ending.ended.inj (hbetween.symm.trans hsame)
      obtain rfl := Ending.ended.inj (hnext.symm.trans hagain)
      obtain ⟨rfl, rfl⟩ := ih hrest
      exact ⟨rfl, rfl⟩

/-! ### Names of rounds -/

/-- A match under a name is a match that was named. -/
theorem exists_of_named (hfound : Matcher.named name accumulate inner place = .ended found) :
    ∃ unnamed, inner place = .ended unnamed ∧ unnamed.stop = found.stop ∧
      unnamed.results.setName name accumulate = found.results := by
  obtain ⟨unnamed, hunnamed, hlast⟩ := Ending.exists_of_bind_eq_ended hfound
  obtain rfl := Ending.ended.inj hlast
  exact ⟨unnamed, hunnamed, rfl, rfl⟩

theorem halted_of_named {halt : Halt}
    (hhalted : Matcher.named name accumulate inner place = .halted halt) :
    inner place = .halted halt := by
  change (inner place >>= _) = .halted halt at hhalted
  cases hinner : inner place with
  | never => rw [hinner] at hhalted; cases hhalted
  | halted other => rw [hinner] at hhalted; exact hhalted
  | ended unnamed => rw [hinner] at hhalted; cases hhalted

/-- A matcher does not record a name in its matches from boundaries. -/
def Unnamed (text : Text) (name : String) (inner : Matcher Ending) : Prop :=
  ∀ ⦃offset : Nat⦄ ⦃found : Match⦄, text.IsBoundary offset → inner offset = .ended found →
    found.results.containsName name = false

/-- One more match under a name after those that were collected. -/
theorem collects_append (hunnamed : Unnamed text name inner)
    (hcollects : Results.Collects name accumulate parts done.results) {start : Nat}
    (hstart : text.IsBoundary start) {unnamed next : Match} (hfound : inner start = .ended unnamed)
    (hresults : unnamed.results.setName name accumulate = next.results) :
    Results.Collects name accumulate (parts ++ [unnamed.results.tokens])
      (done.append next).results :=
  hcollects.extend (hresults ▸ Results.collects_setName (hunnamed hstart hfound))

/-- From what it has so far a loop goes on with rounds of which it collects the names, up to the end
of its match. -/
def Collecting (name : String) (accumulate : Bool) (goesOn : List Match → Nat → Prop)
    (parts : List (List Token)) (found : Match) : Prop :=
  ∃ turns, goesOn turns found.stop ∧
    Results.Collects name accumulate (parts ++ tokensOf turns) found.results

theorem collecting_nil {goesOn : List Match → Nat → Prop} (hends : goesOn [] done.stop)
    (hcollects : Results.Collects name accumulate parts done.results) :
    Collecting name accumulate goesOn parts done := by
  refine ⟨[], hends, ?_⟩
  rw [tokensOf, List.map_nil, List.append_nil]
  exact hcollects

theorem Collecting.cons {goesOn further : List Match → Nat → Prop} {round : Match}
    (hcollecting : Collecting name accumulate further (parts ++ [round.results.tokens]) found)
    (hround : ∀ rest, further rest found.stop → goesOn (round :: rest) found.stop) :
    Collecting name accumulate goesOn parts found := by
  obtain ⟨rest, hrest, hcollects⟩ := hcollecting
  refine ⟨round :: rest, hround rest hrest, ?_⟩
  rw [List.append_assoc] at hcollects
  exact hcollects

/-- A repetition without bound collects what its rounds give. The induction is on the rest of the
text. -/
theorem collecting_repetitionFrom_none (honward : Onward text inner)
    (hunnamed : Unnamed text name inner) (measure : Nat) :
    ∀ {count : Nat} (done : Match) {parts : List (List Token)}, text.size - done.stop = measure →
      text.IsBoundary done.stop →
      Results.Collects name accumulate parts done.results →
      repetitionFrom text (named name accumulate inner) least none what count done = .ended found →
      Collecting name accumulate (Repeats inner least none count done.stop) parts found := by
  induction measure using Nat.strong_induction_on with
  | _ measure ih =>
    intro count done parts hmeasure hdone hcollects hfound
    unfold repetitionFrom at hfound
    rcases Ending.exists_of_backtrack_bind_eq_ended hfound with
      ⟨next, hnext, hmore⟩ | ⟨failure, hfailed, hordinary, hlast⟩
    · obtain ⟨unnamed, hunnamed', hstop, hresults⟩ := exists_of_named hnext
      have hahead := honward hdone hunnamed'
      dsimp only at hmore
      split at hmore
      next hadvances =>
        have hplace : (done.append next).stop = unnamed.stop := hstop.symm
        have hrest := ih (text.size - next.stop)
          (by have := hadvances.1; have := hadvances.2; omega) (done.append next) rfl
          (hplace ▸ hahead.boundary) (collects_append hunnamed hcollects hdone hunnamed' hresults)
          hmore
        refine hrest.cons fun rest hrest ↦ .next rfl hunnamed' (fun hidle ↦ ?_) (hplace ▸ hrest)
        exact absurd (hstop ▸ hadvances.1) (hidle ▸ Nat.lt_irrefl _)
      next => cases hmore
    · dsimp only at hlast
      split at hlast
      next => cases hlast
      next henough =>
        obtain rfl := Ending.ended.inj hlast
        exact collecting_nil
          (.failed rfl (halted_of_named hfailed) hordinary (Nat.le_of_not_lt henough)) hcollects

/-- A repetition with a bound collects what its rounds give. The induction is on the rounds for
which there is room. -/
theorem collecting_repetitionFrom_some (honward : Onward text inner)
    (hunnamed : Unnamed text name inner) {bound : Nat} (measure : Nat) :
    ∀ {count : Nat} (done : Match) {parts : List (List Token)}, bound - count = measure →
      text.IsBoundary done.stop →
      Results.Collects name accumulate parts done.results →
      repetitionFrom text (named name accumulate inner) least (some bound) what count done =
      .ended found →
      Collecting name accumulate (Repeats inner least (some bound) count done.stop)
      parts found := by
  induction measure with
  | zero =>
    intro count done parts hmeasure hdone hcollects hfound
    have hfull : ¬ count < bound := by omega
    unfold repetitionFrom at hfound
    rw [if_neg hfull] at hfound
    obtain rfl := Ending.ended.inj hfound
    exact collecting_nil (.full (decide_eq_false hfull)) hcollects
  | succ measure ih =>
    intro count done parts hmeasure hdone hcollects hfound
    have hroom : count < bound := by omega
    have hopen : (some bound).all (count < ·) = true := decide_eq_true hroom
    unfold repetitionFrom at hfound
    rw [if_pos hroom] at hfound
    rcases Ending.exists_of_backtrack_bind_eq_ended hfound with
      ⟨next, hnext, hmore⟩ | ⟨failure, hfailed, hordinary, hlast⟩
    · obtain ⟨unnamed, hunnamed', hstop, hresults⟩ := exists_of_named hnext
      have hahead := honward hdone hunnamed'
      have hplace : (done.append next).stop = unnamed.stop := hstop.symm
      have hcollects' := collects_append hunnamed hcollects hdone hunnamed' hresults
      dsimp only at hmore
      split at hmore
      next hidle =>
        obtain rfl := Ending.ended.inj hmore
        refine ⟨[unnamed], ?_, hcollects'⟩
        rw [hplace]
        exact .idle hopen hunnamed' (hstop.trans hidle.1) (Option.some_ne_none bound) hidle.2
      next hgoes =>
        have hrest := ih (done.append next) (by omega) (hplace ▸ hahead.boundary) hcollects' hmore
        refine hrest.cons fun rest hrest ↦ .next hopen hunnamed' (fun hidle ↦ ?_) (hplace ▸ hrest)
        exact ⟨Option.some_ne_none bound,
          Nat.lt_of_not_le fun henough ↦ hgoes ⟨hstop.symm.trans hidle, henough⟩⟩
    · dsimp only at hlast
      split at hlast
      next => cases hlast
      next henough =>
        obtain rfl := Ending.ended.inj hlast
        exact collecting_nil
          (.failed hopen (halted_of_named hfailed) hordinary (Nat.le_of_not_lt henough)) hcollects

theorem collecting_repetition (honward : Onward text inner) (hunnamed : Unnamed text name inner)
    (hplace : text.IsBoundary place)
    (hfound : repetition text (named name accumulate inner) least most what place = .ended found) :
    Collecting name accumulate (Repeats inner least most 0 place) [] found := by
  cases most with
  | none =>
    exact collecting_repetitionFrom_none honward hunnamed _ (.nothing place) rfl hplace
      (Results.collects_empty name accumulate) hfound
  | some bound =>
    exact collecting_repetitionFrom_some honward hunnamed _ (.nothing place) rfl hplace
      (Results.collects_empty name accumulate) hfound

/-- The rest of a list whose separators are dropped collects what its items give. The induction is
on the rest of the text: every further item consumes some of it. -/
theorem collecting_delimitedFrom (honward : Onward text inner) (hseparator : Onward text separator)
    (hunnamed : Unnamed text name inner) (hdropped : form.keepSeparators = false) (measure : Nat) :
    ∀ {count : Nat} (done : Match) {parts : List (List Token)},
      text.size - done.stop = measure → text.IsBoundary done.stop →
      Results.Collects name accumulate parts done.results →
      delimitedFrom text (named name accumulate inner) separator form what count done =
        .ended found →
      Collecting name accumulate (Lists inner separator form count done.stop) parts found := by
  induction measure using Nat.strong_induction_on with
  | _ measure ih =>
    intro count done parts hmeasure hdone hcollects hfound
    have hafter {between : Match} {stoppedBy : Option Failure}
        (hends : Lists inner separator form count done.stop [] (stopAfter form done.stop between))
        (hlast : (listEnd form what count (withTrailing form done between) stoppedBy : Ending Match)
          = .ended found) :
        Collecting name accumulate (Lists inner separator form count done.stop) parts found := by
      obtain ⟨-, rfl⟩ := ended_listEnd hlast
      have hstop : (withTrailing form done between).stop = stopAfter form done.stop between := by
        rw [withTrailing, stopAfter, hdropped]
        cases form.trailing <;> rfl
      have hresults : (withTrailing form done between).results = done.results := by
        rw [withTrailing, hdropped]
        cases form.trailing <;> rfl
      exact collecting_nil (hstop ▸ hends) (hresults ▸ hcollects)
    rw [delimitedFrom] at hfound
    rcases Ending.exists_of_backtrack_bind_eq_ended hfound with
      ⟨between, hbetween, hmore⟩ | ⟨failure, hapart, hordinary, hend⟩
    · have hmiddle := hseparator hdone hbetween
      dsimp only at hmore
      split at hmore
      next hroom =>
        rcases Ending.exists_of_backtrack_bind_eq_ended hmore with
          ⟨next, hnext, hlast⟩ | ⟨failure, hfailed, hordinary, hend⟩
        · obtain ⟨unnamed, hmatch, hstop, hresults⟩ := exists_of_named hnext
          have hahead := honward hmiddle.boundary hmatch
          have hitem : withItem form done between next = done.append next := by
            rw [withItem, hdropped]
            rfl
          dsimp only at hlast
          split at hlast
          next hadvances =>
            have hplace : (done.append next).stop = unnamed.stop := hstop.symm
            rw [hitem] at hlast
            have hrest := ih (text.size - next.stop)
              (by have := hadvances.1; have := hadvances.2; omega) (done.append next) rfl
              (hplace ▸ hahead.boundary)
              (collects_append hunnamed hcollects hmiddle.boundary hmatch hresults) hlast
            exact hrest.cons fun rest hrest ↦
              .next hbetween hroom hmatch (hstop ▸ hadvances.1) (hplace ▸ hrest)
          next hstays =>
            split at hlast
            next => cases hlast
            next hbounded =>
              obtain ⟨henough, rfl⟩ := ended_listEnd hlast
              refine collecting_nil (.idle hbetween hroom hmatch (fun hmoves ↦ ?_)
                (fun hnone ↦ hbounded (hnone ▸ rfl)) henough) hcollects
              exact hstays ⟨hstop ▸ hmoves, hmoves.trans_le hahead.le_size⟩
        · exact hafter (.failed hbetween hroom (halted_of_named hfailed) hordinary
            (ended_listEnd hend).1) hend
      next hfull =>
        exact hafter (.full hbetween (Bool.eq_false_iff.mpr hfull) (ended_listEnd hmore).1) hmore
    · obtain ⟨henough, rfl⟩ := ended_listEnd hend
      exact collecting_nil (.apart hapart hordinary henough) hcollects

end Matcher

/-- The rounds of a loop over an expression from an offset on, and where the loop ends: those of a
repetition, and the items of a list, of which there may be none if none is needed. -/
inductive Shape.Turns (read : Expr → Matcher Ending) (expr : Expr) (offset : Nat) :
    Shape → List Match → Nat → Prop
  | repetition {child : Expr} {least : Nat} {most : Option Nat} {turns : List Match} {stop : Nat}
    (hrepeats : Matcher.Repeats (read expr) least most 0 offset turns stop) :
    Turns read expr offset (.repetition child least most) turns stop
  | none {child separator : Expr} {form : ListForm} {failure : Failure} (hleast : form.least = 0)
    (hnone : read expr offset = .halted (.failure failure)) (hordinary : failure.fatal = false) :
    Turns read expr offset (.delimited child separator form) [] offset
  | items {child separator : Expr} {form : ListForm} {first : Match}
    {rest : List Match} {stop : Nat} (hfirst : read expr offset = .ended first)
    (hlists : Matcher.Lists (read expr) (read separator) form 1 first.stop rest stop) :
    Turns read expr offset (.delimited child separator form) (first :: rest) stop

theorem Shape.Turns.unique {read : Expr → Matcher Ending} {expr : Expr}
    {offset stop elsewhere : Nat} {shape : Shape} {turns others : List Match}
    (hturns : shape.Turns read expr offset turns stop)
    (hothers : shape.Turns read expr offset others elsewhere) :
    others = turns ∧ elsewhere = stop := by
  cases hturns with
  | repetition hrepeats =>
    cases hothers with
    | repetition hother => exact hrepeats.unique hother
  | none _ hnone _ =>
    cases hothers with
    | none _ _ _ => exact ⟨rfl, rfl⟩
    | items hfirst _ => cases hnone.symm.trans hfirst
  | items hfirst hlists =>
    cases hothers with
    | none _ hnone _ => cases hfirst.symm.trans hnone
    | items hsame hother =>
      obtain rfl := Ending.ended.inj (hfirst.symm.trans hsame)
      obtain ⟨rfl, rfl⟩ := hlists.unique hother
      exact ⟨rfl, rfl⟩

namespace Matcher

variable {text : Text} {read : Expr → Matcher Ending} {expr child separator : Expr} {name : String}
  {accumulate : Bool} {offset least : Nat} {most : Option Nat} {form : ListForm} {what : String}
  {found : Match}

/-- A list whose separators are dropped collects what its items give. -/
theorem collecting_delimited (honward : Onward text (read expr))
    (hseparator : Onward text (read separator)) (hunnamed : Unnamed text name (read expr))
    (hdropped : form.keepSeparators = false) (hoffset : text.IsBoundary offset)
    (hfound : delimited text (named name accumulate (read expr)) (read separator) form what offset =
      .ended found) :
    Collecting name accumulate ((Shape.delimited child separator form).Turns read expr offset) []
      found := by
  cases hfirst : named name accumulate (read expr) offset with
  | ended first =>
    rw [delimited_of_ended hfirst] at hfound
    obtain ⟨unnamed, hmatch, hstop, hresults⟩ := exists_of_named hfirst
    have hcollects : Results.Collects name accumulate ([] ++ [unnamed.results.tokens])
        first.results :=
      hresults ▸ Results.collects_setName (hunnamed hoffset hmatch)
    have hrest := collecting_delimitedFrom honward hseparator hunnamed hdropped _ first rfl
      (hstop ▸ (honward hoffset hmatch).boundary) hcollects hfound
    exact hrest.cons fun rest hrest ↦ .items hmatch (hstop ▸ hrest)
  | never | halted halt =>
    unfold delimited at hfound
    rw [hfirst] at hfound
    split_ifs at hfound with hleast
    · rcases Ending.exists_of_backtrack_bind_eq_ended hfound with
        ⟨middle, hnone, -⟩ | ⟨failure, hfailure, hordinary, hend⟩
      · cases hnone
      · obtain rfl := Ending.ended.inj hend
        exact collecting_nil (.none hleast (halted_of_named (hfirst.trans hfailure)) hordinary)
          (Results.collects_empty name accumulate)
    · cases hfound

end Matcher

/-! ### Names that come to the surface -/

/-- The nodes whose names are names of the results of a node. -/
def Node.surfaces (grammar : Grammar) : Node → List NodeId
  | .sequence parts _ => parts
  | .choice alternatives => alternatives
  | .optional child _ => [child]
  | .repetition child _ _ _ => [child]
  | .delimited item separator _ _ => [item, separator]
  | .call rule => [grammar.ruleBody rule]
  | .named child _ _ => [child]
  | .action child _ _ => [child]
  | .labeled child _ _ => [child]
  | _ => []

namespace Grammar

variable {grammar : Grammar} {text : Text} {name : String} {id child : NodeId}

/-- A node may record a name at the level of its results: it, or a node whose names come to the
surface there, gives that name, or has actions, which may do so. -/
inductive Records (grammar : Grammar) (name : String) : NodeId → Prop
  | named {id child : NodeId} {accumulate : Bool}
    (hnode : grammar.node id = .named child name accumulate) :
    Records grammar name id
  | action {id : NodeId} (hnode : (grammar.node id).isAction = true) : Records grammar name id
  | inside {id child : NodeId} (hchild : child ∈ (grammar.node id).surfaces grammar)
    (hrecords : Records grammar name child) : Records grammar name id

/-- The promise that nodes which do not record a name have no match with it. -/
def unnamed (grammar : Grammar) (name : String) : NodeId → Nat → Match → Prop :=
  fun id _ found ↦ ¬ grammar.Records name id → found.results.containsName name = false

/-- A grammar keeps the promise: a name comes to the surface only from where it is given. -/
theorem maintains_unnamed (grammar : Grammar) (text : Text) (name : String) :
    grammar.Maintains text (grammar.unnamed name) := by
  intro id offset _
  have hinside {child : NodeId} (hchild : child ∈ (grammar.node id).surfaces grammar)
      (hnot : ¬ grammar.Records name id) : ¬ grammar.Records name child :=
    fun hrecords ↦ hnot (.inside hchild hrecords)
  have hpass {child : NodeId} (hchild : child ∈ (grammar.node id).surfaces grammar)
      {place : Nat} {found : Match} (hfound : text.Fulfils (grammar.unnamed name) child place
        found) : grammar.unnamed name id offset found :=
    fun hnot ↦ hfound.2 (hinside hchild hnot)
  have hround {child : NodeId} (hchild : child ∈ (grammar.node id).surfaces grammar) :
      text.Continues (grammar.unnamed name) offset (grammar.unnamed name id offset) child :=
    fun done next _ hdone hnext hnot ↦ Results.containsName_extend (hdone hnot)
    (hnext.2 (hinside hchild hnot))
  cases hnode : grammar.node id with
  | empty | lookahead => exact fun _ ↦ rfl
  | textEnd => exact fun _ _ ↦ rfl
  | suppress | group | combine => exact fun _ _ _ ↦ rfl
  | terminal | regex => exact fun _ _ _ _ ↦ rfl
  | sequence parts commit =>
    exact ⟨fun _ ↦ rfl, fun part hpart ↦ hround (by rw [hnode]; exact hpart)⟩
  | choice alternatives =>
    exact fun alternative halternative found hfound ↦
      hpass (by rw [hnode]; exact halternative) hfound
  | optional child default =>
    refine ⟨fun _ ↦ ?_, fun found hfound ↦ hpass (by rw [hnode]; exact List.mem_cons_self) hfound⟩
    cases default <;> rfl
  | repetition child least most what =>
    exact ⟨fun _ ↦ rfl, hround (by rw [hnode]; exact List.mem_cons_self)⟩
  | delimited item separator form what =>
    have hitem : item ∈ (grammar.node id).surfaces grammar := by
      rw [hnode]
      exact List.mem_cons_self
    have hseparator : separator ∈ (grammar.node id).surfaces grammar := by
      rw [hnode]
      exact List.mem_cons_of_mem _ List.mem_cons_self
    refine ⟨fun _ ↦ rfl, fun found hfound ↦ hpass hitem hfound,
      fun done between hahead hdone hbetween ↦ ⟨?_, ?_⟩⟩
    · unfold Matcher.withTrailing
      split_ifs
      · exact hround hseparator done between hahead hdone hbetween
      · exact hdone
      · exact hdone
    · intro next hnext
      unfold Matcher.withItem
      split_ifs
      · exact fun hnot ↦ Results.containsName_extend
          (hround hseparator done between hahead hdone hbetween hnot) (hnext.2 (hinside hitem hnot))
      · exact fun hnot ↦ Results.containsName_extend (hdone hnot) (hnext.2 (hinside hitem hnot))
  | call rule => exact fun found hfound ↦ hpass (by rw [hnode]; exact List.mem_cons_self) hfound
  | named child other accumulate =>
    intro found hfound hnot
    have hother : other ≠ name := by
      rintro rfl
      exact hnot (.named hnode)
    exact Results.containsName_setName hother
      (hfound.2 (hinside (by rw [hnode]; exact List.mem_cons_self) hnot))
  | action child actions skip =>
    have hrecords : grammar.Records name id := .action (by rw [hnode]; rfl)
    exact ⟨fun _ _ hnot ↦ absurd hrecords hnot, fun _ _ _ _ _ _ _ _ hnot ↦ absurd hrecords hnot⟩
  | labeled child skip expected =>
    exact fun found hfound ↦ hpass (by rw [hnode]; exact List.mem_cons_self) hfound

/-- A node that does not record a name has no match with it. -/
theorem unnamed_ending (text : Text) (hrecords : ¬ grammar.Records name id) :
    Matcher.Unnamed text name (grammar.ending text id) :=
  fun _ _ hoffset hfound ↦ (fulfils_of_ending (grammar.maintains_unnamed text name)
    hoffset hfound).2 hrecords

end Grammar

/-! ### Loops over a name -/

/-- Repetitions of an expression, and lists of it of which the separators are not kept. -/
inductive Shape.Loops (item : Expr) : Option Expr → Shape → Prop
  | repetition (least : Nat) (most : Option Nat) : Loops item none (.repetition item least most)
  | delimited (separator : Expr) (form : ListForm) (hdropped : form.keepSeparators = false) :
    Loops item (some separator) (.delimited item separator form)

namespace Draft

variable {draft : Draft} {grammar : Grammar} {text : Text} {skip : Option CharSet}

/-- The meaning of an expression takes its matches on in the text. -/
theorem LowersTo.onward_meaning (hlowers : draft.LowersTo grammar) (text : Text)
    {expr : Expr} {id : NodeId} (hid : expr.CompilesTo grammar.nodes grammar.ruleNames skip id) :
    Matcher.Onward text (grammar.meaning text skip expr) :=
  hlowers.ending_eq_meaning text hid ▸ grammar.onward_ending text id

/-- Names in loops lose nothing. An expression that does not record a name itself is given the name
and repeated, or listed with separators that are dropped. Then whatever was asked of a session
before, a match has the rounds that the loop has from the offset to the end of the match, and no
others: matches of the expression one after the other. Its tokens are those of all rounds. If none
of them has tokens, the name is absent. Otherwise a list name stands for the values of all rounds
that have tokens, in order, and a plain name for that of the last one; its token and its results are
those of the last one. -/
theorem tells_after (hcoherent : draft.Coherent) (hbuild : draft.build = .ok grammar) {expr : Expr}
    {name : String} {accumulate : Bool} {own identity : Nat} {separator : Option Expr}
    {shape : Shape} (hloops : shape.Loops ⟨own, .named expr name accumulate⟩ separator)
    {id : NodeId} (hid : (⟨identity, shape⟩ : Expr).CompilesTo grammar.nodes
      grammar.ruleNames skip id)
    (hunnamed : Matcher.Unnamed text name (grammar.meaning text skip expr)) (history : List Request)
    {room offset : Nat} (hoffset : text.IsBoundary offset) {found : Match}
    (hfound : (grammar.evaluate text room id offset
      ((Session.start grammar text).after history).state).1 = .ok found) :
    ∃ turns, shape.Turns (grammar.meaning text skip) expr offset turns found.stop ∧
      (∀ others stop, shape.Turns (grammar.meaning text skip) expr offset others stop →
        others = turns ∧ stop = found.stop) ∧
      found.results.tokens = (Matcher.tokensOf turns).flatten ∧
      found.results.Tells name accumulate (Results.toldOf (Matcher.tokensOf turns)) := by
  have hlowers := lowersTo_of_compile hcoherent (build_eq_ok_iff.mp hbuild).1
  have hending := Grammar.ending_of_session (hfound ▸ not_isLimited_ok found)
  rw [hfound, Ending.ofOutcome_ok, hlowers.ending_eq_meaning text hid] at hending
  suffices hcollecting : Matcher.Collecting name accumulate
      (shape.Turns (grammar.meaning text skip) expr offset) [] found by
    obtain ⟨turns, hturns, hcollects⟩ := hcollecting
    exact ⟨turns, hturns, fun _ _ hothers ↦ hturns.unique hothers, hcollects.tokens,
      hcollects.tells⟩
  cases hloops with
  | repetition least most =>
    obtain ⟨child, hchild⟩ := hid.exists_child List.mem_cons_self
    obtain ⟨inner, hinner⟩ := hchild.exists_child List.mem_cons_self
    have hloop : Matcher.repetition text
        (grammar.meaning text skip ⟨own, .named expr name accumulate⟩) least most _ offset =
        .ended found :=
      (congrFun (hlowers.meaning_eq text hid) offset).symm.trans hending
    rw [hlowers.meaning_eq text hchild] at hloop
    obtain ⟨turns, hrepeats, hcollects⟩ :=
      Matcher.collecting_repetition (hlowers.onward_meaning text hinner) hunnamed hoffset hloop
    exact ⟨turns, .repetition hrepeats, hcollects⟩
  | delimited separator form hdropped =>
    obtain ⟨child, hchild⟩ := hid.exists_child List.mem_cons_self
    obtain ⟨middle, hmiddle⟩ := hid.exists_child (List.mem_cons_of_mem _ List.mem_cons_self)
    obtain ⟨inner, hinner⟩ := hchild.exists_child List.mem_cons_self
    have hloop : Matcher.delimited text
        (grammar.meaning text skip ⟨own, .named expr name accumulate⟩)
        (grammar.meaning text skip separator) form _ offset = .ended found :=
      (congrFun (hlowers.meaning_eq text hid) offset).symm.trans hending
    rw [hlowers.meaning_eq text hchild] at hloop
    exact Matcher.collecting_delimited (hlowers.onward_meaning text hinner)
      (hlowers.onward_meaning text hmiddle) hunnamed hdropped hoffset hloop

end Draft

/-! ### Marked letters -/

/-- Letters among which there may be dashes, which are dropped. The letters are under a list
name. -/
def Draft.dashed : Build Draft := do
  let letter ← (← Expr.literal "a").orElse (← Expr.literal "b")
  let dash ← (← Expr.literal "-").suppress
  let part ← letter.orElse dash
  let item ← part.withName "letters" true
  pure { entry := some (.expr (← item.oneOrMore)) }

def Grammar.dashed : Grammar where
  nodes := #[.terminal (.literal "a" false) (some .blanks) "Expected \"a\"",
    .terminal (.literal "b" false) (some .blanks) "Expected \"b\"",
    .terminal (.literal "-" false) (some .blanks) "Expected \"-\"", .suppress 2, .choice [0, 1, 3],
    .named 4 "letters" true, .repetition 5 1 none "\x7b\x7b\"a\" | \"b\" | \"-\"\x7d\x7d..."]
  ruleNames := []
  ruleBodies := []
  entry := some 6
  config := {}

namespace Draft

theorem coherent_dashed (next : Nat) : (dashed next).1.Coherent := by
  have hdraws : Build.Draws (fun _ ↦ False) dashed Drawn := by
    refine Build.draws_bind (Build.draws_leaf fun _ ↦ rfl) fun first one _ hfirst ↦ ?_
    refine Build.draws_bind (Build.draws_leaf fun _ ↦ rfl) fun second two htwo hsecond ↦ ?_
    refine Build.draws_bind (Build.draws_orElse (htwo _ hfirst) hsecond)
      fun letter three _ hletter ↦ ?_
    refine Build.draws_bind (Build.draws_leaf fun _ ↦ rfl) fun mark four hfour hmark ↦ ?_
    refine Build.draws_bind (Build.draws_around (fun _ ↦ rfl) hmark) fun dash five hfive hdash ↦ ?_
    refine Build.draws_bind (Build.draws_orElse (hfive _ (hfour _ hletter)) hdash)
      fun part six _ hpart ↦ ?_
    refine Build.draws_bind (Build.draws_around (fun _ ↦ rfl) hpart) fun item seven _ hitem ↦ ?_
    refine Build.draws_bind (Build.draws_around (fun _ ↦ rfl) hitem) fun row drawn _ hrow ↦
      Build.draws_pure _ ⟨fun _ hbody ↦ (nomatch hbody), fun entry hentry ↦ ?_⟩
    obtain rfl := EntryPoint.expr.inj (Option.some.inj hentry)
    exact hrow
  exact hdraws.coherent next

theorem build_dashed : (dashed 0).1.build = .ok Grammar.dashed := by
  cbv

/-- What letters and dashes are made of does not record the name. -/
theorem not_records_dashed : ¬ Grammar.dashed.Records "letters" 4 := by
  intro hrecords
  cases hrecords with
  | named hnode => cases hnode
  | action hnode => cases hnode
  | inside hchild hrecords =>
    have hmem : _ ∈ [0, 1, 3] := hchild
    simp only [List.mem_cons, List.not_mem_nil, or_false] at hmem
    rcases hmem with rfl | rfl | rfl
    all_goals cases hrecords with
      | named hnode => cases hnode
      | action hnode => cases hnode
      | inside hchild hrecords => exact absurd hchild List.not_mem_nil

/-- Two letters with a dash between them are three rounds, of which two have tokens, and two
values. -/
theorem tells_after_dashed :
    let text := Text.ofChars ['a', '-', 'b']
    ∃ own identity id skip expr found turns, (dashed 0).1.Coherent ∧
      (dashed 0).1.build = .ok Grammar.dashed ∧
      (⟨identity, .repetition ⟨own, .named expr "letters" true⟩ 1 none⟩ : Expr).CompilesTo
        Grammar.dashed.nodes Grammar.dashed.ruleNames skip id ∧
      Matcher.Unnamed text "letters" (Grammar.dashed.meaning text skip expr) ∧ text.IsBoundary 0 ∧
      (Grammar.dashed.evaluate text 10 id 0
        ((Session.start Grammar.dashed text).after [.scan]).state).1 = .ok found ∧
      found.stop = 3 ∧ found.results.get? "letters" = some (.list [.str "a", .str "b"]) ∧
      turns.length = 3 ∧
      (Shape.repetition ⟨own, .named expr "letters" true⟩ 1 none).Turns
        (Grammar.dashed.meaning text skip) expr 0 turns 3 ∧
      found.results.tokens = (Matcher.tokensOf turns).flatten ∧
      found.results.Tells "letters" true (Results.toldOf (Matcher.tokensOf turns)) := by
  intro text
  have hlowers := lowersTo_of_compile (coherent_dashed 0) (build_eq_ok_iff.mp build_dashed).1
  obtain ⟨id, hentry, hid⟩ := hlowers.exists_entry rfl (.expr _)
  obtain rfl := Option.some.inj hentry
  obtain ⟨node, ids, hnode, hshape, hchildren⟩ := hid.lowers
  obtain rfl := Option.some.inj hnode
  cases hshape
  obtain ⟨node, ids, hnode, hshape, hchildren⟩ := (List.forall₂_cons.mp hchildren).1.lowers
  obtain rfl := Option.some.inj hnode
  cases hshape
  have hinner := (List.forall₂_cons.mp hchildren).1
  have hunnamed := Grammar.unnamed_ending text not_records_dashed
  rw [hlowers.ending_eq_meaning text hinner] at hunnamed
  have hfound : (Grammar.dashed.evaluate text 10 6 0
      ((Session.start Grammar.dashed text).after [.scan]).state).1 =
        .ok ⟨3, ⟨[.str "a", .str "b"], [⟨"letters", [⟨0, 1⟩, ⟨1, 2⟩], true⟩]⟩⟩ :=
    Grammar.evaluate_after_of_trace (by cbv) (not_isLimited_ok _) _
  obtain ⟨turns, hturns, hunique, htokens, htells⟩ := tells_after (coherent_dashed 0) build_dashed
    (.repetition 1 none) hid hunnamed [.scan] text.isBoundary_zero hfound
  have hround (place : Nat) {outcome : Except Halt Match}
      (houtcome : (Grammar.dashed.trace text 10 4 place).outcome = outcome)
      (hreached : ¬ IsLimited outcome) : Grammar.dashed.ending text 4 place = .ofOutcome outcome :=
    (Grammar.dashed.deepening text 4 place).ending_of_outcome 10 houtcome hreached
  have hrepeats : Matcher.Repeats (Grammar.dashed.ending text 4) 1 none 0 0
      [⟨1, .ofToken (.str "a")⟩, ⟨2, .empty⟩, ⟨3, .ofToken (.str "b")⟩] 3 := by
    refine .next rfl (hround 0 (by cbv) (not_isLimited_ok _)) (by decide) ?_
    refine .next rfl (hround 1 (by cbv) (not_isLimited_ok _)) (by decide) ?_
    refine .next rfl (hround 2 (by cbv) (not_isLimited_ok _)) (by decide) ?_
    exact .failed rfl (hround 3 (by cbv) (not_isLimited_failure _)) rfl (by decide)
  have hthree := (hunique _ _ (.repetition
    (hlowers.ending_eq_meaning text hinner ▸ hrepeats))).1
  exact ⟨_, _, _, _, _, _, turns, coherent_dashed 0, build_dashed, hid,
    hunnamed, text.isBoundary_zero, hfound, rfl, rfl, hthree ▸ rfl, hturns, htokens, htells⟩

end Draft

end Packrat
