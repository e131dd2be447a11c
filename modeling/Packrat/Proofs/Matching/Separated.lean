import Packrat.Proofs.Matching.Rounds

/-!
# Lists and their rounds

A list looks for a separator and for an item after it, and decides afterwards what becomes of the
separator: it is kept or dropped, it may stay at the end of the list, or it does not count. Written
out, the list is an item, then a repetition of rounds, which are a separator and an item each, and
then an option of a separator, if one may stay (`Matcher.written`). If items always consume and
separators fail only in the ordinary way, the two agree (`Matcher.agrees_delimited`), except that
the list looks for a separator even when it is full: where no room is enough to find out that there
is none, it comes to nothing.
-/

set_option autoImplicit false
set_option relaxedAutoImplicit false

namespace Packrat

open MatchMonad

/-- A halt is with a failure over which callers may go back. -/
def Halt.IsOrdinary (halt : Halt) :
    Prop := ∃ failure, halt = .failure failure ∧ failure.fatal = false

namespace Matcher

/-- Matches of a matcher from boundaries end ahead and are uniform where names are compared, and it
fails only in the ordinary way. -/
structure Steady (text : Text) (named : Prop) (kind : String → Bool) (separator : Matcher Ending) :
    Prop where
  /-- Matches end ahead. -/
  ahead : ∀ {offset : Nat} {found : Match}, text.IsBoundary offset →
    separator offset = .ended found → text.Ahead offset found.stop
  /-- Their names are of their kinds. -/
  uniform : ∀ {offset : Nat} {found : Match}, named → text.IsBoundary offset →
    separator offset = .ended found → found.results.Uniform kind
  /-- Failures are ordinary, and there are no errors. -/
  ordinary : ∀ {offset : Nat} {halt : Halt}, text.IsBoundary offset →
    separator offset = .halted halt → halt.IsOrdinary

def keptMatch (form : ListForm) (between : Match) : Match :=
  if form.keepSeparators then between else ⟨between.stop, .empty⟩

/-- The separators of a list, with what the list keeps of them. -/
def kept (form : ListForm) (separator : Matcher Ending) : Matcher Ending :=
  if form.keepSeparators then separator else suppress separator

/-- What may follow the last item of a list. -/
def trail (form : ListForm) (separator : Matcher Ending) : Matcher Ending :=
  if form.trailing then optional (kept form separator) none else nothing

/-- What is left of a list after its first item, written out: rounds and what may follow the last
item. -/
def finish (form : ListForm) (separator : Matcher Ending) (base rounds : Match) : Ending Match :=
  trail form separator rounds.stop >>= fun last ↦ .ended ((base.append rounds).append last)

/-- A list of at least one item, written out. -/
def written (text : Text) (item separator round : Matcher Ending) (form : ListForm)
    (what : String) :
    Matcher Ending := fun offset ↦
  item offset >>= fun base ↦
    repetition text round (form.least - 1) (form.most.map (· - 1)) what base.stop >>=
      finish form separator base

variable {text : Text} {named : Prop} {kind : String → Bool} {item separator round : Matcher Ending}
  {form : ListForm} {what : String} {base done rounds : Match}

/-! ### Separators -/

@[simp] theorem stop_keptMatch (between : Match) :
    (keptMatch form between).stop = between.stop := by
  unfold keptMatch
  split_ifs <;> rfl

/-- What is kept of a separator is uniform if the separator is. -/
theorem uniform_keptMatch (form : ListForm) {between : Match}
    (huniform : between.results.Uniform kind) :
    (keptMatch form between).results.Uniform kind := by
  unfold keptMatch
  split_ifs
  · exact huniform
  · exact Results.uniform_empty kind

theorem kept_eq (offset : Nat) :
    kept form separator offset = separator offset >>= fun between ↦
      .ended (keptMatch form between) := by
  unfold kept keptMatch
  split_ifs
  · exact (Ending.bind_ended _).symm
  · rfl

/-- The items so far with a separator and one more item. -/
theorem withItem_eq (between next : Match) :
    withItem form done between next = (done.append (keptMatch form between)).append next := by
  unfold withItem keptMatch
  split_ifs
  · rfl
  · simp [Match.append]

/-- After the last round nothing follows where there is no separator. -/
theorem finish_of_failure {failure : Failure}
    (hfailure : separator rounds.stop = .halted (.failure failure))
    (hordinary : failure.fatal = false) :
    finish form separator base rounds = .ended (base.append rounds) := by
  have hnothing : (base.append rounds).append (.nothing rounds.stop) = base.append rounds :=
    (base.append rounds).append_nothing
  unfold finish trail
  split_ifs
  · rw [optional, kept_eq, hfailure, Ending.halted_bind, Ending.backtrack_failure, hordinary]
    exact congrArg Ending.ended hnothing
  · exact congrArg Ending.ended hnothing

/-- After the last round the separator stays if it may. -/
theorem finish_of_separator (form : ListForm) (base : Match) {between : Match}
    (hbetween : separator rounds.stop = .ended between) :
    finish form separator base rounds =
      .ended (withTrailing form (base.append rounds) between) := by
  have hkept : optional (kept form separator) none rounds.stop =
      .ended (keptMatch form between) := by
    rw [optional, kept_eq, hbetween]
    rfl
  unfold finish trail withTrailing
  split_ifs with htrailing hkeep
  · rw [hkept, keptMatch, if_pos hkeep]
    rfl
  · rw [hkept, keptMatch, if_neg hkeep]
    simp [Match.append]
  · exact congrArg Ending.ended (base.append rounds).append_nothing

/-- Whether the separator stays makes no difference to whether matches agree. -/
theorem agrees_withTrailing (form : ListForm) {other : Match} (hagrees : done.Agrees named other)
    (between : Match) :
    (withTrailing form done between).Agrees named (withTrailing form other between) := by
  unfold withTrailing
  split_ifs
  · exact .append hagrees (.refl named between)
  · exact ⟨rfl, hagrees.tokens, hagrees.names⟩
  · exact hagrees

/-- One more separator and item agree with one more round, put together in the other grouping. -/
theorem agrees_withItem {between next one : Match} (hbase : named → base.results.Uniform kind)
    (hrounds : named → rounds.results.Uniform kind)
    (hkept : named → (keptMatch form between).results.Uniform kind)
    (hnext : named → next.results.Uniform kind) (hdone : done.Agrees named (base.append rounds))
    (hone : one.Agrees named ((keptMatch form between).append next)) :
    (withItem form done between next).Agrees named (base.append (rounds.append one)) := by
  have hboth (hnamed : named) := (hbase hnamed).extend (hrounds hnamed)
  have hround (hnamed : named) := (hkept hnamed).extend (hnext hnamed)
  rw [withItem_eq]
  refine (Match.Agrees.append (.append hdone (.refl named _)) (.refl named next)).trans ?_
  refine (Match.Agrees.append_assoc hboth hkept hnext).trans ?_
  refine (Match.Agrees.append_assoc hbase hrounds hround).trans ?_
  exact .append (.refl named base) (.append (.refl named rounds) hone.symm)

/-! ### Rounds -/

/-- A round ends where its item does, if it is evaluated as a separator and then an item. -/
theorem consumes_round (hitem : item.Consumes text named kind)
    (hseparator : separator.Steady text named kind) (hround : ∀ place, text.IsBoundary place →
      (round place).Agrees named True ((kept form separator).andThen item place)) :
    round.Consumes text named kind := by
  have hboth {place : Nat} {found : Match} (hplace : text.IsBoundary place)
      (hfound : round place = .ended found) :
      ∃ between next, separator place = .ended between ∧ item between.stop = .ended next ∧
        found.Agrees named ((keptMatch form between).append next) := by
    have hsame := hround place hplace
    rw [hfound, andThen, kept_eq] at hsame
    match hbetween : separator place with
    | .never =>
      rw [hbetween] at hsame
      cases hsame
    | .halted halt =>
      rw [hbetween] at hsame
      cases hsame
    | .ended between =>
      rw [hbetween, Ending.ended_bind, Ending.ended_bind, stop_keptMatch] at hsame
      match hnext : item between.stop with
      | .never =>
        rw [hnext] at hsame
        cases hsame
      | .halted halt =>
        rw [hnext] at hsame
        cases hsame
      | .ended next =>
        rw [hnext] at hsame
        cases hsame with
        | ended hagrees => exact ⟨between, next, rfl, hnext, hagrees⟩
  refine ⟨fun {_ found} hplace hfound ↦ ?_, fun {_ found} hplace hfound ↦ ?_,
    fun hnamed hplace hfound ↦ ?_⟩
  · obtain ⟨between, next, hbetween, hnext, hagrees⟩ := hboth hplace hfound
    have hmiddle := hseparator.ahead hplace hbetween
    have hstop : found.stop = next.stop := hagrees.stop
    rw [hstop]
    exact hmiddle.trans (hitem.ahead hmiddle.boundary hnext)
  · obtain ⟨between, next, hbetween, hnext, hagrees⟩ := hboth hplace hfound
    have hmiddle := hseparator.ahead hplace hbetween
    have hstop : found.stop = next.stop := hagrees.stop
    rw [hstop]
    exact Nat.lt_of_le_of_lt hmiddle.le (hitem.lt_stop hmiddle.boundary hnext)
  · obtain ⟨between, next, hbetween, hnext, hagrees⟩ := hboth hplace hfound
    have hmiddle := hseparator.ahead hplace hbetween
    rw [Results.Uniform, hagrees.names hnamed]
    exact (uniform_keptMatch form (hseparator.uniform hnamed hplace hbetween)).extend
      (hitem.uniform hnamed hmiddle.boundary hnext)

/-! ### The loop -/

/-- There is room for one more item in a list just if there is for one more round. -/
theorem all_map_pred (most : Option Nat) (count : Nat) :
    (most.map (· - 1)).all (count < ·) = most.all (count + 1 < ·) := by
  cases most with
  | none => rfl
  | some bound =>
    simp only [Option.map_some, Option.all_some, decide_eq_decide]
    omega

theorem listEnd_of_full (hbounds : ∀ bound ∈ form.most, form.least ≤ bound) {count : Nat}
    (hfull : ¬ form.most.all (count < ·) = true) (stoppedBy : Option Failure) :
    (listEnd form what count done stoppedBy : Ending Match) = .ended done := by
  have henough : ¬ count < form.least := by
    cases hmost : form.most with
    | none =>
      rw [hmost] at hfull
      exact absurd rfl hfull
    | some bound =>
      have hfew := hbounds bound hmost
      have hcount : ¬ count < bound := by simpa [hmost] using hfull
      omega
  rw [listEnd, if_neg henough]
  rfl

/-- Where a round fails in the ordinary way, a list ends as the rounds and what follows them. -/
theorem agrees_listEnd (hround : round.Consumes text named kind)
    (hbounds : ∀ bound ∈ form.most, form.least ≤ bound) {count : Nat}
    {last : Match} {failure : Failure} (hrounds : text.IsBoundary rounds.stop)
    (hfailed : (round rounds.stop).Agrees named True (.halted (.failure failure)))
    (hordinary : failure.fatal = false)
    (hfinish : finish form separator base rounds = .ended last) (hlast : done.Agrees named last)
    (name : String) :
    (listEnd form what (count + 1) done (some failure) : Ending Match).Agrees named True
      (repetitionFrom text round (form.least - 1) (form.most.map (· - 1)) name count rounds >>=
        finish form separator base) := by
  by_cases hroom : form.most.all (count + 1 < ·) = true
  · rw [repetitionFrom_of_room hround (all_map_pred form.most count ▸ hroom) hrounds]
    generalize round rounds.stop = ending at hfailed
    cases hfailed with
    | halted hhalts =>
      cases hhalts with
      | @failure other _ hoffset hmessage hfatal =>
        have hother : ¬ other.fatal = true := by
          rw [hfatal True.intro, hordinary]
          exact Bool.false_ne_true
        rw [Ending.backtrack_failure, if_neg hother, Ending.ended_bind, listEnd]
        change (if count + 1 < form.least then _ else _ : Ending Match).Agrees named True
          ((if count < form.least - 1 then Ending.halted (Halt.failure other)
            else .ended rounds) >>= finish form separator base)
        by_cases hfew : count + 1 < form.least
        · rw [if_pos hfew, if_pos (by omega)]
          exact .halted (.failure hoffset.symm hmessage.symm fun _ ↦ (hfatal True.intro).symm)
        · rw [if_neg hfew, if_neg (by omega), Ending.ended_bind, hfinish]
          exact .ended hlast
  · rw [repetitionFrom_of_full (all_map_pred form.most count ▸ hroom), Ending.ended_bind, hfinish,
      listEnd_of_full hbounds hroom]
    exact .ended hlast

/-- Where a round fails fatally or with an error, so does what it is part of. -/
theorem agrees_halted (hround : round.Consumes text named kind) {count : Nat} {halt : Halt}
    (hroom : form.most.all (count + 1 < ·) = true) (hrounds : text.IsBoundary rounds.stop)
    (hfailed : (round rounds.stop).Agrees named True (.halted halt))
    (hfirm : (Ending.halted halt : Ending Match).Firm) (name : String) :
    (Ending.halted halt : Ending Match).Agrees named True
      (repetitionFrom text round (form.least - 1) (form.most.map (· - 1)) name count rounds >>=
        finish form separator base) := by
  rw [repetitionFrom_of_room hround (all_map_pred form.most count ▸ hroom) hrounds]
  generalize round rounds.stop = ending at hfailed
  cases hfailed with
  | halted hhalts =>
    cases hhalts with
    | error error => exact .halted (.error error)
    | @failure other failure hoffset hmessage hfatal =>
      have hother : other.fatal = true := (hfatal True.intro).trans (hfirm failure rfl)
      rw [Ending.backtrack_failure, if_pos hother]
      exact .halted (.failure hoffset.symm hmessage.symm fun _ ↦ (hfatal True.intro).symm)

/-- What is left of a list agrees with what is left of it written out, unless it comes to nothing.
The induction is on the rest of the text: every item consumes some of it. -/
theorem agrees_delimitedFrom (hitem : item.Consumes text named kind)
    (hseparator : separator.Steady text named kind)
    (hround : ∀ place, text.IsBoundary place →
      (round place).Agrees named True ((kept form separator).andThen item place))
    (hbounds : ∀ bound ∈ form.most, form.least ≤ bound)
    (hbase : named → base.results.Uniform kind) (name : String) (measure : Nat) :
    ∀ (count : Nat) (done rounds : Match), text.size - done.stop = measure →
      text.IsBoundary done.stop → done.Agrees named (base.append rounds) →
        (named → rounds.results.Uniform kind) →
      delimitedFrom text item separator form what (count + 1) done = .never ∨
        (delimitedFrom text item separator form what (count + 1) done).Agrees named True
          (repetitionFrom text round (form.least - 1) (form.most.map (· - 1)) name count rounds >>=
            finish form separator base) := by
  have hconsumes := consumes_round hitem hseparator hround
  induction measure using Nat.strong_induction_on with
  | _ measure ih =>
    intro count done rounds hmeasure hdone hagrees huniform
    have hstop : rounds.stop = done.stop := hagrees.stop.symm
    have hrounds : text.IsBoundary rounds.stop := hstop ▸ hdone
    have hnext := hround rounds.stop hrounds
    rw [andThen, kept_eq, hstop] at hnext
    rw [delimitedFrom]
    cases hbetween : separator done.stop with
    | never => exact Or.inl rfl
    | halted halt =>
      obtain ⟨failure, rfl, hordinary⟩ := hseparator.ordinary hdone hbetween
      rw [hbetween] at hnext
      rw [Ending.backtrack_failure, hordinary]
      refine Or.inr (agrees_listEnd hconsumes hbounds hrounds ?_ hordinary
        (finish_of_failure (hstop ▸ hbetween) hordinary) hagrees name)
      rw [hstop]
      exact hnext
    | ended between =>
      have hmiddle := hseparator.ahead hdone hbetween
      have hkept (hnamed : named) :=
        uniform_keptMatch form (hseparator.uniform hnamed hdone hbetween)
      rw [hbetween, Ending.ended_bind, Ending.ended_bind, stop_keptMatch] at hnext
      simp only [Ending.backtrack_ended, Ending.ended_bind]
      have hfinish := finish_of_separator form base (hstop ▸ hbetween)
      have htrailing := agrees_withTrailing form hagrees between
      by_cases hroom : form.most.all (count + 1 < ·) = true
      · rw [if_pos hroom]
        cases hafter : item between.stop with
        | never => exact Or.inl rfl
        | halted halt =>
          rw [hafter, ← hstop] at hnext
          cases halt with
          | error error =>
            exact Or.inr (agrees_halted hconsumes hroom hrounds hnext
              (fun _ herror ↦ by cases herror) name)
          | failure failure =>
            rw [Ending.backtrack_failure]
            by_cases hfatal : failure.fatal = true
            · rw [if_pos hfatal]
              refine Or.inr (agrees_halted hconsumes hroom hrounds hnext
                (fun other hother ↦ ?_) name)
              obtain rfl := Halt.failure.inj (Ending.halted.inj hother)
              exact hfatal
            · rw [if_neg hfatal]
              exact Or.inr (agrees_listEnd hconsumes hbounds hrounds hnext
                (Bool.eq_false_iff.mpr hfatal) hfinish htrailing name)
        | ended next =>
          have hlast := hitem.ahead hmiddle.boundary hafter
          have hlt := hitem.lt_stop hmiddle.boundary hafter
          have hadvances : Advances text done.stop next.stop :=
            ⟨Nat.lt_of_le_of_lt hmiddle.le hlt, Nat.lt_of_le_of_lt hmiddle.le
              (Nat.lt_of_lt_of_le hlt hlast.le_size)⟩
          have hmore (hnamed : named) := hitem.uniform hnamed hmiddle.boundary hafter
          rw [hafter, ← hstop] at hnext
          rw [repetitionFrom_of_room hconsumes (all_map_pred form.most count ▸ hroom) hrounds]
          generalize hone : round rounds.stop = ending at hnext
          cases hnext with
          | @ended one _ hone' =>
            simp only [Ending.backtrack_ended, Ending.ended_bind, hadvances, if_true]
            have hboth := agrees_withItem hbase huniform hkept hmore hagrees hone'
            refine ih (text.size - next.stop) ?_ (count + 1) (withItem form done between next)
              (rounds.append one) rfl hlast.boundary hboth fun hnamed ↦ ?_
            · have hle := hlast.le_size
              have hlt' := hadvances.1
              omega
            · exact (huniform hnamed).extend (hconsumes.uniform hnamed hrounds hone)
      · rw [if_neg hroom, listEnd_of_full hbounds hroom,
          repetitionFrom_of_full (all_map_pred form.most count ▸ hroom), Ending.ended_bind, hfinish]
        exact Or.inr (.ended htrailing)

/-- A list of at least one item agrees with the list written out, unless it comes to nothing. -/
theorem agrees_delimited (hitem : item.Consumes text named kind)
    (hseparator : separator.Steady text named kind)
    (hround : ∀ place, text.IsBoundary place →
      (round place).Agrees named True ((kept form separator).andThen item place))
    (hleast : 1 ≤ form.least) (hbounds : ∀ bound ∈ form.most, form.least ≤ bound)
    (what name : String) {offset : Nat} (hoffset : text.IsBoundary offset) :
    delimited text item separator form what offset = .never ∨
      (delimited text item separator form what offset).Agrees named True
        (written text item separator round form name offset) := by
  rw [delimited, if_neg (Nat.ne_of_gt hleast), written]
  cases hbase : item offset with
  | never => exact Or.inl rfl
  | halted halt => exact Or.inr (.refl named True _)
  | ended base =>
    have hahead := hitem.ahead hoffset hbase
    exact agrees_delimitedFrom hitem hseparator hround hbounds
      (fun hnamed ↦ hitem.uniform hnamed hoffset hbase) name _ 0 base (.nothing base.stop) rfl
      hahead.boundary (by rw [base.append_nothing]; exact .refl named base) fun _ ↦
      Results.uniform_empty kind

end Matcher

end Packrat
