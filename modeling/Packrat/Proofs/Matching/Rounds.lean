import Packrat.Proofs.Matching.Agreement
import Packrat.Proofs.Matching.Kinds

/-!
# Repetitions and their rounds

A repetition of something that always consumes is a loop with two exits: no further round matches,
or there are as many as there may be. Written out, it is the least number of rounds one after the
other, and then a tail: a round and another tail, or nothing (`Matcher.agrees_repetition`). Tails
may be nested as deep as there are rounds left, or there may be a single one that goes on with
itself; `Matcher.Tails` says what is common to both.
-/

set_option autoImplicit false
set_option relaxedAutoImplicit false

namespace Packrat

open MatchMonad

/-- The matches of a matcher from boundaries end further ahead, and are uniform where names are
compared. -/
structure Matcher.Consumes (text : Text) (named : Prop) (kind : String → Bool)
    (child : Matcher Ending) :
    Prop where
  /-- They end ahead. -/
  ahead : ∀ {offset : Nat} {found : Match}, text.IsBoundary offset → child offset = .ended found →
    text.Ahead offset found.stop
  /-- They do not end where they started. -/
  lt_stop : ∀ {offset : Nat} {found : Match}, text.IsBoundary offset → child offset = .ended found →
    offset < found.stop
  /-- Their names are of their kinds. -/
  uniform : ∀ {offset : Nat} {found : Match}, named → text.IsBoundary offset →
    child offset = .ended found → found.results.Uniform kind

namespace Matcher

variable {text : Text} {named : Prop} {kind : String → Bool} {child : Matcher Ending} {least : Nat}
  {most : Option Nat} {what : String} {count : Nat} {done : Match}

/-- A match that consumes advances inside the text. -/
theorem Consumes.advances (hconsumes : child.Consumes text named kind)
    {offset : Nat} {found : Match} (hoffset : text.IsBoundary offset)
    (hfound : child offset = .ended found) :
    Advances text offset found.stop := by
  have hlt := hconsumes.lt_stop hoffset hfound
  exact ⟨hlt, Nat.lt_of_lt_of_le hlt (hconsumes.ahead hoffset hfound).le_size⟩

/-! ### Rounds -/

/-- A repetition that is full has all its rounds. -/
theorem repetitionFrom_of_full (hfull : ¬ most.all (count < ·) = true) :
    repetitionFrom text child least most what count done = .ended done := by
  cases most with
  | none => exact absurd rfl hfull
  | some bound =>
    have hbound : ¬ count < bound := by simpa using hfull
    rw [repetitionFrom, if_neg hbound]
    rfl

/-- A further round of a repetition: it goes on after a match, and ends or fails after a failure. -/
theorem repetitionFrom_of_room (hconsumes : child.Consumes text named kind)
    (hroom : most.all (count < ·) = true) (hdone : text.IsBoundary done.stop) :
    repetitionFrom text child least most what count done = backtrack (child done.stop) >>= fun
      | .error failure => if count < least then .halted (.failure failure) else .ended done
      | .ok next => repetitionFrom text child least most what (count + 1) (done.append next) := by
  cases most with
  | none =>
    rw [repetitionFrom]
    cases hround : child done.stop with
    | never => rfl
    | halted halt =>
      cases halt with
      | error error => rfl
      | failure failure =>
        rw [Ending.backtrack_failure]
        split_ifs <;> rfl
    | ended next =>
      have hadvances := hconsumes.advances hdone hround
      simp only [Ending.backtrack_ended, Ending.ended_bind, hadvances, if_true]
  | some bound =>
    have hbound : count < bound := by simpa using hroom
    rw [repetitionFrom, if_pos hbound]
    cases hround : child done.stop with
    | never => rfl
    | halted halt =>
      cases halt with
      | error error => rfl
      | failure failure =>
        rw [Ending.backtrack_failure]
        split_ifs <;> rfl
    | ended next =>
      have hmoved : ¬ (next.stop = done.stop ∧ least ≤ count + 1) := fun hsame ↦
        Nat.ne_of_gt (hconsumes.lt_stop hdone hround) hsame.1
      simp only [Ending.backtrack_ended, Ending.ended_bind, hmoved, if_false]

/-- While rounds are too few, a repetition is one more and then the others. -/
theorem repetitionFrom_of_lt (hconsumes : child.Consumes text named kind)
    (hbounds : ∀ bound ∈ most, least ≤ bound) (hfew : count < least)
    (hdone : text.IsBoundary done.stop) :
    repetitionFrom text child least most what count done = child done.stop >>= fun next ↦
      repetitionFrom text child least most what (count + 1) (done.append next) := by
  have hroom : most.all (count < ·) = true := by
    cases most with
    | none => rfl
    | some bound => simpa using Nat.lt_of_lt_of_le hfew (hbounds bound rfl)
  rw [repetitionFrom_of_room hconsumes hroom hdone]
  match child done.stop with
  | .never => rfl
  | .ended next => rfl
  | .halted (.error error) => rfl
  | .halted (.failure failure) =>
    rw [Ending.backtrack_failure]
    by_cases hfatal : failure.fatal = true
    · rw [if_pos hfatal]
      rfl
    · rw [if_neg hfatal, Ending.ended_bind]
      exact if_pos hfew

/-- The rounds that a repetition needs are a sequence. -/
theorem repetitionFrom_eq_sequenceFrom (hconsumes : child.Consumes text named kind)
    (hbounds : ∀ bound ∈ most, least ≤ bound) (rounds : Nat) :
    ∀ (count index : Nat) (done : Match), count + rounds = least → text.IsBoundary done.stop →
      repetitionFrom text child least most what count done =
        sequenceFrom none index (List.replicate rounds child) done >>=
          repetitionFrom text child least most what least := by
  induction rounds with
  | zero =>
    intro count index done hcount _
    obtain rfl : count = least := hcount
    rfl
  | succ rounds ih =>
    intro count index done hcount hdone
    rw [repetitionFrom_of_lt hconsumes hbounds (by omega) hdone, List.replicate_succ,
      sequenceFrom_cons, Ending.bind_assoc]
    change child done.stop >>= _ = child done.stop >>= _
    match hround : child done.stop with
    | .never => rfl
    | .halted halt => rfl
    | .ended next =>
      exact ih (count + 1) (index + 1) (done.append next) (by omega)
        (hconsumes.ahead hdone hround).boundary

/-- Rounds in a sequence end at boundaries, and are uniform. -/
theorem Consumes.of_sequenceFrom (hconsumes : child.Consumes text named kind) (rounds : Nat) :
    ∀ (index : Nat) (done : Match), text.IsBoundary done.stop →
      (named → done.results.Uniform kind) → ∀ found,
        sequenceFrom none index (List.replicate rounds child) done = .ended found →
          text.IsBoundary found.stop ∧ (named → found.results.Uniform kind) := by
  induction rounds with
  | zero =>
    intro index done hdone huniform found hfound
    rw [← Ending.ended.inj hfound]
    exact ⟨hdone, huniform⟩
  | succ rounds ih =>
    intro index done hdone huniform found hfound
    rw [List.replicate_succ, sequenceFrom_cons] at hfound
    change child done.stop >>= _ = _ at hfound
    match hround : child done.stop with
    | .never =>
      rw [hround] at hfound
      cases hfound
    | .halted halt =>
      rw [hround] at hfound
      cases hfound
    | .ended next =>
      rw [hround] at hfound
      refine ih (index + 1) (done.append next) (hconsumes.ahead hdone hround).boundary
        (fun hnamed ↦ ?_) found hfound
      exact (huniform hnamed).extend (hconsumes.uniform hnamed hdone hround)

/-! ### Optional matchers -/

/-- An option of one matcher agrees with that of another, if the matchers agree to the fatal
flag. -/
theorem agrees_optional {flagged : Prop} (hflagged : flagged) {first second : Matcher Ending}
    {offset : Nat} (hagrees : (first offset).Agrees named flagged (second offset)) :
    (optional first none offset).Agrees named flagged (optional second none offset) := by
  unfold optional
  generalize first offset = one, second offset = other at hagrees
  cases hagrees with
  | never => exact .never
  | ended hagrees => exact .ended hagrees
  | halted hhalts =>
    cases hhalts with
    | error error => exact .halted (.error error)
    | @failure failure same hoffset hmessage hfatal =>
      rw [Ending.backtrack_failure, Ending.backtrack_failure, hfatal hflagged]
      split_ifs
      · exact .halted (.failure hoffset hmessage hfatal)
      · exact .ended (.refl named _)

theorem firm_optional (first : Matcher Ending) (offset : Nat) :
    (optional first none offset).Firm := by
  intro failure hfailure
  unfold optional at hfailure
  match hfirst : first offset with
  | .never =>
    rw [hfirst] at hfailure
    cases hfailure
  | .ended found =>
    rw [hfirst] at hfailure
    cases hfailure
  | .halted (.error error) =>
    rw [hfirst] at hfailure
    cases hfailure
  | .halted (.failure other) =>
    rw [hfirst, Ending.backtrack_failure] at hfailure
    split_ifs at hfailure with hfatal
    · obtain rfl := Halt.failure.inj (Ending.halted.inj hfailure)
      exact hfatal
    · cases hfailure

/-! ### Tails -/

/-- Matchers that serve after so many rounds as the rest of a repetition: a further round and then
another of them, or nothing at all, when the repetition is full. -/
structure Tails (text : Text) (named : Prop) (child : Matcher Ending) (most : Option Nat)
    (serves : Nat → Matcher Ending → Prop) : Prop where
  /-- While there is room a round may follow, and the rest after it. -/
  step : ∀ count tail, serves count tail → most.all (count < ·) = true →
    ∃ next, serves (count + 1) next ∧ ∀ place, text.IsBoundary place →
      (tail place).Agrees named True (optional (child.andThen next) none place)
  /-- When there is no room left nothing follows. -/
  full : ∀ count tail, serves count tail → ¬ most.all (count < ·) = true → tail = nothing

/-- The match of an option of two matchers in a row is nothing, or that of the first and then that
of the second. -/
theorem optional_andThen_eq_ended {first second : Matcher Ending} {offset : Nat} {found : Match}
    (hfound : optional (first.andThen second) none offset = .ended found) :
    found = .nothing offset ∨ ∃ one other, first offset = .ended one ∧
      second one.stop = .ended other ∧ found = one.append other := by
  unfold optional andThen at hfound
  rcases Ending.exists_of_backtrack_bind_eq_ended hfound with ⟨both, hboth, hlast⟩
    | ⟨failure, -, -, hlast⟩
  · obtain ⟨one, hone, hrest⟩ := Ending.exists_of_bind_eq_ended hboth
    obtain ⟨other, hother, hjoined⟩ := Ending.exists_of_bind_eq_ended hrest
    obtain rfl := Ending.ended.inj hjoined
    exact Or.inr ⟨one, other, hone, hother, (Ending.ended.inj hlast).symm⟩
  · exact Or.inl (Ending.ended.inj hlast).symm

variable {serves : Nat → Matcher Ending → Prop}

/-- Names in the match of a tail are of their kinds. The induction is on the rest of the text. -/
theorem Tails.uniform (htails : Tails text named child most serves)
    (hconsumes : child.Consumes text named kind) (hnamed : named) (measure : Nat) :
    ∀ (count : Nat) (tail : Matcher Ending) (place : Nat) (found : Match),
      text.size - place = measure → serves count tail → text.IsBoundary place →
        tail place = .ended found → found.results.Uniform kind := by
  induction measure using Nat.strong_induction_on with
  | _ measure ih =>
    intro count tail place found hmeasure hserves hplace hfound
    by_cases hroom : most.all (count < ·) = true
    · obtain ⟨next, hnext, hagrees⟩ := htails.step count tail hserves hroom
      have hsame := hagrees place hplace
      rw [hfound] at hsame
      generalize hother : optional (child.andThen next) none place = ending at hsame
      cases hsame with
      | @ended _ other hmatches =>
        have huniform : other.results.Uniform kind := by
          rcases optional_andThen_eq_ended hother with rfl | ⟨one, more, hone, hmore, rfl⟩
          · exact Results.uniform_empty kind
          · have hahead := hconsumes.ahead hplace hone
            have hlt := hconsumes.lt_stop hplace hone
            have hle := hahead.le_size
            exact (hconsumes.uniform hnamed hplace hone).extend
              (ih _ (by omega) (count + 1) next one.stop more rfl hnext hahead.boundary hmore)
        rw [Results.Uniform, hmatches.names hnamed]
        exact huniform
    · rw [htails.full count tail hserves hroom] at hfound
      rw [← Ending.ended.inj hfound]
      exact Results.uniform_empty kind

theorem Tails.firm (htails : Tails text named child most serves) {tail : Matcher Ending}
    {place : Nat} (hserves : serves count tail) (hplace : text.IsBoundary place) :
    (tail place).Firm := by
  intro failure hfailure
  by_cases hroom : most.all (count < ·) = true
  · obtain ⟨next, -, hagrees⟩ := htails.step count tail hserves hroom
    have hsame := hagrees place hplace
    rw [hfailure] at hsame
    generalize hother : optional (child.andThen next) none place = ending at hsame
    cases hsame with
    | halted hhalts =>
      cases hhalts with
      | @failure _ same hoffset hmessage hfatal =>
        rw [hfatal True.intro]
        exact firm_optional _ _ same hother
  · rw [htails.full count tail hserves hroom] at hfailure
    cases hfailure

/-- Once there are enough rounds, the rest of a repetition agrees with its tail. The induction is on
the rest of the text: every round consumes some of it. -/
theorem Tails.agrees_repetitionFrom (htails : Tails text named child most serves)
    (hconsumes : child.Consumes text named kind) (measure : Nat) :
    ∀ (count : Nat) (done : Match) (tail : Matcher Ending), text.size - done.stop = measure →
      serves count tail → least ≤ count → text.IsBoundary done.stop →
        (named → done.results.Uniform kind) →
      (repetitionFrom text child least most what count done).Agrees named True
        (tail done.stop >>= fun more ↦ .ended (done.append more)) := by
  induction measure using Nat.strong_induction_on with
  | _ measure ih =>
    intro count done tail hmeasure hserves henough hdone huniform
    by_cases hroom : most.all (count < ·) = true
    · obtain ⟨next, hnext, htail⟩ := htails.step count tail hserves hroom
      have hright : (optional (child.andThen next) none done.stop >>= fun more ↦
          Ending.ended (done.append more)).Agrees named True
            (tail done.stop >>= fun more ↦ .ended (done.append more)) :=
        (htail done.stop hdone).symm.bind fun found other _ _ hagrees ↦
          .ended (.append (.refl named done) hagrees)
      refine .trans ?_ hright
      rw [repetitionFrom_of_room hconsumes hroom hdone]
      unfold optional andThen
      match hround : child done.stop with
      | .never => exact .never
      | .halted (.error error) => exact .halted (.error error)
      | .halted (.failure failure) =>
        simp only [Ending.halted_bind, Ending.backtrack_failure]
        by_cases hfatal : failure.fatal = true
        · rw [if_pos hfatal]
          exact .halted (.refl True _)
        · rw [if_neg hfatal, Ending.ended_bind, Ending.ended_bind]
          change (if count < least then _ else Ending.ended done).Agrees named True
            (.ended (done.append (.nothing done.stop)))
          rw [if_neg (Nat.not_lt.mpr henough), done.append_nothing]
          exact .refl named True _
      | .ended one =>
        have hahead := hconsumes.ahead hdone hround
        have hlt := hconsumes.lt_stop hdone hround
        have hle := hahead.le_size
        have hone (hnamed : named) := hconsumes.uniform hnamed hdone hround
        have hrest := ih (text.size - one.stop) (by omega) (count + 1)
          (done.append one) next rfl hnext (by omega) hahead.boundary fun hnamed ↦
          (huniform hnamed).extend (hone hnamed)
        have hfirm := htails.firm hnext hahead.boundary
        refine hrest.trans ?_
        rw [Ending.ended_bind]
        change (next one.stop >>= _).Agrees named True _
        match hmore : next one.stop with
        | .never => exact .never
        | .halted (.error error) => exact .halted (.error error)
        | .halted (.failure failure) =>
          rw [Ending.halted_bind, Ending.halted_bind, Ending.backtrack_failure,
            if_pos (hfirm failure hmore)]
          exact .halted (.refl True _)
        | .ended more =>
          exact .ended (.append_assoc huniform hone fun hnamed ↦
            htails.uniform hconsumes hnamed _ (count + 1)
            next one.stop more rfl hnext hahead.boundary hmore)
    · rw [repetitionFrom_of_full hroom, htails.full count tail hserves hroom]
      exact .of_eq (congrArg Ending.ended done.append_nothing.symm)

/-- A repetition agrees with the rounds that it needs, one after the other, and then a tail. -/
theorem Tails.agrees_repetition (htails : Tails text named child most serves)
    (hconsumes : child.Consumes text named kind) (hbounds : ∀ bound ∈ most, least ≤ bound)
    {tail : Matcher Ending} (hserves : serves least tail) {offset : Nat}
    (hoffset : text.IsBoundary offset) :
    (repetition text child least most what offset).Agrees named True
      ((sequence (List.replicate least child) none).andThen tail offset) := by
  have hnothing (_ : named) : (Match.nothing offset).results.Uniform kind :=
    Results.uniform_empty kind
  rw [repetition, repetitionFrom_eq_sequenceFrom hconsumes hbounds least 0 0 _
    (Nat.zero_add _) hoffset]
  refine Ending.Agrees.bind_same _ fun done hdone ↦ ?_
  obtain ⟨hboundary, huniform⟩ := hconsumes.of_sequenceFrom least 0 _ hoffset hnothing done hdone
  exact htails.agrees_repetitionFrom hconsumes _ least done tail rfl hserves
    le_rfl hboundary huniform

end Matcher

/-! ### Expressions that consume -/

/-- Every match of an expression in a text ends ahead of where it starts. -/
def Draft.Consumes (draft : Draft) (text : Text) (skip : Option CharSet) (expr : Expr) : Prop :=
  ∀ room offset found, text.IsBoundary offset →
    (draft.reading text room skip expr offset : Account Match).outcome = .ok found →
    offset < found.stop

/-- An expression whose node is not marked as nullable consumes. -/
theorem Draft.consumes_of_not_nullable {draft : Draft} {grammar : Grammar}
    (hlowers : draft.LowersTo grammar) (haccepted : grammar.Accepted)
    (hhonest : grammar.HasHonestRegexes) (text : Text) {skip : Option CharSet} {expr : Expr}
    {id : NodeId} (hid : expr.CompilesTo grammar.nodes grammar.ruleNames skip id)
    (hmark : Grammar.isMarked grammar.nullable id = false) : draft.Consumes text skip expr := by
  intro room offset found _ houtcome
  obtain ⟨node, -, hnode, -⟩ := hid.lowers
  have hinside : id < grammar.nodeCount := (Array.getElem?_eq_some_iff.mp hnode).1
  have hyields := Grammar.yields_trace haccepted hhonest text (fun _ ↦ True) True.intro room id
    offset hinside (Or.inl fun _ _ ↦ True.intro)
  rw [hlowers.ruleNames] at hid
  rw [← hlowers.account_eq_reading text room hid, ← Grammar.account_trace] at houtcome
  exact (hyields.gives found houtcome).2 hmark

/-- An expression that consumes means a matcher that does, and its matches are uniform where names
in its node are of their kinds. -/
theorem Draft.Consumes.meaning {draft other : Draft} {grammar : Grammar} {text : Text}
    {skip : Option CharSet} {expr : Expr} (hconsumes : other.Consumes text skip expr)
    (hwithin : draft.Within other) (hlowers : draft.LowersTo grammar) {id : NodeId}
    (hid : expr.CompilesTo grammar.nodes grammar.ruleNames skip id)
    {named : Prop} {kind : String → Bool} (hkinds : named → grammar.KeepsKinds kind id) :
    (grammar.meaning text skip expr).Consumes text named kind := by
  rw [← hlowers.ending_eq_meaning text hid]
  refine ⟨fun hoffset hfound ↦ ?_, fun hoffset hfound ↦ ?_, fun hnamed hoffset hfound ↦ ?_⟩
  · exact (Grammar.fulfils_of_ending (grammar.maintains_nothing text) hoffset hfound).1
  · obtain ⟨room, houtcome, -⟩ := Grammar.exists_trace_of_ending
      (hfound.trans (Ending.ofOutcome_ok _).symm)
    rw [hlowers.ruleNames] at hid
    refine hconsumes room _ _ hoffset ?_
    rw [← hwithin.account_eq_reading hlowers text room hid, ← Grammar.account_trace]
    exact houtcome
  · exact (hkinds hnamed).uniform_of_ending hoffset hfound

end Packrat
