import Packrat.Proofs.Grammar.Joins
import Packrat.Proofs.Matching.Endings
import Packrat.Proofs.Results.Uniform

/-!
# Evaluations that agree

Expressions that say the same in different words put their results together in different groupings,
and may make a failure fatal that was not. Their endings agree all the same (`Ending.Agrees`): they
match up to the same offset with the same tokens, or fail at the same offset with the same message;
whether names and fatal flags have to be the same is said beside it. Agreement is kept by
evaluations one after the other (`Ending.Agrees.bind`).

Of two expressions that are joined, as two parts of a sequence or as the library joins them, the
first is evaluated and then the second (`Draft.Within.agrees_of_joins`).
-/

set_option autoImplicit false
set_option relaxedAutoImplicit false

namespace Packrat

open MatchMonad

/-! ### Matches -/

/-- Two matches end at one offset with the same tokens, and with the same names if these are
compared. -/
structure Match.Agrees (named : Prop) (first second : Match) : Prop where
  /-- They end at one offset. -/
  stop : first.stop = second.stop
  /-- They have the same tokens. -/
  tokens : first.results.tokens = second.results.tokens
  /-- They have the same names. -/
  names : named → first.results.names = second.results.names

namespace Match.Agrees

variable {named : Prop} {kind : String → Bool} {first second third fourth : Match}

theorem refl (named : Prop) (found : Match) : found.Agrees named found := ⟨rfl, rfl, fun _ ↦ rfl⟩

theorem symm (hagrees : first.Agrees named second) : second.Agrees named first :=
  ⟨hagrees.stop.symm, hagrees.tokens.symm, fun hnamed ↦ (hagrees.names hnamed).symm⟩

theorem trans (hfirst : first.Agrees named second) (hsecond : second.Agrees named third) :
    first.Agrees named third :=
  ⟨hfirst.stop.trans hsecond.stop, hfirst.tokens.trans hsecond.tokens,
    fun hnamed ↦ (hfirst.names hnamed).trans (hsecond.names hnamed)⟩

/-- Matches that agree end alike when the results do. -/
theorem of_results {results other : Results} (stop : Nat) (htokens : results.tokens = other.tokens)
    (hnames : named → results = other) : (⟨stop, results⟩ : Match).Agrees named ⟨stop, other⟩ :=
  ⟨rfl, htokens, fun hnamed ↦ congrArg Results.names (hnames hnamed)⟩

/-- Matches one after the other agree if each does. -/
theorem append (hfirst : first.Agrees named second) (hsecond : third.Agrees named fourth) :
    (first.append third).Agrees named (second.append fourth) := by
  refine ⟨hsecond.stop, congrArg₂ List.append hfirst.tokens hsecond.tokens, fun hnamed ↦ ?_⟩
  simp only [Match.append, Results.names_extend, hfirst.names hnamed,
    hfirst.tokens, hsecond.names hnamed]

/-- A match after nothing agrees with the match, where names are distinct. -/
theorem nothing_append (offset : Nat) (hnodup : named → (first.results.names.map Slot.name).Nodup) :
    ((Match.nothing offset).append first).Agrees named first :=
  of_results first.stop (List.nil_append _) fun hnamed ↦ Results.empty_extend (hnodup hnamed)

/-- Matches may be put together in either grouping, where no name is both plain and a list. -/
theorem append_assoc (hfirst : named → first.results.Uniform kind)
    (hsecond : named → second.results.Uniform kind) (hthird : named → third.results.Uniform kind) :
    ((first.append second).append third).Agrees named (first.append (second.append third)) :=
  of_results third.stop (List.append_assoc _ _ _) fun hnamed ↦
    Results.extend_assoc (hfirst hnamed) (hsecond hnamed) (hthird hnamed)

end Match.Agrees

/-- Nothing after a match, where it ends, changes nothing. -/
theorem Match.append_nothing (found : Match) : found.append (.nothing found.stop) = found := by
  simp [Match.append, Match.nothing]

/-! ### Halts -/

/-- Two halts are the same error, or failures at one offset with one message, and with the same
fatal flag if that is compared. -/
inductive Halt.Agrees (flagged : Prop) : Halt → Halt → Prop
  | failure {first second : Failure} (hoffset : first.offset = second.offset)
    (hmessage : first.message = second.message) (hfatal : flagged → first.fatal = second.fatal) :
    Agrees flagged (.failure first) (.failure second)
  | error (error : ParseError) : Agrees flagged (.error error) (.error error)

namespace Halt.Agrees

variable {flagged : Prop}

theorem refl (flagged : Prop) (halt : Halt) : halt.Agrees flagged halt := by
  cases halt with
  | failure failure => exact .failure rfl rfl fun _ ↦ rfl
  | error error => exact .error error

theorem trans {first second third : Halt} (hfirst : first.Agrees flagged second)
    (hsecond : second.Agrees flagged third) : first.Agrees flagged third := by
  cases hfirst with
  | failure hoffset hmessage hfatal =>
    cases hsecond with
    | failure hoffset' hmessage' hfatal' =>
      exact .failure (hoffset.trans hoffset') (hmessage.trans hmessage')
        fun hflagged ↦ (hfatal hflagged).trans (hfatal' hflagged)
  | error error => exact hsecond

end Halt.Agrees

/-! ### Endings -/

namespace Ending

/-- Two evaluations come to nothing, to matches that agree or to halts that agree. -/
inductive Agrees (named flagged : Prop) : Ending Match → Ending Match → Prop
  | never : Agrees named flagged .never .never
  | ended {first second : Match} (hagrees : first.Agrees named second) :
    Agrees named flagged (.ended first) (.ended second)
  | halted {first second : Halt} (hagrees : first.Agrees flagged second) :
    Agrees named flagged (.halted first) (.halted second)

namespace Agrees

variable {named flagged : Prop} {first second third : Ending Match}

theorem refl (named flagged : Prop) (ending : Ending Match) :
    ending.Agrees named flagged ending := by
  cases ending with
  | never => exact .never
  | ended found => exact .ended (.refl named found)
  | halted halt => exact .halted (.refl flagged halt)

theorem of_eq (hsame : first = second) : first.Agrees named flagged second :=
  hsame ▸ .refl named flagged first

theorem trans (hfirst : first.Agrees named flagged second)
    (hsecond : second.Agrees named flagged third) :
    first.Agrees named flagged third := by
  cases hfirst with
  | never => exact hsecond
  | ended hagrees =>
    cases hsecond with
    | ended hagrees' => exact .ended (hagrees.trans hagrees')
  | halted hagrees =>
    cases hsecond with
    | halted hagrees' => exact .halted (hagrees.trans hagrees')

theorem symm (hagrees : first.Agrees named flagged second) : second.Agrees named flagged first := by
  cases hagrees with
  | never => exact .never
  | ended hagrees => exact .ended hagrees.symm
  | halted hagrees =>
    cases hagrees with
    | failure hoffset hmessage hfatal =>
      exact .halted (.failure hoffset.symm hmessage.symm fun hflagged ↦ (hfatal hflagged).symm)
    | error error => exact .halted (.error error)

/-- Evaluations after others agree if these do, and if they do themselves after matches that
agree. -/
theorem bind {next next' : Match → Ending Match} (hfirst : first.Agrees named flagged second)
    (hnext : ∀ found other, first = .ended found → second = .ended other →
      found.Agrees named other → (next found).Agrees named flagged (next' other)) :
    (first >>= next).Agrees named flagged (second >>= next') := by
  cases hfirst with
  | never => exact .never
  | ended hagrees => exact hnext _ _ rfl rfl hagrees
  | halted hagrees => exact .halted hagrees

/-- Evaluations after one and the same agree if they do after its match. -/
theorem bind_same {next next' : Match → Ending Match} (ending : Ending Match)
    (hnext : ∀ found, ending = .ended found → (next found).Agrees named flagged (next' found)) :
    (ending >>= next).Agrees named flagged (ending >>= next') := by
  cases ending with
  | never => exact .never
  | ended found => exact hnext found rfl
  | halted halt => exact .halted (.refl flagged halt)

/-- Names may be left out of the comparison, and so may fatal flags. -/
theorem mono {fewer weaker : Prop} (hagrees : first.Agrees named flagged second)
    (hnamed : fewer → named) (hflagged : weaker → flagged) : first.Agrees fewer weaker second := by
  cases hagrees with
  | never => exact .never
  | ended hagrees =>
    exact .ended ⟨hagrees.stop, hagrees.tokens, fun hfewer ↦ hagrees.names (hnamed hfewer)⟩
  | halted hagrees =>
    cases hagrees with
    | failure hoffset hmessage hfatal =>
      exact .halted (.failure hoffset hmessage fun hweaker ↦ hfatal (hflagged hweaker))
    | error error => exact .halted (.error error)

/-- Where fatal flags are not compared, a commit point makes no difference. -/
theorem commit (ending : Ending Match) (hflagged : ¬ flagged) :
    (MatchMonad.commit ending).Agrees named flagged ending := by
  match ending with
  | .never => exact .never
  | .ended found => exact .ended (.refl named found)
  | .halted (.error error) => exact .halted (.error error)
  | .halted (.failure failure) =>
    exact .halted (.failure rfl rfl fun hcompared ↦ absurd hcompared hflagged)

end Agrees

end Ending

/-! ### Nodes -/

/-- Evaluations of two nodes of two grammars at an offset come to what agrees, whatever the engine
remembers and whatever room it is given, unless it stops one of them. -/
def Grammar.Agrees (named flagged : Prop) (first second : Grammar) (text : Text) (id twin : NodeId)
    (offset : Nat) : Prop :=
  ∀ {state other : EngineState}, state.Valid first text → other.Valid second text →
    ∀ room more : Nat, ¬ IsLimited (first.evaluate text room id offset state).1 →
      ¬ IsLimited (second.evaluate text more twin offset other).1 →
      (Ending.ofOutcome (first.evaluate text room id offset state).1).Agrees named flagged
        (.ofOutcome (second.evaluate text more twin offset other).1)

/-- An evaluation of a node at an offset is stopped in every room. -/
def Grammar.NeverEnds (grammar : Grammar) (text : Text) (id : NodeId) (offset : Nat) : Prop :=
  ∀ room, (grammar.trace text room id offset).Limited

/-- The ending of a node is nothing just if its evaluation is stopped in every room. -/
theorem Grammar.ending_eq_never_iff {grammar : Grammar} {text : Text} {id : NodeId} {offset : Nat} :
    grammar.ending text id offset = .never ↔ grammar.NeverEnds text id offset := by
  refine ⟨fun hnever room ↦ ?_, fun hlimited ↦ Deepening.ending_of_limited _ hlimited⟩
  by_contra hreached
  rw [ending_of_trace hreached] at hnever
  exact Ending.ofOutcome_ne_never _ hnever

/-- Nodes whose endings agree are evaluated alike. -/
theorem Grammar.agrees_of_ending {named flagged : Prop} {first second : Grammar} {text : Text}
    {id twin : NodeId} {offset : Nat}
    (hendings : first.ending text id offset = .never ∨
      (first.ending text id offset).Agrees named flagged (second.ending text twin offset)) :
    first.Agrees named flagged second text id twin offset := by
  intro state other hstate hother room more hreached hreached'
  rw [← ending_eq_of_evaluate hstate hreached, ← ending_eq_of_evaluate hother hreached']
  refine hendings.resolve_left fun hnever ↦ ?_
  rw [ending_eq_of_evaluate hstate hreached] at hnever
  exact Ending.ofOutcome_ne_never _ hnever

/-- Nodes of accepted grammars that are evaluated alike have endings that agree: every evaluation
ends where there is room enough. -/
theorem Grammar.Agrees.ending {named flagged : Prop} {first second : Grammar}
    {text : Text} {id twin : NodeId} {offset : Nat}
    (hagrees : first.Agrees named flagged second text id twin offset) (haccepted : first.Accepted)
    (haccepted' : second.Accepted) (hhonest : first.HasHonestRegexes)
    (hhonest' : second.HasHonestRegexes) (hid : id < first.nodeCount)
    (htwin : twin < second.nodeCount) :
    (first.ending text id offset).Agrees named flagged (second.ending text twin offset) := by
  have hvalid : ({} : EngineState).Valid first text := fun _ ↦ EngineState.sound_empty first text
  have hvalid' : ({} : EngineState).Valid second text := fun _ ↦ EngineState.sound_empty second text
  have hreached := not_isLimited_evaluate haccepted hhonest hvalid hid
    (first.depthBound text id offset).lt_succ_self
  have hreached' :=
    not_isLimited_evaluate haccepted' hhonest' hvalid' htwin
      (second.depthBound text twin offset).lt_succ_self
  rw [ending_eq_of_evaluate hvalid hreached, ending_eq_of_evaluate hvalid' hreached']
  exact hagrees hvalid hvalid' _ _ hreached hreached'

/-- Of endings that agree both are nothing or neither is. -/
theorem Ending.Agrees.eq_never_iff {named flagged : Prop} {first second : Ending Match}
    (hagrees : first.Agrees named flagged second) : first = .never ↔ second = .never := by
  cases hagrees <;> simp

/-! ### Matchers one after the other -/

namespace Matcher

variable {named flagged : Prop}

def andThen (first second : Matcher Ending) : Matcher Ending := fun offset ↦ do
  let found ← first offset
  let next ← second found.stop
  pure (found.append next)

theorem andThen_nothing (first : Matcher Ending) : first.andThen nothing = first := by
  funext offset
  unfold andThen
  match hfirst : first offset with
  | .never => rfl
  | .halted halt => rfl
  | .ended found => exact congrArg Ending.ended found.append_nothing

/-- A matcher after nothing agrees with the matcher, where names are distinct. -/
theorem agrees_nothing_andThen (second : Matcher Ending) (offset : Nat)
    (hnodup : named → ∀ found, second offset = .ended found →
      (found.results.names.map Slot.name).Nodup) :
    (andThen nothing second offset).Agrees named flagged (second offset) := by
  change (second offset >>= fun next ↦ .ended ((Match.nothing offset).append next)).Agrees
    named flagged _
  match hsecond : second offset with
  | .never => exact .never
  | .halted halt => exact .halted (.refl flagged halt)
  | .ended found => exact .ended (.nothing_append offset fun hnamed ↦ hnodup hnamed found hsecond)

section

variable {m : Type → Type} [MatchMonad m]

/-- The first of the remaining parts of a sequence, and then the others. -/
theorem sequenceFrom_cons (commitAt : Option Nat) (index : Nat) (part : Matcher m)
    (rest : List (Matcher m)) (done : Match) :
    sequenceFrom commitAt index (part :: rest) done =
      (if commitAt.any (· ≤ index) then commit (part done.stop) else part done.stop) >>= fun next ↦
        sequenceFrom commitAt (index + 1) rest (done.append next) := by
  rw [sequenceFrom]
  split_ifs <;> rfl

variable [LawfulMonad m]

/-- The parts of a sequence may be evaluated in two stretches. -/
theorem sequenceFrom_append (commitAt : Option Nat) (parts rest : List (Matcher m)) :
    ∀ (index : Nat) (done : Match), sequenceFrom commitAt index (parts ++ rest) done =
      sequenceFrom commitAt index parts done >>= sequenceFrom commitAt
        (index + parts.length) rest := by
  induction parts with
  | nil => exact fun _ done ↦ (pure_bind done _).symm
  | cons part others ih =>
    intro index done
    have hindex : index + (part :: others).length = index + 1 + others.length := by
      rw [List.length_cons]
      omega
    rw [hindex, List.cons_append, sequenceFrom_cons, sequenceFrom_cons, bind_assoc]
    simp only [ih]

/-- The last part of a sequence is evaluated after the others, beyond the commit point if there is
one among them. -/
theorem sequence_append_singleton (commitAt : Option Nat) (parts : List (Matcher m))
    (last : Matcher m) (offset : Nat) :
    sequence (parts ++ [last]) commitAt offset = sequence parts commitAt offset >>= fun done ↦
      (if commitAt.any (· ≤ parts.length) then commit (last done.stop) else last done.stop) >>=
        fun next ↦
        pure (done.append next) := by
  rw [sequence, sequenceFrom_append, Nat.zero_add]
  exact congrArg _ (funext fun done ↦ sequenceFrom_cons commitAt parts.length last [] done)

end

/-- The results of a sequence have distinct names. -/
theorem nodup_of_sequence {commitAt : Option Nat} {parts : List (Matcher Ending)} {offset : Nat}
    {found : Match} (hfound : sequence parts commitAt offset = .ended found) :
    (found.results.names.map Slot.name).Nodup := by
  suffices hfrom : ∀ (index : Nat) (done : Match), (done.results.names.map Slot.name).Nodup →
      sequenceFrom commitAt index parts done = .ended found →
      (found.results.names.map Slot.name).Nodup from
    hfrom 0 (.nothing offset) List.nodup_nil hfound
  clear hfound
  induction parts with
  | nil =>
    intro index done hdone hfound
    rw [← Ending.ended.inj hfound]
    exact hdone
  | cons part rest ih =>
    intro index done hdone hfound
    rw [sequenceFrom_cons] at hfound
    generalize (if commitAt.any (· ≤ index) then commit (part done.stop) else part done.stop) =
      ending
      at hfound
    cases ending with
    | ended next => exact ih (index + 1) (done.append next) (Results.nodup_extend hdone _) hfound
    | never => cases hfound
    | halted halt => cases hfound

/-- Two parts of a sequence are evaluated one after the other. -/
theorem agrees_sequence_pair (first second : Matcher Ending) (offset : Nat)
    (hnodup : named → ∀ found, first offset = .ended found →
      (found.results.names.map Slot.name).Nodup) :
    (sequence [first, second] none offset).Agrees named flagged (first.andThen second offset) := by
  refine Ending.Agrees.bind_same (first offset) fun found hfound ↦ ?_
  refine Ending.Agrees.bind_same (second found.stop) fun next _ ↦ ?_
  refine .ended (.append ?_ (.refl named next))
  exact .nothing_append offset fun hnamed ↦ hnodup hnamed found hfound

/-- One more part of a sequence is evaluated after the sequence. A commit point makes no difference
to a part that agrees with itself beyond it. -/
theorem agrees_sequence_last (commitAt : Option Nat) (parts : List (Matcher Ending))
    (last : Matcher Ending) (offset : Nat)
    (hcommit : commitAt = none ∨ ∀ place, (commit (last place)).Agrees named flagged (last place)) :
    (sequence (parts ++ [last]) commitAt offset).Agrees named flagged
      ((sequence parts commitAt).andThen last offset) := by
  rw [sequence_append_singleton]
  refine Ending.Agrees.bind_same _ fun done _ ↦ .bind ?_ fun next other _ _ hagrees ↦
    .ended (.append (.refl named done) hagrees)
  split_ifs with hcommitted
  · refine hcommit.elim (fun hnone ↦ ?_) fun hlast ↦ hlast done.stop
    rw [hnone] at hcommitted
    cases hcommitted
  · exact .refl named flagged _

/-- One matcher after another agrees with others if each does. -/
theorem agrees_andThen {first second first' second' : Matcher Ending} {offset : Nat}
    (hfirst : (first offset).Agrees named flagged (first' offset))
    (hsecond : ∀ found, first offset = .ended found →
      (second found.stop).Agrees named flagged (second' found.stop)) :
    (first.andThen second offset).Agrees named flagged (first'.andThen second' offset) := by
  refine hfirst.bind fun found other hfound _ hagrees ↦ ?_
  rw [← hagrees.stop]
  exact (hsecond found hfound).bind fun next more _ _ hnext ↦ .ended (.append hagrees hnext)

end Matcher

/-! ### Expressions one after the other -/

namespace Draft

variable {draft other : Draft} {first second : Grammar} {skip : Option CharSet}

theorem LowersTo.meaning_sequence (hlowers : draft.LowersTo first) (text : Text) {identity : Nat}
    {parts : List Expr} {commit : Option Nat} {id : NodeId}
    (hid : (⟨identity, .sequence parts commit⟩ : Expr).CompilesTo first.nodes
      first.ruleNames skip id) :
    first.meaning text skip ⟨identity, .sequence parts commit⟩ =
      Matcher.sequence (parts.map (first.meaning text skip)) commit :=
  hlowers.meaning_eq text hid

/-- Two parts of a sequence are evaluated one after the other. What the first one means can be
looked up in another grammar. -/
theorem Within.agrees_of_parts (hwithin : draft.Within other) (hfirst : draft.LowersTo first)
    (hsecond : other.LowersTo second) (text : Text) {named flagged : Prop} {expr next : Expr}
    {identity : Nat} {inner id : NodeId}
    (hinner : expr.CompilesTo first.nodes first.ruleNames skip inner)
    (hid : (⟨identity, .sequence [expr, next] none⟩ : Expr).CompilesTo second.nodes
      second.ruleNames skip id)
    (offset : Nat)
    (hnodup : named → ∀ found, first.meaning text skip expr offset = .ended found →
      (found.results.names.map Slot.name).Nodup) :
    (second.meaning text skip ⟨identity, .sequence [expr, next] none⟩ offset).Agrees named flagged
      ((first.meaning text skip expr).andThen (second.meaning text skip next) offset) := by
  obtain ⟨twin, htwin⟩ := hid.exists_part List.mem_cons_self
  rw [hsecond.meaning_sequence text hid]
  rw [hwithin.meaning_eq hfirst hsecond text hinner htwin] at hnodup ⊢
  exact Matcher.agrees_sequence_pair _ _ offset hnodup

/-- Of two expressions that are joined the first is evaluated and then the second. A commit point in
the first one makes no difference to a second one that agrees with itself beyond the commit
point. -/
theorem Within.agrees_of_joins (hwithin : draft.Within other) (hfirst : draft.LowersTo first)
    (hsecond : other.LowersTo second) (text : Text) {named flagged : Prop} {expr next joined : Expr}
    (hjoins : expr.Joins next joined) {inner id : NodeId}
    (hinner : expr.CompilesTo first.nodes first.ruleNames skip inner)
    (hid : joined.CompilesTo second.nodes second.ruleNames skip id) (offset : Nat)
    (hnodup : named → ∀ found, first.meaning text skip expr offset = .ended found →
      (found.results.names.map Slot.name).Nodup)
    (hcommit : expr.parts.2 = none ∨ ∀ place,
      (MatchMonad.commit (second.meaning text skip next place)).Agrees named flagged
        (second.meaning text skip next place)) :
    (second.meaning text skip joined offset).Agrees named flagged
      ((first.meaning text skip expr).andThen (second.meaning text skip next) offset) := by
  cases hjoins with
  | parts identity => exact hwithin.agrees_of_parts hfirst hsecond text hinner hid offset hnodup
  | library identity =>
    rcases expr.parts_cases with ⟨own, parts, commit, rfl, hparts⟩ | hparts
    · rw [hparts] at hcommit hid ⊢
      have hsame : parts.map (second.meaning text skip) = parts.map (first.meaning text skip) := by
        refine List.map_congr_left fun part hpart ↦ ?_
        obtain ⟨one, hone⟩ := hinner.exists_part hpart
        obtain ⟨twin, htwin⟩ := hid.exists_part (List.mem_append_left _ hpart)
        exact (hwithin.meaning_eq hfirst hsecond text hone htwin).symm
      rw [hsecond.meaning_sequence text hid, hfirst.meaning_sequence text hinner,
        List.map_append, hsame]
      exact Matcher.agrees_sequence_last commit _ _ offset hcommit
    · rw [hparts] at hid ⊢
      exact hwithin.agrees_of_parts hfirst hsecond text hinner hid offset hnodup

end Draft

end Packrat
