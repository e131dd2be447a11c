import Packrat.Proofs.Grammar.WrittenLists
import Packrat.Proofs.Matching.Separated
import Packrat.Proofs.Session.Guarantees

/-!
# Items of lists

After its first item a list goes on in rounds: a separator, and an item that ends further on
(`Matcher.Rounds`). A match of a list is its first item and all its rounds put together, perhaps
with a separator after them, or it is empty; `Matcher.Listed` says so and counts the items.

The least number of items is always reached. The greatest number is looked at only when another item
would follow, so a list that may have no item still takes one (`Grammar.listed_of_evaluate`). A full
list looks for one more separator although it keeps none, and fails where that fails fatally
(`Draft.outcome_of_full_list`).
-/

set_option autoImplicit false
set_option relaxedAutoImplicit false

namespace Packrat

open MatchMonad

namespace Matcher

/-! ### Rounds of a list -/

/-- From one offset to another there are rounds of a list: separators with items after them, each of
which ends further on than the one before. -/
inductive Rounds (item separator : Matcher Ending) : Nat → List (Match × Match) → Nat → Prop
  | nil (offset : Nat) : Rounds item separator offset [] offset
  | cons {offset stop : Nat} {between next : Match} {rest : List (Match × Match)}
    (hbetween : separator offset = .ended between) (hnext : item between.stop = .ended next)
    (hmoves : offset < next.stop) (hrest : Rounds item separator next.stop rest stop) :
    Rounds item separator offset ((between, next) :: rest) stop

/-- The first item of a list and its rounds put together. -/
def listing (form : ListForm) (first : Match) (rounds : List (Match × Match)) : Match :=
  rounds.foldl (fun done round ↦ withItem form done round.1 round.2) first

/-- A match of a list from an offset on has so many items. -/
inductive Listed (item separator : Matcher Ending) (form : ListForm) (offset : Nat) :
    Nat → Match → Prop
  | none {failure : Failure} (hnone : item offset = .halted (.failure failure))
    (hordinary : failure.fatal = false) : Listed item separator form offset 0 (.nothing offset)
  | items {first : Match} {rounds : List (Match × Match)} {stop : Nat}
    (hfirst : item offset = .ended first) (hrounds : Rounds item separator first.stop rounds stop) :
    Listed item separator form offset (rounds.length + 1) (listing form first rounds)
  | trailing {first between : Match} {rounds : List (Match × Match)} {stop : Nat}
    (hfirst : item offset = .ended first) (hrounds : Rounds item separator first.stop rounds stop)
    (hbetween : separator stop = .ended between) (hform : form.trailing = true) :
    Listed item separator form offset (rounds.length + 1)
      (withTrailing form (listing form first rounds) between)

variable {text : Text} {item separator : Matcher Ending} {form : ListForm} {what : String}
  {first done found : Match} {rounds : List (Match × Match)} {offset stop count bound : Nat}

@[simp] theorem stop_withItem (form : ListForm) (done between next : Match) :
    (withItem form done between next).stop = next.stop := rfl

/-- Items put together end where the last round does. -/
theorem Rounds.stop_listing (hrounds : Rounds item separator offset rounds stop) (form : ListForm)
    (hoffset : done.stop = offset) : (listing form done rounds).stop = stop := by
  induction hrounds generalizing done with
  | nil offset => exact hoffset
  | cons hbetween hnext hmoves hrest ih => exact ih (stop_withItem form _ _ _)

/-! ### The number of items -/

/-- A list that ends has enough items, and is what there is so far. -/
theorem ended_listEnd {stoppedBy : Option Failure}
    (hfound : (listEnd form what count done stoppedBy : Ending Match) = .ended found) :
    form.least ≤ count ∧ found = done := by
  unfold listEnd at hfound
  by_cases hfew : count < form.least
  · rw [if_pos hfew] at hfound
    cases hfound
  · rw [if_neg hfew] at hfound
    exact ⟨Nat.le_of_not_lt hfew, (Ending.ended.inj hfound).symm⟩

/-- What becomes of the items of a list so far, of which there are `count`: rounds follow, as many
as there is room for, and then perhaps a separator. -/
structure Completed (item separator : Matcher Ending) (form : ListForm) (count : Nat) (done : Match)
    (rounds : List (Match × Match)) (stop : Nat) (found : Match) : Prop where
  /-- The rounds follow one another. -/
  follows : Rounds item separator done.stop rounds stop
  /-- They are put together, and a separator may stay after them. -/
  eq : found = listing form done rounds ∨ form.trailing = true ∧
    ∃ between, separator stop = .ended between ∧ found =
    withTrailing form (listing form done rounds) between
  /-- There are enough items. -/
  least : form.least ≤ count + rounds.length
  /-- There are not too many, unless there were before. -/
  most : ∀ bound ∈ form.most, count + rounds.length ≤ max count bound

theorem completed_listEnd {stoppedBy : Option Failure}
    (hfound : (listEnd form what count done stoppedBy : Ending Match) = .ended found) :
    Completed item separator form count done [] done.stop found := by
  obtain ⟨hleast, rfl⟩ := ended_listEnd hfound
  exact ⟨.nil _, Or.inl rfl, hleast, fun bound _ ↦ Nat.le_max_left count bound⟩

/-- The end of a list after a separator that may stay. -/
theorem completed_withTrailing {between : Match} {stoppedBy : Option Failure}
    (hbetween : separator done.stop = .ended between)
    (hfound : (listEnd form what count (withTrailing form done between) stoppedBy : Ending Match) =
      .ended found) :
    Completed item separator form count done [] done.stop found := by
  obtain ⟨hleast, rfl⟩ := ended_listEnd hfound
  refine ⟨.nil _, ?_, hleast, fun bound _ ↦ Nat.le_max_left count bound⟩
  cases htrailing : form.trailing with
  | true => exact Or.inr ⟨rfl, between, hbetween, rfl⟩
  | false =>
    have hdropped : withTrailing form done between = done := by
      rw [withTrailing, htrailing]
      rfl
    exact Or.inl hdropped

theorem Completed.cons {between next : Match} (hbetween : separator done.stop = .ended between)
    (hnext : item between.stop = .ended next) (hmoves : done.stop < next.stop)
    (hroom : form.most.all (count < ·) = true)
    (hrest : Completed item separator form (count + 1) (withItem form done between next) rounds
      stop found) :
    Completed item separator form count done ((between, next) :: rounds) stop found where
  follows := .cons hbetween hnext hmoves hrest.follows
  eq := hrest.eq
  least := by
    have hleast := hrest.least
    rw [List.length_cons]
    omega
  most bound hbound := by
    have hmost := hrest.most bound hbound
    have hcount : count < bound := by
      rw [Option.mem_def.mp hbound] at hroom
      exact of_decide_eq_true hroom
    rw [List.length_cons]
    omega

/-- What is left of a list, if it matches. The induction is on the rest of the text: every round
consumes some of it. -/
theorem exists_completed (measure : Nat) :
    ∀ (count : Nat) (done : Match), text.size - done.stop = measure →
      delimitedFrom text item separator form what count done = .ended found →
        ∃ rounds stop, Completed item separator form count done rounds stop found := by
  induction measure using Nat.strong_induction_on with
  | _ measure ih =>
    intro count done hmeasure hfound
    rw [delimitedFrom] at hfound
    rcases Ending.exists_of_backtrack_bind_eq_ended hfound with ⟨between, hbetween, hmore⟩
      | ⟨failure, -, -, hend⟩
    · dsimp only at hmore
      split at hmore
      next hroom =>
        rcases Ending.exists_of_backtrack_bind_eq_ended hmore with ⟨next, hnext, hlast⟩
          | ⟨failure, -, -, hend⟩
        · dsimp only at hlast
          split at hlast
          next hadvances =>
            have hinside := hadvances.2
            obtain ⟨rounds, stop, hrest⟩ :=
              ih (text.size - next.stop) (by have := hadvances.1; omega) (count + 1)
                (withItem form done between next) rfl hlast
            exact ⟨_, stop, hrest.cons hbetween hnext hadvances.1 hroom⟩
          next =>
            split at hlast
            · cases hlast
            · exact ⟨[], _, completed_listEnd hlast⟩
        · exact ⟨[], _, completed_withTrailing hbetween hend⟩
      next => exact ⟨[], _, completed_withTrailing hbetween hmore⟩
    · exact ⟨[], _, completed_listEnd hend⟩

theorem delimited_of_ended (hfirst : item offset = .ended first) :
    delimited text item separator form what offset =
      delimitedFrom text item separator form what 1 first := by
  unfold delimited
  rw [hfirst]
  split_ifs <;> rfl

/-- A match of a list has at least as many items as it should, and at most one or as many as it
may. -/
theorem exists_listed (hfound : delimited text item separator form what offset = .ended found) :
    ∃ count, Listed item separator form offset count found ∧ form.least ≤ count ∧
      ∀ bound ∈ form.most, count ≤ max 1 bound := by
  cases hfirst : item offset with
  | ended first =>
    rw [delimited_of_ended hfirst] at hfound
    obtain ⟨rounds, stop, hrounds, heq, hleast, hmost⟩ := exists_completed _ 1 first rfl hfound
    rw [Nat.add_comm] at hleast
    simp only [Nat.add_comm 1] at hmost
    refine ⟨rounds.length + 1, ?_, hleast, hmost⟩
    rcases heq with rfl | ⟨htrailing, between, hbetween, rfl⟩
    · exact .items hfirst hrounds
    · exact .trailing hfirst hrounds hbetween htrailing
  | never | halted halt =>
    unfold delimited at hfound
    rw [hfirst] at hfound
    split_ifs at hfound with hleast
    · rcases Ending.exists_of_backtrack_bind_eq_ended hfound with ⟨middle, hnone, -⟩
        | ⟨failure, hfailure, hordinary, hend⟩
      · cases hnone
      · obtain rfl := Ending.ended.inj hend
        exact ⟨0, .none (hfirst.trans hfailure) hordinary, hleast.le, fun _ _ ↦ Nat.zero_le _⟩
    · cases hfound

/-! ### Full lists -/

/-- Matches of a matcher from boundaries end ahead. -/
def Onward (text : Text) (child : Matcher Ending) : Prop :=
  ∀ ⦃offset : Nat⦄ ⦃found : Match⦄, text.IsBoundary offset → child offset = .ended found →
    text.Ahead offset found.stop

/-- While there is room for the rounds that follow, a list takes them. -/
theorem delimitedFrom_of_rounds (hitem : Onward text item) (hseparator : Onward text separator)
    (hmost : form.most = some bound) (hrounds : Rounds item separator offset rounds stop)
    (hoffset : text.IsBoundary offset) :
    ∀ (count : Nat) (done : Match), done.stop = offset → count + rounds.length ≤ bound →
      delimitedFrom text item separator form what count done =
        delimitedFrom text item separator form what (count + rounds.length)
          (listing form done rounds) := by
  induction hrounds with
  | nil offset => exact fun _ _ _ _ ↦ rfl
  | @cons offset stop between next rest hbetween hnext hmoves hrest ih =>
    rintro count done rfl hcount
    rw [List.length_cons] at hcount
    have hmiddle := hseparator hoffset hbetween
    have hahead := hitem hmiddle.boundary hnext
    have hadvances : Advances text done.stop next.stop :=
      ⟨hmoves, Nat.lt_of_lt_of_le hmoves hahead.le_size⟩
    have hroom : form.most.all (count < ·) = true := by
      rw [hmost]
      exact decide_eq_true (by omega)
    have hlast := ih hahead.boundary (count + 1) (withItem form done between next) rfl (by omega)
    rw [delimitedFrom, hbetween]
    simp only [Ending.backtrack_ended, Ending.ended_bind, hroom, if_true, hnext, hadvances]
    rw [hlast, Nat.add_right_comm]
    rfl

/-- A full list after which no separator may stay: it is looked for all the same. -/
theorem delimitedFrom_of_full (hplain : form.trailing = false) (hmost : form.most = some bound)
    (hleast : form.least ≤ bound) :
    delimitedFrom text item separator form what bound done =
      backtrack (separator done.stop) >>= fun _ ↦ .ended done := by
  have henough (stoppedBy : Option Failure) :
      (listEnd form what bound done stoppedBy : Ending Match) = .ended done := by
    rw [listEnd, if_neg (Nat.not_lt.mpr hleast)]
    rfl
  have hroom : ¬ form.most.all (bound < ·) = true := by
    rw [hmost]
    exact fun hlt ↦ Nat.lt_irrefl bound (of_decide_eq_true hlt)
  rw [delimitedFrom]
  cases separator done.stop with
  | never => rfl
  | halted halt =>
    cases halt with
    | error error => rfl
    | failure failure =>
      rw [Ending.backtrack_failure]
      split_ifs
      · rfl
      · exact henough _
  | ended between =>
    have hdropped : withTrailing form done between = done := by
      rw [withTrailing, hplain]
      rfl
    simp only [Ending.backtrack_ended, Ending.ended_bind, hroom, hdropped]
    exact henough _

/-- A list that has as many items as it may have, and after which no separator may stay, is its
items, unless the search for one more separator stops it. -/
theorem delimited_of_full (hitem : Onward text item) (hseparator : Onward text separator)
    (hplain : form.trailing = false) (hmost : form.most = some bound) (hleast : form.least ≤ bound)
    (hoffset : text.IsBoundary offset) (hfirst : item offset = .ended first)
    (hrounds : Rounds item separator first.stop rounds stop) (hfull : rounds.length + 1 = bound) :
    delimited text item separator form what offset =
      backtrack (separator stop) >>= fun _ ↦ .ended (listing form first rounds) := by
  have hcount : 1 + rounds.length = bound := by omega
  rw [delimited_of_ended hfirst, delimitedFrom_of_rounds hitem hseparator hmost hrounds
    (hitem hoffset hfirst).boundary 1 first rfl hcount.le, hcount,
    delimitedFrom_of_full hplain hmost hleast, hrounds.stop_listing form rfl]

end Matcher

namespace Grammar

variable {grammar : Grammar} {text : Text} {id item separator : NodeId} {form : ListForm}
  {what : String} {offset room : Nat}

theorem onward_ending (grammar : Grammar) (text : Text) (id : NodeId) :
    Matcher.Onward text (grammar.ending text id) :=
  fun _ _ hoffset hfound ↦ (fulfils_of_ending (grammar.maintains_nothing text) hoffset hfound).1

/-- What a session evaluates, if it is not stopped, is what the node comes to. -/
theorem ending_of_session {history : List Request}
    (hreached : ¬ IsLimited (grammar.evaluate text room id offset
      ((Session.start grammar text).after history).state).1) :
    grammar.ending text id offset =
      .ofOutcome (grammar.evaluate text room id offset
        ((Session.start grammar text).after history).state).1 :=
  ending_eq_of_evaluate (Session.valid_after grammar text history) hreached

/-- What a session evaluates, whatever was asked before, is what the trace with the same room says,
if that was not stopped. -/
theorem evaluate_after_of_trace {outcome : Except Halt Match}
    (htrace : (grammar.trace text room id offset).outcome = outcome)
    (hreached : ¬ IsLimited outcome) (history : List Request) :
    (grammar.evaluate text room id offset ((Session.start grammar text).after history).state).1 =
      outcome := by
  have hanswers := (grammar.answers_evaluate (Session.valid_after grammar text history)
    room id offset).2
  have hroom : ¬ ((grammar.deepening text id offset).trace room).Limited := by
    rw [← htrace] at hreached
    exact hreached
  have hsame := ending_of_session (hanswers.not_isLimited hroom)
  rw [ending_of_trace hroom] at hsame
  exact (Ending.ofOutcome_injective hsame).symm.trans htrace

/-- A match of a list, whatever was asked of the session before, is put together from its items: at
least as many as there should be, and not more than there may be, except that a list that may have
none may have one. -/
theorem listed_of_evaluate (hnode : grammar.node id = .delimited item separator form what)
    (history : List Request) {found : Match}
    (hfound : (grammar.evaluate text room id offset
      ((Session.start grammar text).after history).state).1 = .ok found) :
    ∃ count, Matcher.Listed (grammar.ending text item) (grammar.ending text separator)
      form offset count found ∧ form.least ≤ count ∧ ∀ bound ∈ form.most, count ≤ max 1 bound := by
  have hending := ending_of_session (hfound ▸ not_isLimited_ok found)
  rw [hfound, Ending.ofOutcome_ok, ending_eq, hnode] at hending
  exact Matcher.exists_listed hending

end Grammar

namespace Draft

variable {draft : Draft} {grammar : Grammar} {text : Text} {id item separator : NodeId}
  {form : ListForm} {what : String}

/-- The bounds of the lists in the grammar of a draft are in order. -/
theorem LowersTo.le_of_delimited (hlowers : draft.LowersTo grammar)
    (hnode : grammar.node id = .delimited item separator form what) :
    ∀ bound ∈ form.most, form.least ≤ bound := by
  by_cases hid : id < grammar.nodeCount
  · obtain ⟨skip, expr, -, hcompiles⟩ := hlowers.covered id hid
    obtain ⟨node, ids, hfound, hshape, -⟩ := hcompiles.lowers
    rw [Grammar.node, hfound, Option.getD_some] at hnode
    subst hnode
    generalize (expr.innermost skip).2.shape = shape at hshape
    cases hshape with
    | terminal hterminal =>
      rcases Compile.terminalNode_cases hterminal with hsame | hsame <;> cases hsame
    | regex hregex =>
      obtain ⟨program, hsame⟩ := Compile.regexNode_cases hregex
      cases hsame
    | delimited _ _ _ _ _ hbounds => exact hbounds
  · rw [Grammar.node, Array.getElem?_eq_none (Nat.le_of_not_lt hid)] at hnode
    cases hnode

/-- What a full list comes to. From some offset on there are as many items as a list may have, with
separators between them, and no separator may stay after them. In any session, unless the limit on
the depth stops it, the list is then these items and ends where the last one does, if there is one
more separator or none in the ordinary way. But if the search for one more separator fails fatally
or with an error, so does the list. -/
theorem outcome_of_full_list (hcoherent : draft.Coherent) (hbuild : draft.build = .ok grammar)
    (hnode : grammar.node id = .delimited item separator form what) (hplain : form.trailing = false)
    {bound : Nat} (hmost : form.most = some bound) {offset stop : Nat}
    (hoffset : text.IsBoundary offset) {first : Match} {rounds : List (Match × Match)}
    (hfirst : grammar.ending text item offset = .ended first)
    (hrounds : Matcher.Rounds (grammar.ending text item) (grammar.ending text separator)
      first.stop rounds stop)
    (hfull : rounds.length + 1 = bound) (history : List Request) {room : Nat}
    {outcome : Except Halt Match} (houtcome : (grammar.evaluate text room id offset
      ((Session.start grammar text).after history).state).1 = outcome)
        (hreached : ¬ IsLimited outcome) :
    (Matcher.listing form first rounds).stop = stop ∧
      ((∀ halt, grammar.ending text separator stop = .halted halt → halt.IsOrdinary) →
        outcome = .ok (Matcher.listing form first rounds)) ∧
      ∀ halt, grammar.ending text separator stop = .halted halt → ¬ halt.IsOrdinary →
        outcome = .error halt := by
  have hlowers := lowersTo_of_compile hcoherent (build_eq_ok_iff.mp hbuild).1
  have hending := Grammar.ending_of_session (houtcome ▸ hreached)
  have hlist : grammar.ending text id offset =
      backtrack (grammar.ending text separator stop) >>= fun _ ↦
      .ended (Matcher.listing form first rounds) := by
    rw [Grammar.ending_eq, hnode]
    exact Matcher.delimited_of_full (grammar.onward_ending text item)
      (grammar.onward_ending text separator) hplain hmost
      (hlowers.le_of_delimited hnode bound hmost) hoffset hfirst hrounds hfull
  rw [hlist, houtcome] at hending
  refine ⟨hrounds.stop_listing form rfl, fun hordinary ↦ ?_, fun halt hhalted hfirm ↦ ?_⟩
  · match hnext : grammar.ending text separator stop with
    | .never =>
      rw [hnext] at hending
      exact absurd hending.symm (Ending.ofOutcome_ne_never outcome)
    | .ended between =>
      rw [hnext] at hending
      exact Ending.ofOutcome_injective hending.symm
    | .halted halt =>
      obtain ⟨failure, rfl, hfatal⟩ := hordinary halt hnext
      rw [hnext, Ending.backtrack_failure, hfatal] at hending
      exact Ending.ofOutcome_injective hending.symm
  · rw [hhalted] at hending
    match halt with
    | .error error => exact Ending.ofOutcome_injective hending.symm
    | .failure failure =>
      have hfatal : failure.fatal = true := by
        by_contra hother
        exact hfirm ⟨failure, rfl, Bool.eq_false_iff.mpr hother⟩
      rw [Ending.backtrack_failure, if_pos hfatal] at hending
      exact Ending.ofOutcome_injective hending.symm

end Draft

/-! ### Letters with strict separators -/

/-- Letters between which there are commas with a mark. After the comma there is no way back. -/
def Draft.cappedLetters (form : ListForm) : Build Draft := do
  let letter ← Expr.literal "a"
  let comma ← Expr.literal ","
  let separator ← comma.andCommit (← Expr.literal "x")
  pure { entry := some (.expr (← letter.delimitedWith separator form)) }

def Grammar.cappedLetters (form : ListForm) : Grammar where
  nodes := #[.terminal (.literal "a" false) (some .blanks) "Expected \"a\"",
    .terminal (.literal "," false) (some .blanks) "Expected \",\"",
    .terminal (.literal "x" false) (some .blanks) "Expected \"x\"", .sequence [1, 2] (some 1),
    .delimited 0 3 form "\"a\" [\x7b\",\" - \"x\"\x7d \"a\"]..."]
  ruleNames := []
  ruleBodies := []
  entry := some 4
  config := {}

namespace Draft

theorem coherent_cappedLetters (form : ListForm) (next : Nat) :
    (cappedLetters form next).1.Coherent := by
  have hdraws : Build.Draws (fun _ ↦ False) (cappedLetters form) Drawn := by
    refine Build.draws_bind (Build.draws_leaf fun _ ↦ rfl) fun letter first _ hletter ↦ ?_
    refine Build.draws_bind (Build.draws_leaf fun _ ↦ rfl) fun comma second hsecond hcomma ↦ ?_
    refine Build.draws_bind (Build.draws_leaf fun _ ↦ rfl) fun mark third hthird hmark ↦ ?_
    refine Build.draws_bind (Build.draws_andCommit (hthird _ hcomma) hmark)
      fun separator fourth hfourth hseparator ↦ ?_
    refine Build.draws_bind (Expr.draws_delimitedWith (hfourth _ (hthird _ (hsecond _ hletter)))
      hseparator form) fun list drawn _ hlist ↦ Build.draws_pure _
        ⟨fun _ hbody ↦ (nomatch hbody), fun entry hentry ↦ ?_⟩
    obtain rfl := EntryPoint.expr.inj (Option.some.inj hentry)
    exact hlist
  exact hdraws.coherent next

theorem build_cappedLetters_none :
    (cappedLetters { least := 0, most := some 0 } 0).1.build =
      .ok (Grammar.cappedLetters { least := 0, most := some 0 }) := by
  cbv

theorem build_cappedLetters_one :
    (cappedLetters { most := some 1 } 0).1.build =
      .ok (Grammar.cappedLetters { most := some 1 }) := by
  cbv

theorem build_cappedLetters_two :
    (cappedLetters { least := 2, most := some 2 } 0).1.build =
      .ok (Grammar.cappedLetters { least := 2, most := some 2 }) := by
  cbv

end Draft

namespace Grammar

/-- Of three letters a list of two letters takes two, and leaves the separator after them alone. -/
theorem listed_of_evaluate_two :
    let form : ListForm := { least := 2, most := some 2 }
    let text := Text.ofChars ['a', ',', 'x', 'a', ',', 'x', 'a']
    ∃ what found count, (cappedLetters form).node 4 = .delimited 0 3 form what ∧
      ((cappedLetters form).evaluate text 10 4 0
        ((Session.start (cappedLetters form) text).after [.parse true, .scan]).state).1 =
          .ok found ∧
      found.stop = 4 ∧ 2 ≤ count ∧ count ≤ 2 ∧
      Matcher.Listed ((cappedLetters form).ending text 0) ((cappedLetters form).ending text 3)
        form 0 count found := by
  intro form text
  have hfound : ((cappedLetters form).evaluate text 10 4 0
      ((Session.start (cappedLetters form) text).after [.parse true, .scan]).state).1 =
        .ok ⟨4, .ofTokens [.str "a", .str "a"]⟩ :=
    evaluate_after_of_trace (by cbv) (not_isLimited_ok _) _
  obtain ⟨count, hlisted, hleast, hmost⟩ := listed_of_evaluate rfl [.parse true, .scan] hfound
  exact ⟨_, _, count, rfl, hfound, rfl, hleast, hmost 2 rfl, hlisted⟩

/-- A list that may have no item takes one. -/
theorem listed_beyond_most :
    let form : ListForm := { least := 0, most := some 0 }
    let text := Text.ofChars ['a']
    (Draft.cappedLetters form 0).1.Coherent ∧
      (Draft.cappedLetters form 0).1.build = .ok (cappedLetters form) ∧
      ∃ what found, (cappedLetters form).node 4 = .delimited 0 3 form what ∧
        ((cappedLetters form).evaluate text 10 4 0
          (Session.start (cappedLetters form) text).state).1 = .ok found ∧
        ∀ count, Matcher.Listed ((cappedLetters form).ending text 0)
          ((cappedLetters form).ending text 3) form 0 count found →
          ¬ ∀ bound ∈ form.most, count ≤ bound := by
  intro form text
  have hfound : ((cappedLetters form).evaluate text 10 4 0
      (Session.start (cappedLetters form) text).state).1 = .ok ⟨1, .ofToken (.str "a")⟩ :=
    evaluate_after_of_trace (by cbv) (not_isLimited_ok _) []
  refine ⟨Draft.coherent_cappedLetters form 0, Draft.build_cappedLetters_none, _, _, rfl, hfound,
    fun count hlisted hmost ↦ ?_⟩
  obtain rfl : count = 0 := Nat.le_zero.mp (hmost 0 rfl)
  cases hlisted

end Grammar

namespace Draft

/-- Two letters are all of a list of two letters: that no separator follows is no matter. -/
theorem outcome_of_full_list_two :
    let form : ListForm := { least := 2, most := some 2 }
    let grammar := Grammar.cappedLetters form
    let text := Text.ofChars ['a', ',', 'x', 'a', 'a']
    ∃ what first rounds outcome, (cappedLetters form 0).1.Coherent ∧
      (cappedLetters form 0).1.build = .ok grammar ∧ grammar.node 4 = .delimited 0 3 form what ∧
      form.trailing = false ∧ form.most = some 2 ∧ text.IsBoundary 0 ∧
      grammar.ending text 0 0 = .ended first ∧ Matcher.Rounds (grammar.ending text 0)
        (grammar.ending text 3) first.stop rounds 4 ∧ rounds.length + 1 = 2 ∧
      (grammar.evaluate text 10 4 0 ((Session.start grammar text).after [.scan]).state).1 =
      outcome ∧ ¬ IsLimited outcome ∧ (Matcher.listing form first rounds).stop = 4 ∧
      outcome = .ok (Matcher.listing form first rounds) := by
  intro form grammar text
  have hitem : grammar.ending text 0 0 = .ended ⟨1, .ofToken (.str "a")⟩ :=
    Deepening.ending_of_outcome _ 10 (by cbv) (not_isLimited_ok _)
  have hbetween : grammar.ending text 3 1 = .ended ⟨3, .ofTokens [.str ",", .str "x"]⟩ :=
    Deepening.ending_of_outcome _ 10 (by cbv) (not_isLimited_ok _)
  have hnext : grammar.ending text 0 3 = .ended ⟨4, .ofToken (.str "a")⟩ :=
    Deepening.ending_of_outcome _ 10 (by cbv) (not_isLimited_ok _)
  have hlast : grammar.ending text 3 4 = .halted (.failure ⟨4, "Expected \",\"", false⟩) :=
    Deepening.ending_of_outcome _ 10 (by cbv) (not_isLimited_failure _)
  have houtcome : (grammar.evaluate text 10 4 0
      ((Session.start grammar text).after [.scan]).state).1 =
        .ok ⟨4, .ofTokens [.str "a", .str "a"]⟩ :=
    Grammar.evaluate_after_of_trace (by cbv) (not_isLimited_ok _) _
  have hrounds := Matcher.Rounds.cons hbetween hnext (by decide) (.nil 4)
  have hfull := outcome_of_full_list (coherent_cappedLetters form 0)
    build_cappedLetters_two rfl rfl rfl text.isBoundary_zero hitem hrounds rfl [.scan]
      houtcome (not_isLimited_ok _)
  refine ⟨_, _, _, _, coherent_cappedLetters form 0, build_cappedLetters_two, rfl, rfl,
    rfl, text.isBoundary_zero, hitem, hrounds, rfl, houtcome, not_isLimited_ok _, hfull.1,
      hfull.2.1 fun halt hhalted ↦ ?_⟩
  exact ⟨_, Ending.halted.inj (hhalted.symm.trans hlast), rfl⟩

/-- One letter is all of a list of at most one letter where nothing follows, but where a comma
without a mark follows the list fails fatally. -/
theorem full_list_fails :
    let form : ListForm := { most := some 1 }
    let grammar := Grammar.cappedLetters form
    let text := Text.ofChars ['a', ',', 'y']
    ∃ what first, (cappedLetters form 0).1.Coherent ∧ (cappedLetters form 0).1.build = .ok grammar ∧
      grammar.node 4 = .delimited 0 3 form what ∧ form.trailing = false ∧ form.most = some 1 ∧
      text.IsBoundary 0 ∧ grammar.ending text 0 0 = .ended first ∧ 0 < first.stop ∧
      Matcher.Rounds (grammar.ending text 0) (grammar.ending text 3) first.stop [] first.stop ∧
      (grammar.evaluate (.ofChars ['a']) 10 4 0 (Session.start grammar (.ofChars ['a'])).state).1 =
      .ok first ∧ (grammar.evaluate text 10 4 0 (Session.start grammar text).state).1 =
        .error (.failure ⟨2, "Expected \"x\"", true⟩) := by
  intro form grammar text
  have hitem : grammar.ending text 0 0 = .ended ⟨1, .ofToken (.str "a")⟩ :=
    Deepening.ending_of_outcome _ 10 (by cbv) (not_isLimited_ok _)
  exact ⟨_, _, coherent_cappedLetters form 0, build_cappedLetters_one, rfl, rfl, rfl,
    text.isBoundary_zero, hitem, by
    decide, .nil _, Grammar.evaluate_after_of_trace (by cbv) (not_isLimited_ok _) [],
    Grammar.evaluate_after_of_trace (by cbv) (not_isLimited_failure _) []⟩

end Draft

end Packrat
