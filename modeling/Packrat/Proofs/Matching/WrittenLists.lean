import Mathlib
import Packrat.Proofs.Grammar.WrittenLists
import Packrat.Proofs.Matching.Separated

/-!
# What lists come to

A list of at least one item and what it is written out as (`Expr.writtenOut`) build both or neither,
and as entries of one draft they are evaluated alike, if the item always consumes and the separator
fails only in the ordinary way (`Draft.list_agrees_writtenOut`). They may differ in whether a
failure is fatal, if the item has a commit point: the rest of the list comes to stand beyond it.

The round of a separator with a commit point is a sequence of two parts. If the library joined them
the item would be beyond the commit point, and a list that ends before a trailing separator would
fail fatally instead (`Draft.list_not_agrees_joined`).
-/

set_option autoImplicit false
set_option relaxedAutoImplicit false

namespace Packrat

open MatchMonad

/-- An expression fails only in the ordinary way in a text, not fatally and not with an error, apart
from the limit on the depth. -/
def Draft.FailsOrdinarily (draft : Draft) (text : Text) (skip : Option CharSet) (expr : Expr) :
    Prop :=
  ∀ room offset halt, text.IsBoundary offset →
    (draft.reading text room skip expr offset : Account Match).outcome = .error halt →
      IsLimited (Except.error halt : Except Halt Match) ∨ halt.IsOrdinary

namespace Matcher

variable {named flagged : Prop} {text : Text}

/-- A commit point makes no difference to the parts of a sequence where fatal flags are not
compared. -/
theorem agrees_sequenceFrom {commitAt : Option Nat} (hcommit : flagged → commitAt = none)
    (parts : List (Matcher Ending)) :
    ∀ (index place : Nat) (done other : Match), done.Agrees named other →
      (sequenceFrom commitAt index parts done).Agrees named flagged
        (sequenceFrom none place parts other) := by
  induction parts with
  | nil => exact fun _ _ done other hagrees ↦ .ended hagrees
  | cons part rest ih =>
    intro index place done other hagrees
    rw [sequenceFrom_cons, sequenceFrom_cons, hagrees.stop]
    refine Ending.Agrees.bind ?_ fun next last _ _ hnext ↦ ih _ _ _ _ (.append hagrees hnext)
    change (if commitAt.any (· ≤ index) then commit (part other.stop) else part other.stop).Agrees
      named flagged (part other.stop)
    split_ifs with hcommitted
    · refine .commit _ fun hflagged ↦ ?_
      rw [hcommit hflagged] at hcommitted
      cases hcommitted
    · exact .refl named flagged _

/-- Where fatal flags are not compared, more parts of a sequence are evaluated after the
sequence. -/
theorem agrees_sequence_append {commitAt : Option Nat} (hcommit : flagged → commitAt = none)
    (parts rest : List (Matcher Ending)) (offset : Nat) :
    (sequence (parts ++ rest) commitAt offset).Agrees named flagged
      (sequence parts commitAt offset >>= sequenceFrom none 0 rest) := by
  rw [sequence, sequenceFrom_append]
  exact .bind_same _ fun done _ ↦ agrees_sequenceFrom hcommit rest _ _ done done (.refl named done)

end Matcher

namespace Draft

variable {draft other : Draft} {first second : Grammar} {text : Text} {skip : Option CharSet}
  {item separator kept round : Expr} {form : ListForm} {kind : String → Bool}
    {named : Prop} {id twin : NodeId}

/-- The parts of an expression in sequence agree with the expression, where its names are
distinct. -/
theorem LowersTo.agrees_parts (hlowers : other.LowersTo second) {flagged : Prop}
    (hid : item.CompilesTo second.nodes second.ruleNames skip id) {offset : Nat}
    (hnodup : named → ∀ found, second.meaning text skip item offset = .ended found →
      (found.results.names.map Slot.name).Nodup) :
    (Matcher.sequence (item.parts.1.map (second.meaning text skip)) item.parts.2 offset).Agrees
      named flagged (second.meaning text skip item offset) := by
  rcases item.parts_cases with ⟨identity, parts, commit, rfl, hparts⟩ | hparts
  · rw [hparts, hlowers.meaning_sequence text hid]
    exact .refl named flagged _
  · rw [hparts]
    exact Matcher.agrees_nothing_andThen _ offset hnodup

/-- What follows the last item is evaluated as it is written out. -/
theorem LowersTo.agrees_trail (hlowers : other.LowersTo second) {flagged : Prop} {trail : List Expr}
    (htrail : kept.Trail form.trailing trail)
    (hcompiled : ∀ part ∈ trail, ∃ inner, part.CompilesTo second.nodes second.ruleNames skip inner)
    {separator : Matcher Ending}
    (hkept : (∃ inner, kept.CompilesTo second.nodes second.ruleNames skip inner) →
      second.meaning text skip kept = Matcher.kept form separator) (index : Nat) {done last : Match}
    (hagrees : done.Agrees named last) :
    (Matcher.sequenceFrom none index (trail.map (second.meaning text skip)) done).Agrees
      named flagged (Matcher.trail form separator done.stop >>= fun more ↦
        .ended (last.append more)) := by
  rw [Matcher.trail]
  cases htrailing : form.trailing with
  | false =>
    rw [htrailing] at htrail
    cases htrail
    refine .ended ?_
    rw [hagrees.stop, last.append_nothing]
    exact hagrees
  | true =>
    rw [htrailing] at htrail
    cases htrail with
    | option identity =>
    obtain ⟨inner, hinner⟩ := hcompiled _ List.mem_cons_self
    rw [if_pos rfl, ← hkept (hinner.exists_child List.mem_cons_self), List.map_singleton,
      hlowers.meaning_eq text hinner, Matcher.sequenceFrom_cons]
    exact .bind_same _ fun more _ ↦ .ended (.append hagrees (.refl named more))

/-- What a list is written out as is evaluated as the list written out, but for fatal flags if the
item has a commit point. -/
theorem LowersTo.agrees_written (hlowers : other.LowersTo second) {identity own : Nat}
    {trail : List Expr} (htwin : (⟨identity, .sequence (item.parts.1 ++
      ⟨own, .repetition round (form.least - 1) (form.most.map (· - 1))⟩ :: trail) item.parts.2⟩ :
        Expr).CompilesTo second.nodes second.ruleNames skip twin)
    (hid : item.CompilesTo second.nodes second.ruleNames skip id)
    (htrail : kept.Trail form.trailing trail) {separator : Matcher Ending}
    (hkept : (∃ inner, kept.CompilesTo second.nodes second.ruleNames skip inner) →
      second.meaning text skip kept = Matcher.kept form separator)
    {offset : Nat} (hnodup : named → ∀ found, second.meaning text skip item offset = .ended found →
      (found.results.names.map Slot.name).Nodup) :
    (second.meaning text skip ⟨identity, .sequence (item.parts.1 ++
      ⟨own, .repetition round (form.least - 1) (form.most.map (· - 1))⟩ :: trail) item.parts.2⟩
        offset).Agrees named (item.parts.2 = none)
      (Matcher.written text (second.meaning text skip item) separator
        (second.meaning text skip round) form
          (Shape.repetition round (form.least - 1) (form.most.map (· - 1))).display offset) := by
  obtain ⟨inner, hinner⟩ := htwin.exists_part (List.mem_append_right _ List.mem_cons_self)
  rw [hlowers.meaning_sequence text htwin, List.map_append, List.map_cons]
  refine (Matcher.agrees_sequence_append (fun hnone ↦ hnone) _ _ offset).trans ?_
  refine (hlowers.agrees_parts hid hnodup).bind fun done base _ _ hagrees ↦ ?_
  rw [Matcher.sequenceFrom_cons, hlowers.meaning_eq text hinner, hagrees.stop]
  refine .bind_same _ fun rounds _ ↦ ?_
  exact hlowers.agrees_trail htrail (fun part hpart ↦
    htwin.exists_part (List.mem_append_right _ (List.mem_cons_of_mem _ hpart))) hkept _
    (.append hagrees (.refl named rounds))

/-- A separator that fails only in the ordinary way means a matcher that does, and its matches are
uniform where names in its node are of their kinds. -/
theorem FailsOrdinarily.meaning {grammar : Grammar} {expr : Expr}
    (hordinary : other.FailsOrdinarily text skip expr) (hwithin : draft.Within other)
    (hlowers : draft.LowersTo grammar)
    (hid : expr.CompilesTo grammar.nodes grammar.ruleNames skip id)
    (hkinds : named → grammar.KeepsKinds kind id) :
    (grammar.meaning text skip expr).Steady text named kind := by
  rw [← hlowers.ending_eq_meaning text hid]
  refine ⟨fun hoffset hfound ↦ ?_, fun hnamed hoffset hfound ↦ ?_, fun hoffset hhalted ↦ ?_⟩
  · exact (Grammar.fulfils_of_ending (grammar.maintains_nothing text) hoffset hfound).1
  · exact (hkinds hnamed).uniform_of_ending hoffset hfound
  · obtain ⟨room, houtcome, hreached⟩ :=
      Grammar.exists_trace_of_ending (hhalted.trans (Ending.ofOutcome_error _).symm)
    rw [hlowers.ruleNames] at hid
    refine (hordinary room _ _ hoffset ?_).resolve_left hreached
    rw [← hwithin.account_eq_reading hlowers text room hid, ← Grammar.account_trace]
    exact houtcome

/-- What stays of a separator means what the list keeps of it. -/
theorem Within.meaning_kept (hwithin : draft.Within other) (hfirst : draft.LowersTo first)
    (hsecond : other.LowersTo second) (text : Text)
    (hkept : separator.Keeps form.keepSeparators kept)
    (hid : separator.CompilesTo first.nodes first.ruleNames skip id)
    (htwin : kept.CompilesTo second.nodes second.ruleNames skip twin) :
    second.meaning text skip kept = Matcher.kept form (first.meaning text skip separator) := by
  unfold Matcher.kept
  cases hkeeps : form.keepSeparators with
  | true =>
    rw [hkeeps] at hkept
    cases hkept
    exact (hwithin.meaning_eq hfirst hsecond text hid htwin).symm
  | false =>
    rw [hkeeps] at hkept
    cases hkept with
    | dropped identity =>
    obtain ⟨inner, hinner⟩ := htwin.exists_child List.mem_cons_self
    rw [hsecond.meaning_eq text htwin, hwithin.meaning_eq hfirst hsecond text hid hinner]
    rfl

/-- A round is evaluated as a separator, of which stays what the list keeps, and then an item. -/
theorem Within.agrees_round (hwithin : draft.Within other) (hfirst : draft.LowersTo first)
    (hsecond : other.LowersTo second) (hkept : separator.Keeps form.keepSeparators kept)
    (hround : kept.Round item round) {inner : NodeId}
    (hitem : item.CompilesTo first.nodes first.ruleNames skip inner)
    (hid : separator.CompilesTo first.nodes first.ruleNames skip id)
    (htwin : round.CompilesTo second.nodes second.ruleNames skip twin)
    (hsteady : (first.meaning text skip separator).Steady text named kind) {place : Nat}
    (hplace : text.IsBoundary place) :
    (second.meaning text skip round place).Agrees named True
      ((Matcher.kept form (first.meaning text skip separator)).andThen
        (first.meaning text skip item) place) := by
  obtain ⟨last, hlast⟩ := hround.joins.exists_second htwin
  rw [hwithin.meaning_eq hfirst hsecond text hitem hlast]
  have hnodup (hnamed : named) (found : Match)
      (hfound : Matcher.kept form (first.meaning text skip separator) place = .ended found) :
      (found.results.names.map Slot.name).Nodup := by
    rw [Matcher.kept_eq] at hfound
    match hbetween : first.meaning text skip separator place with
    | .never => exact nomatch hbetween ▸ hfound
    | .halted halt => exact nomatch hbetween ▸ hfound
    | .ended between =>
      rw [hbetween] at hfound
      obtain rfl := Ending.ended.inj hfound
      exact (Matcher.uniform_keptMatch form (hsteady.uniform hnamed hplace hbetween)).nodup
  cases hround with
  | apart identity =>
    obtain ⟨own, hown⟩ := htwin.exists_part List.mem_cons_self
    rw [← hwithin.meaning_kept hfirst hsecond text hkept hid hown] at hnodup ⊢
    exact (Within.refl other).agrees_of_parts hsecond hsecond text hown htwin place hnodup
  | joined identity hcommit =>
    cases hkeeps : form.keepSeparators with
    | true =>
      rw [Matcher.kept, if_pos hkeeps] at hnodup ⊢
      rw [hkeeps] at hkept
      cases hkept
      exact hwithin.agrees_of_joins hfirst hsecond text (.library identity) hid htwin place
        hnodup (Or.inl hcommit)
    | false =>
      have hsole : kept ∈ kept.parts.1 := by
        rw [hkeeps] at hkept
        cases hkept
        exact List.mem_cons_self
      obtain ⟨own, hown⟩ := htwin.exists_part (List.mem_append_left _ hsole)
      rw [← hwithin.meaning_kept hfirst hsecond text hkept hid hown] at hnodup ⊢
      exact (Within.refl other).agrees_of_joins hsecond hsecond text (.library identity)
        hown htwin place hnodup (Or.inl hcommit)

/-- The node of a list ends as what the list is written out as, unless it comes to nothing. -/
theorem agrees_writtenOut (hwithin : draft.Within other) (hfirst : draft.LowersTo first)
    (hsecond : other.LowersTo second) {identity : Nat} {whole : Expr}
    (hid : (⟨identity, .delimited item separator form⟩ : Expr).CompilesTo first.nodes
      first.ruleNames skip id)
    (htwin : whole.CompilesTo second.nodes second.ruleNames skip twin)
    (hwhole : item.WritesOut separator form whole) (hleast : 1 ≤ form.least)
    (hconsumes : draft.Consumes text skip item)
    (hordinary : draft.FailsOrdinarily text skip separator) (kind : String → Bool) {offset : Nat}
    (hoffset : text.IsBoundary offset) :
    first.ending text id offset = .never ∨
      (first.ending text id offset).Agrees (first.KeepsKinds kind id) (item.parts.2 = none)
        (second.ending text twin offset) := by
  have hmeaning := hfirst.meaning_eq text hid
  rw [← hfirst.ending_eq_meaning text hid] at hmeaning
  rw [hmeaning, hsecond.ending_eq_meaning text htwin]
  obtain ⟨node, ids, hnode, hshape, hchildren⟩ := hid.lowers
  cases hshape with
  | delimited _ _ _ one two hbounds =>
  obtain ⟨hone, hrest⟩ := List.forall₂_cons.mp hchildren
  have hitem : item.CompilesTo first.nodes first.ruleNames skip one := hone
  have hseparator : separator.CompilesTo first.nodes first.ruleNames skip two :=
    (List.forall₂_cons.mp hrest).1
  have huses {child : NodeId} (hchild : child ∈ [one, two]) : first.Uses id child := by
    refine .child ?_
    rw [Grammar.node, hnode]
    exact hchild
  have hrounds := hconsumes.meaning (.refl draft) hfirst hitem
    fun hkinds : first.KeepsKinds kind id ↦
    hkinds.uses (huses List.mem_cons_self)
  have hsteady := hordinary.meaning (.refl draft) hfirst hseparator
    fun hkinds : first.KeepsKinds kind id ↦
    hkinds.uses (huses (List.mem_cons_of_mem _ List.mem_cons_self))
  cases hwhole with
  | @mk kept round trail identity' own hkept hround htrail =>
  obtain ⟨again, hagain⟩ := htwin.exists_part (List.mem_append_right _ List.mem_cons_self)
  obtain ⟨inner, hinner⟩ := hagain.exists_child List.mem_cons_self
  obtain ⟨last, hlast⟩ := hround.joins.exists_second hinner
  have hsame := hwithin.meaning_eq hfirst hsecond text hitem hlast
  have hnodup (hnamed : first.KeepsKinds kind id) (found : Match)
      (hfound : second.meaning text skip item offset = .ended found) :
      (found.results.names.map Slot.name).Nodup :=
    (hrounds.uniform hnamed hoffset (hsame ▸ hfound)).nodup
  have hwritten := hsecond.agrees_written htwin hlast htrail
    (fun hcompiled ↦ hwithin.meaning_kept hfirst hsecond text hkept hseparator
      hcompiled.choose_spec) hnodup
  rw [← hsame] at hwritten
  have hround' (place : Nat) (hplace : text.IsBoundary place) :=
    hwithin.agrees_round hfirst hsecond hkept hround hitem hseparator hinner hsteady hplace
  have hlisted := Matcher.agrees_delimited hrounds hsteady hround' hleast hbounds
    (Shape.delimited item separator form).display
    (Shape.repetition round (form.least - 1) (form.most.map (· - 1))).display hoffset
  refine hlisted.imp_right fun hlist ↦ ?_
  exact (hlist.mono (fun hnamed ↦ hnamed) fun _ ↦ True.intro).trans hwritten.symm

/-- A list of at least one item that is not combined builds just if what it is written out as does.
If the item always consumes and the separator fails only in the ordinary way, the two are evaluated
alike, wherever they stand. From every boundary of the text both match up to the same offset with
the same tokens, and with the same names if each name used in the list is plain or a list name
everywhere, or both fail at the same offset with the same message, or end with the same error;
failures are fatal alike unless the item has a commit point. This leaves evaluations aside that the
limit on the depth stops, but if a greater limit lets the list end, it lets what it is written out
as end as well. -/
theorem list_agrees_writtenOut {item separator : Expr} {form : ListForm}
    (hplain : form.combine = false) (hleast : 1 ≤ form.least)
    (hbounds : ∀ bound ∈ form.most, form.least ≤ bound) (next later : Nat) :
    (∀ draft : Draft, (draft.entryExpr (item.delimitedWith separator form next).1).Coherent →
      (draft.entryExpr (item.writtenOut separator form later).1).Coherent →
        ((∃ grammar, (draft.entryExpr (item.delimitedWith separator form next).1).build =
          .ok grammar) ↔ ∃ grammar, (draft.entryExpr
            (item.writtenOut separator form later).1).build = .ok grammar)) ∧
    ∀ {draft other : Draft} {first second : Grammar}, draft.Coherent → other.Coherent →
      draft.build = .ok first → other.build = .ok second → draft.Within other →
      ∀ {skip : Option CharSet} {id twin : NodeId},
        (item.delimitedWith separator form next).1.CompilesTo first.nodes first.ruleNames skip id →
        (item.writtenOut separator form later).1.CompilesTo second.nodes
          second.ruleNames skip twin →
        ∀ text : Text, draft.Consumes text skip item → draft.FailsOrdinarily text skip separator →
          ∀ (kind : String → Bool) {offset : Nat}, text.IsBoundary offset →
            first.Agrees (first.KeepsKinds kind id) (item.parts.2 = none)
              second text id twin offset ∧ (second.NeverEnds text twin offset →
                first.NeverEnds text id offset) := by
  have hlist : (item.delimitedWith separator form next).1 =
      ⟨next, .delimited item separator form⟩ := by
    rw [Expr.delimitedWith, hplain]
    rfl
  have hwhole := item.writesOut_writtenOut separator form later
  rw [hlist]
  constructor
  · intro draft hcoherent hcoherent'
    exact exists_build_iff_writtenOut hwhole hbounds hcoherent hcoherent'
  · intro draft other first second hdraft hother hfirst hsecond hwithin skip id twin
      hid htwin text hconsumes hordinary kind offset hoffset
    have hendings := agrees_writtenOut hwithin
      (lowersTo_of_compile hdraft (build_eq_ok_iff.mp hfirst).1)
      (lowersTo_of_compile hother (build_eq_ok_iff.mp hsecond).1) hid htwin hwhole hleast
      hconsumes hordinary kind hoffset
    refine ⟨Grammar.agrees_of_ending hendings, fun hnever ↦ ?_⟩
    rw [← Grammar.ending_eq_never_iff] at hnever ⊢
    exact hendings.elim (fun hlisted ↦ hlisted) fun hagrees ↦ hagrees.eq_never_iff.mpr hnever

end Draft

/-! ### A comma with a mark -/

namespace Matcher

variable {text : Text} {skip : Option CharSet} {halt : Halt}

/-- A scan that comes to an end fails only in the ordinary way. -/
theorem ordinary_scanned {expected : String} {scan : Option Char → List Char →
      Scan (List Char × Token)}
    (hends : ∀ before chars, scan before chars ≠ .endless) {offset : Nat}
    (hhalted : scanned text skip expected scan offset = (.halted halt : Ending Match)) :
    halt.IsOrdinary := by
  simp only [scanned] at hhalted
  split at hhalted
  · cases hhalted
  · exact ⟨_, (Ending.halted.inj hhalted).symm, rfl⟩
  next hscan => exact absurd hscan (hends _ _)

/-- An option of what fails only in the ordinary way does not fail. -/
theorem optional_ne_halted {child : Matcher Ending} {offset : Nat}
    (hordinary : ∀ halt, child offset = .halted halt → halt.IsOrdinary) (default : Option Token) :
    optional child default offset ≠ .halted halt := by
  intro hhalted
  unfold optional at hhalted
  match hchild : child offset with
  | .never => exact nomatch hchild ▸ hhalted
  | .ended found =>
    rw [hchild] at hhalted
    cases hhalted
  | .halted other =>
    obtain ⟨failure, rfl, hfatal⟩ := hordinary other hchild
    rw [hchild, Ending.backtrack_failure, hfatal] at hhalted
    cases hhalted

/-- Before its commit point a sequence fails only in the ordinary way, and beyond it not at all, if
that holds of its two parts. -/
theorem ordinary_committed {first second : Matcher Ending}
    (hfirst : ∀ {offset : Nat} {halt : Halt}, first offset = .halted halt → halt.IsOrdinary)
    (hsecond : ∀ {offset : Nat} {halt : Halt}, second offset ≠ .halted halt) {offset : Nat}
    (hhalted : sequence [first, second] (some 1) offset = .halted halt) : halt.IsOrdinary := by
  rw [sequence, sequenceFrom_cons] at hhalted
  change first offset >>= _ = _ at hhalted
  cases hbefore : first offset with
  | never =>
    rw [hbefore] at hhalted
    cases hhalted
  | halted other =>
    rw [hbefore] at hhalted
    exact Ending.halted.inj hhalted ▸ hfirst hbefore
  | ended done =>
    rw [hbefore, Ending.ended_bind, sequenceFrom_cons] at hhalted
    change commit (second done.stop) >>= _ = _ at hhalted
    cases hafter : second done.stop with
    | never =>
      rw [hafter] at hhalted
      cases hhalted
    | halted other => exact absurd hafter hsecond
    | ended next =>
      rw [hafter] at hhalted
      cases hhalted

end Matcher

/-- What fails only in the ordinary way where no limit stops it fails only in the ordinary way. -/
theorem Draft.LowersTo.failsOrdinarily {draft : Draft} {grammar : Grammar}
    (hlowers : draft.LowersTo grammar) {text : Text} {skip : Option CharSet}
    {expr : Expr} {id : NodeId} (hid : expr.CompilesTo grammar.nodes grammar.ruleNames skip id)
    (hordinary : ∀ offset halt, grammar.meaning text skip expr offset = .halted halt →
      halt.IsOrdinary) :
    draft.FailsOrdinarily text skip expr := by
  intro room offset halt _ houtcome
  refine or_iff_not_imp_left.mpr fun hreached ↦ hordinary offset halt ?_
  have hnode := hid
  rw [hlowers.ruleNames] at hnode
  rw [← hlowers.account_eq_reading text room hnode, ← Grammar.account_trace] at houtcome
  change (grammar.trace text room id offset).outcome = _ at houtcome
  rw [← hlowers.ending_eq_meaning text hid, Grammar.ending_of_trace (houtcome ▸ hreached), houtcome]
  rfl

/-- A comma that may carry a mark. After the comma there is no way back. -/
def Expr.markedComma : Build Expr := do
  let comma ← Expr.literal ","
  let mark ← Expr.literal "x"
  comma.andCommit (← mark.optional)

/-- An expression that is made of a letter and a comma with a mark. -/
def Draft.markedLetters (make : Expr → Expr → Build Expr) : Build Draft := do
  let letter ← Expr.literal "a"
  let separator ← Expr.markedComma
  pure { entry := some (.expr (← make letter separator)) }

/-- Letters with commas between them, which are kept. -/
def Draft.listedLetters : Build Draft :=
  markedLetters fun letter separator ↦ letter.delimitedWith separator { keepSeparators := true }

/-- The same letters, written out. -/
def Draft.writtenLetters : Build Draft :=
  markedLetters fun letter separator ↦ letter.writtenOut separator { keepSeparators := true }

/-- The same letters, written out with all parts joined. -/
def Draft.joinedLetters : Build Draft :=
  markedLetters fun letter separator ↦ letter.joinedOut separator { keepSeparators := true }

/-- The nodes of a letter and of a comma with a mark. -/
def Grammar.markedNodes : Array Node :=
  #[.terminal (.literal "a" false) (some .blanks) "Expected \"a\"",
    .terminal (.literal "," false) (some .blanks) "Expected \",\"",
    .terminal (.literal "x" false) (some .blanks) "Expected \"x\"", .optional 2 none]

/-- The grammar of letters with commas between them. -/
def Grammar.listedLetters : Grammar where
  nodes := markedNodes ++ #[.sequence [1, 3] (some 1),
    .delimited 0 4 { keepSeparators := true } "\"a\" [\x7b\",\" - [\"x\"]\x7d \"a\"]..."]
  ruleNames := []
  ruleBodies := []
  entry := some 5
  config := {}

/-- The grammar of these letters written out. -/
def Grammar.writtenLetters : Grammar where
  nodes := markedNodes ++ #[.sequence [1, 3] (some 1), .sequence [4, 0] none,
    .repetition 5 0 none "[\x7b\x7b\",\" - [\"x\"]\x7d \"a\"\x7d]...", .sequence [0, 6] none]
  ruleNames := []
  ruleBodies := []
  entry := some 7
  config := {}

/-- The grammar of these letters written out with all parts joined. -/
def Grammar.joinedLetters : Grammar where
  nodes := markedNodes ++ #[.sequence [1, 3, 0] (some 1),
    .repetition 4 0 none "[\x7b\",\" - [\"x\"] \"a\"\x7d]...", .sequence [0, 5] none]
  ruleNames := []
  ruleBodies := []
  entry := some 6
  config := {}

namespace Draft

theorem build_listedLetters : (listedLetters 0).1.build = .ok Grammar.listedLetters := by
  cbv

theorem build_writtenLetters : (writtenLetters 0).1.build = .ok Grammar.writtenLetters := by
  cbv

theorem build_joinedLetters : (joinedLetters 0).1.build = .ok Grammar.joinedLetters := by
  cbv

/-- Letters and commas are drawn from a supply if what is made of them is. -/
theorem coherent_markedLetters {make : Expr → Expr → Build Expr}
    (hmake : ∀ {known : Expr → Prop} {letter separator : Expr}, known letter → known separator →
      Build.Draws known (make letter separator) fun expr drawn ↦ drawn expr) (next : Nat) :
    (markedLetters make next).1.Coherent := by
  have hdraws : Build.Draws (fun _ ↦ False) (markedLetters make) Drawn := by
    refine Build.draws_bind (Build.draws_leaf fun _ ↦ rfl) fun letter first _ hletter ↦ ?_
    have hseparator : Build.Draws first Expr.markedComma fun expr drawn ↦ drawn expr := by
      refine Build.draws_bind (Build.draws_leaf fun _ ↦ rfl) fun comma second _ hcomma ↦ ?_
      refine Build.draws_bind (Build.draws_leaf fun _ ↦ rfl) fun mark third hthird hmark ↦ ?_
      refine Build.draws_bind (Build.draws_around (fun _ ↦ rfl) hmark)
        fun option drawn hdrawn hoption ↦ ?_
      exact Build.draws_andCommit (hdrawn _ (hthird _ hcomma)) hoption
    refine Build.draws_bind hseparator fun separator second hsecond hseparator ↦ ?_
    refine Build.draws_bind (hmake (hsecond _ hletter) hseparator) fun whole drawn _ hwhole ↦
      Build.draws_pure _ ⟨fun _ hbody ↦ (nomatch hbody), fun entry hentry ↦ ?_⟩
    obtain rfl := EntryPoint.expr.inj (Option.some.inj hentry)
    exact hwhole
  exact hdraws.coherent next

/-- A comma with a mark fails only in the ordinary way: beyond the commit point there is nothing
that can fail. -/
theorem failsOrdinarily_markedComma {draft : Draft} {grammar : Grammar}
    (hlowers : draft.LowersTo grammar) {next : Nat} {skip : Option CharSet} {id : NodeId}
    (hid : (Expr.markedComma next).1.CompilesTo grammar.nodes grammar.ruleNames skip id)
    (text : Text) :
    draft.FailsOrdinarily text skip (Expr.markedComma next).1 := by
  refine hlowers.failsOrdinarily hid fun offset halt hhalted ↦ ?_
  obtain ⟨comma, hcomma⟩ := hid.exists_part List.mem_cons_self
  obtain ⟨option, hoption⟩ := hid.exists_part (List.mem_cons_of_mem _ List.mem_cons_self)
  obtain ⟨mark, hmark⟩ := hoption.exists_child List.mem_cons_self
  have hparts : (Expr.markedComma next).1 = ⟨next + 3, .sequence [_, _] (some 1)⟩ := rfl
  rw [hparts] at hid hhalted
  rw [hlowers.meaning_sequence text hid] at hhalted
  refine Matcher.ordinary_committed (fun hplace ↦ ?_) (fun hplace ↦ ?_) hhalted
  · rw [hlowers.meaning_eq text hcomma] at hplace
    exact Matcher.ordinary_scanned (fun _ _ ↦ Scan.ofOption_ne_endless _) hplace
  · rw [hlowers.meaning_eq text hoption] at hplace
    refine Matcher.optional_ne_halted (fun halt hinner ↦ ?_) none hplace
    exact Matcher.ordinary_scanned (fun _ _ ↦ Scan.ofOption_ne_endless _)
      ((congrFun (hlowers.meaning_eq text hmark) _).symm.trans hinner)

theorem coherent_listedLetters (next : Nat) : (listedLetters next).1.Coherent :=
  coherent_markedLetters (fun hletter hseparator ↦ Expr.draws_delimitedWith hletter hseparator _)
    next

theorem coherent_writtenLetters (next : Nat) : (writtenLetters next).1.Coherent :=
  coherent_markedLetters (fun hletter hseparator ↦ Expr.draws_writtenOut hletter hseparator _) next

theorem coherent_joinedLetters (next : Nat) : (joinedLetters next).1.Coherent :=
  coherent_markedLetters (fun hletter hseparator ↦ Expr.draws_joinedOut hletter hseparator _) next

/-- In the list of letters every item consumes and the separators fail only in the ordinary way. -/
theorem listedLetters_parts (text : Text) :
    (listedLetters 0).1.Consumes text (some .blanks) (Expr.literal "a" 0).1 ∧
      (listedLetters 0).1.FailsOrdinarily text (some .blanks) (Expr.markedComma 1).1 := by
  have hlowers := lowersTo_of_compile (coherent_listedLetters 0)
    (build_eq_ok_iff.mp build_listedLetters).1
  obtain ⟨id, hentry, hid⟩ := hlowers.exists_entry rfl (.expr _)
  obtain rfl := Option.some.inj hentry
  obtain ⟨node, ids, hnode, hshape, hchildren⟩ := hid.lowers
  obtain rfl := Option.some.inj hnode
  cases hshape
  obtain ⟨hitem, hrest⟩ := List.forall₂_cons.mp hchildren
  have hhonest : Grammar.listedLetters.HasHonestRegexes := by
    intro program skip expected hmem
    simp [Grammar.listedLetters, Grammar.markedNodes] at hmem
  exact ⟨consumes_of_not_nullable hlowers (accepted_of_build build_listedLetters)
    hhonest text hitem (by cbv), failsOrdinarily_markedComma hlowers
      (List.forall₂_cons.mp hrest).1 text⟩

/-- Letters with commas between them are evaluated as they are written out. -/
theorem listedLetters_agree_written :
    (∃ grammar, (listedLetters 0).1.build = .ok grammar) ∧
      (∃ grammar, (writtenLetters 0).1.build = .ok grammar) ∧
        (Grammar.listedLetters.trace
          (.ofChars ['a', ',', 'x', 'a', ',']) 4 5 0).outcome.isOk = true ∧
      Grammar.listedLetters.Agrees (Grammar.listedLetters.KeepsKinds (fun _ ↦ true) 5)
        ((Expr.literal "a" 0).1.parts.2 = none) Grammar.writtenLetters
          (.ofChars ['a', ',', 'x', 'a', ',']) 5 7 0 := by
  have hlowers := lowersTo_of_compile (coherent_listedLetters 0)
    (build_eq_ok_iff.mp build_listedLetters).1
  have htwins := lowersTo_of_compile (coherent_writtenLetters 0)
    (build_eq_ok_iff.mp build_writtenLetters).1
  obtain ⟨id, hentry, hid⟩ := hlowers.exists_entry rfl (.expr _)
  obtain ⟨twin, htwin, hwhole⟩ := htwins.exists_entry rfl (.expr _)
  obtain rfl := Option.some.inj hentry
  obtain rfl := Option.some.inj htwin
  obtain ⟨hconsumes, hordinary⟩ := listedLetters_parts (.ofChars ['a', ',', 'x', 'a', ','])
  have hagree := @list_agrees_writtenOut (Expr.literal "a" 0).1 (Expr.markedComma 1).1
    { keepSeparators := true } rfl (Nat.le_refl 1) (by simp) 5 5
  exact ⟨⟨_, build_listedLetters⟩,
    (hagree.1 {} (coherent_listedLetters 0) (coherent_writtenLetters 0)).mp
      ⟨_, build_listedLetters⟩, by cbv, (hagree.2 (coherent_listedLetters 0)
        (coherent_writtenLetters 0)
      build_listedLetters build_writtenLetters ⟨fun _ _ hbody ↦ (nomatch hbody), rfl⟩ hid
        hwhole _ hconsumes
      hordinary _ (Text.isBoundary_zero _)).1⟩

/-- Written out with all parts joined, the same letters are evaluated in another way: where the list
leaves the last comma alone, the missing letter is beyond the commit point of the comma. -/
theorem list_not_agrees_joined :
    (listedLetters 0).1.Coherent ∧ (joinedLetters 0).1.Coherent ∧
      (listedLetters 0).1.build = .ok Grammar.listedLetters ∧
        (joinedLetters 0).1.build = .ok Grammar.joinedLetters ∧
      (∀ text, (listedLetters 0).1.Consumes text (some .blanks) (Expr.literal "a" 0).1 ∧
        (listedLetters 0).1.FailsOrdinarily text (some .blanks) (Expr.markedComma 1).1) ∧
      (Grammar.listedLetters.trace (.ofChars ['a', ',']) 4 5 0).outcome =
        .ok ⟨1, .ofToken (.str "a")⟩ ∧
      (Grammar.joinedLetters.trace (.ofChars ['a', ',']) 6 6 0).outcome =
        .error (.failure ⟨2, "Expected \"a\"", true⟩) ∧
      ¬ Grammar.listedLetters.Agrees False False Grammar.joinedLetters
        (.ofChars ['a', ',']) 5 6 0 := by
  have hlist : (Grammar.listedLetters.trace (.ofChars ['a', ',']) 4 5 0).outcome =
      .ok ⟨1, .ofToken (.str "a")⟩ := by cbv
  have hjoined : (Grammar.joinedLetters.trace (.ofChars ['a', ',']) 6 6 0).outcome =
      .error (.failure ⟨2, "Expected \"a\"", true⟩) := by cbv
  refine ⟨coherent_listedLetters 0, coherent_joinedLetters 0, build_listedLetters,
    build_joinedLetters, listedLetters_parts, hlist, hjoined, fun hagrees ↦ ?_⟩
  have hendings := hagrees.ending (accepted_of_build build_listedLetters)
    (accepted_of_build build_joinedLetters)
    (by simp [Grammar.HasHonestRegexes, Grammar.listedLetters, Grammar.markedNodes])
    (by simp [Grammar.HasHonestRegexes, Grammar.joinedLetters, Grammar.markedNodes])
    (by decide) (by decide)
  have hreached : ¬ (Grammar.listedLetters.trace (.ofChars ['a', ',']) 4 5 0).Limited := by
    rw [Trace.Limited, hlist]
    exact not_isLimited_ok _
  have hreached' : ¬ (Grammar.joinedLetters.trace (.ofChars ['a', ',']) 6 6 0).Limited := by
    rw [Trace.Limited, hjoined]
    exact not_isLimited_failure _
  rw [Grammar.ending_of_trace hreached, Grammar.ending_of_trace hreached',
    hlist, hjoined] at hendings
  cases hendings

end Draft

end Packrat
