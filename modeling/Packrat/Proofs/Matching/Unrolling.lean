import Mathlib
import Packrat.Proofs.Grammar.Supply
import Packrat.Proofs.Matching.Rounds

/-!
# Repetitions written out

A repetition can be written out with sequences, options and rules: copies of what it repeats, as
many as it needs, and then options nested in each other, or a call of a rule that is an option of a
further round and another call of itself (`Draft.Unrolls`). If what it repeats always consumes, the
repetition is evaluated as what it is written out as: with the same tokens up to the same offset,
and the same names if none of them is used in two ways, or with the same failure
(`Draft.repetition_agrees_unrolled`).

Whether the parts are joined as members of a sequence or as the library joins expressions makes no
difference (`Expr.Joins`), not even if what is repeated has a commit point: the rest of a repetition
never fails unless fatally.
-/

set_option autoImplicit false
set_option relaxedAutoImplicit false

namespace Packrat

open MatchMonad

/-! ### What repetitions are written out as -/

/-- Copies of an expression one after the other. A single one may stand for itself. -/
inductive Expr.Copies (expr : Expr) : Nat → Expr → Prop
  | once : Copies expr 1 expr
  | several (identity count : Nat) :
      Copies expr count ⟨identity, .sequence (List.replicate count expr) none⟩

/-- What allows a number of further rounds, or any number: an option of a round and then what allows
one round less, or a call of a rule that is an option of a round and then a call of the rule. -/
inductive Draft.FurtherRounds (draft : Draft) (skip : Option CharSet) (expr : Expr) :
    Option Nat → Expr → Prop
  | last (identity : Nat) : FurtherRounds draft skip expr (some 1) ⟨identity, .optional expr none⟩
  | nested {count : Nat} {inner pair : Expr} (identity : Nat)
    (hinner : FurtherRounds draft skip expr (some count) inner) (hpair : expr.Joins inner pair) :
    FurtherRounds draft skip expr (some (count + 1)) ⟨identity, .optional pair none⟩
  | recursive {name : String} {body pair : Expr} {option call : Nat} (identity : Nat)
    (hbody : draft.body? name = some body)
    (hoption : body.innermost draft.config.skip = (skip, ⟨option, .optional pair none⟩))
    (hpair : expr.Joins ⟨call, .rule name⟩ pair) :
    FurtherRounds draft skip expr none ⟨identity, .rule name⟩

/-- What a repetition between two bounds, or from a bound on, is written out as. -/
inductive Draft.Unrolls (draft : Draft) (skip : Option CharSet) (expr : Expr) (least : Nat) :
    Option Nat → Expr → Prop
  | copies {whole : Expr} (hcopies : expr.Copies least whole) :
      Unrolls draft skip expr least (some least) whole
  | rest {most : Option Nat} {whole : Expr} (hleast : least = 0)
    (hrest : draft.FurtherRounds skip expr most whole) : Unrolls draft skip expr least most whole
  | both {further : Option Nat} {copies rest whole : Expr} (hcopies : expr.Copies least copies)
    (hrest : draft.FurtherRounds skip expr further rest) (hwhole : copies.Joins rest whole) :
    Unrolls draft skip expr least (further.map (least + ·)) whole

namespace Draft

variable {draft other : Draft} {first second : Grammar} {text : Text} {skip : Option CharSet}
  {expr : Expr} {kind : String → Bool} {named : Prop} {inner : NodeId}

/-! ### Further rounds -/

/-- What allows further rounds is an option: of one more round, or of one more and of what allows
the others. -/
theorem FurtherRounds.exists_option (hsecond : other.LowersTo second) (text : Text)
    {further : Option Nat} {rest : Expr} (hrest : other.FurtherRounds skip expr further rest)
    {id : NodeId} (hid : rest.CompilesTo second.nodes second.ruleNames skip id) :
    ∃ pair twin, pair.CompilesTo second.nodes second.ruleNames skip twin ∧
      second.meaning text skip rest = Matcher.optional (second.meaning text skip pair) none ∧
      (further = some 1 ∧ pair = expr ∨
        ∃ fewer next, further = fewer.map (· + 1) ∧ other.FurtherRounds skip expr fewer next ∧
          expr.Joins next pair) := by
  cases hrest with
  | last identity =>
    have hchild : (skip, expr) ∈ (Shape.optional expr none).children skip := List.mem_cons_self
    obtain ⟨twin, htwin⟩ := hid.exists_child hchild
    exact ⟨expr, twin, htwin, hsecond.meaning_eq text hid, Or.inl ⟨rfl, rfl⟩⟩
  | @nested count inner pair identity hinner hpair =>
    have hchild : (skip, pair) ∈ (Shape.optional pair none).children skip := List.mem_cons_self
    obtain ⟨twin, htwin⟩ := hid.exists_child hchild
    exact ⟨pair, twin, htwin, hsecond.meaning_eq text hid,
      Or.inr ⟨some count, inner, rfl, hinner, hpair⟩⟩
  | @recursive name body pair option call identity hbody hoption hpair =>
    obtain ⟨number, hnumber, -⟩ := Option.bind_eq_some_iff.mp hbody
    obtain ⟨same, own, hsame, -, -, hown⟩ := hsecond.exists_body hnumber
    obtain rfl := Option.some.inj (hsame.symm.trans hbody)
    rw [← hsecond.ruleNames] at hown
    obtain ⟨node, ids, hnode, hshape, hchildren⟩ := hown.lowers
    rw [hoption] at hshape hchildren
    obtain ⟨twin, -, htwin, -⟩ := List.forall₂_cons_left_iff.mp hchildren
    have hcall : second.meaning text skip ⟨identity, .rule name⟩ =
        second.meaning text other.config.skip same := by
      rw [hsecond.meaning_eq text hid]
      change other.readRule (second.meaning text) name = _
      rw [readRule, hbody]
    have hmeaning := hsecond.meaning_eq text hown
    rw [hoption] at hmeaning
    exact ⟨pair, twin, htwin, hcall.trans hmeaning,
      Or.inr ⟨none, ⟨call, .rule name⟩, rfl, .recursive call hbody hoption hpair, hpair⟩⟩

/-- Matchers that allow what is left of a number of rounds: nothing if they have all been, and
otherwise what allows further rounds. -/
def Serves (other : Draft) (second : Grammar) (text : Text) (skip : Option CharSet) (expr : Expr)
    (most : Option Nat) (count : Nat) (tail : Matcher Ending) : Prop :=
  most = some count ∧ tail = Matcher.nothing ∨
    ∃ further rest id, most = further.map (count + ·) ∧ other.FurtherRounds skip expr further rest ∧
      rest.CompilesTo second.nodes second.ruleNames skip id ∧ tail = second.meaning text skip rest

/-- What allows further rounds serves as the rest of a repetition. -/
theorem tails_serves (hwithin : draft.Within other) (hfirst : draft.LowersTo first)
    (hsecond : other.LowersTo second)
    (hinner : expr.CompilesTo first.nodes first.ruleNames skip inner)
    (hconsumes : (first.meaning text skip expr).Consumes text named kind) (most : Option Nat) :
    Matcher.Tails text named (first.meaning text skip expr) most
      (other.Serves second text skip expr most) where
  step count tail hserves hroom := by
    rcases hserves with ⟨rfl, -⟩ | ⟨further, rest, id, rfl, hrest, hid, rfl⟩
    · simp at hroom
    obtain ⟨pair, twin, htwin, hmeaning, hpair⟩ := hrest.exists_option hsecond text hid
    rw [hmeaning]
    rcases hpair with ⟨rfl, rfl⟩ | ⟨fewer, next, rfl, hnext, hjoins⟩
    · refine ⟨Matcher.nothing, Or.inl ⟨rfl, rfl⟩, fun place _ ↦ ?_⟩
      rw [Matcher.andThen_nothing, hwithin.meaning_eq hfirst hsecond text hinner htwin]
      exact .refl named True _
    · obtain ⟨later, hlater⟩ := hjoins.exists_second htwin
      obtain ⟨again, -, -, hagain, -⟩ := hnext.exists_option hsecond text hlater
      have hmost : (fewer.map (· + 1)).map (count + ·) = fewer.map (count + 1 + ·) := by
        cases fewer with
        | none => rfl
        | some left =>
          refine congrArg some ?_
          change count + (left + 1) = count + 1 + left
          omega
      refine ⟨second.meaning text skip next, Or.inr ⟨fewer, next, later, hmost, hnext, hlater, rfl⟩,
        fun place hplace ↦ ?_⟩
      refine Matcher.agrees_optional True.intro ?_
      refine hwithin.agrees_of_joins hfirst hsecond text hjoins hinner htwin place
        (fun hnamed found hfound ↦ (hconsumes.uniform hnamed hplace hfound).nodup)
        (Or.inr fun place ↦ ?_)
      rw [hagain]
      exact .of_eq (Matcher.firm_optional _ place).commit_eq
  full count tail hserves hroom := by
    rcases hserves with ⟨-, hnothing⟩ | ⟨further, rest, id, rfl, hrest, -, -⟩
    · exact hnothing
    · cases hrest <;> simp at hroom

/-! ### Copies -/

/-- Copies mean what the expression means, as often. -/
theorem map_replicate_meaning (hwithin : draft.Within other) (hfirst : draft.LowersTo first)
    (hsecond : other.LowersTo second) (text : Text)
    (hinner : expr.CompilesTo first.nodes first.ruleNames skip inner) {count : Nat}
    (hcopies : ∀ copy ∈ List.replicate count expr, ∃ id,
      copy.CompilesTo second.nodes second.ruleNames skip id) :
    (List.replicate count expr).map (second.meaning text skip) =
      List.replicate count (first.meaning text skip expr) := by
  rw [← List.map_replicate]
  refine List.map_congr_left fun copy hcopy ↦ ?_
  obtain ⟨id, hid⟩ := hcopies copy hcopy
  obtain rfl := List.eq_of_mem_replicate hcopy
  exact (hwithin.meaning_eq hfirst hsecond text hinner hid).symm

theorem agrees_copies (hwithin : draft.Within other) (hfirst : draft.LowersTo first)
    (hsecond : other.LowersTo second)
    (hinner : expr.CompilesTo first.nodes first.ruleNames skip inner)
    (hconsumes : (first.meaning text skip expr).Consumes text named kind)
    {count : Nat} {copies : Expr} (hcopies : expr.Copies count copies) {id : NodeId}
    (hid : copies.CompilesTo second.nodes second.ruleNames skip id) {offset : Nat}
    (hoffset : text.IsBoundary offset) :
    (Matcher.sequence (List.replicate count (first.meaning text skip expr)) none offset).Agrees
      named True (second.meaning text skip copies offset) := by
  cases hcopies with
  | once =>
    rw [← hwithin.meaning_eq hfirst hsecond text hinner hid]
    exact Matcher.agrees_nothing_andThen _ offset fun hnamed found hfound ↦
      (hconsumes.uniform hnamed hoffset hfound).nodup
  | several identity count =>
    rw [hsecond.meaning_sequence text hid,
      map_replicate_meaning hwithin hfirst hsecond text hinner fun copy ↦ hid.exists_part]
    exact .refl named True _

/-- Copies and what is joined to them are evaluated one after the other, if what is joined to them
does not fail unless fatally. -/
theorem agrees_joined_copies (hwithin : draft.Within other) (hfirst : draft.LowersTo first)
    (hsecond : other.LowersTo second)
    (hinner : expr.CompilesTo first.nodes first.ruleNames skip inner)
    (hconsumes : (first.meaning text skip expr).Consumes text named kind) {count : Nat}
    {copies rest whole : Expr} (hcopies : expr.Copies count copies)
    (hwhole : copies.Joins rest whole) {id : NodeId}
    (hid : whole.CompilesTo second.nodes second.ruleNames skip id)
    (hfirm : ∀ place, (second.meaning text skip rest place).Firm) {offset : Nat}
    (hoffset : text.IsBoundary offset) :
    ((Matcher.sequence (List.replicate count (first.meaning text skip expr)) none).andThen
      (second.meaning text skip rest) offset).Agrees named True
        (second.meaning text skip whole offset) := by
  have hcommit (place : Nat) : (commit (second.meaning text skip rest place)).Agrees named True
      (second.meaning text skip rest place) := .of_eq (hfirm place).commit_eq
  have hnodup (hnamed : named) (found : Match)
      (hfound : first.meaning text skip expr offset = .ended found) :=
    (hconsumes.uniform hnamed hoffset hfound).nodup
  cases hcopies with
  | once =>
    have hone : (Matcher.nothing.andThen (first.meaning text skip expr) offset).Agrees named True
        (first.meaning text skip expr offset) := Matcher.agrees_nothing_andThen _ offset hnodup
    refine (Matcher.agrees_andThen hone fun found _ ↦ .refl named True _).trans ?_
    exact (hwithin.agrees_of_joins hfirst hsecond text hwhole hinner hid offset
      hnodup (Or.inr hcommit)).symm
  | several identity count =>
    cases hwhole with
    | parts own =>
      obtain ⟨twin, htwin⟩ := hid.exists_part List.mem_cons_self
      have hparts := map_replicate_meaning hwithin hfirst hsecond text hinner
        fun copy ↦ htwin.exists_part
      have hjoined := (Within.refl other).agrees_of_joins hsecond hsecond text
        (.parts own) htwin hid offset (fun (_ : named) found hfound ↦ ?_) (Or.inr hcommit)
      · rw [hsecond.meaning_sequence text htwin, hparts] at hjoined
        exact hjoined.symm
      · rw [hsecond.meaning_sequence text htwin] at hfound
        exact Matcher.nodup_of_sequence hfound
    | library own =>
      have hparts := map_replicate_meaning hwithin hfirst hsecond text hinner fun copy hcopy ↦
        hid.exists_part (List.mem_append_left _ hcopy)
      rw [hsecond.meaning_sequence text hid, List.map_append]
      change Ending.Agrees _ _ _ (Matcher.sequence
        ((List.replicate count expr).map (second.meaning text skip) ++
          [second.meaning text skip rest]) none offset)
      rw [hparts]
      exact (Matcher.agrees_sequence_last none _ _ offset (Or.inl rfl)).symm

/-! ### Repetitions -/

/-- The node of a repetition ends as what the repetition is written out as. -/
theorem agrees_unrolled (hwithin : draft.Within other) (hfirst : draft.LowersTo first)
    (hsecond : other.LowersTo second) {identity least : Nat} {most : Option Nat} {whole : Expr}
    {id twin : NodeId}
    (hid : (⟨identity, .repetition expr least most⟩ : Expr).CompilesTo first.nodes
      first.ruleNames skip id)
    (htwin : whole.CompilesTo second.nodes second.ruleNames skip twin)
    (hunrolls : other.Unrolls skip expr least most whole)
    (hconsumes : draft.Consumes text skip expr) (kind : String → Bool) {offset : Nat}
    (hoffset : text.IsBoundary offset) :
    (first.ending text id offset).Agrees (first.KeepsKinds kind id) True
      (second.ending text twin offset) := by
  obtain ⟨node, ids, hnode, hshape, hchildren⟩ := hid.lowers
  cases hshape with
  | repetition _ _ _ inner hbounds =>
  have hinner : expr.CompilesTo first.nodes first.ruleNames skip inner :=
    (List.forall₂_cons.mp hchildren).1
  have huses : first.Uses id inner := by
    refine .child ?_
    rw [Grammar.node, hnode]
    exact List.mem_cons_self
  have hchild := hconsumes.meaning (.refl draft) hfirst hinner
    fun hkinds : first.KeepsKinds kind id ↦
    hkinds.uses huses
  have htails := tails_serves hwithin hfirst hsecond hinner hchild most
  have hrounds {tail : Matcher Ending}
      (hserves : other.Serves second text skip expr most least tail) :
      (first.ending text id offset).Agrees (first.KeepsKinds kind id) True
        ((Matcher.sequence (List.replicate least (first.meaning text skip expr)) none).andThen tail
          offset) := by
    rw [hfirst.ending_eq_meaning text hid, hfirst.meaning_eq text hid]
    exact htails.agrees_repetition hchild hbounds hserves hoffset
  rw [hsecond.ending_eq_meaning text htwin]
  cases hunrolls with
  | copies hcopies =>
    refine (hrounds (Or.inl ⟨rfl, rfl⟩)).trans ?_
    rw [Matcher.andThen_nothing]
    exact agrees_copies hwithin hfirst hsecond hinner hchild hcopies htwin hoffset
  | rest hleast hrest =>
    subst hleast
    have hserves : other.Serves second text skip expr most 0 (second.meaning text skip whole) :=
      Or.inr ⟨most, whole, twin, by simp, hrest, htwin, rfl⟩
    refine (hrounds hserves).trans
      (Matcher.agrees_nothing_andThen _ offset fun hnamed found hfound ↦ ?_)
    exact (htails.uniform hchild hnamed _ 0 _ offset found rfl hserves hoffset hfound).nodup
  | both hcopies hrest hwhole =>
    obtain ⟨later, hlater⟩ := hwhole.exists_second htwin
    obtain ⟨pair, -, -, hoption, -⟩ := hrest.exists_option hsecond text hlater
    refine (hrounds (Or.inr ⟨_, _, later, rfl, hrest, hlater, rfl⟩)).trans ?_
    refine agrees_joined_copies hwithin hfirst hsecond hinner hchild hcopies hwhole htwin
      (fun place ↦ ?_) hoffset
    rw [hoption]
    exact Matcher.firm_optional _ place

/-- A repetition of an expression that always consumes is evaluated as what it is written out as:
copies of the expression, and then options nested in each other or a call of a rule that goes on
with itself. It may stand in a draft of its own, if the rules that are bound there are also bound in
the draft of what it is written out as. From every boundary of the text both match up to the same
offset with the same tokens, and with the same names if each name used in the repetition is plain or
a list name everywhere, or both fail at the same offset with the same message and the same fatal
flag, or end with the same error; this leaves evaluations aside that the limit on the depth stops,
but if a greater limit lets the one end, it lets the other one end as well. -/
theorem repetition_agrees_unrolled (hdraft : draft.Coherent) (hother : other.Coherent)
    (hfirst : draft.build = .ok first) (hsecond : other.build = .ok second)
    (hwithin : draft.Within other) {identity least : Nat} {most : Option Nat} {whole : Expr}
    (hunrolls : other.Unrolls skip expr least most whole) {id twin : NodeId}
    (hid : (⟨identity, .repetition expr least most⟩ : Expr).CompilesTo first.nodes
      first.ruleNames skip id)
    (htwin : whole.CompilesTo second.nodes second.ruleNames skip twin)
    (hconsumes : draft.Consumes text skip expr) (kind : String → Bool) {offset : Nat}
    (hoffset : text.IsBoundary offset) :
    first.Agrees (first.KeepsKinds kind id) True second text id twin offset ∧
      (first.NeverEnds text id offset ↔ second.NeverEnds text twin offset) := by
  have hlowers := lowersTo_of_compile hdraft (build_eq_ok_iff.mp hfirst).1
  have htwins := lowersTo_of_compile hother (build_eq_ok_iff.mp hsecond).1
  have hendings := agrees_unrolled hwithin hlowers htwins hid htwin hunrolls hconsumes kind hoffset
  refine ⟨Grammar.agrees_of_ending (Or.inr hendings), ?_⟩
  rw [← Grammar.ending_eq_never_iff, ← Grammar.ending_eq_never_iff, hendings.eq_never_iff]

end Draft

/-! ### Letters in a row -/

/-- One or more letters, all of them under a name. -/
def Draft.letters : Build Draft := do
  let letter ← Expr.literal "a"
  let item ← letter.withName "letter" true
  pure { entry := some (.expr (← item.oneOrMore)) }

/-- The same letters, written out: a letter and then the rule for more of them. -/
def Draft.lettersUnrolled : Build Draft := do
  let letter ← Expr.literal "a"
  let item ← letter.withName "letter" true
  let more ← Expr.rule "more"
  let round ← item.andThen more
  let body ← round.optional
  pure { rules := [("more", body)], entry := some (.expr (← item.andThen more)) }

def Grammar.letters : Grammar where
  nodes := #[.terminal (.literal "a" false) (some .blanks) "Expected \"a\"", .named 0 "letter" true,
    .repetition 1 1 none "\x7b\"a\"\x7d..."]
  ruleNames := []
  ruleBodies := []
  entry := some 2
  config := {}

/-- The grammar of letters that are written out. -/
def Grammar.lettersUnrolled : Grammar where
  nodes := #[.terminal (.literal "a" false) (some .blanks) "Expected \"a\"", .named 0 "letter" true,
    .call 0, .sequence [1, 2] none, .optional 3 none, .sequence [1, 2] none]
  ruleNames := ["more"]
  ruleBodies := [4]
  entry := some 5
  config := {}

namespace Draft

theorem coherent_letters (next : Nat) : (letters next).1.Coherent := by
  have hdraws : Build.Draws (fun _ ↦ False) letters Drawn := by
    refine Build.draws_bind (Build.draws_leaf fun _ ↦ rfl) fun letter first _ hletter ↦ ?_
    refine Build.draws_bind (Build.draws_around (fun _ ↦ rfl) hletter) fun item second _ hitem ↦ ?_
    refine Build.draws_bind (Build.draws_around (fun _ ↦ rfl) hitem) fun row drawn _ hrow ↦
      Build.draws_pure _ ⟨fun _ hbody ↦ (nomatch hbody), fun entry hentry ↦ ?_⟩
    obtain rfl := EntryPoint.expr.inj (Option.some.inj hentry)
    exact hrow
  exact hdraws.coherent next

/-- Letters that are written out are drawn from a supply. -/
theorem coherent_lettersUnrolled (next : Nat) : (lettersUnrolled next).1.Coherent := by
  have hdraws : Build.Draws (fun _ ↦ False) lettersUnrolled Drawn := by
    refine Build.draws_bind (Build.draws_leaf fun _ ↦ rfl) fun letter first _ hletter ↦ ?_
    refine Build.draws_bind (Build.draws_around (fun _ ↦ rfl) hletter) fun item second _ hitem ↦ ?_
    refine Build.draws_bind (Build.draws_leaf fun _ ↦ rfl) fun more third hthird hmore ↦ ?_
    refine Build.draws_bind (Build.draws_andThen (hthird _ hitem) hmore)
      fun round fourth hfourth hround ↦ ?_
    refine Build.draws_bind (Build.draws_around (fun _ ↦ rfl) hround)
      fun body fifth hfifth hbody ↦ ?_
    refine Build.draws_bind (Build.draws_andThen (hfifth _ (hfourth _ (hthird _ hitem)))
      (hfifth _ (hfourth _ hmore))) fun row drawn hdrawn hrow ↦
        Build.draws_pure _ ⟨fun own hown ↦ ?_, fun entry hentry ↦ ?_⟩
    · exact List.mem_singleton.mp hown ▸ hdrawn _ hbody
    · obtain rfl := EntryPoint.expr.inj (Option.some.inj hentry)
      exact hrow
  exact hdraws.coherent next

theorem build_letters : (letters 0).1.build = .ok Grammar.letters := by
  cbv

theorem build_lettersUnrolled : (lettersUnrolled 0).1.build = .ok Grammar.lettersUnrolled := by
  cbv

/-- Letters in a row are evaluated as they are written out, with the same names. -/
theorem letters_agree_unrolled :
    (letters 0).1.build = .ok Grammar.letters ∧ (lettersUnrolled 0).1.build =
      .ok Grammar.lettersUnrolled ∧ (Grammar.letters.trace (.ofChars ['a', 'a', 'b']) 4 2
        0).outcome.isOk = true ∧
      Grammar.letters.KeepsKinds (fun _ ↦ true) 2 ∧
      Grammar.letters.Agrees (Grammar.letters.KeepsKinds (fun _ ↦ true) 2) True
        Grammar.lettersUnrolled (.ofChars ['a', 'a', 'b']) 2 5 0 := by
  have hlowers := lowersTo_of_compile (coherent_letters 0) (build_eq_ok_iff.mp build_letters).1
  have htwins := lowersTo_of_compile (coherent_lettersUnrolled 0)
    (build_eq_ok_iff.mp build_lettersUnrolled).1
  obtain ⟨id, hentry, hid⟩ := hlowers.exists_entry rfl (.expr _)
  obtain ⟨twin, htwin, hwhole⟩ := htwins.exists_entry rfl (.expr _)
  obtain rfl := Option.some.inj hentry
  obtain rfl := Option.some.inj htwin
  obtain ⟨node, ids, hnode, hshape, hchildren⟩ := hid.lowers
  obtain rfl := Option.some.inj hnode
  cases hshape
  have hitem := (List.forall₂_cons.mp hchildren).1
  have hhonest : Grammar.letters.HasHonestRegexes := by
    intro program skip expected hmem
    simp [Grammar.letters] at hmem
  have hconsumes := consumes_of_not_nullable hlowers (accepted_of_build build_letters) hhonest
    (.ofChars ['a', 'a', 'b']) hitem (by cbv)
  refine ⟨build_letters,
    build_lettersUnrolled, by cbv, fun other _ ↦ ?_, (repetition_agrees_unrolled
      (coherent_letters 0) (coherent_lettersUnrolled 0) build_letters build_lettersUnrolled
    ⟨fun name body hbody ↦ ?_, rfl⟩ (.both .once (.recursive _ rfl rfl (.library _)) (.library _))
    hid hwhole hconsumes _ ?_).1⟩
  · have hnode := Grammar.letters.node_mem_or_eq_empty other
    generalize Grammar.letters.node other = node at hnode ⊢
    simp only [Grammar.letters, List.mem_cons, List.not_mem_nil, or_false] at hnode
    rcases hnode with (rfl | rfl | rfl) | rfl
    · exact True.intro
    · exact rfl
    · exact True.intro
    · exact True.intro
  · cases hbody
  · exact Text.isBoundary_zero _

end Draft

end Packrat
