import Mathlib
import Packrat.Proofs.Grammar.Supply
import Packrat.Proofs.Matching.Courses

/-!
# Expressions that are flattened

The operators that join expressions flatten. A sequence or a choice on the left takes the right
operand as one more member, and an action joins the actions that are there, where the plain
constructors put one node around another (`Expr.Flattens`). This changes nothing but how deep an
evaluation goes: the flat expression and the nested one cannot be told apart
(`Draft.flattened_alike`).

The reason is one equation of courses for each of them: an alternative after a choice is tried after
the choice (`Matcher.choice_append`), a part after a sequence is evaluated after the sequence
(`Matcher.sequence_append`), and further actions run after those before them
(`Matcher.acting_append`). Read with some room, a flat expression is then what the nested one is
when its first part has one level of room more (`Expr.Flattens.exists_frame`), so its course stands
between two courses of the nested one.
-/

set_option autoImplicit false
set_option relaxedAutoImplicit false

namespace Packrat

open MatchMonad

namespace Matcher

/-! ### One part after a sequence -/

section

variable {m : Type → Type} [MatchMonad m]

/-- A commit point beyond all parts makes no difference. -/
theorem sequenceFrom_of_le {commitAt : Nat} (parts : List (Matcher m)) :
    ∀ (index : Nat) (done : Match), index + parts.length ≤ commitAt →
      sequenceFrom (some commitAt) index parts done = sequenceFrom none index parts done := by
  induction parts with
  | nil => exact fun _ _ _ ↦ rfl
  | cons part rest ih =>
    intro index done hle
    rw [List.length_cons] at hle
    have hbefore : ¬ (some commitAt).any (· ≤ index) = true := by
      simp only [Option.any_some, decide_eq_true_eq]
      omega
    have hnone : ¬ (none : Option Nat).any (· ≤ index) = true := nofun
    rw [sequenceFrom_cons, sequenceFrom_cons, if_neg hbefore, if_neg hnone]
    exact congrArg _ (funext fun next ↦ ih (index + 1) (done.append next) (by omega))

variable [LawfulMonad m]

/-- What follows a sequence may count on distinct names. -/
theorem sequenceFrom_bind_congr {α : Type} {commitAt : Option Nat} {next other : Match → m α}
    (hsame : ∀ found : Match, (found.results.names.map Slot.name).Nodup → next found = other found)
    (parts : List (Matcher m)) : ∀ (index : Nat) (done : Match),
      (done.results.names.map Slot.name).Nodup → (sequenceFrom commitAt index parts done >>= next) =
        sequenceFrom commitAt index parts done >>= other := by
  induction parts with
  | nil =>
    intro index done hdone
    rw [sequenceFrom, pure_bind, pure_bind, hsame done hdone]
  | cons part rest ih =>
    intro index done hdone
    rw [sequenceFrom_cons, bind_assoc, bind_assoc]
    exact congrArg _ (funext fun found ↦ ih (index + 1) _ (Results.nodup_extend hdone _))

/-- One part more of a sequence is evaluated after the sequence, where commit points stand before it
in both or in neither. -/
theorem sequence_append {commitAt outer : Option Nat} (parts : List (Matcher m)) (last : Matcher m)
    (hfirst : outer.any (· ≤ 0) = false)
    (hlast : commitAt.any (· ≤ parts.length) = outer.any (· ≤ 1)) :
    sequence (parts ++ [last]) commitAt = sequence [sequence parts commitAt, last] outer := by
  funext offset
  have hplain : ¬ outer.any (· ≤ 0) = true := Bool.eq_false_iff.mp hfirst
  change _ = sequenceFrom outer 0 [sequence parts commitAt, last] (.nothing offset)
  rw [sequence_append_singleton, sequenceFrom_cons, if_neg hplain, hlast]
  refine sequenceFrom_bind_congr (fun found hnodup ↦ ?_) parts 0 (.nothing offset) List.nodup_nil
  have hfound : (Match.nothing offset).append found = found :=
    congrArg (Match.mk found.stop) (Results.empty_extend hnodup)
  rw [hfound, sequenceFrom_cons]
  rfl

/-- One part more without a commit point before it. -/
theorem sequence_append_plain (parts : List (Matcher m)) (last : Matcher m) :
    sequence (parts ++ [last]) none = sequence [sequence parts none, last] none :=
  sequence_append parts last rfl rfl

/-- One part more beyond the commit point of the others, or beyond one that stands between them. -/
theorem sequence_append_committed {commitAt : Option Nat} (parts : List (Matcher m))
    (last : Matcher m) (hwithin : ∀ place ∈ commitAt, place ≤ parts.length) :
    sequence (parts ++ [last]) (some (commitAt.getD parts.length)) =
      sequence [sequence parts commitAt, last] (some 1) := by
  have hinner : sequence parts (some (commitAt.getD parts.length)) = sequence parts commitAt := by
    cases commitAt with
    | some place => rfl
    | none =>
      exact funext fun offset ↦ sequenceFrom_of_le parts 0 (.nothing offset) (Nat.zero_add _).le
  have hbeyond : commitAt.getD parts.length ≤ parts.length := by
    cases commitAt with
    | some place => exact hwithin place rfl
    | none => exact le_rfl
  have hfirst : (some 1).any (· ≤ 0) = false := rfl
  have hlast : (some (commitAt.getD parts.length)).any (· ≤ parts.length) = (some 1).any (· ≤ 1) :=
    decide_eq_true hbeyond
  rw [sequence_append parts last hfirst hlast, hinner]

end

/-! ### One alternative after a choice -/

/-- Of ordinary failures an ordinary one is kept. -/
theorem exists_further {best : Option Failure} {failure : Failure}
    (hbest : ∀ held ∈ best, held.fatal = false) (hfailure : failure.fatal = false) :
    ∃ kept, Failure.further best failure = some kept ∧ kept.fatal = false := by
  cases best with
  | none => exact ⟨failure, rfl, hfailure⟩
  | some earlier =>
    rw [Failure.further]
    split_ifs
    · exact ⟨failure, rfl, hfailure⟩
    · exact ⟨earlier, rfl, hbest earlier rfl⟩

/-- An alternative after others is tried after them, and the furthest of their failures is the one
to beat. The induction is on the alternatives; failures that there is a way back from are
ordinary. -/
theorem choiceFrom_append (offset : Nat) (last : Matcher Course)
    (alternatives : List (Matcher Course)) :
    ∀ best : Option Failure, (∀ failure ∈ best, failure.fatal = false) →
      (alternatives ≠ [] ∨ best ≠ none) → choiceFrom offset (alternatives ++ [last]) best =
        backtrack (choiceFrom offset alternatives best) >>= fun
          | .ok found => pure found
          | .error failure => choiceFrom offset [last] (some failure) := by
  induction alternatives with
  | nil =>
    intro best hbest hsome
    obtain ⟨failure, rfl⟩ := Option.ne_none_iff_exists'.mp (hsome.resolve_left (absurd rfl))
    have hhalts : choiceFrom offset [] (some failure) =
        (.reached (.error (.failure failure)) [] [] : Course Match) :=
      rfl
    have hplain : ¬ failure.fatal = true := Bool.eq_false_iff.mp (hbest failure rfl)
    rw [hhalts, Course.backtrack_failure, if_neg hplain, Course.ok_bind, Course.after_nil]
    rfl
  | cons first rest ih =>
    intro best hbest _
    rw [List.cons_append, choiceFrom, choiceFrom]
    cases first offset with
    | stopped => rfl
    | reached outcome failures applications =>
      cases outcome with
      | ok found =>
        simp only [Course.backtrack_ok, Course.ok_bind, Course.backtrack_after, Course.after_bind]
        rfl
      | error halt =>
        cases halt with
        | error error => rfl
        | failure failure =>
          rw [Course.backtrack_failure]
          split_ifs with hfatal
          · simp only [Course.error_bind, Course.backtrack_failure, if_pos hfatal]
          · obtain ⟨kept, hkept, hplain⟩ := exists_further hbest (Bool.eq_false_iff.mpr hfatal)
            have hheld : ∀ held ∈ Failure.further best failure, held.fatal = false :=
              fun held hsame ↦ Option.some.inj (hkept.symm.trans hsame) ▸ hplain
            rw [Course.ok_bind, Course.ok_bind, Course.backtrack_after, Course.after_bind]
            exact congrArg (Course.after failures applications)
              (ih _ hheld (Or.inr (hkept ▸ Option.some_ne_none kept)))

/-- An alternative after a choice of others is tried after the choice. -/
theorem choice_append {alternatives : List (Matcher Course)} (hsome : alternatives ≠ [])
    (last : Matcher Course) :
    choice (alternatives ++ [last]) = choice [choice alternatives, last] := by
  funext offset
  exact choiceFrom_append offset last alternatives none nofun (Or.inl hsome)

/-! ### Further actions -/

/-- Actions run one after another, wherever they stand. -/
theorem runActions_append (node other more offset : Nat) (context : Context)
    (last actions : List Action) :
    ∀ (index place : Nat) (results : Results),
      (runActions node offset context index (actions ++ last) results : Course Results) =
        runActions more offset context place actions results >>=
          runActions other offset context 0 last := by
  have hinvoke (first second : Invocation) (hsame : first.application = second.application) :
      (invoke first : Course Unit) = invoke second := congrArg (Course.reached _ _ [·]) hsame
  induction actions with
  | nil =>
    intro index place results
    rw [runActions, pure_bind]
    exact runActions_eq hinvoke node other offset context last index 0 results
  | cons action rest ih =>
    intro index place results
    have hrun := hinvoke ⟨node, index, offset, action, context, results⟩
      ⟨more, place, offset, action, context, results⟩ rfl
    rw [List.cons_append, runActions, runActions, bind_assoc, hrun]
    refine congrArg _ (funext fun _ ↦ ?_)
    split
    · exact ih (index + 1) (place + 1) results
    · exact ih (index + 1) (place + 1) _
    · rfl

/-- Further actions of a node are those of a node around it. -/
theorem acting_append (text : Text) (skip : Option CharSet) (node other more : Nat)
    (actions last : List Action) (child : Matcher Course) :
    acting text skip node (actions ++ last) child =
      acting text skip other last (acting text skip more actions child) := by
  funext offset
  simp only [acting, bind_assoc, pure_bind, runActions_append node other more
    offset _ last actions 0 0]

/-! ### Frames -/

/-- Two matchers as the children of a node, numbered in order. -/
def either {m : Type → Type} (first second : Matcher m) (child : NodeId) : Matcher m :=
  if child = 0 then first else second

end Matcher

/-- A node over two nodes takes no course, or the same as when these are given more room. -/
theorem Grammar.frame_refines (grammar : Grammar) (text : Text) (frame : Node)
    (first second : NodeId) {depth room deeper more : Nat} (hdepth : depth ≤ deeper)
    (hroom : room ≤ more) (id offset : Nat) :
    let course (depth room : Nat) : Course Match := frame.matcher grammar text
      (Matcher.either (grammar.course text depth first) (grammar.course text room second)) id offset
    course depth room = .stopped ∨ course depth room = course deeper more := by
  intro course
  let calls (depth room : Nat) :=
    Matcher.either (grammar.trace text depth first) (grammar.trace text room second)
  have hdemands := Node.demands_trivial grammar text offset frame
  have hrefines : Trace.refinement.Meets .trivial (calls depth room) (calls deeper more) := by
    refine ⟨fun child place _ ↦ ?_, fun _ _ ↦ True.intro⟩
    simp only [calls, Matcher.either]
    split_ifs
    · exact (grammar.deepening text first place).refines depth deeper hdepth
    · exact (grammar.deepening text second place).refines room more hroom
  have htells (depth room : Nat) : charting.Meets .trivial (calls depth room)
      (Matcher.either (grammar.course text depth first) (grammar.course text room second)) := by
    refine ⟨fun child place _ ↦ ?_, fun _ _ ↦ True.intro⟩
    simp only [calls, Matcher.either]
    split_ifs
    · exact ⟨grammar.course_trace depth first place, fun _ _ ↦ True.intro⟩
    · exact ⟨grammar.course_trace room second place, fun _ _ ↦ True.intro⟩
  have htold (depth room : Nat) :
      (frame.matcher grammar text (calls depth room) id offset).course = course depth room :=
    ((htells depth room).holds_matcher_of_invoke charting_invoke hdemands).1
  rw [← htold, ← htold]
  exact (hrefines.holds_matcher_of_invoke Trace.refines_invoke hdemands).course

/-! ### Expressions -/

namespace Expr

/-- Expressions as they are made: a sequence has no commit point, or one before one of its parts, or
takes one part more after what was made before. -/
inductive Made : Expr → Prop
  /-- A sequence without a commit point. -/
  | sequence (parts : List Expr) (next : Nat) : Made (sequence parts next).1
  /-- A sequence with a commit point. -/
  | committed (parts : List Expr) (commit next : Nat) : Made (committed parts commit next).1
  /-- One after another. -/
  | andThen {first : Expr} (hfirst : Made first) (second : Expr) (next : Nat) :
      Made (first.andThen second next).1
  /-- One after another with a commit point in between. -/
  | andCommit {first : Expr} (hfirst : Made first) (second : Expr) (next : Nat) :
      Made (first.andCommit second next).1
  /-- Whatever is no sequence. -/
  | other {expr : Expr} (hshape : ∀ parts commit, expr.shape ≠ .sequence parts commit) : Made expr

/-- The commit point of an expression, if it has one, is not beyond its parts. The induction is on
how the expression is made. -/
theorem Made.commit_le {expr : Expr} (hmade : expr.Made) :
    ∀ commit ∈ expr.parts.2, commit ≤ expr.parts.1.length := by
  induction hmade with
  | sequence parts next => exact nofun
  | committed parts commit next =>
    intro place hplace
    change place ∈ (if commit < parts.length then some commit else none) at hplace
    split_ifs at hplace with hlt
    · exact Option.some.inj hplace ▸ hlt.le
    · cases hplace
  | @andThen first hfirst second next ih =>
    intro place hplace
    change place ≤ (first.parts.1 ++ [second]).length
    rw [List.length_append]
    exact Nat.le_add_right_of_le (ih place hplace)
  | @andCommit first hfirst second next ih =>
    intro place hplace
    change place ≤ (first.parts.1 ++ [second]).length
    obtain rfl : first.parts.2.getD first.parts.1.length = place := Option.some.inj hplace
    rw [List.length_append]
    refine Nat.le_add_right_of_le ?_
    cases hcommit : first.parts.2 with
    | some commit => exact ih commit hcommit
    | none => exact le_rfl
  | @other expr hshape =>
    rcases expr.parts_cases with ⟨identity, parts, commit, rfl, -⟩ | hparts
    · exact absurd rfl (hshape parts commit)
    · rw [hparts]
      exact nofun

/-- What an operator makes of expressions, and what the plain constructor makes of them. -/
inductive Flattens : Expr → Expr → Prop
  /-- One of two alternatives, the first of which is not a choice of none. -/
  | orElse (first second : Expr) (next own : Nat) (hsome : first.shape ≠ .choice []) :
    Flattens (first.orElse second next).1 (choice [first, second] own).1
  /-- One after another, if the first has no commit point. -/
  | andThen (first second : Expr) (next own : Nat) (hplain : first.parts.2 = none) :
    Flattens (first.andThen second next).1 (sequence [first, second] own).1
  /-- One after another with a commit point in between. -/
  | andCommit (first second : Expr) (next own : Nat) (hmade : first.Made) :
    Flattens (first.andCommit second next).1 (committed [first, second] 1 own).1
  /-- Two actions, the second of which goes into the node of the first, or into a node of its own,
  if the expression is not named. -/
  | act (expr : Expr) (first second : Action) (next last own : Nat)
    (hbare : ∀ child name accumulate, expr.shape ≠ .named child name accumulate) :
    Flattens ((expr.act first next).1.act second last).1
      ⟨own, .action (expr.act first next).1 [second]⟩

/-- An expression that is no choice is its only alternative. -/
theorem alternatives_cases (expr : Expr) :
    (∃ identity alternatives, expr = ⟨identity, .choice alternatives⟩ ∧
      expr.alternatives = alternatives) ∨ expr.alternatives = [expr] := by
  obtain ⟨identity, shape⟩ := expr
  cases shape with
  | choice alternatives => exact Or.inl ⟨identity, alternatives, rfl, rfl⟩
  | _ => exact Or.inr rfl

/-- An expression without an outermost name gets a node with the actions that it has and one
more. -/
theorem act_of_bare {expr : Expr} (action : Action) (next : Nat)
    (hbare : ∀ child name accumulate, expr.shape ≠ .named child name accumulate) :
    ∃ child actions, (expr.act action next).1 = ⟨next, .action child actions⟩ := by
  obtain ⟨identity, shape⟩ := expr
  cases shape with
  | named child name accumulate => exact absurd rfl (hbare child name accumulate)
  | action child actions => exact ⟨child, actions ++ [action], by rw [act]; rfl⟩
  | _ => exact ⟨_, [action], by rw [act]; rfl; all_goals simp⟩

/-- A node over two numbered children frames what a nested expression is made of: the nested
expression takes the course of the node over its own two children, and the flat one takes the course
of the node when the first child has just the same room or one level more. -/
structure Framed (draft : Draft) (grammar : Grammar) (text : Text) (skip : Option CharSet)
    (frame : Node) (first second flat nested : Expr) : Prop where
  /-- The first one is a child of the nested expression. -/
  mem_first : (skip, first) ∈ nested.shape.children skip
  /-- So is the second one. -/
  mem_second : (skip, second) ∈ nested.shape.children skip
  /-- The nested expression is the node over the two. -/
  nested_eq : ∀ room, draft.course text (room + 1) skip nested = frame.matcher grammar text
    (Matcher.either (draft.course text room skip first) (draft.course text room skip second))
    nested.identity
  /-- The flat expression is the node over the two, the first of which may have more room. -/
  flat_eq : ∀ room, ∃ depth, (depth = room ∨ depth = room + 1) ∧
    draft.course text (room + 1) skip flat = frame.matcher grammar text
      (Matcher.either (draft.course text depth skip first) (draft.course text room skip second))
      nested.identity

section

variable (draft : Draft) (grammar : Grammar) (text : Text) (skip : Option CharSet)

/-- The alternatives of one expression and then another one are framed by a choice of two. -/
theorem framed_choice {first : Expr} (second : Expr) (next own : Nat)
    (hsome : first.shape ≠ .choice []) :
    Framed draft grammar text skip (.choice [0, 1]) first second
      ⟨next, .choice (first.alternatives ++ [second])⟩ ⟨own, .choice [first, second]⟩ := by
  refine ⟨List.mem_cons_self, List.mem_cons_of_mem _ List.mem_cons_self, fun _ ↦ rfl, fun room ↦ ?_⟩
  have hflat : draft.course text (room + 1) skip ⟨next, .choice (first.alternatives ++ [second])⟩ =
      Matcher.choice ((first.alternatives ++ [second]).map (draft.course text room skip)) := rfl
  rcases first.alternatives_cases with ⟨identity, alternatives, rfl, halternatives⟩ | halternatives
  · have hmembers : alternatives.map (draft.course text room skip) ≠ [] :=
      fun hnone ↦ hsome (congrArg Shape.choice (List.map_eq_nil_iff.mp hnone))
    refine ⟨room + 1, Or.inr rfl, ?_⟩
    rw [hflat, halternatives, List.map_append, List.map_singleton, Matcher.choice_append hmembers]
    rfl
  · refine ⟨room, Or.inl rfl, ?_⟩
    rw [hflat, halternatives]
    rfl

/-- The parts of one expression and then another one are framed by a sequence of two, where commit
points stand before the last part in both or in neither. -/
theorem framed_sequence {first : Expr} (second : Expr) (next own : Nat) {commit outer : Option Nat}
    (hparts : first.parts = ([first], none) → commit = outer)
    (happend : ∀ parts : List (Matcher Course), parts.length = first.parts.1.length → ∀ last,
      Matcher.sequence (parts ++ [last]) commit = Matcher.sequence
        [Matcher.sequence parts first.parts.2, last] outer) :
    Framed draft grammar text skip (.sequence [0, 1] outer) first second
      ⟨next, .sequence (first.parts.1 ++ [second]) commit⟩
        ⟨own, .sequence [first, second] outer⟩ := by
  refine ⟨List.mem_cons_self, List.mem_cons_of_mem _ List.mem_cons_self, fun _ ↦ rfl, fun room ↦ ?_⟩
  have hflat : draft.course text (room + 1) skip
      ⟨next, .sequence (first.parts.1 ++ [second]) commit⟩ =
      Matcher.sequence ((first.parts.1 ++ [second]).map (draft.course text room skip)) commit := rfl
  rcases first.parts_cases with ⟨identity, parts, inner, rfl, hown⟩ | hown
  · refine ⟨room + 1, Or.inr rfl, ?_⟩
    rw [hflat, List.map_append, List.map_singleton, happend _ (List.length_map _), hown]
    rfl
  · refine ⟨room, Or.inl rfl, ?_⟩
    rw [hflat, hparts hown, hown]
    rfl

/-- Actions and then another one are framed by a node with the last action. -/
theorem framed_action (child : Expr) (actions : List Action) (last : Action)
    (inner next own : Nat) :
    Framed draft grammar text skip (.action 0 [last] skip) ⟨inner, .action child actions⟩
      ⟨inner, .action child actions⟩ ⟨next, .action child (actions ++ [last])⟩
      ⟨own, .action ⟨inner, .action child actions⟩ [last]⟩ :=
  ⟨List.mem_cons_self, List.mem_cons_self, fun _ ↦ rfl, fun room ↦ ⟨room + 1, Or.inr rfl,
    Matcher.acting_append text skip next own inner actions [last]
      (draft.course text room skip child)⟩⟩

/-- A flat expression and the nested one have a frame. -/
theorem Flattens.exists_frame {flat nested : Expr} (hflattens : flat.Flattens nested) :
    ∃ frame first second, Framed draft grammar text skip frame first second flat nested := by
  cases hflattens with
  | orElse first second next own hsome =>
    exact ⟨_, first, second, framed_choice draft grammar text skip second next own hsome⟩
  | andThen first second next own hplain =>
    refine ⟨_, first, second, framed_sequence draft grammar text skip second
      next own (fun _ ↦ hplain) fun parts _ last ↦ ?_⟩
    rw [hplain]
    exact Matcher.sequence_append_plain parts last
  | andCommit first second next own hmade =>
    refine ⟨_, first, second, framed_sequence draft grammar text skip second
      next own (fun hown ↦ ?_) fun parts hlength last ↦ ?_⟩
    · rw [hown]
      rfl
    · rw [← hlength]
      exact Matcher.sequence_append_committed parts last (hlength ▸ hmade.commit_le)
  | act expr first second next last own hbare =>
    obtain ⟨child, actions, hinner⟩ := act_of_bare first next hbare
    rw [hinner]
    exact ⟨_, _, _, framed_action draft grammar text skip child actions second next last own⟩

end

end Expr

namespace Draft

variable {draft other : Draft} {first second : Grammar} {skip : Option CharSet} {flat nested : Expr}
  {id twin : NodeId}

/-- The course of a flat expression stands between two courses of the nested one. -/
theorem LowersTo.course_between (hlowers : other.LowersTo second) (hflattens : flat.Flattens nested)
    (htwin : nested.CompilesTo second.nodes second.ruleNames skip twin)
    (text : Text) (room offset : Nat) :
    (second.course text room twin offset = .stopped ∨
        second.course text room twin offset = other.course text room skip flat offset) ∧
      (other.course text room skip flat offset = .stopped ∨
        other.course text room skip flat offset = second.course text (room + 1) twin offset) := by
  cases room with
  | zero => exact ⟨Or.inl rfl, Or.inl rfl⟩
  | succ room =>
    obtain ⟨frame, one, two, hframe⟩ := hflattens.exists_frame other second text skip
    obtain ⟨inner, hinner⟩ := htwin.exists_child hframe.mem_first
    obtain ⟨next, hnext⟩ := htwin.exists_child hframe.mem_second
    rw [hlowers.ruleNames] at htwin hinner hnext
    have hcourse {expr : Expr} {child : NodeId}
        (hid : expr.CompilesTo second.nodes other.ruleNames skip child) (room : Nat) :
        other.course text room skip expr = second.course text room child :=
      ((Within.refl other).course_eq hlowers text room hid).symm
    obtain ⟨depth, hdepth, hflat⟩ := hframe.flat_eq room
    have hframed (room : Nat) := hframe.nested_eq room
    simp only [hcourse htwin, hcourse hinner, hcourse hnext] at hflat hframed
    rw [hflat, hframed, hframed]
    -- The flat expression gives the parts of the first child the room that the child itself has in
    -- the nested one.
    have hless : room ≤ depth := by omega
    have hmore : depth ≤ room + 1 := by omega
    exact ⟨second.frame_refines text frame inner next hless le_rfl nested.identity offset,
      second.frame_refines text frame inner next hmore room.le_succ nested.identity offset⟩

/-- What an operator makes of expressions and what the plain constructor makes of them cannot be
told apart: on every text and at every offset they match up to the same offset with the same
results, or fail or end alike, with the same furthest failure, and the same actions are applied to
the same, up to the one that rejects a match; this leaves evaluations aside that the limit on the
depth stops, but if a greater limit lets the one end, it lets the other one end as well. -/
theorem flattened_alike (draft other : Draft) (first second : Grammar)
    (text : Text) (flat nested : Expr) (skip : Option CharSet) (id twin : NodeId) (offset : Nat)
    (hdraft : draft.Coherent) (hother : other.Coherent) (hfirst : draft.build = .ok first)
    (hsecond : other.build = .ok second) (hwithin : draft.Within other)
    (hflattens : flat.Flattens nested) (hid : flat.CompilesTo first.nodes first.ruleNames skip id)
    (htwin : nested.CompilesTo second.nodes second.ruleNames skip twin) :
    first.Alike second text id twin offset := by
  have hlowers := lowersTo_of_compile hdraft (build_eq_ok_iff.mp hfirst).1
  have htwins := lowersTo_of_compile hother (build_eq_ok_iff.mp hsecond).1
  rw [hlowers.ruleNames] at hid
  have hbetween := htwins.course_between hflattens htwin text
  refine Grammar.alike_of_course (fun room ↦ ?_) fun room ↦ ?_
  · rw [hwithin.course_eq hlowers text room hid]
    exact (hbetween room offset).1
  · rw [hwithin.course_eq hlowers text room hid]
    exact (hbetween room offset).2

end Draft

/-! ### A letter with two actions -/

def Action.refusal : Action := .conditionWith (fun _ ↦ false) "refused" false

def Action.consent : Action := .condition fun _ ↦ true

/-- A letter with an action that rejects it and a further one, which has a node of its own or
not. -/
def Draft.refused (apart : Bool) : Build Draft := do
  let letter ← Expr.literal "a"
  let inner ← letter.act .refusal
  let both ← inner.act .consent
  let around ← Expr.ofShape (.action inner [.consent])
  pure { entry := some (.expr (if apart then around else both)), config := .withoutPackrat }

/-- The grammar of a letter with two actions of one node. -/
def Grammar.refused : Grammar where
  nodes := #[.terminal (.literal "a" false) (some .blanks) "Expected \"a\"",
    .action 0 [.refusal, .consent] (some .blanks)]
  ruleNames := []
  ruleBodies := []
  entry := some 1
  config := .withoutPackrat

/-- The grammar of a letter with two actions of two nodes. -/
def Grammar.refusedApart : Grammar where
  nodes := #[.terminal (.literal "a" false) (some .blanks) "Expected \"a\"",
    .action 0 [.refusal] (some .blanks), .action 1 [.consent] (some .blanks)]
  ruleNames := []
  ruleBodies := []
  entry := some 2
  config := .withoutPackrat

namespace Draft

/-- A letter with two actions is drawn from a supply. -/
theorem coherent_refused (apart : Bool) (next : Nat) : (refused apart next).1.Coherent := by
  have hdraws : Build.Draws (fun _ ↦ False) (refused apart) Drawn := by
    refine Build.draws_bind (Build.draws_leaf fun _ ↦ rfl) fun letter one _ hletter ↦ ?_
    refine Build.draws_bind (Build.draws_act .refusal letter hletter) fun inner two _ hinner ↦ ?_
    refine Build.draws_bind (Build.draws_act .consent inner hinner) fun both three hthree hboth ↦ ?_
    refine Build.draws_bind (Build.draws_around (fun _ ↦ rfl) (hthree inner hinner))
      fun around drawn hdrawn haround ↦
      Build.draws_pure _ ⟨fun _ hbody ↦ (nomatch hbody), fun entry hentry ↦ ?_⟩
    obtain rfl := EntryPoint.expr.inj (Option.some.inj hentry)
    split_ifs
    · exact haround
    · exact hdrawn both hboth
  exact hdraws.coherent next

theorem build_refused : (refused false 0).1.build = .ok Grammar.refused := by
  cbv

theorem build_refusedApart : (refused true 0).1.build = .ok Grammar.refusedApart := by
  cbv

/-- The letter is rejected by the first action, and the second one is not applied, whether it has a
node of its own or not. -/
theorem flattened_alike_refused :
    let text := Text.ofChars ['a']
    let letter : Expr := ⟨0, .terminal (.literal "a" false)⟩
    let flat : Expr := ((letter.act .refusal 1).1.act .consent 2).1
    let nested : Expr := ⟨3, .action (letter.act .refusal 1).1 [.consent]⟩
    (refused false 0).1.entry = some (.expr flat) ∧ (refused true 0).1.entry = some (.expr nested) ∧
      (refused false 0).1.build = .ok Grammar.refused ∧
      (refused true 0).1.build = .ok Grammar.refusedApart ∧
      (refused false 0).1.Within (refused true 0).1 ∧ flat.Flattens nested ∧
      (Grammar.refused.evaluate text 4 1 0 {}).1 = .error (.failure ⟨0, "refused", false⟩) ∧
        (Grammar.refused.evaluate text 4 1 0 {}).2.applications =
        [⟨.refusal, ⟨text, 0, 1⟩, .ofToken (.str "a")⟩] ∧
      Grammar.refused.Alike Grammar.refusedApart text 1 2 0 := by
  intro text letter flat nested
  have hflat : (refused false 0).1.entry = some (.expr flat) := by cbv
  have hnested : (refused true 0).1.entry = some (.expr nested) := by cbv
  have hwithin : (refused false 0).1.Within (refused true 0).1 := by
    refine ⟨fun name body hbody ↦ ?_, rfl⟩
    cases hbody
  have hflattens : flat.Flattens nested := by
    refine .act letter .refusal .consent 1 2 3 fun child name accumulate hname ↦ ?_
    cases hname
  have hlowers := lowersTo_of_compile (coherent_refused false 0)
    (build_eq_ok_iff.mp build_refused).1
  have htwins := lowersTo_of_compile (coherent_refused true 0)
    (build_eq_ok_iff.mp build_refusedApart).1
  obtain ⟨id, hentry, hid⟩ := hlowers.exists_entry hflat (.expr flat)
  obtain ⟨twin, htwin, hwhole⟩ := htwins.exists_entry hnested (.expr nested)
  obtain rfl := Option.some.inj hentry
  obtain rfl := Option.some.inj htwin
  exact ⟨hflat, hnested, build_refused, build_refusedApart, hwithin, hflattens, by cbv, by cbv,
    flattened_alike _ _ _ _ text flat nested _ _ _ 0 (coherent_refused false 0)
      (coherent_refused true 0) build_refused build_refusedApart hwithin hflattens hid hwhole⟩

end Draft

end Packrat
