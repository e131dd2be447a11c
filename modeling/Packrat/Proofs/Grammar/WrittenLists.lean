import Packrat.Proofs.Grammar.Entries
import Packrat.Proofs.Grammar.Supply

/-!
# Lists written out

A list of at least one item can be written out with the library (`Expr.writtenOut`): an item, then a
repetition of rounds, which are a separator and an item each, and then an option of a separator, if
one may stay at the end. The list builds just if what it is written out as builds
(`Draft.exists_build_iff_writtenOut`): what they are made of stands in both, marked alike, and what
they do not share is refused in the one when it is in the other.

The library would put an item beyond the commit point of a separator that has one. The round of such
a separator is a sequence of two parts instead.
-/

set_option autoImplicit false
set_option relaxedAutoImplicit false

namespace Packrat

namespace Expr

/-! ### What lists are written out as -/

/-- What of a separator stays in a list: all of it, or nothing but where it ends. -/
def keptOf (separator : Expr) (form : ListForm) : Build Expr :=
  if form.keepSeparators then pure separator else separator.suppress

/-- A separator and an item after it. A separator that has a commit point is joined as one part, so
that the item does not come to stand beyond it. -/
def roundOf (kept item : Expr) : Build Expr :=
  if kept.parts.2 = none then kept.andThen item else sequence [kept, item]

/-- A list of at least one item, written out with rounds that are given and with what stays of a
separator. -/
def withRounds (item kept round : Expr) (form : ListForm) : Build Expr := do
  let rounds ← round.repeated (form.least - 1) (form.most.map (· - 1))
  let whole ← item.andThen rounds
  if form.trailing then whole.andThen (← kept.optional) else pure whole

/-- A list of at least one item, written out. -/
def writtenOut (item separator : Expr) (form : ListForm) : Build Expr := do
  let kept ← separator.keptOf form
  item.withRounds kept (← kept.roundOf item) form

/-- A list of at least one item, written out with all parts joined as the library joins them. -/
def joinedOut (item separator : Expr) (form : ListForm) : Build Expr := do
  let kept ← separator.keptOf form
  item.withRounds kept (← kept.andThen item) form

/-- What stays of a separator. -/
inductive Keeps (separator : Expr) : Bool → Expr → Prop
  | kept : Keeps separator true separator
  | dropped (identity : Nat) : Keeps separator false ⟨identity, .suppress separator⟩

/-- A separator and an item after it, as `roundOf` makes them. -/
inductive Round (kept item : Expr) : Expr → Prop
  | joined (identity : Nat) (hcommit : kept.parts.2 = none) :
    Round kept item ⟨identity, .sequence (kept.parts.1 ++ [item]) kept.parts.2⟩
  | apart (identity : Nat) : Round kept item ⟨identity, .sequence [kept, item] none⟩

/-- The separator that may follow the last item. -/
inductive Trail (kept : Expr) : Bool → List Expr → Prop
  | none : Trail kept false []
  | option (identity : Nat) : Trail kept true [⟨identity, .optional kept none⟩]

/-- A list of at least one item, as `writtenOut` makes it. -/
inductive WritesOut (item separator : Expr) (form : ListForm) : Expr → Prop
  | mk {kept round : Expr} {trail : List Expr} (identity own : Nat)
    (hkept : separator.Keeps form.keepSeparators kept) (hround : kept.Round item round)
    (htrail : kept.Trail form.trailing trail) :
    WritesOut item separator form ⟨identity, .sequence
      (item.parts.1 ++ ⟨own, .repetition round (form.least - 1) (form.most.map (· - 1))⟩ :: trail)
      item.parts.2⟩

theorem keeps_keptOf (separator : Expr) (form : ListForm) (next : Nat) :
    separator.Keeps form.keepSeparators (separator.keptOf form next).1 := by
  unfold keptOf
  cases form.keepSeparators with
  | true => exact .kept
  | false => exact .dropped next

theorem round_roundOf (kept item : Expr) (next : Nat) :
    kept.Round item (kept.roundOf item next).1 := by
  unfold roundOf
  split_ifs with hcommit
  · exact .joined next hcommit
  · exact .apart next

theorem draws_keptOf {known : Expr → Prop} {separator : Expr} (hseparator : known separator)
    (form : ListForm) :
    Build.Draws known (separator.keptOf form) fun expr drawn ↦ drawn expr := by
  unfold keptOf
  split_ifs
  · exact Build.draws_pure separator hseparator
  · exact Build.draws_around (fun _ ↦ rfl) hseparator

theorem draws_roundOf {known : Expr → Prop} {kept item : Expr} (hkept : known kept)
    (hitem : known item) :
    Build.Draws known (kept.roundOf item) fun expr drawn ↦ drawn expr := by
  unfold roundOf
  split_ifs
  · exact Build.draws_andThen hkept hitem
  · refine Build.draws_ofShape fun skip child hchild ↦ ?_
    rcases List.mem_cons.mp hchild with rfl | hlast
    · exact hkept
    · exact List.mem_singleton.mp hlast ▸ hitem

theorem draws_withRounds {known : Expr → Prop} {item kept round : Expr} (hitem : known item)
    (hkept : known kept) (hround : known round) (form : ListForm) :
    Build.Draws known (item.withRounds kept round form) fun expr drawn ↦ drawn expr := by
  refine Build.draws_bind (Build.draws_around (fun _ ↦ rfl) hround)
    fun rounds first hfirst hrounds ↦ ?_
  refine Build.draws_bind (Build.draws_andThen (hfirst _ hitem) hrounds)
    fun whole second hsecond hwhole ↦ ?_
  split_ifs
  · refine Build.draws_bind (Build.draws_around (fun _ ↦ rfl) (hsecond _ (hfirst _ hkept)))
      fun option third hthird hoption ↦ ?_
    exact Build.draws_andThen (hthird _ hwhole) hoption
  · exact Build.draws_pure whole hwhole

theorem writesOut_writtenOut (item separator : Expr) (form : ListForm) (next : Nat) :
    item.WritesOut separator form (item.writtenOut separator form next).1 := by
  have hkept := separator.keeps_keptOf form next
  have hround := (separator.keptOf form next).1.round_roundOf item (separator.keptOf form next).2
  unfold writtenOut withRounds
  cases htrailing : form.trailing with
  | false => exact .mk _ _ hkept hround (htrailing ▸ .none)
  | true =>
    have htrail (identity : Nat) : Trail (separator.keptOf form next).1 form.trailing
        [⟨identity, .optional (separator.keptOf form next).1 none⟩] := htrailing ▸ .option identity
    change item.WritesOut separator form ⟨_, .sequence (item.parts.1 ++ [_] ++ [_]) item.parts.2⟩
    rw [← List.append_cons]
    exact .mk _ _ hkept hround (htrail _)

theorem draws_delimitedWith {known : Expr → Prop} {item separator : Expr} (hitem : known item)
    (hseparator : known separator) (form : ListForm) :
    Build.Draws known (item.delimitedWith separator form) fun expr drawn ↦ drawn expr := by
  refine Build.draws_bind (Build.draws_ofShape fun skip child hchild ↦ ?_)
    fun list drawn _ hlist ↦ ?_
  · rcases List.mem_cons.mp hchild with rfl | hlast
    · exact hitem
    · exact List.mem_singleton.mp hlast ▸ hseparator
  · split_ifs
    · exact Build.draws_around (fun _ ↦ rfl) hlist
    · exact Build.draws_pure list hlist

/-- What a list is written out as is drawn from a supply. -/
theorem draws_writtenOut {known : Expr → Prop} {item separator : Expr} (hitem : known item)
    (hseparator : known separator) (form : ListForm) :
    Build.Draws known (item.writtenOut separator form) fun expr drawn ↦ drawn expr := by
  refine Build.draws_bind (draws_keptOf hseparator form) fun kept first hfirst hkept ↦ ?_
  refine Build.draws_bind (draws_roundOf hkept (hfirst _ hitem))
    fun round second hsecond hround ↦ ?_
  exact draws_withRounds (hsecond _ (hfirst _ hitem)) (hsecond _ hkept) hround form

/-- A list with all parts joined is drawn from a supply. -/
theorem draws_joinedOut {known : Expr → Prop} {item separator : Expr} (hitem : known item)
    (hseparator : known separator) (form : ListForm) :
    Build.Draws known (item.joinedOut separator form) fun expr drawn ↦ drawn expr := by
  refine Build.draws_bind (draws_keptOf hseparator form) fun kept first hfirst hkept ↦ ?_
  refine Build.draws_bind (Build.draws_andThen hkept (hfirst _ hitem))
    fun round second hsecond hround ↦ ?_
  exact draws_withRounds (hsecond _ (hfirst _ hitem)) (hsecond _ hkept) hround form

variable {item separator kept round whole : Expr} {form : ListForm} {names : List String}

theorem Round.joins (hround : kept.Round item round) : kept.Joins item round := by
  cases hround with
  | joined identity _ => exact .library identity
  | apart identity => exact .parts identity

/-- Nothing is wrong with what stays of a separator if nothing is wrong with the separator. -/
theorem Keeps.sound_iff {keeps : Bool} (hkept : separator.Keeps keeps kept) :
    kept.Sound names ↔ separator.Sound names := by
  cases hkept with
  | kept => exact .rfl
  | dropped identity =>
    rw [Sound, throughout_iff]
    exact ⟨fun hsound ↦ hsound.2 _ List.mem_cons_self, fun hsound ↦ ⟨True.intro, fun child hchild ↦
      List.mem_singleton.mp hchild ▸ hsound⟩⟩

/-- Nothing is wrong with a list just if nothing is wrong with what it is written out as. -/
theorem WritesOut.sound_iff (hwhole : item.WritesOut separator form whole)
    (hbounds : ∀ bound ∈ form.most, form.least ≤ bound) {identity : Nat} :
    (⟨identity, .delimited item separator form⟩ : Expr).Sound names ↔ whole.Sound names := by
  have hlist : (⟨identity, .delimited item separator form⟩ : Expr).Sound names ↔
      item.Sound names ∧ separator.Sound names := by
    rw [Sound, throughout_iff]
    refine ⟨fun hsound ↦ ⟨hsound.2 _ List.mem_cons_self,
      hsound.2 _ (List.mem_cons_of_mem _ List.mem_cons_self)⟩, fun hsound ↦ ⟨hbounds, ?_⟩⟩
    simpa [Shape.children] using hsound
  cases hwhole with
  | @mk kept round trail identity own hkept hround htrail =>
    have hrounds : (⟨own, .repetition round (form.least - 1) (form.most.map (· - 1))⟩ : Expr).Sound
        names ↔ separator.Sound names ∧ item.Sound names := by
      rw [← hkept.sound_iff, ← hround.joins.sound_iff, Sound, throughout_iff]
      refine ⟨fun hsound ↦ hsound.2 _ List.mem_cons_self, fun hsound ↦ ⟨fun bound hbound ↦ ?_,
        fun child hchild ↦ List.mem_singleton.mp hchild ▸ hsound⟩⟩
      obtain ⟨most, hmost, rfl⟩ := Option.map_eq_some_iff.mp hbound
      exact Nat.sub_le_sub_right (hbounds most hmost) 1
    have htrailing (hsound : separator.Sound names) : ∀ part ∈ trail, part.Sound names := by
      generalize form.trailing = trails at htrail
      cases htrail with
      | none => exact List.forall_mem_nil _
      | option own =>
        intro part hpart
        rw [List.mem_singleton.mp hpart, Sound, throughout_iff]
        exact ⟨True.intro, fun child hchild ↦ List.mem_singleton.mp hchild ▸
          hkept.sound_iff.mpr hsound⟩
    rw [hlist, sound_sequence_iff, List.forall_mem_append, sound_parts_iff,
      List.forall_mem_cons, hrounds]
    exact ⟨fun hparts ↦ ⟨hparts.1, hparts.symm, htrailing hparts.2⟩,
      fun hall ↦ ⟨hall.1, hall.2.1.1⟩⟩

end Expr

/-! ### Lists and what they are written out as -/

namespace Draft

variable {draft : Draft} {first second : Grammar} {item separator kept round : Expr}
  {form : ListForm} {trail : List Expr} {identity own other : Nat} {id twin : NodeId}

/-- What a list is made of became nodes both of its grammar and of the grammar of what it is written
out as: the items, the parts of the separator, and the separator itself unless its parts were joined
to an item. -/
theorem shared_of_writesOut (hkept : separator.Keeps form.keepSeparators kept)
    (hround : kept.Round item round) {skip : Option CharSet}
    (hid : (⟨identity, .delimited item separator form⟩ : Expr).CompilesTo first.nodes
      first.ruleNames skip id)
    (htwin : round.CompilesTo second.nodes second.ruleNames skip twin) :
    Shared first second skip item ∧ (∀ part ∈ separator.parts.1, Shared first second skip part) ∧
      ((∃ inner, kept.CompilesTo second.nodes second.ruleNames skip inner) →
        Shared first second skip separator) := by
  have hmem : (skip, separator) ∈ (Shape.delimited item separator form).children skip :=
    List.mem_cons_of_mem _ List.mem_cons_self
  obtain ⟨one, hone⟩ := hid.exists_child List.mem_cons_self
  obtain ⟨two, htwo⟩ := hid.exists_child hmem
  obtain ⟨twin', htwin'⟩ := hround.joins.exists_second htwin
  have hseparator (hinner : ∃ inner, kept.CompilesTo second.nodes second.ruleNames skip inner) :
      Shared first second skip separator := by
    obtain ⟨inner, hinner⟩ := hinner
    generalize form.keepSeparators = keeps at hkept
    cases hkept with
    | kept => exact ⟨two, inner, htwo, hinner⟩
    | dropped identity =>
      obtain ⟨last, hlast⟩ := hinner.exists_child List.mem_cons_self
      exact ⟨two, last, htwo, hlast⟩
  refine ⟨⟨one, twin', hone, htwin'⟩, fun part hpart ↦ ?_, hseparator⟩
  generalize form.keepSeparators = keeps at hkept
  cases hkept with
  | kept =>
    obtain ⟨inner, hinner⟩ := htwo.exists_own_part hpart
    obtain ⟨last, hlast⟩ := hround.joins.exists_first_part htwin hpart
    exact ⟨inner, last, hinner, hlast⟩
  | dropped identity =>
    obtain ⟨_, last, _, hlast⟩ := hseparator
      (hround.joins.exists_first_part htwin List.mem_cons_self)
    obtain ⟨inner, hinner⟩ := htwo.exists_own_part hpart
    obtain ⟨twin, htwin⟩ := hlast.exists_own_part hpart
    exact ⟨inner, twin, hinner, htwin⟩

/-- A round can match nothing just if separators and items can. -/
theorem canSkip_round_iff {one whole : Expr} (hfirst : (draft.entryExpr one).LowersTo first)
    (hsecond : (draft.entryExpr whole).LowersTo second)
    (hkept : separator.Keeps form.keepSeparators kept) (hround : kept.Round item round)
    {skip : Option CharSet} (hid : (⟨identity, .delimited item separator form⟩ : Expr).CompilesTo
      first.nodes first.ruleNames skip id)
    (htwin : round.CompilesTo second.nodes second.ruleNames skip twin) :
    second.CanSkip skip round ↔ first.CanSkip skip item ∧ first.CanSkip skip separator := by
  obtain ⟨hitem, hparts, hseparator⟩ := shared_of_writesOut hkept hround hid htwin
  have hmem : (skip, separator) ∈ (Shape.delimited item separator form).children skip :=
    List.mem_cons_of_mem _ List.mem_cons_self
  obtain ⟨inner, hinner⟩ := hid.exists_child hmem
  rw [hsecond.canSkip_joins_iff hround.joins htwin, ← hitem.canSkip_iff hfirst hsecond, and_comm]
  refine and_congr_right fun _ ↦ ?_
  generalize form.keepSeparators = keeps at hkept
  cases hkept with
  | kept =>
    rw [← hfirst.canSkip_parts_iff hinner]
    exact forall₂_congr fun part hpart ↦ ((hparts part hpart).canSkip_iff hfirst hsecond).symm
  | dropped identity =>
    have hcompiled := hround.joins.exists_first_part htwin List.mem_cons_self
    rw [(hseparator hcompiled).canSkip_iff hfirst hsecond,
      ← hsecond.canSkip_suppress_iff hcompiled.choose_spec]
    exact List.forall_mem_singleton

/-- What of a list that is written out is not part of the list: the whole, its repetition and its
rounds, what stays of separators if it is not the separators, and the option of it. -/
inductive Added (form : ListForm) (kept round : Expr) (trail : List Expr) (whole rounds : Expr) :
    Expr → Prop
  | whole : Added form kept round trail whole rounds whole
  | rounds : Added form kept round trail whole rounds rounds
  | round : Added form kept round trail whole rounds round
  | kept (hdropped : form.keepSeparators = false) : Added form kept round trail whole rounds kept
  | trail {option : Expr} (hoption : option ∈ trail) :
      Added form kept round trail whole rounds option

/-- All of this but the repetition is made of sequences, options and expressions without their
results. -/
theorem Added.eq_rounds_or_isFrame {expr rounds : Expr} {parts : List Expr} {commit : Option Nat}
    (hkept : separator.Keeps form.keepSeparators kept) (hround : kept.Round item round)
    (htrail : kept.Trail form.trailing trail)
    (hadded : Added form kept round trail ⟨identity, .sequence parts commit⟩ rounds expr) :
    expr = rounds ∨ expr.IsFrame := by
  cases hadded with
  | whole => exact Or.inr .sequence
  | rounds => exact Or.inl rfl
  | round => cases hround <;> exact Or.inr .sequence
  | kept hdropped =>
    rw [hdropped] at hkept
    cases hkept
    exact Or.inr .suppress
  | trail hoption =>
    generalize form.trailing = trailing at htrail
    cases htrail with
    | none => cases hoption
    | option same =>
      rw [List.mem_singleton.mp hoption]
      exact Or.inr .optional

/-- What a list is written out as is accepted if the list is. -/
theorem accepted_writtenOut {whole : Expr} (hwhole : item.WritesOut separator form whole)
    (hfirst : (draft.entryExpr ⟨identity, .delimited item separator form⟩).LowersTo first)
    (hsecond : (draft.entryExpr whole).LowersTo second) (hformed : first.WellFormed)
    (hrounds : first.nullableRepetition? first.nullable = none)
    (hcycles : first.leftRecursion first.nullable = []) (hformed' : second.WellFormed) :
    second.nullableRepetition? second.nullable = none ∧
      second.leftRecursion second.nullable = [] := by
  obtain ⟨id, -, hid⟩ := hfirst.exists_entry rfl (.expr _)
  obtain ⟨twin, -, htwin⟩ := hsecond.exists_entry rfl (.expr _)
  rw [← hfirst.ruleNames] at hid
  rw [← hsecond.ruleNames] at htwin
  cases hwhole with
  | @mk kept round trail identity' own hkept hround htrail =>
  obtain ⟨again, hagain⟩ := htwin.exists_part (List.mem_append_right _ List.mem_cons_self)
  obtain ⟨inner, hinner⟩ := hagain.exists_child List.mem_cons_self
  obtain ⟨hitem, hparts, hseparator⟩ := shared_of_writesOut hkept hround hid hinner
  have hstays : (∀ part ∈ kept.parts.1, Shared first second draft.config.skip part ∨
        part = kept ∧ form.keepSeparators = false) ∧
      ((∃ id, kept.CompilesTo second.nodes second.ruleNames draft.config.skip id) →
        Shared first second draft.config.skip kept ∨ form.keepSeparators = false) ∧
      (form.keepSeparators = false → ∃ same, kept = ⟨same, .suppress separator⟩) := by
    generalize form.keepSeparators = keeps at hkept
    cases hkept with
    | kept =>
      exact ⟨fun part hpart ↦ Or.inl (hparts part hpart), fun hkept ↦
        Or.inl (hseparator hkept), nofun⟩
    | dropped same =>
      exact ⟨fun part hpart ↦ Or.inr ⟨List.mem_singleton.mp hpart, rfl⟩, fun _ ↦ Or.inr rfl,
        fun _ ↦ ⟨same, rfl⟩⟩
  obtain ⟨hkeptParts, hkeptShared, hkeptNew⟩ := hstays
  refine accepted_entryExpr hfirst hsecond hformed hrounds hcycles hformed'
    (Added form kept round trail _
      ⟨own, .repetition round (form.least - 1) (form.most.map (· - 1))⟩) .whole ?_ ?_ ?_
  · intro expr hexpr child hchild
    cases hexpr with
    | whole =>
      obtain ⟨part, hpart, rfl⟩ := List.mem_map.mp hchild
      rcases List.mem_append.mp hpart with hpart | hpart
      · exact Or.inl (hitem.part hpart)
      · rcases List.mem_cons.mp hpart with rfl | hpart
        · exact Or.inr ⟨rfl, .rounds⟩
        · exact Or.inr ⟨rfl, .trail hpart⟩
    | rounds =>
      rw [List.mem_singleton.mp hchild]
      exact Or.inr ⟨rfl, .round⟩
    | round =>
      cases hround with
      | joined same hcommit =>
        obtain ⟨part, hpart, rfl⟩ := List.mem_map.mp hchild
        rcases List.mem_append.mp hpart with hpart | hpart
        · refine (hkeptParts part hpart).imp_right fun ⟨hsame, hdropped⟩ ↦ ?_
          subst hsame
          exact ⟨rfl, .kept hdropped⟩
        · rw [List.mem_singleton.mp hpart]
          exact Or.inl hitem
      | apart same =>
        obtain ⟨part, hpart, rfl⟩ := List.mem_map.mp hchild
        rcases List.mem_cons.mp hpart with rfl | hpart
        · refine (hkeptShared (hinner.exists_part List.mem_cons_self)).imp_right fun hdropped ↦ ?_
          exact ⟨rfl, .kept hdropped⟩
        · rw [List.mem_singleton.mp hpart]
          exact Or.inl hitem
    | kept hdropped =>
      obtain ⟨same, rfl⟩ := hkeptNew hdropped
      rw [List.mem_singleton.mp hchild]
      exact Or.inl (hseparator (hround.joins.exists_first_part hinner List.mem_cons_self))
    | trail hoption =>
      have hcompiled := htwin.exists_part (List.mem_append_right _ (List.mem_cons_of_mem _ hoption))
      generalize form.trailing = trailing at htrail
      cases htrail with
      | none => cases hoption
      | option same =>
        obtain rfl := List.mem_singleton.mp hoption
        rw [List.mem_singleton.mp hchild]
        refine (hkeptShared (hcompiled.choose_spec.exists_child List.mem_cons_self)).imp_right
          fun hdropped ↦ ?_
        exact ⟨rfl, .kept hdropped⟩
  · intro expr hexpr
    rcases hexpr.eq_rounds_or_isFrame hkept hround htrail with rfl | hframe
    · exact ⟨nofun, nofun⟩
    · exact hframe.isPlain
  · intro expr hexpr other hother hstalls
    rcases hexpr.eq_rounds_or_isFrame hkept hround htrail with rfl | hframe
    · obtain ⟨hmost, hskip⟩ := (hsecond.stalls_repetition_iff hother).mp hstalls
      obtain ⟨node, -, hnode, -⟩ := hid.lowers
      refine Grammar.nullableRepetition?_eq_none_iff.mp hrounds _
        (Grammar.node_mem (Array.getElem?_eq_some_iff.mp hnode).1) ?_
      exact (hfirst.stalls_delimited_iff hid).mpr ⟨Option.map_eq_none_iff.mp hmost,
        (canSkip_round_iff hfirst hsecond hkept hround hid hinner).mp hskip⟩
    · exact hframe.not_stalls hother hstalls

/-- A list is accepted if what it is written out as is. -/
theorem accepted_of_writtenOut {whole : Expr} (hwhole : item.WritesOut separator form whole)
    (hfirst : (draft.entryExpr ⟨identity, .delimited item separator form⟩).LowersTo first)
    (hsecond : (draft.entryExpr whole).LowersTo second) (hformed : second.WellFormed)
    (hrounds : second.nullableRepetition? second.nullable = none)
    (hcycles : second.leftRecursion second.nullable = []) (hformed' : first.WellFormed) :
    first.nullableRepetition? first.nullable = none ∧ first.leftRecursion first.nullable = [] := by
  obtain ⟨id, -, hid⟩ := hfirst.exists_entry rfl (.expr _)
  obtain ⟨twin, -, htwin⟩ := hsecond.exists_entry rfl (.expr _)
  rw [← hfirst.ruleNames] at hid
  rw [← hsecond.ruleNames] at htwin
  cases hwhole with
  | @mk kept round trail identity' own hkept hround htrail =>
  obtain ⟨again, hagain⟩ := htwin.exists_part (List.mem_append_right _ List.mem_cons_self)
  obtain ⟨inner, hinner⟩ := hagain.exists_child List.mem_cons_self
  obtain ⟨hitem, hparts, -⟩ := shared_of_writesOut hkept hround hid hinner
  have hseparator : Shared second first draft.config.skip separator ∨
      ∃ same parts commit, separator = ⟨same, .sequence parts commit⟩ := by
    rcases separator.parts_cases with ⟨same, parts, commit, hsame, -⟩ | hsole
    · exact Or.inr ⟨same, parts, commit, hsame⟩
    · rw [hsole] at hparts
      exact Or.inl (hparts separator List.mem_cons_self).symm
  refine accepted_entryExpr hsecond hfirst hformed hrounds hcycles hformed'
    (fun expr ↦ expr = ⟨identity, .delimited item separator form⟩ ∨
      expr = separator ∧ ∃ same parts commit, separator = ⟨same, .sequence parts commit⟩)
        (Or.inl rfl) ?_ ?_ ?_
  · rintro expr (rfl | ⟨rfl, same, parts, commit, rfl⟩) child hchild
    · rcases List.mem_cons.mp hchild with rfl | hlast
      · exact Or.inl hitem.symm
      · rw [List.mem_singleton.mp hlast]
        exact hseparator.imp_right fun hsequence ↦ ⟨rfl, Or.inr ⟨rfl, hsequence⟩⟩
    · obtain ⟨part, hpart, rfl⟩ := List.mem_map.mp hchild
      exact Or.inl (hparts part hpart).symm
  · rintro expr (rfl | ⟨rfl, same, parts, commit, rfl⟩)
    · exact ⟨nofun, nofun⟩
    · exact ⟨nofun, nofun⟩
  · rintro expr (rfl | ⟨rfl, same, parts, commit, rfl⟩) other hother hstalls
    · obtain ⟨hmost, hskip⟩ := (hfirst.stalls_delimited_iff hother).mp hstalls
      obtain ⟨node, -, hnode, -⟩ := hagain.lowers
      refine Grammar.nullableRepetition?_eq_none_iff.mp hrounds _
        (Grammar.node_mem (Array.getElem?_eq_some_iff.mp hnode).1) ?_
      exact (hsecond.stalls_repetition_iff hagain).mpr ⟨Option.map_eq_none_iff.mpr hmost,
        (canSkip_round_iff hfirst hsecond hkept hround hid hinner).mpr hskip⟩
    · exact Expr.IsFrame.sequence.not_stalls hother hstalls

/-- A list whose bounds are not the wrong way round builds just if what it is written out as
builds. -/
theorem exists_build_iff_writtenOut {whole : Expr} (hwhole : item.WritesOut separator form whole)
    (hbounds : ∀ bound ∈ form.most, form.least ≤ bound)
    (hcoherent : (draft.entryExpr ⟨identity, .delimited item separator form⟩).Coherent)
    (hcoherent' : (draft.entryExpr whole).Coherent) :
    (∃ grammar, (draft.entryExpr ⟨identity, .delimited item separator form⟩).build = .ok grammar) ↔
      ∃ grammar, (draft.entryExpr whole).build = .ok grammar := by
  constructor
  · rintro ⟨first, hbuild⟩
    obtain ⟨hcompile, hrounds, hcycles⟩ := build_eq_ok_iff.mp hbuild
    have hfirst := lowersTo_of_compile hcoherent hcompile
    obtain ⟨id, -, hid⟩ := hfirst.exists_entry rfl (.expr _)
    obtain ⟨second, hsecond⟩ := exists_compile_entryExpr hcompile hfirst
      ((hwhole.sound_iff hbounds).mp hid.sound)
    exact ⟨second, build_eq_ok_iff.mpr ⟨hsecond, accepted_writtenOut hwhole hfirst
      (lowersTo_of_compile hcoherent' hsecond) (wellFormed_of_compile hcompile) hrounds hcycles
      (wellFormed_of_compile hsecond)⟩⟩
  · rintro ⟨second, hbuild⟩
    obtain ⟨hcompile, hrounds, hcycles⟩ := build_eq_ok_iff.mp hbuild
    have hsecond := lowersTo_of_compile hcoherent' hcompile
    obtain ⟨twin, -, htwin⟩ := hsecond.exists_entry rfl (.expr _)
    obtain ⟨first, hfirst⟩ := exists_compile_entryExpr hcompile hsecond
      ((hwhole.sound_iff hbounds).mpr htwin.sound)
    exact ⟨first, build_eq_ok_iff.mpr ⟨hfirst, accepted_of_writtenOut hwhole
      (lowersTo_of_compile hcoherent hfirst) hsecond (wellFormed_of_compile hcompile)
      hrounds hcycles (wellFormed_of_compile hfirst)⟩⟩

end Draft

end Packrat
