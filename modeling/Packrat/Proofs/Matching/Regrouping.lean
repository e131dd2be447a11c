import Packrat.Proofs.Grammar.Supply
import Packrat.Proofs.Matching.Agreement
import Packrat.Proofs.Session.Naming

/-!
# Sequences in groups

Results are put together as in a monoid: in either grouping, if no name is plain in one of them and
a list name in another, and nothing before or after changes nothing. So the parts of a sequence may
be grouped into sequences of their own, as deep as one likes (`Expr.Regroups`). One after the other
the parts come to a row of matches (`Matcher.row`), and every grouping puts the same row together
(`Matcher.Totals`); the outcome is the same (`Draft.extend_regroups`). Only the depth of the
evaluation is another one, so the limit on it may stop one grouping and not another
(`Draft.regrouped_hits_limit`).
-/

set_option autoImplicit false
set_option relaxedAutoImplicit false

namespace Packrat

open MatchMonad

/-- The parts of a sequence, some of which are grouped into sequences without commit points, are
others that are not grouped. -/
inductive Expr.Regroups : List Expr → List Expr → Prop
  | nil : Regroups [] []
  | part (expr : Expr) {rest others : List Expr} (hrest : Regroups rest others) :
    Regroups (expr :: rest) (expr :: others)
  | group (identity : Nat) {parts gathered rest others : List Expr}
    (hparts : Regroups parts gathered) (hrest : Regroups rest others) :
    Regroups (⟨identity, .sequence parts none⟩ :: rest) (gathered ++ others)

namespace Match

variable {kind : String → Bool} {done next last : Match}

/-- Matches may be put together in either grouping, if no name is both plain and a list. -/
theorem append_append (hdone : done.results.Uniform kind) (hnext : next.results.Uniform kind)
    (hlast : last.results.Uniform kind) :
    (done.append next).append last = done.append (next.append last) :=
  congrArg (Match.mk last.stop) (Results.extend_assoc hdone hnext hlast)

/-- A match before others that are put together may be put together with the first of them. -/
theorem append_foldl (hdone : done.results.Uniform kind) {founds : List Match}
    (hfounds : ∀ found ∈ founds, found.results.Uniform kind) (hnext : next.results.Uniform kind) :
    done.append (founds.foldl append next) = founds.foldl append (done.append next) := by
  induction founds generalizing next with
  | nil => rfl
  | cons found rest ih =>
    obtain ⟨hfound, hrest⟩ := List.forall_mem_cons.mp hfounds
    rw [List.foldl_cons, List.foldl_cons, ih hrest (hnext.extend hfound),
      append_append hdone hnext hfound]

/-- Uniform matches are uniform when they are put together. -/
theorem uniform_foldl {founds : List Match} (hfounds : ∀ found ∈ founds, found.results.Uniform kind)
    (hdone : done.results.Uniform kind) : (founds.foldl append done).results.Uniform kind := by
  induction founds generalizing done with
  | nil => exact hdone
  | cons found rest ih =>
    obtain ⟨hfound, hrest⟩ := List.forall_mem_cons.mp hfounds
    exact ih hrest (hdone.extend hfound)

/-- Where the last of several matches ends, and a given offset if there are none. -/
def stopOf : Nat → List Match → Nat
  | offset, [] => offset
  | _, found :: rest => stopOf found.stop rest

theorem stopOf_append (offset : Nat) (founds others : List Match) :
    stopOf offset (founds ++ others) = stopOf (stopOf offset founds) others := by
  induction founds generalizing offset with
  | nil => rfl
  | cons found rest ih => exact ih found.stop

end Match

namespace Matcher

variable {kind : String → Bool} {offset : Nat} {done : Match}

/-! ### Rows -/

/-- The matches of matchers one after the other. -/
def row : List (Matcher Ending) → Nat → Ending (List Match)
  | [], _ => .ended []
  | part :: rest, offset => part offset >>= fun found ↦ row rest found.stop >>= fun founds ↦
      .ended (found :: founds)

theorem row_append (parts others : List (Matcher Ending)) (offset : Nat) :
    row (parts ++ others) offset = row parts offset >>= fun founds ↦
      row others (Match.stopOf offset founds) >>= fun more ↦ .ended (founds ++ more) := by
  induction parts generalizing offset with
  | nil => exact (Ending.bind_ended _).symm
  | cons part rest ih =>
    simp only [List.cons_append, row, ih, Ending.bind_assoc, Ending.ended_bind]
    rfl

/-- If the parts of a row give matches with a property from boundaries, and take these on in the
text, all matches of the row have the property. -/
theorem forall_of_row {text : Text} {property : Match → Prop} {parts : List (Matcher Ending)}
    (hparts : ∀ part ∈ parts, ∀ {place : Nat} {found : Match}, text.IsBoundary place →
      part place = .ended found → text.Ahead place found.stop ∧ property found) :
    ∀ {offset : Nat} {founds : List Match}, text.IsBoundary offset →
      row parts offset = .ended founds → ∀ found ∈ founds, property found := by
  induction parts with
  | nil =>
    intro offset founds _ hrow found hfound
    rw [← Ending.ended.inj hrow] at hfound
    exact absurd hfound List.not_mem_nil
  | cons part rest ih =>
    intro offset founds hoffset hrow
    obtain ⟨first, hfirst, hmore⟩ := Ending.exists_of_bind_eq_ended hrow
    obtain ⟨others, hothers, hlast⟩ := Ending.exists_of_bind_eq_ended hmore
    obtain ⟨hahead, hproperty⟩ := hparts part List.mem_cons_self hoffset hfirst
    rw [← Ending.ended.inj hlast]
    exact List.forall_mem_cons.mpr ⟨hproperty,
      ih (fun other hother ↦ hparts other (List.mem_cons_of_mem _ hother)) hahead.boundary hothers⟩

/-- What an evaluation after some match comes to is the total of a row: it halts as the row does, or
ends where the row does, and if no name is both plain and a list, it has all results of the row, put
together one by one. -/
inductive Totals (kind : String → Bool) (done : Match) : Ending (List Match) → Ending Match → Prop
  | never : Totals kind done .never .never
  | halted (halt : Halt) : Totals kind done (.halted halt) (.halted halt)
  | ended {founds : List Match} {found : Match} (hstop : found.stop = Match.stopOf done.stop founds)
    (hfound : done.results.Uniform kind → (∀ next ∈ founds, next.results.Uniform kind) →
      found = founds.foldl Match.append done) : Totals kind done (.ended founds) (.ended found)

namespace Totals

theorem cons {part : Matcher Ending} {others : List (Matcher Ending)} {next : Match → Ending Match}
    (hrest : ∀ found, Totals kind (done.append found) (row others found.stop) (next found)) :
    Totals kind done (row (part :: others) done.stop) (part done.stop >>= next) := by
  rw [row]
  match part done.stop with
  | .never => exact .never
  | .halted halt => exact .halted halt
  | .ended found =>
    have htotals := hrest found
    rw [Ending.ended_bind, Ending.ended_bind]
    generalize row others found.stop = rest at htotals ⊢
    generalize next found = last at htotals ⊢
    cases htotals with
    | never => exact .never
    | halted halt => exact .halted halt
    | ended hstop hfound =>
      refine .ended hstop fun hdone hall ↦ ?_
      obtain ⟨hfirst, hothers⟩ := List.forall_mem_cons.mp hall
      exact hfound (hdone.extend hfirst) hothers

/-- A row in front of another one, put together on its own. -/
theorem append {parts others : List (Matcher Ending)} {inner : Ending Match}
    {next : Match → Ending Match} (hinner : Totals kind (.nothing done.stop)
      (row parts done.stop) inner)
    (hrest : ∀ found, Totals kind (done.append found) (row others found.stop) (next found)) :
    Totals kind done (row (parts ++ others) done.stop) (inner >>= next) := by
  rw [row_append]
  generalize row parts done.stop = first at hinner ⊢
  cases hinner with
  | never => exact .never
  | halted halt => exact .halted halt
  | @ended founds found hstop hfound =>
    have htotals := hrest found
    have hplace : Match.stopOf done.stop founds = found.stop := hstop.symm
    rw [Ending.ended_bind, Ending.ended_bind, hplace]
    generalize row others found.stop = rest at htotals ⊢
    generalize next found = last at htotals ⊢
    cases htotals with
    | never => exact .never
    | halted halt => exact .halted halt
    | @ended more whole hstop' hwhole =>
      refine .ended ?_ fun hdone hall ↦ ?_
      · rw [Match.stopOf_append, hplace, hstop']
        rfl
      · obtain ⟨hfounds, hmore⟩ := List.forall_mem_append.mp hall
        have hnothing := Results.uniform_empty kind
        obtain rfl := hfound hnothing hfounds
        have htogether : done.append (founds.foldl Match.append (.nothing done.stop)) =
            founds.foldl Match.append done := by
          rw [Match.append_foldl hdone hfounds hnothing, Match.append_nothing]
        rw [List.foldl_append, ← htogether]
        exact hwhole (hdone.extend (Match.uniform_foldl hfounds hnothing)) hmore

/-- A row has one total after nothing, if no name is both plain and a list. -/
theorem unique {row : Ending (List Match)} {first second : Ending Match}
    (hfirst : Totals kind (.nothing offset) row first)
    (hsecond : Totals kind (.nothing offset) row second)
    (huniform : ∀ founds, row = .ended founds → ∀ found ∈ founds, found.results.Uniform kind) :
    first = second := by
  cases hfirst with
  | never =>
    cases hsecond
    rfl
  | halted halt =>
    cases hsecond
    rfl
  | ended _ hfound =>
    cases hsecond with
    | ended _ hother =>
      have hnothing := Results.uniform_empty kind
      have hall := huniform _ rfl
      rw [hfound hnothing hall, hother hnothing hall]

end Totals

end Matcher

/-! ### Expressions -/

namespace Expr.Regroups

variable {nodes : Array Node} {names : List String} {skip : Option CharSet}
  {parts gathered : List Expr}

theorem refl (parts : List Expr) : Regroups parts parts := by
  induction parts with
  | nil => exact .nil
  | cons part rest ih => exact .part part ih

/-- Parts inside groups became nodes if all parts did. -/
theorem forall_compiles (hregroups : Regroups parts gathered)
    (hparts : ∀ part ∈ parts, ∃ id, part.CompilesTo nodes names skip id) :
    ∀ part ∈ gathered, ∃ id, part.CompilesTo nodes names skip id := by
  induction hregroups with
  | nil => exact hparts
  | part expr _ ih =>
    obtain ⟨hfirst, hrest⟩ := List.forall_mem_cons.mp hparts
    exact List.forall_mem_cons.mpr ⟨hfirst, ih hrest⟩
  | group identity _ _ ihparts ihrest =>
    obtain ⟨⟨id, hid⟩, hrest⟩ := List.forall_mem_cons.mp hparts
    exact List.forall_mem_append.mpr ⟨ihparts fun part hpart ↦ hid.exists_part hpart, ihrest hrest⟩

end Expr.Regroups

namespace Draft

variable {draft other : Draft} {first second : Grammar} {skip : Option CharSet} {text : Text}
  {parts others gathered : List Expr} {id twin : NodeId}

/-- A grouping of the parts of a sequence has the total of their row. The induction is on the
grouping. -/
theorem LowersTo.totals_of_regroups (hlowers : draft.LowersTo first)
    (text : Text) (kind : String → Bool) (hregroups : Expr.Regroups parts gathered)
    (hparts : ∀ part ∈ parts, ∃ id, part.CompilesTo first.nodes first.ruleNames skip id) :
    ∀ (index : Nat) (done : Match), Matcher.Totals kind done
      (Matcher.row (gathered.map (first.meaning text skip)) done.stop)
      (Matcher.sequenceFrom none index (parts.map (first.meaning text skip)) done) := by
  induction hregroups with
  | nil => exact fun _ _ ↦ .ended rfl fun _ _ ↦ rfl
  | part expr _ ih =>
    intro index done
    have hrest := ih (List.forall_mem_cons.mp hparts).2
    rw [List.map_cons, List.map_cons, Matcher.sequenceFrom_cons]
    exact .cons fun found ↦ hrest (index + 1) (done.append found)
  | group identity _ _ ihparts ihrest =>
    intro index done
    obtain ⟨⟨id, hid⟩, hrest⟩ := List.forall_mem_cons.mp hparts
    rw [List.map_cons, List.map_append, Matcher.sequenceFrom_cons,
      hlowers.meaning_sequence text hid]
    exact .append (ihparts (fun part hpart ↦ hid.exists_part hpart) 0 (.nothing done.stop))
      fun found ↦ ihrest hrest (index + 1) (done.append found)

/-- The matches of a row of parts are made by the operations on results, if what the grammar is
given is. -/
theorem LowersTo.built_of_row (hlowers : draft.LowersTo first) (hbuilds : first.Builds)
    (hparts : ∀ part ∈ parts, ∃ id, part.CompilesTo first.nodes first.ruleNames skip id)
    {offset : Nat} (hoffset : text.IsBoundary offset) {founds : List Match}
    (hrow : Matcher.row (parts.map (first.meaning text skip)) offset = .ended founds) :
    ∀ found ∈ founds, found.results.Built := by
  refine Matcher.forall_of_row (fun matcher hmatcher place found hplace hfound ↦ ?_) hoffset hrow
  obtain ⟨part, hpart, rfl⟩ := List.mem_map.mp hmatcher
  obtain ⟨id, hid⟩ := hparts part hpart
  rw [← hlowers.ending_eq_meaning text hid] at hfound
  exact Grammar.fulfils_of_ending (Grammar.maintains_built hbuilds text) hplace hfound

/-- Two groupings of the parts of a sequence, each of them in a grammar of its own, come to the
same, if in the matches of the parts no name is plain in one and a list name in another. -/
theorem Within.agrees_of_regroups (hwithin : draft.Within other) (hdraft : draft.Coherent)
    (hother : other.Coherent) (hfirst : draft.build = .ok first)
    (hsecond : other.build = .ok second) (hbuilds : first.Builds)
    (hparts : Expr.Regroups parts gathered) (hothers : Expr.Regroups others gathered)
    {identity own : Nat} (hid : (⟨identity, .sequence parts none⟩ : Expr).CompilesTo first.nodes
      first.ruleNames skip id)
    (htwin : (⟨own, .sequence others none⟩ : Expr).CompilesTo second.nodes second.ruleNames
      skip twin) {offset : Nat}
    (hoffset : text.IsBoundary offset)
    (hcompatible : ∀ founds, Matcher.row (gathered.map (first.meaning text skip)) offset =
      .ended founds → (founds.map Match.results).Pairwise Results.Compatible) :
    first.Agrees True True second text id twin offset ∧
      (first.NeverEnds text id offset ↔ second.NeverEnds text twin offset) := by
  have hlowers := lowersTo_of_compile hdraft (build_eq_ok_iff.mp hfirst).1
  have htwins := lowersTo_of_compile hother (build_eq_ok_iff.mp hsecond).1
  have hone : ∀ part ∈ parts, ∃ id, part.CompilesTo first.nodes first.ruleNames skip id :=
    fun part hpart ↦ hid.exists_part hpart
  have htwo : ∀ part ∈ others, ∃ id, part.CompilesTo second.nodes second.ruleNames skip id :=
    fun part hpart ↦ htwin.exists_part hpart
  have hsame : gathered.map (second.meaning text skip) =
      gathered.map (first.meaning text skip) := by
    refine List.map_congr_left fun part hpart ↦ ?_
    obtain ⟨one, hone⟩ := hparts.forall_compiles hone part hpart
    obtain ⟨two, htwo⟩ := hothers.forall_compiles htwo part hpart
    exact (hwithin.meaning_eq hlowers htwins text hone htwo).symm
  obtain ⟨kind, huniform⟩ : ∃ kind, ∀ founds,
      Matcher.row (gathered.map (first.meaning text skip)) offset = .ended founds →
        ∀ found ∈ founds, found.results.Uniform kind := by
    match hrow : Matcher.row (gathered.map (first.meaning text skip)) offset with
    | .never | .halted halt => exact ⟨fun _ ↦ true, fun _ hended ↦ (nomatch hended)⟩
    | .ended founds =>
      have hbuilt := hlowers.built_of_row hbuilds (hparts.forall_compiles hone) hoffset hrow
      have hnodup : ∀ results ∈ founds.map Match.results, (results.names.map Slot.name).Nodup :=
        List.forall_mem_map.mpr fun found hfound ↦ (hbuilt found hfound).sound.names.nodup
      obtain ⟨kind, hkind⟩ := Results.exists_kind hnodup (hcompatible founds hrow)
      refine ⟨kind, fun again hended found hfound ↦ ?_⟩
      rw [← Ending.ended.inj hended] at hfound
      exact hkind _ (List.mem_map_of_mem hfound)
  have hending : first.ending text id offset = second.ending text twin offset := by
    rw [hlowers.ending_eq_meaning text hid, htwins.ending_eq_meaning text htwin,
      hlowers.meaning_sequence text hid, htwins.meaning_sequence text htwin]
    refine Matcher.Totals.unique (hlowers.totals_of_regroups text kind hparts hone 0
      (.nothing offset)) ?_ huniform
    have htotals := htwins.totals_of_regroups text kind hothers htwo 0 (.nothing offset)
    rwa [hsame] at htotals
  refine ⟨Grammar.agrees_of_ending (Or.inr (.of_eq hending)), ?_⟩
  rw [← Grammar.ending_eq_never_iff, ← Grammar.ending_eq_never_iff, hending]

/-- Results are put together as in a monoid. Results that are made by the operations may be put
together in either grouping, if no name is plain in one of them and a list name in another, and
nothing before or after them changes nothing. So the parts of a sequence without a commit point may
be grouped into sequences in any way: if in the matches of the parts no name is plain in one and a
list name in another, both groupings match up to the same offset with the same results, or fail or
end alike; this leaves evaluations aside that the limit on the depth stops, but if a greater limit
lets the one end, it lets the other one end as well. -/
theorem extend_regroups :
    (∀ results other last : Results, results.Built → other.Built → last.Built →
      results.Compatible other → results.Compatible last → other.Compatible last →
        (results.extend other).extend last = results.extend (other.extend last)) ∧
    (∀ results : Results, results.Built → Results.empty.extend results = results ∧
      results.extend .empty = results) ∧
    ∀ (draft other : Draft) (first second : Grammar) (text : Text) (parts
      others gathered : List Expr) (skip : Option CharSet) (identity own : Nat) (id twin : NodeId)
        (offset : Nat), draft.Coherent → other.Coherent →
      draft.build = .ok first → other.build = .ok second → draft.Within other → first.Builds →
      Expr.Regroups parts gathered → Expr.Regroups others gathered →
      (⟨identity, .sequence parts none⟩ : Expr).CompilesTo first.nodes first.ruleNames skip id →
      (⟨own, .sequence others none⟩ : Expr).CompilesTo second.nodes second.ruleNames skip twin →
      text.IsBoundary offset →
      (∀ founds, Matcher.row (gathered.map (first.meaning text skip)) offset = .ended founds →
        (founds.map Match.results).Pairwise Results.Compatible) →
      first.Agrees True True second text id twin offset ∧
        (first.NeverEnds text id offset ↔ second.NeverEnds text twin offset) := by
  refine ⟨fun _ _ _ hresults hother hlast ↦ hresults.extend_assoc hother hlast,
    fun results hresults ↦ ⟨?_, ?_⟩, ?_⟩
  · exact Results.empty_extend hresults.sound.names.nodup
  · exact results.extend_empty
  · intro draft other first second text parts others gathered skip identity own id twin
      offset hdraft hother hfirst hsecond hwithin hbuilds hparts hothers hid
        htwin hoffset hcompatible
    exact hwithin.agrees_of_regroups hdraft hother hfirst hsecond hbuilds hparts hothers hid
      htwin hoffset hcompatible

end Draft

/-! ### Two letters -/

/-- Two letters, both of them under a list name, where the first one may be a group of its own. -/
def Draft.grouped (nested : Bool) (maxDepth : Nat) : Build Draft := do
  let letter ← Expr.literal "a"
  let item ← letter.withName "x" true
  let group ← Expr.sequence [item]
  let whole ← Expr.sequence [if nested then group else item, item]
  pure { entry := some (.expr whole), config := { packrat := false, maxDepth := maxDepth } }

/-- The grammar of two letters that are not grouped. -/
def Grammar.ungrouped (maxDepth : Nat) : Grammar where
  nodes := #[.terminal (.literal "a" false) (some .blanks) "Expected \"a\"", .named 0 "x" true,
    .sequence [1, 1] none]
  ruleNames := []
  ruleBodies := []
  entry := some 2
  config := { packrat := false, maxDepth := maxDepth }

/-- The grammar of two letters of which the first one is a group. -/
def Grammar.grouped (maxDepth : Nat) : Grammar where
  nodes := #[.terminal (.literal "a" false) (some .blanks) "Expected \"a\"", .named 0 "x" true,
    .sequence [1] none, .sequence [2, 1] none]
  ruleNames := []
  ruleBodies := []
  entry := some 3
  config := { packrat := false, maxDepth := maxDepth }

namespace Draft

theorem coherent_grouped (nested : Bool) (maxDepth next : Nat) :
    (grouped nested maxDepth next).1.Coherent := by
  have hdraws : Build.Draws (fun _ ↦ False) (grouped nested maxDepth) Drawn := by
    refine Build.draws_bind (Build.draws_leaf fun _ ↦ rfl) fun letter one _ hletter ↦ ?_
    refine Build.draws_bind (Build.draws_around (fun _ ↦ rfl) hletter) fun item two _ hitem ↦ ?_
    refine Build.draws_bind (Build.draws_sequence (List.forall_mem_singleton.mpr hitem) none)
      fun group three hthree hgroup ↦ ?_
    have hparts : ∀ part ∈ [if nested then group else item, item], three part := by
      cases nested <;> simp [hgroup, hthree item hitem]
    refine Build.draws_bind (Build.draws_sequence hparts none) fun whole drawn _ hwhole ↦
      Build.draws_pure _ ⟨fun _ hbody ↦ (nomatch hbody), fun entry hentry ↦ ?_⟩
    obtain rfl := EntryPoint.expr.inj (Option.some.inj hentry)
    exact hwhole
  exact hdraws.coherent next

theorem build_grouped : (grouped true 3 0).1.build = .ok (Grammar.grouped 3) := by
  cbv

theorem build_ungrouped : (grouped false 3 0).1.build = .ok (Grammar.ungrouped 3) := by
  cbv

/-- Nothing is given to two letters from outside. -/
theorem builds_ungrouped : (Grammar.ungrouped 3).Builds := by
  constructor
  · intro id child token hnode
    have hmem := (Grammar.ungrouped 3).node_mem_or_eq_empty id
    rw [hnode] at hmem
    simp [Grammar.ungrouped] at hmem
  · intro id child actions skip hnode
    have hmem := (Grammar.ungrouped 3).node_mem_or_eq_empty id
    rw [hnode] at hmem
    simp [Grammar.ungrouped] at hmem

/-- Each of the two letters is under the list name, with results of its own. -/
theorem row_ungrouped :
    let results := (Results.ofToken (.str "a")).setName "x" true
    let text := Text.ofChars ['a', 'a']
    let item : Expr := ⟨1, .named ⟨0, .terminal (.literal "a" false)⟩ "x" true⟩
    Matcher.row ([item, item].map ((Grammar.ungrouped 3).meaning text
      (grouped false 3 0).1.config.skip)) 0 = .ended [⟨1, results⟩, ⟨2, results⟩] := by
  intro results text item
  have hlowers := lowersTo_of_compile (coherent_grouped false 3 0)
    (build_eq_ok_iff.mp build_ungrouped).1
  obtain ⟨id, hentry, hid⟩ := hlowers.exists_entry rfl (.expr _)
  obtain rfl := Option.some.inj hentry
  obtain ⟨node, ids, hnode, hshape, hchildren⟩ := hid.lowers
  obtain rfl := Option.some.inj hnode
  cases hshape
  have hitem : (Grammar.ungrouped 3).ending text 1 =
      (Grammar.ungrouped 3).meaning text (grouped false 3 0).1.config.skip item :=
    hlowers.ending_eq_meaning text (List.forall₂_cons.mp hchildren).1
  have hzero : (Grammar.ungrouped 3).ending text 1 0 = .ended ⟨1, results⟩ :=
    Deepening.ending_of_outcome _ 10 (by cbv) (not_isLimited_ok _)
  have hone : (Grammar.ungrouped 3).ending text 1 1 = .ended ⟨2, results⟩ :=
    Deepening.ending_of_outcome _ 10 (by cbv) (not_isLimited_ok _)
  rw [hitem] at hzero hone
  rw [List.map_cons, Matcher.row, hzero, Ending.ended_bind, List.map_cons, Matcher.row, hone]
  rfl

/-- Two letters under one list name match with the same names, whether the first one is a group or
not. -/
theorem extend_regroups_grouped :
    let results := (Results.ofToken (.str "a")).setName "x" true
    let text := Text.ofChars ['a', 'a']
    let item : Expr := ⟨1, .named ⟨0, .terminal (.literal "a" false)⟩ "x" true⟩
    results.Built ∧ results.Compatible results ∧
      (results.extend results).extend results = results.extend (results.extend results) ∧
      Results.empty.extend results = results ∧ results.extend .empty = results ∧
      (grouped false 3 0).1.build = .ok (Grammar.ungrouped 3) ∧
      (grouped true 3 0).1.build = .ok (Grammar.grouped 3) ∧ (Grammar.ungrouped 3).Builds ∧
      (grouped false 3 0).1.Within (grouped true 3 0).1 ∧ Expr.Regroups [item, item] [item, item] ∧
      Expr.Regroups [⟨2, .sequence [item] none⟩, item] [item, item] ∧
      ((Grammar.ungrouped 3).trace text 4 2 0).outcome.isOk = true ∧
      (Grammar.ungrouped 3).Agrees True True (Grammar.grouped 3) text 2 3 0 := by
  intro results text item
  have hbuilt : results.Built := .setName (.ofToken (.scalar rfl)) "x" true
  have hself := Results.compatible_self hbuilt.sound.names.nodup
  have hlowers := lowersTo_of_compile (coherent_grouped false 3 0)
    (build_eq_ok_iff.mp build_ungrouped).1
  have htwins := lowersTo_of_compile (coherent_grouped true 3 0)
    (build_eq_ok_iff.mp build_grouped).1
  obtain ⟨id, hentry, hid⟩ := hlowers.exists_entry rfl (.expr _)
  obtain ⟨twin, htwin, hwhole⟩ := htwins.exists_entry rfl (.expr _)
  obtain rfl := Option.some.inj hentry
  obtain rfl := Option.some.inj htwin
  have hwithin : (grouped false 3 0).1.Within (grouped true 3 0).1 :=
    ⟨fun name body hbody ↦ (nomatch hbody), rfl⟩
  have hflat : Expr.Regroups [item, item] [item, item] := .refl _
  have hnested : Expr.Regroups [⟨2, .sequence [item] none⟩, item] [item, item] :=
    .group 2 (.refl [item]) (.refl [item])
  obtain ⟨hassoc, hunits, hregroups⟩ := extend_regroups
  refine ⟨hbuilt, hself, hassoc _ _ _ hbuilt hbuilt hbuilt hself hself hself, (hunits _ hbuilt).1,
    (hunits _ hbuilt).2, build_ungrouped, build_grouped, builds_ungrouped, hwithin,
    hflat, hnested, by cbv, ?_⟩
  obtain ⟨hagrees, -⟩ := hregroups _ _ _ _ text _ _ _ _ _ _ _ _ 0 (coherent_grouped false 3 0)
    (coherent_grouped true 3 0) build_ungrouped build_grouped hwithin builds_ungrouped hflat hnested
    hid hwhole text.isBoundary_zero fun founds hrow ↦ by
      rw [← Ending.ended.inj (row_ungrouped.symm.trans hrow)]
      simpa using hself
  exact @hagrees

/-- The limit on the depth may stop a grouping of a sequence that is not stopped itself. -/
theorem regrouped_hits_limit :
    let text := Text.ofChars ['a', 'a']
    let item : Expr := ⟨1, .named ⟨0, .terminal (.literal "a" false)⟩ "x" true⟩
    (grouped false 3 0).1.entry = some (.expr ⟨3, .sequence [item, item] none⟩) ∧
      (grouped true 3 0).1.entry = some
      (.expr ⟨3, .sequence [⟨2, .sequence [item] none⟩, item] none⟩) ∧
      (grouped false 3 0).1.build = .ok (Grammar.ungrouped 3) ∧
      (grouped true 3 0).1.build = .ok (Grammar.grouped 3) ∧
        ((Session.start (Grammar.ungrouped 3) text).answer (.parse false)).1 =
        .ok (.results ⟨[.str "a", .str "a"], [⟨"x", [⟨0, 1⟩, ⟨1, 2⟩], true⟩]⟩) ∧
      ((Session.start (Grammar.grouped 3) text).answer (.parse false)).1 =
      .error (.recursionLimit 0 3) := by
  refine ⟨rfl, rfl, build_ungrouped, build_grouped, ?_, ?_⟩
  · cbv
  · cbv

end Draft

end Packrat
