import Packrat.Proofs.Grammar.Descending
import Packrat.Proofs.Grammar.Supply
import Packrat.Proofs.Operators.Trees

/-!
# Grammars of operator rows

Rows of operators make a table of literals over whole numbers with the usual brackets
(`OperatorTable.ofRows`), and a draft all of whose rules come from the table (`Draft.ofRows`).
Without identities this draft can be written down directly (`Draft.layers`): there is one rule for
atoms, one for each row, and one for the whole, and every rule starts with earlier rules only. So
the draft builds (`Draft.exists_build_of_rows`).
-/

set_option autoImplicit false
set_option relaxedAutoImplicit false

namespace Packrat

/-! ### Tables and drafts of rows -/

def OperatorRow.level (row : OperatorRow) : Build OperatorLevel := do
  let operator ← Expr.literal row.symbol
  pure { operator := operator, fixity := row.fixity }

/-- The table of some rows over whole numbers, with the usual brackets. -/
def OperatorTable.ofRows (rows : List OperatorRow) : Build OperatorTable := do
  let operand ← Expr.numeral .natural
  let brackets ← OperatorTable.parentheses
  let levels ← rows.mapM OperatorRow.level
  pure { operand := operand, levels := levels, brackets := some brackets }

/-- The draft of some rows: the rules of their table, of which the last one is the entry. -/
def Draft.ofRows (config : Config) (name : String) (rows : List OperatorRow) : Build Draft := do
  let table ← OperatorTable.ofRows rows
  let draft ← Draft.operators { config := config } name table
  pure (draft.entryPoint name)

/-! ### The rules without identities -/

/-- The name of the rule of a level. Level zero is that of atoms. -/
def levelName (name : String) : Nat → String
  | 0 => name ++ ".atom"
  | level + 1 => name ++ ".level" ++ toString (level + 1)

/-- A literal without an identity of its own. -/
abbrev plainLiteral (symbol : String) : Expr := ⟨0, .terminal (.literal symbol false)⟩

/-- A use of a rule without an identity of its own. -/
abbrev plainRule (name : String) : Expr := ⟨0, .rule name⟩

/-- A number without an identity of its own. -/
abbrev plainNumber : Expr := ⟨0, .terminal (.numeral .natural)⟩

namespace OperatorRow

/-- The parts of one use of a row, given the operands of the level before it and of its own
level. -/
def parts (row : OperatorRow) (tighter this : Expr) : List Expr :=
  let symbol := plainLiteral row.symbol
  match row.fixity with
  | .between .left => [tighter, ⟨0, .repetition ⟨0, .sequence [symbol, tighter] none⟩ 1 none⟩]
  | .between .right => [tighter, ⟨0, .repetition ⟨0, .sequence [symbol, this] none⟩ 1 none⟩]
  | .between .none => [tighter, symbol, tighter]
  | .before => [symbol, this]
  | .after => [tighter, ⟨0, .repetition symbol 1 none⟩]

/-- The rule body of a row: one use of it, or what is tighter. -/
def body (row : OperatorRow) (tighter this : String) : Expr :=
  ⟨0, .choice [⟨0, .group ⟨0, .sequence (row.parts (plainRule tighter) (plainRule this)) none⟩⟩,
    plainRule tighter]⟩

end OperatorRow

/-- The rule body of atoms: a number, or the whole in parentheses. -/
def atomBody (name : String) : Expr :=
  ⟨0, .choice [plainNumber, ⟨0, .sequence [⟨0, .suppress (plainLiteral "(")⟩, plainRule name,
    ⟨0, .suppress (plainLiteral ")")⟩] none⟩]⟩

/-- The rules of rows, the first of which stands at the given level. -/
def rowRules (name : String) (level : Nat) (rows : List OperatorRow) : List (String × Expr) :=
  rows.mapIdx fun index row ↦ (levelName name (level + index + 1),
    row.body (levelName name (level + index)) (levelName name (level + index + 1)))

/-- The draft of some rows without identities. -/
def Draft.layers (config : Config) (name : String) (rows : List OperatorRow) : Draft where
  rules := (levelName name 0, atomBody name) :: rowRules name 0 rows ++
    [(name, plainRule (levelName name rows.length))]
  entry := some (.rule name)
  config := config

/-- A level is that of a row: its operator is the literal of the row, and there is no action. -/
def OperatorLevel.IsOf (row : OperatorRow) (level : OperatorLevel) : Prop :=
  ∃ identity, level =
    { operator := ⟨identity, .terminal (.literal row.symbol false)⟩, fixity := row.fixity }

theorem forall₂_mapM_level (rows : List OperatorRow) (next : Nat) :
    List.Forall₂ OperatorLevel.IsOf rows ((rows.mapM OperatorRow.level : Build _) next).1 := by
  induction rows generalizing next with
  | nil => exact .nil
  | cons row rest ih =>
    rw [List.mapM_cons]
    exact .cons ⟨next, rfl⟩ (ih (next + 1))

/-- The rule body of a row's level, without identities. -/
theorem anonymous_levelBody {row : OperatorRow} {level : OperatorLevel} (hlevel : level.IsOf row)
    (tighter this : String) (first second next : Nat) :
    ((OperatorTable.levelBody level ⟨first, .rule tighter⟩ ⟨second, .rule this⟩) next).1.anonymous =
      row.body tighter this := by
  obtain ⟨identity, rfl⟩ := hlevel
  obtain ⟨symbol, fixity⟩ := row
  match fixity with
  | .between .left => rfl
  | .between .right => rfl
  | .between .none => rfl
  | .before => rfl
  | .after => rfl

/-- The rules of levels that are made of rows, without identities, and the name of the last one. -/
theorem anonymous_levelRules (name : String) {rows : List OperatorRow} {levels : List OperatorLevel}
    (hlevels : List.Forall₂ OperatorLevel.IsOf rows levels) :
    ∀ level next : Nat,
      let made := (OperatorTable.levelRules name (level + 1) (levelName name level) levels next).1
      (made.1.map fun rule ↦ (rule.1, rule.2.anonymous)) = rowRules name level rows ∧
        made.2 = levelName name (level + rows.length) := by
  induction hlevels with
  | nil => exact fun _ _ ↦ ⟨rfl, rfl⟩
  | @cons row first rows levels hfirst _ ih =>
    intro level next
    obtain ⟨hrules, hlast⟩ := ih (level + 1) ((OperatorTable.levelBody first
      ⟨next, .rule (levelName name level)⟩ ⟨next + 1, .rule (levelName name (level + 1))⟩
      (next + 2)).2)
    have hbody := anonymous_levelBody hfirst (levelName name level)
      (levelName name (level + 1)) next (next + 1) (next + 2)
    refine ⟨?_, hlast.trans (by rw [List.length_cons, Nat.add_right_comm, Nat.add_assoc])⟩
    have hshift : rowRules name level (row :: rows) =
        (levelName name (level + 1), row.body (levelName name level)
          (levelName name (level + 1))) :: rowRules name (level + 1) rows := by
      simp [rowRules, Nat.add_right_comm, Nat.add_assoc, Nat.add_comm 1]
    rw [hshift, ← hbody, ← hrules]
    rfl

/-- Without identities the draft of some rows consists of the rules of the rows. -/
theorem Draft.anonymous_ofRows (config : Config) (name : String) (rows : List OperatorRow)
    (next : Nat) :
    ((Draft.ofRows config name rows) next).1.anonymous = Draft.layers config name rows := by
  let made := (rows.mapM OperatorRow.level : Build _) (next + 5)
  let levels := (OperatorTable.levelRules name 1 (levelName name 0) made.1 (made.2 + 4)).1
  obtain ⟨hrules, hlast⟩ :=
    anonymous_levelRules name (forall₂_mapM_level rows (next + 5)) 0 (made.2 + 4)
  have hlast : levels.2 = levelName name rows.length := hlast.trans (by rw [Nat.zero_add])
  have hrules :
      (levels.1.map fun rule ↦ (rule.1, rule.2.anonymous)) = rowRules name 0 rows := hrules
  calc
    ((Draft.ofRows config name rows) next).1.anonymous
      = { rules := ((levelName name 0, atomBody name) :: levels.1.map fun rule ↦
            (rule.1, rule.2.anonymous)) ++ [(name, plainRule levels.2)]
          entry := some (.rule name)
          config := config } := by
        change Draft.mk (List.map _ ((_ :: levels.1) ++ [_])) _ _ = _
        rw [List.map_append]
        rfl
    _ = Draft.layers config name rows := by
        rw [Draft.layers, hlast, hrules]

/-! ### Drafts of rows are drawn -/

theorem OperatorRow.draws_level {known : Expr → Prop} (row : OperatorRow) :
    Build.Draws known row.level fun level drawn ↦ drawn level.operator :=
  Build.draws_bind (Build.draws_leaf fun _ ↦ rfl) fun _ _ _ hoperator ↦ Build.draws_pure _ hoperator

theorem OperatorTable.draws_parentheses {known : Expr → Prop} :
    Build.Draws known parentheses fun pair drawn ↦ drawn pair.1 ∧ drawn pair.2 := by
  refine Build.draws_bind (Build.draws_leaf fun _ ↦ rfl) fun left first _ hleft ↦ ?_
  refine Build.draws_bind (Build.draws_around (fun _ ↦ rfl) hleft)
    fun opening second _ hopening ↦ ?_
  refine Build.draws_bind (Build.draws_leaf fun _ ↦ rfl) fun right third hthird hright ↦ ?_
  refine Build.draws_bind (Build.draws_around (fun _ ↦ rfl) hright)
    fun closing drawn hgrown hclosing ↦ ?_
  exact Build.draws_pure _ ⟨hgrown _ (hthird _ hopening), hclosing⟩

theorem OperatorTable.draws_ofRows {known : Expr → Prop} (rows : List OperatorRow) :
    Build.Draws known (ofRows rows) fun table drawn ↦ table.Drawn drawn := by
  refine Build.draws_bind (Build.draws_leaf fun _ ↦ rfl) fun operand first _ hoperand ↦ ?_
  refine Build.draws_bind draws_parentheses fun pair second hsecond hpair ↦ ?_
  have hlevels : Build.Draws second (rows.mapM OperatorRow.level) fun levels drawn ↦
      ∀ level ∈ levels, drawn level.operator :=
    Build.draws_mapM (fun _ _ _ hgrown hlevel ↦ hgrown _ hlevel) fun row _ _ ↦ row.draws_level
  refine Build.draws_bind hlevels fun levels drawn hgrown hlevels ↦
    Build.draws_pure _ ⟨?_, ?_, hlevels⟩
  · exact hgrown _ (hsecond _ hoperand)
  · rintro other ⟨⟩
    exact ⟨hgrown _ hpair.1, hgrown _ hpair.2⟩

/-- Identities belong to single expressions in the draft of some rows. -/
theorem Draft.coherent_ofRows (config : Config) (name : String) (rows : List OperatorRow)
    (next : Nat) :
    ((Draft.ofRows config name rows) next).1.Coherent := by
  refine Build.Draws.coherent ?_ next
  refine Build.draws_bind (OperatorTable.draws_ofRows rows) fun table first _ htable ↦ ?_
  refine Build.draws_bind (draws_operators ⟨?_, ?_⟩ htable name) fun draft drawn _ hdraft ↦
    Build.draws_pure _ ⟨hdraft.1, ?_⟩
  · exact fun _ hbody ↦ absurd hbody List.not_mem_nil
  · rintro expr ⟨⟩
  · rintro expr ⟨⟩

/-! ### Rules by name and number -/

theorem levelName_injective (name : String) : Function.Injective (levelName name) := by
  have hlevel {level other : Nat} (hsame : levelName name (level + 1) =
      levelName name (other + 1)) :
      level = other := by
    have hdigits : Nat.toDigits 10 (level + 1) = Nat.toDigits 10 (other + 1) := by
      have hchars := congrArg String.toList hsame
      simpa [levelName, Nat.toString_eq_ofList_toDigits] using hchars
    have hvalue := congrArg (Nat.ofDigitChars 10 · 0) hdigits
    simpa using hvalue
  have hatom (level : Nat) : levelName name 0 ≠ levelName name (level + 1) := by
    intro hsame
    have hchars := congrArg String.toList hsame
    simp [levelName] at hchars
  intro level other hsame
  match level, other with
  | 0, 0 => rfl
  | 0, other + 1 => exact absurd hsame (hatom other)
  | level + 1, 0 => exact absurd hsame.symm (hatom level)
  | level + 1, other + 1 => exact congrArg Nat.succ (hlevel hsame)

theorem levelName_ne (name : String) (level : Nat) : levelName name level ≠ name := by
  intro hsame
  have hlength := congrArg (fun string : String ↦ string.toList.length) hsame
  cases level with
  | zero => simp [levelName] at hlength
  | succ level => simp [levelName] at hlength

namespace Draft

variable {config : Config} {name : String} {rows : List OperatorRow}

theorem ruleNames_layers (config : Config) (name : String) (rows : List OperatorRow) :
    (layers config name rows).ruleNames =
      (List.range (rows.length + 1)).map (levelName name) ++ [name] := by
  have hrows : (rowRules name 0 rows).map Prod.fst =
      (List.range rows.length).map fun level ↦ levelName name (level + 1) := by
    exact List.ext_getElem (by simp [rowRules]) (by simp [rowRules])
  simp [ruleNames, layers, hrows, List.range_succ_eq_map, Function.comp_def]

theorem nodup_ruleNames_layers (config : Config) (name : String) (rows : List OperatorRow) :
    (layers config name rows).ruleNames.Nodup := by
  rw [ruleNames_layers]
  refine List.nodup_append.mpr ⟨?_, List.nodup_singleton _, ?_⟩
  · exact List.nodup_range.map (levelName_injective name)
  · rintro other hother _ hname rfl
    obtain ⟨level, -, hlevel⟩ := List.mem_map.mp hother
    exact levelName_ne name level (hlevel.trans (List.mem_singleton.mp hname))

theorem getElem?_layers_atom (config : Config) (name : String) (rows : List OperatorRow) :
    (layers config name rows).rules[0]? = some (levelName name 0, atomBody name) := rfl

theorem getElem?_layers_row (config : Config) (name : String) {level : Nat} {row : OperatorRow}
    (hrow : rows[level]? = some row) :
    (layers config name rows).rules[level + 1]? = some (levelName name (level + 1),
      row.body (levelName name level) (levelName name (level + 1))) := by
  have hlevel : level < rows.length := (List.getElem?_eq_some_iff.mp hrow).1
  have hlength : (rowRules name 0 rows).length = rows.length := List.length_mapIdx
  rw [layers, List.cons_append, List.getElem?_cons_succ,
    List.getElem?_append_left (hlength ▸ hlevel)]
  simp [rowRules, List.getElem?_mapIdx, hrow]

theorem getElem?_layers_whole (config : Config) (name : String) (rows : List OperatorRow) :
    (layers config name rows).rules[rows.length + 1]? =
      some (name, plainRule (levelName name rows.length)) := by
  have hlength : (rowRules name 0 rows).length = rows.length := List.length_mapIdx
  rw [layers, List.cons_append, List.getElem?_cons_succ,
    List.getElem?_append_right hlength.le, hlength, Nat.sub_self]
  rfl

/-- There are no other rules than those of atoms, of rows and of the whole. -/
theorem bodies_layers {rule : Nat} {body : Expr}
    (hbody : ((layers config name rows).rules.map Prod.snd)[rule]? = some body) :
    (rule = 0 ∧ body = atomBody name) ∨
      (∃ level row, rule = level + 1 ∧ rows[level]? = some row ∧
        body = row.body (levelName name level) (levelName name (level + 1))) ∨
      (rule = rows.length + 1 ∧ body = plainRule (levelName name rows.length)) := by
  rw [List.getElem?_map, Option.map_eq_some_iff] at hbody
  obtain ⟨found, hfound, rfl⟩ := hbody
  have hlength : (layers config name rows).rules.length = rows.length + 2 := by
    simp [layers, rowRules]
  have hrule : rule < rows.length + 2 := hlength ▸ (List.getElem?_eq_some_iff.mp hfound).1
  rcases rule with _ | level
  · obtain rfl := Option.some.inj ((getElem?_layers_atom config name rows).symm.trans hfound)
    exact Or.inl ⟨rfl, rfl⟩
  · by_cases hlevel : level < rows.length
    · have hrow := List.getElem?_eq_getElem hlevel
      obtain rfl := Option.some.inj ((getElem?_layers_row config name hrow).symm.trans hfound)
      exact Or.inr (Or.inl ⟨level, _, rfl, hrow, rfl⟩)
    · obtain rfl : level = rows.length := by omega
      obtain rfl := Option.some.inj ((getElem?_layers_whole config name rows).symm.trans hfound)
      exact Or.inr (Or.inr ⟨rfl, rfl⟩)

theorem idxOf?_levelName (config : Config) (name : String) {rows : List OperatorRow} {level : Nat}
    (hlevel : level ≤ rows.length) :
    (layers config name rows).ruleNames.idxOf? (levelName name level) = some level := by
  have hdistinct := nodup_ruleNames_layers config name rows
  cases level with
  | zero => exact idxOf?_ruleNames hdistinct (getElem?_layers_atom config name rows)
  | succ level =>
    exact idxOf?_ruleNames hdistinct
      (getElem?_layers_row config name (List.getElem?_eq_getElem hlevel))

/-! ### Drafts of rows build -/

/-- A shape has nothing wrong with it and consumes something. -/
def Usable (names : List String) (shape : Shape) : Prop := shape.IsSound names ∧ shape.Consumes

theorem not_isEmptyLiteral {symbol : String} (hsymbol : symbol.toList ≠ []) :
    ¬ Terminal.IsEmptyLiteral (.literal symbol false) := by
  rintro (hempty | hempty)
  · cases hempty
  · cases hempty
    exact hsymbol rfl

theorem usable_atomBody {names : List String} (hname : name ∈ names) :
    (atomBody name).Throughout (Usable names) := by
  simp [atomBody, Expr.throughout_iff, Usable, Shape.IsSound, Shape.Consumes, Shape.children, hname,
    Compile.fault?, Terminal.IsEmptyLiteral]

/-- The body of a row is usable if its operator is not empty. -/
theorem usable_body {row : OperatorRow} (hsymbol : row.symbol.toList ≠ []) {names : List String}
    {tighter this : String} (htighter : tighter ∈ names) (hthis : this ∈ names) :
    (row.body tighter this).Throughout (Usable names) := by
  have hproper := not_isEmptyLiteral hsymbol
  obtain ⟨symbol, fixity⟩ := row
  rcases fixity with _ | ⟨_ | _ | _⟩ | _
  all_goals
    simp [OperatorRow.body, OperatorRow.parts, Expr.throughout_iff, Usable,
      Shape.IsSound, Shape.Consumes, Shape.children, Compile.fault?, hproper, htighter, hthis]

/-- Everything in the draft of suitable rows is usable. -/
theorem usable_layers (config : Config) (name : String) (hsuitable : Suitable rows)
    {skip : Option CharSet} {expr : Expr} (hcovers : (layers config name rows).Covers skip expr) :
    expr.Throughout (Usable (layers config name rows).ruleNames) := by
  have hnames := ruleNames_layers config name rows
  have hwhole : name ∈ (layers config name rows).ruleNames := by simp [hnames]
  have hlevel {level : Nat} (hlevel : level ≤ rows.length) :
      levelName name level ∈ (layers config name rows).ruleNames := by
    rw [hnames]
    exact List.mem_append_left _ (List.mem_map_of_mem
      (List.mem_range.mpr (Nat.lt_succ_of_le hlevel)))
  have huse {own : String} (identity : Nat) (hown : own ∈ (layers config name rows).ruleNames) :
      (⟨identity, .rule own⟩ : Expr).Throughout (Usable (layers config name rows).ruleNames) :=
    Expr.throughout_iff.mpr ⟨⟨hown, True.intro⟩, fun _ hchild ↦ absurd hchild List.not_mem_nil⟩
  cases hcovers with
  | entry hentry hmeans =>
    obtain rfl := Option.some.inj hentry
    cases hmeans with
    | rule name identity => exact huse identity hwhole
  | reaches hreaches =>
    refine hreaches.throughout (fun body hbody ↦ ?_) (by rintro entry ⟨⟩)
    obtain ⟨rule, hrule⟩ := List.getElem?_of_mem hbody
    rcases bodies_layers hrule with ⟨-, rfl⟩ | ⟨level, row, -, hrow, rfl⟩ | ⟨-, rfl⟩
    · exact usable_atomBody hwhole
    · have hinside : level < rows.length := (List.getElem?_eq_some_iff.mp hrow).1
      exact usable_body (hsuitable.nonempty row (List.mem_of_getElem? hrow)) (hlevel hinside.le)
        (hlevel hinside)
    · exact huse 0 (hlevel (Nat.le_refl _))

/-- The rules of rows start with earlier ones only. -/
theorem startsBelow_layers {rule : Nat} {body : Expr}
    (hbody : ((layers config name rows).rules.map Prod.snd)[rule]? = some body) :
    body.StartsBelow (layers config name rows).ruleNames rule := by
  rcases bodies_layers hbody with ⟨rfl, rfl⟩ | ⟨level, row, rfl, hrow, rfl⟩ | ⟨rfl, rfl⟩
  · simp [atomBody, Expr.startsBelow_iff, Shape.leading, Shape.children]
  · have hinside : level < rows.length := (List.getElem?_eq_some_iff.mp hrow).1
    have htighter (other : String) (number : Nat) (hother : levelName name level = other)
        (hnumber : (layers config name rows).ruleNames.idxOf? other = some number) :
        number < level + 1 := by
      rw [← hother, idxOf?_levelName config name hinside.le] at hnumber
      exact Nat.lt_succ_of_le (Option.some.inj hnumber).ge
    obtain ⟨symbol, fixity⟩ := row
    rcases fixity with _ | ⟨_ | _ | _⟩ | _
    all_goals
      simpa [OperatorRow.body, OperatorRow.parts, Expr.startsBelow_iff,
        Shape.leading, Shape.children] using htighter
  · exact Expr.startsBelow_rule (idxOf?_levelName config name (Nat.le_refl _)) (Nat.lt_succ_self _)

/-- The draft of suitable rows builds, whatever identities it uses, and the grammar is what its
rules have become. -/
theorem exists_build_of_rows {draft : Draft} (hsuitable : Suitable rows)
    (hcoherent : draft.Coherent) (hsame : draft.anonymous = layers config name rows) :
    ∃ grammar, draft.build = .ok grammar ∧ (layers config name rows).LowersTo grammar := by
  have hnames : draft.ruleNames = (layers config name rows).ruleNames := by
    rw [← hsame, ruleNames_anonymous]
  have hrules : draft.rules ≠ [] := by
    intro hempty
    have hnone := congrArg (fun draft : Draft ↦ draft.rules) hsame
    simp [anonymous, hempty, layers] at hnone
  rw [← hsame]
  refine exists_build_of_descending hcoherent (Or.inr hrules) ?_ ?_ ?_ ?_
  · exact hnames ▸ nodup_ruleNames_layers config name rows
  · rw [hsame, hnames]
    exact fun skip expr hcovers ↦ (usable_layers config name hsuitable hcovers).imp fun _ ↦ And.left
  · rw [hsame]
    exact fun skip expr hcovers ↦ (usable_layers config name hsuitable hcovers).imp
      fun _ ↦ And.right
  · rw [hsame, hnames]
    exact fun rule body hbody ↦ startsBelow_layers hbody

end Draft

end Packrat
