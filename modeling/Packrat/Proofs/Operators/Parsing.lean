import Packrat.Proofs.Matching.Takes
import Packrat.Proofs.Operators.Tables
import Packrat.Proofs.Session.Meaning

/-!
# Operator trees are parsed as they are written

A tree that is layered by suitable rows is written with any blanks between its lexemes. The rule of
its level takes the tree as it is written, before anything that closes the level, and yields the
token for which the tree stands (`OperatorTree.Layered.takes`). At every level there is one choice
to make, whether the row is used; it is not where there is only something tighter (`leaves_use`).

So the grammar of the rows parses every such tree, up to blanks at the end of the text, unless it is
stopped by the limit on the depth (`Draft.parse_ofRows`).
-/

set_option autoImplicit false
set_option relaxedAutoImplicit false

namespace Packrat

open Draft

/-! ### Numbers and operators -/

/-- A number that fits is scanned up to the end of its digits. -/
theorem Numeral.scan_natural {value : Nat} (hvalue : fitsInt64 value = true) {tail : List Char}
    (htail : ∀ c ∈ tail.head?, isDigit c = false) :
    Numeral.natural.scan (Nat.toDigits 10 value ++ tail) =
      some (Nat.toDigits 10 value, .int (Int64.ofNat value)) := by
  have hwhole : Numeral.natural.Whole [] (Nat.toDigits 10 value) tail :=
    whole_toDigits value (Or.inl rfl) fun c hc ↦ Bool.eq_false_iff.mp (htail c hc)
  have hscan := scan_of_whole hwhole nofun
  rw [wholeValue_toDigits, if_pos hvalue, Int64.ofInt_eq_ofNat] at hscan
  exact hscan

/-- Nothing is scanned as a number that does not start with a digit. -/
theorem Numeral.scan_natural_eq_none {chars : List Char}
    (hchars : ∀ c ∈ chars.head?, isDigit c = false) :
    Numeral.natural.scan chars = none := by
  cases chars with
  | nil => rfl
  | cons c rest =>
    have hc : isDigit c = false := hchars c rfl
    have hsign : Numeral.natural.sign (c :: rest) = [] := rfl
    simp [scan, hsign, hc]

variable {draft : Draft} {config : Config} {name : String} {rows : List OperatorRow}
  {row : OperatorRow} {symbol : String} {fixity : Fixity} {level : Nat}
    {chars tail blanks : List Char} {tokens : List Token}

theorem takes_literal (hsymbol : symbol.toList ≠ [])
    (hclean : ∀ c ∈ symbol.toList, ¬ IsBlank c) (hblanks : ∀ c ∈ blanks, IsBlank c) :
    draft.Takes .blanks (plainLiteral symbol) (blanks ++ symbol.toList) tail [.str symbol] := by
  refine takes_terminal (not_isEmptyLiteral hsymbol) hblanks (fun c hc ↦ ?_) fun before ↦ ?_
  · rw [List.head?_append_of_ne_nil _ hsymbol] at hc
    exact hclean c (List.mem_of_mem_head? hc)
  · simp [Terminal.scan, stringPrefix, List.isPrefixOf_iff_prefix]

/-- The literal of an operator takes the operator. -/
theorem takes_symbol (hsuitable : Suitable rows) (hrow : ⟨symbol, fixity⟩ ∈ rows)
    (hblanks : ∀ c ∈ blanks, IsBlank c) :
    draft.Takes .blanks (plainLiteral symbol) (blanks ++ symbol.toList) tail [.str symbol] :=
  takes_literal (hsuitable.nonempty _ hrow) (fun c hc ↦ (hsuitable.clean _ hrow c hc).2.1) hblanks

/-- The literal of an operator leaves what avoids the operator. -/
theorem leaves_symbol (hsuitable : Suitable rows) (hrow : ⟨symbol, fixity⟩ ∈ rows)
    (havoids : Avoids symbol chars) : draft.Leaves .blanks (plainLiteral symbol) chars := by
  obtain ⟨blanks, body, rfl, hblanks, hhead, hbody⟩ := havoids
  refine leaves_terminal (not_isEmptyLiteral (hsuitable.nonempty _ hrow)) hblanks hhead
    fun before ↦ ?_
  simp [Terminal.scan, stringPrefix, List.isPrefixOf_iff_prefix, hbody]

/-- The terminal of numbers takes a number that fits. -/
theorem takes_number {value : Nat} (hvalue : fitsInt64 value = true)
    (hblanks : ∀ c ∈ blanks, IsBlank c) (htail : ∀ c ∈ tail.head?, isDigit c = false) :
    draft.Takes .blanks plainNumber (blanks ++ Nat.toDigits 10 value) tail
      [.int (Int64.ofNat value)] := by
  have hscan := Numeral.scan_natural hvalue htail
  refine takes_terminal (by rintro (⟨⟨⟩⟩ | ⟨⟨⟩⟩)) hblanks (fun c hc ↦ ?_)
    fun _ ↦ Scan.ofOption_eq_found_iff.mpr hscan
  rw [List.head?_append_of_ne_nil _ Nat.toDigits_ne_nil] at hc
  exact not_isBlank_of_isDigit (isDigit_of_mem_toDigits (List.mem_of_mem_head? hc))

/-- The terminal of numbers leaves a parenthesis. -/
theorem leaves_number (hblanks : ∀ c ∈ blanks, IsBlank c) :
    draft.Leaves .blanks plainNumber (blanks ++ '(' :: tail) := by
  have hscan : Numeral.natural.scan ('(' :: tail) = none :=
    Numeral.scan_natural_eq_none fun c hc ↦ Option.some.inj hc ▸ by decide
  refine leaves_terminal (by rintro (⟨⟨⟩⟩ | ⟨⟨⟩⟩)) hblanks (fun c hc ↦ ?_)
    fun _ ↦ Scan.ofOption_eq_missing_iff.mpr hscan
  exact Option.some.inj hc ▸ by decide

/-! ### Rules -/

theorem skip_of_blanks (hconfig : config.blanks = .blanks) : config.skip = some .blanks := by
  rw [Config.skip, hconfig]
  rfl

/-- A rule of the rows takes what its body takes. -/
theorem takes_plainRule (hconfig : config.blanks = .blanks) {rule : Nat}
    {own : String} {body : Expr} (hrule : (layers config name rows).rules[rule]? = some (own, body))
    (hbody : (layers config name rows).Takes .blanks body chars tail tokens) :
    (layers config name rows).Takes .blanks (plainRule own) chars tail tokens :=
  takes_rule (skip_of_blanks hconfig)
    (body?_of_getElem? (nodup_ruleNames_layers config name rows) hrule) hbody

abbrev levelRule (name : String) (level : Nat) : Expr := plainRule (levelName name level)

def rowUse (name : String) (level : Nat) (row : OperatorRow) : Expr :=
  ⟨0, .sequence (row.parts (levelRule name level) (levelRule name (level + 1))) none⟩

/-- The rule of a row takes one use of the row as a group. -/
theorem takes_use (hconfig : config.blanks = .blanks) (hrow : rows[level]? = some row)
    (huse : (layers config name rows).Takes .blanks (rowUse name level row) chars tail tokens) :
    (layers config name rows).Takes .blanks (levelRule name (level + 1)) chars tail
      [.group tokens []] :=
  takes_plainRule hconfig (getElem?_layers_row config name hrow)
    (takes_choice_first (takes_group huse))

/-- The rule of a row takes what the level before it takes, where the row is not used. -/
theorem takes_tighter (hconfig : config.blanks = .blanks) (hrow : rows[level]? = some row)
    (huse : (layers config name rows).Leaves .blanks (rowUse name level row) (chars ++ tail))
    (htighter : (layers config name rows).Takes .blanks (levelRule name level) chars tail tokens) :
    (layers config name rows).Takes .blanks (levelRule name (level + 1)) chars tail tokens :=
  takes_plainRule hconfig (getElem?_layers_row config name hrow)
    (takes_choice_second (leaves_group huse) htighter)

/-- The rule of the whole takes what the last level takes. -/
theorem takes_whole (hconfig : config.blanks = .blanks)
    (hlast : (layers config name rows).Takes .blanks (levelRule name rows.length) chars
      tail tokens) :
    (layers config name rows).Takes .blanks (plainRule name) chars tail tokens :=
  takes_plainRule hconfig (getElem?_layers_whole config name rows) hlast

theorem takes_atom_number (hconfig : config.blanks = .blanks) {value : Nat}
    (hvalue : fitsInt64 value = true) (hblanks : ∀ c ∈ blanks, IsBlank c)
    (htail : ∀ c ∈ tail.head?, isDigit c = false) :
    (layers config name rows).Takes .blanks (levelRule name 0)
      (blanks ++ Nat.toDigits 10 value) tail [.int (Int64.ofNat value)] :=
  takes_plainRule hconfig (getElem?_layers_atom config name rows)
    (takes_choice_first (takes_number hvalue hblanks htail))

/-- The rule of atoms takes what is in parentheses. -/
theorem takes_atom_brackets (hconfig : config.blanks = .blanks) {more : List Char}
    (hblanks : ∀ c ∈ blanks, IsBlank c) (hmore : ∀ c ∈ more, IsBlank c)
    (hinner : (layers config name rows).Takes .blanks (levelRule name rows.length) chars
      (more ++ [')'] ++ tail) tokens) :
    (layers config name rows).Takes .blanks (levelRule name 0)
      (blanks ++ ['('] ++ (chars ++ (more ++ [')']))) tail tokens := by
  have hopening : (layers config name rows).Takes .blanks ⟨0, .suppress (plainLiteral "(")⟩
      (blanks ++ ['(']) (chars ++ (more ++ [')']) ++ tail) [] :=
    takes_suppress (takes_literal (by decide) (List.forall_mem_singleton.mpr (by decide)) hblanks)
  have hclosing : (layers config name rows).Takes .blanks ⟨0, .suppress (plainLiteral ")")⟩
      (more ++ [')']) tail [] :=
    takes_suppress (takes_literal (by decide) (List.forall_mem_singleton.mpr (by decide)) hmore)
  have hwhole : (layers config name rows).TakesAll .blanks tail
      [plainRule name, ⟨0, .suppress (plainLiteral ")")⟩] (chars ++ (more ++ [')']))
        (tokens ++ []) :=
    .cons (takes_whole hconfig hinner) (.single hclosing)
  have hleaves : (layers config name rows).Leaves .blanks plainNumber
      (blanks ++ ['('] ++ (chars ++ (more ++ [')'])) ++ tail) := by
    rw [List.append_assoc, List.append_assoc]
    exact leaves_number hblanks
  rw [List.append_nil] at hwhole
  exact takes_plainRule hconfig (getElem?_layers_atom config name rows)
    (takes_choice_second hleaves (takes_sequence (.cons hopening hwhole)))

/-! ### Uses of rows -/

/-- An operator and what comes after it are taken as they are written. -/
theorem takes_applied (hsuitable : Suitable rows) (hrow : ⟨symbol, fixity⟩ ∈ rows) {operand : Expr}
    {lexemes : List (List Char)} (hrenders : Renders (symbol.toList :: lexemes) chars)
    (hoperand : ∀ {after : List Char}, Renders lexemes after →
      draft.Takes .blanks operand after tail tokens) :
    draft.Takes .blanks ⟨0, .sequence [plainLiteral symbol, operand] none⟩ chars tail
      (.str symbol :: tokens) ∧ chars ≠ [] := by
  obtain ⟨blanks, after, rfl, hblanks, hafter⟩ := hrenders.exists_cons
  have hsymbol : symbol.toList ≠ [] := hsuitable.nonempty _ hrow
  constructor
  · exact takes_sequence (.cons (takes_symbol hsuitable hrow hblanks) (.single (hoperand hafter)))
  · simp [hsymbol]

/-- An operator and what comes after it are left where the operator is avoided. -/
theorem leaves_applied (hsuitable : Suitable rows) (hrow : ⟨symbol, fixity⟩ ∈ rows) {operand : Expr}
    (havoids : Avoids symbol chars) :
    draft.Leaves .blanks ⟨0, .sequence [plainLiteral symbol, operand] none⟩ chars :=
  leaves_sequence .nil (leaves_symbol hsuitable hrow havoids)

/-- A row is not used where there is only something tighter: its operator does not come before it if
it should stand there, and does not come after it otherwise. -/
theorem leaves_use (hsuitable : Suitable rows) (hrow : rows[level]? = some row)
    (hopens : Opens rows level (chars ++ tail)) (hcloses : Closes rows (level + 1) tail)
    (htighter : draft.Takes .blanks (levelRule name level) chars tail tokens) :
    draft.Leaves .blanks (rowUse name level row) (chars ++ tail) := by
  obtain ⟨symbol, fixity⟩ := row
  have hmem := List.mem_of_getElem? hrow
  have hafter {part : Expr} {rest : List Expr} (hpart : draft.Leaves .blanks part tail) :
      draft.Leaves .blanks ⟨0, .sequence (levelRule name level :: part :: rest) none⟩
        (chars ++ tail) :=
    leaves_sequence (.single htighter) hpart
  by_cases hbefore : fixity = .before
  · have havoids : Avoids symbol (chars ++ tail) := hsuitable.avoids_of_opens hrow hbefore hopens
    rw [rowUse, OperatorRow.parts, hbefore]
    exact leaves_applied hsuitable hmem havoids
  · have havoids : Avoids symbol tail := hsuitable.avoids_of_closes hrow hbefore hcloses
    have hsymbol : draft.Leaves .blanks (plainLiteral symbol) tail :=
      leaves_symbol hsuitable hmem havoids
    cases fixity with
    | before => exact absurd rfl hbefore
    | after => exact hafter (leaves_repetition hsymbol Nat.one_pos)
    | between grouping =>
      cases grouping with
      | left => exact hafter (leaves_repetition (leaves_applied hsuitable hmem havoids) Nat.one_pos)
      | right =>
        exact hafter (leaves_repetition (leaves_applied hsuitable hmem havoids) Nat.one_pos)
      | none => exact hafter hsymbol

/-- Operands with an operator before each of them are taken round by round. The induction is on the
operands. -/
theorem takesRounds_chain (hsuitable : Suitable rows)
    (hrow : rows[level]? = some ⟨symbol, .between .left⟩) (hcloses : Closes rows (level + 1) tail)
    {rest : List OperatorTree} (hrest : ∀ operand ∈ rest, ∀ {chars tail : List Char},
      Renders operand.lexemes chars → Closes rows level tail →
      draft.Takes .blanks (levelRule name level) chars tail [operand.token]) :
    ∀ {chars : List Char}, Renders (OperatorTree.roundLexemes symbol rest) chars →
      draft.TakesRounds .blanks tail ⟨0, .sequence [plainLiteral symbol, levelRule name level] none⟩
        rest.length chars (OperatorTree.roundTokens symbol rest) := by
  have hmem := List.mem_of_getElem? hrow
  induction rest with
  | nil =>
    rintro chars ⟨⟩
    exact .done (leaves_applied hsuitable hmem (hsuitable.avoids_of_closes hrow (by simp) hcloses))
  | cons operand rest ih =>
    intro chars hrenders
    have hsplit : Renders ((symbol.toList :: operand.lexemes) ++
          OperatorTree.roundLexemes symbol rest)
        chars := hrenders
    obtain ⟨piece, chars, rfl, hpiece, hchars⟩ := hsplit.exists_append
    have hlater : Closes rows level (chars ++ tail) := by
      cases rest with
      | nil =>
        cases hchars
        exact hcloses.mono (Nat.le_succ level)
      | cons next rest => exact closes_symbol hrow (by simp) hchars
    obtain ⟨hround, hsome⟩ := takes_applied hsuitable hmem hpiece
      fun hafter ↦ hrest operand List.mem_cons_self hafter hlater
    exact .round hround hsome (ih (fun other hother ↦ hrest other (List.mem_cons_of_mem _ hother))
      hchars)

/-- An operator several times in a row is taken round by round. The induction is on how often. -/
theorem takesRounds_replicate (hsuitable : Suitable rows)
    (hrow : rows[level]? = some ⟨symbol, .after⟩) (hcloses : Closes rows (level + 1) tail)
    (count : Nat) :
    ∀ {chars : List Char}, Renders (List.replicate count symbol.toList) chars →
      draft.TakesRounds .blanks tail (plainLiteral symbol) count chars
        (List.replicate count (.str symbol)) := by
  have hmem := List.mem_of_getElem? hrow
  induction count with
  | zero =>
    rintro chars ⟨⟩
    exact .done (leaves_symbol hsuitable hmem (hsuitable.avoids_of_closes hrow (by simp) hcloses))
  | succ count ih =>
    intro chars hrenders
    obtain ⟨blanks, chars, rfl, hblanks, hchars⟩ := hrenders.exists_cons
    have hround : draft.Takes .blanks (plainLiteral symbol) (blanks ++ symbol.toList)
        (chars ++ tail) [.str symbol] := takes_symbol hsuitable hmem hblanks
    have hsymbol : symbol.toList ≠ [] := hsuitable.nonempty _ hmem
    exact .round hround (by simp [hsymbol]) (ih hchars)

/-! ### Trees -/

/-- A tree that is layered by suitable rows is taken as it is written by the rule of its level,
before anything that closes the level, and yields its token. The induction is on the layers. -/
theorem OperatorTree.Layered.takes (hconfig : config.blanks = .blanks) (name : String)
    (hsuitable : Suitable rows) {tree : OperatorTree} (htree : tree.Layered rows level) :
    ∀ {chars tail : List Char}, Renders tree.lexemes chars → Closes rows level tail →
      (layers config name rows).Takes .blanks (levelRule name level) chars tail [tree.token] := by
  induction htree with
  | @number value hvalue =>
    intro chars tail hrenders hcloses
    rw [lexemes] at hrenders
    obtain ⟨blanks, after, rfl, hblanks, ⟨⟩⟩ := hrenders.exists_cons
    rw [List.append_nil, token]
    exact takes_atom_number hconfig hvalue hblanks (hsuitable.not_isDigit_of_closes hcloses)
  | @brackets inner hinner ih =>
    intro chars tail hrenders hcloses
    rw [lexemes] at hrenders
    obtain ⟨blanks, after, rfl, hblanks, hafter⟩ := hrenders.exists_cons
    obtain ⟨inside, closing, rfl, hinside, hclosing⟩ := hafter.exists_append
    have htail : Closes rows rows.length (closing ++ tail) := closes_parenthesis hclosing
    obtain ⟨more, _, rfl, hmore, ⟨⟩⟩ := hclosing.exists_cons
    rw [List.append_nil] at htail ⊢
    exact takes_atom_brackets hconfig hblanks hmore (ih hinside htail)
  | @tighter level tree hlevel htree ih =>
    intro chars tail hrenders hcloses
    have hrow := List.getElem?_eq_getElem hlevel
    have htighter := ih hrenders (hcloses.mono (Nat.le_succ level))
    have huse := leaves_use hsuitable hrow (htree.opens hrenders) hcloses htighter
    exact takes_tighter hconfig hrow huse htighter
  | @left level symbol first rest hrow hfirst hmore hrest ih ihrest =>
    intro chars tail hrenders hcloses
    rw [lexemes] at hrenders
    obtain ⟨before, after, rfl, hbefore, hafter⟩ := hrenders.exists_append
    have hnext : Closes rows level (after ++ tail) := by
      cases rest with
      | nil => exact absurd rfl hmore
      | cons next rest => exact closes_symbol hrow (by simp) hafter
    have hrounds := takesRounds_chain hsuitable hrow hcloses ihrest hafter
    exact takes_use hconfig hrow (takes_sequence (.cons (ih hbefore hnext)
      (.single (takes_repetition hrounds (List.length_pos_iff.mpr hmore)))))
  | @right level symbol first second hrow hfirst hsecond ih ihsecond =>
    intro chars tail hrenders hcloses
    rw [lexemes] at hrenders
    obtain ⟨before, after, rfl, hbefore, hafter⟩ := hrenders.exists_append
    have hmem := List.mem_of_getElem? hrow
    have hnext : Closes rows level (after ++ tail) := closes_symbol hrow (by simp) hafter
    obtain ⟨hround, hsome⟩ := takes_applied hsuitable hmem hafter fun hmore ↦ ihsecond hmore hcloses
    have havoids := hsuitable.avoids_of_closes hrow (by simp) hcloses
    have hrounds := TakesRounds.single hround hsome (leaves_applied hsuitable hmem havoids)
    exact takes_use hconfig hrow (takes_sequence (.cons (ih hbefore hnext)
      (.single (takes_repetition hrounds (Nat.le_refl 1)))))
  | @none level symbol first second hrow hfirst hsecond ih ihsecond =>
    intro chars tail hrenders hcloses
    rw [lexemes] at hrenders
    obtain ⟨before, after, rfl, hbefore, hafter⟩ := hrenders.exists_append
    have hnext : Closes rows level (after ++ tail) := closes_symbol hrow (by simp) hafter
    obtain ⟨blanks, more, rfl, hblanks, hmore⟩ := hafter.exists_cons
    have hmem := List.mem_of_getElem? hrow
    have hlast := ihsecond hmore (hcloses.mono (Nat.le_succ level))
    exact takes_use hconfig hrow (takes_sequence (.cons (ih hbefore hnext)
      (.cons (takes_symbol hsuitable hmem hblanks) (.single hlast))))
  | @before level symbol operand hrow hoperand ih =>
    intro chars tail hrenders hcloses
    rw [lexemes] at hrenders
    obtain ⟨huse, -⟩ := takes_applied hsuitable (List.mem_of_getElem? hrow) hrenders
      fun hmore ↦ ih hmore hcloses
    exact takes_use hconfig hrow huse
  | @after level symbol operand more hrow hoperand ih =>
    intro chars tail hrenders hcloses
    rw [lexemes] at hrenders
    obtain ⟨before, after, rfl, hbefore, hafter⟩ := hrenders.exists_append
    have hnext : Closes rows level (after ++ tail) := closes_symbol hrow (by simp) hafter
    exact takes_use hconfig hrow (takes_sequence (.cons (ih hbefore hnext)
      (.single (takes_repetition (takesRounds_replicate hsuitable hrow hcloses (more + 1) hafter)
        (Nat.le_add_left 1 more)))))

/-! ### Grammars of rows -/

theorem hitsLimit_map_iff {α β : Type} {outcome : Except ParseError α} {f : α → β} :
    HitsLimit (outcome.map f) ↔ HitsLimit outcome := by
  cases outcome with
  | ok value => simp [HitsLimit, Except.map]
  | error reason => simp [HitsLimit, Except.map]

/-- Where the rule of the entry takes a text up to skipped characters at its end, a parse of the
whole text yields the tokens, unless it is stopped by the limit on the depth. -/
theorem Draft.LowersTo.parse_of_takes {grammar : Grammar} (hlowers : draft.LowersTo grammar)
    {set : CharSet} (hskip : draft.config.skip = some set)
    (hentry : draft.entry = some (.rule name))
    (htakes : draft.Takes set (plainRule name) chars tail tokens)
    (htail : ∀ c ∈ tail, set.contains c = true)
    (hreached : ¬ HitsLimit (grammar.parse (.ofChars (chars ++ tail)) true)) :
    grammar.parse (.ofChars (chars ++ tail)) true = .ok (.ofTokens tokens) := by
  obtain ⟨id, hid, hcompiles⟩ := hlowers.exists_entry hentry (.rule name 0)
  have hat := Text.at_start (chars ++ tail)
  obtain ⟨room, hroom⟩ := (htakes _ 0 hat).exists
  have hskipped : grammar.skip = some set := (congrArg Config.skip hlowers.config).trans hskip
  have hstop : skipFrom grammar.skip (.ofChars (chars ++ tail)) (0 + byteLength chars) =
      (Text.ofChars (chars ++ tail)).size := by
    have hend : (Text.ofChars (chars ++ tail)).At (0 + byteLength chars) (tail ++ []) := by
      simpa using hat.advance
    rw [hskipped, hend.skipFrom_eq htail (by simp), ← hend.add_byteLength, List.append_nil]
  have haccount : (Request.evaluation grammar (.ofChars (chars ++ tail))
      (grammar.account (.ofChars (chars ++ tail)) room) (.parse true)).outcome =
        .ok (.results (.ofTokens tokens)) := by
    rw [hskip] at hcompiles
    rw [← hlowers.account_eq_reading _ room hcompiles] at hroom
    have hparse : (parseFrom (.ofChars (chars ++ tail)) grammar.skip true
        (grammar.account (.ofChars (chars ++ tail)) room id) : Account Results).outcome =
          .ok (.ofTokens tokens) := by
      rw [parseFrom, Account.outcome_bind_of_ok hroom, if_pos rfl]
      simp only [hstop, if_true]
      rfl
    simp only [Request.evaluation, hid]
    rw [Account.outcome_bind_of_ok hparse]
    rfl
  have hanswer : (grammar.parse (.ofChars (chars ++ tail)) true).map Reply.results =
      .ok (.results (.ofTokens tokens)) :=
    Grammar.answer_after_eq_ok_of_account haccount [] fun hlimit ↦
    hreached (hitsLimit_map_iff.mp hlimit)
  cases hparse : grammar.parse (.ofChars (chars ++ tail)) true with
  | ok results =>
    rw [hparse] at hanswer
    cases hanswer
    rfl
  | error reason =>
    rw [hparse] at hanswer
    cases hanswer

/-- Operator tables parse what is written with them. For suitable rows, in any configuration that
skips blanks, the draft of their table builds, whatever identities its expressions have. Its grammar
parses every tree that is layered by the rows, written with any blanks between its lexemes and after
the last one, as the single token for which the tree stands, unless it is stopped by the limit on
the depth. -/
theorem Draft.parse_ofRows (hsuitable : Suitable rows) (hconfig : config.blanks = .blanks)
    (hcoherent : draft.Coherent)
    (hsame : draft.anonymous = ((Draft.ofRows config name rows) 0).1.anonymous) :
    ∃ grammar, draft.build = .ok grammar ∧
      ∀ (tree : OperatorTree) (chars trailing : List Char), tree.Layered rows rows.length →
        Renders tree.lexemes chars → (∀ c ∈ trailing, IsBlank c) →
        ¬ HitsLimit (grammar.parse (.ofChars (chars ++ trailing)) true) →
        grammar.parse (.ofChars (chars ++ trailing)) true = .ok (.ofToken tree.token) := by
  rw [anonymous_ofRows] at hsame
  obtain ⟨grammar, hbuild, hlowers⟩ := exists_build_of_rows hsuitable hcoherent hsame
  refine ⟨grammar, hbuild, fun tree chars trailing htree hrenders htrailing hreached ↦ ?_⟩
  have htakes := takes_whole hconfig
    (htree.takes hconfig name hsuitable hrenders (closes_blanks htrailing))
  exact hlowers.parse_of_takes (skip_of_blanks hconfig) rfl htakes htrailing hreached

/-! ### Sums of signed numbers and factorials -/

/-- Factorials, signs and sums. -/
def signedRows : List OperatorRow := [⟨"!", .after⟩, ⟨"-", .before⟩, ⟨"+", .between .left⟩]

/-- The rows of factorials, signs and sums are suitable. -/
theorem suitable_signedRows : Suitable signedRows where
  nonempty := by decide
  clean := by
    simp only [signedRows, List.forall_mem_cons]
    refine ⟨?_, ?_, ?_, List.forall_mem_nil _⟩
    all_goals exact List.forall_mem_singleton.mpr (by decide)
  apart := by decide

/-- A sum of a negative number and the factorial of a factorial. -/
def signedSum : OperatorTree :=
  .chain "+" (.before "-" (.brackets (.number 10))) [.after "!" (.number 2) 1]

theorem layered_signedSum : signedSum.Layered signedRows signedRows.length := by
  have hnumber {value : Nat} (hvalue : fitsInt64 value = true) :
      OperatorTree.Layered signedRows 0 (.number value) := .number hvalue
  have hten : OperatorTree.Layered signedRows 3 (.number 10) :=
    .tighter (by decide) (.tighter (by decide) (.tighter (by decide) (hnumber (by decide))))
  have hnegative : OperatorTree.Layered signedRows 2 (.before "-" (.brackets (.number 10))) :=
    .before rfl (.tighter (by decide) (.tighter (by decide) (.brackets hten)))
  have hfactorial : OperatorTree.Layered signedRows 2 (.after "!" (.number 2) 1) :=
    .tighter (by decide) (.after rfl (hnumber (by decide)))
  exact .left rfl hnegative (by simp) (by simpa using hfactorial)

/-- The sum as it can be written. -/
def signedText : List Char := " - ( 10 ) + 2 ! !".toList

theorem renders_signedSum : Renders signedSum.lexemes signedText := by
  have hblank : ∀ c ∈ [' '], IsBlank c := List.forall_mem_singleton.mpr (by decide)
  exact renders_flatMap hblank signedSum.lexemes

/-- The written sum is parsed, with a newline after it, as a group of two groups around an
operator. -/
theorem Draft.parse_ofRows_signedSum :
    Suitable signedRows ∧ ((Draft.ofRows .withoutPackrat "sum" signedRows) 0).1.Coherent ∧
      signedSum.Layered signedRows signedRows.length ∧ Renders signedSum.lexemes signedText ∧
      ∃ grammar, ((Draft.ofRows .withoutPackrat "sum" signedRows) 0).1.build = .ok grammar ∧
        ¬ HitsLimit (grammar.parse (.ofChars (signedText ++ ['\n'])) true) ∧
        grammar.parse (.ofChars (signedText ++ ['\n'])) true =
          .ok (.ofToken (.group [.group [.str "-", .int 10] [], .str "+",
            .group [.int 2, .str "!", .str "!"] []] [])) := by
  have hcoherent := coherent_ofRows .withoutPackrat "sum" signedRows 0
  obtain ⟨grammar, hbuild, hparse⟩ := parse_ofRows suitable_signedRows rfl hcoherent rfl
  have hok : (((Draft.ofRows .withoutPackrat "sum" signedRows) 0).1.build.toOption.map fun grammar ↦
      (grammar.parse (.ofChars (signedText ++ ['\n'])) true).isOk) = some true := by cbv
  rw [hbuild] at hok
  have hreached := not_hitsLimit_of_isOk (Option.some.inj hok)
  refine ⟨suitable_signedRows, hcoherent, layered_signedSum, renders_signedSum, grammar, hbuild,
    hreached, ?_⟩
  exact hparse signedSum signedText ['\n'] layered_signedSum renders_signedSum
    (List.forall_mem_singleton.mpr (by decide)) hreached

end Packrat
