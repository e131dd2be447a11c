import Packrat.OperatorTable
import Packrat.Results.Token
import Packrat.Proofs.Terminal.Numerals

/-!
# Operator trees

The rows of an operator table are strings that stand before, between or after operands. An
`OperatorTree` is an expression over whole numbers that is layered by such rows
(`OperatorTree.Layered`): an application of a row has operands of the levels before it, and of its
own level where the operator groups from the right or stands before its operand.

A tree is written as a list of lexemes, between which there may be blanks (`Renders`), and stands
for one token: brackets leave no trace, and chains of operators that group from the left stay flat
(`OperatorTree.token`).

What a written tree starts with and what may follow it tell it apart from other trees at its place
(`Opens`, `Closes`): before it there can only be operators of its own levels, after it only
operators of looser ones.
-/

set_option autoImplicit false
set_option relaxedAutoImplicit false

namespace Packrat

/-! ### Rows -/

/-- A row of an operator table: an operator as a string, and where it stands. -/
structure OperatorRow where
  /-- The operator. -/
  symbol : String
  /-- Where it stands. -/
  fixity : Fixity
deriving DecidableEq

/-- A character that is skipped by default. -/
def IsBlank (c : Char) : Prop := CharSet.blanks.contains c = true

instance (c : Char) : Decidable (IsBlank c) := inferInstanceAs (Decidable (_ = true))

/-- Neither of two operators begins with the other. -/
def OperatorRow.Apart (first second : OperatorRow) : Prop :=
  ¬ first.symbol.toList <+: second.symbol.toList ∧ ¬ second.symbol.toList <+: first.symbol.toList

instance (first second : OperatorRow) : Decidable (first.Apart second) :=
  inferInstanceAs (Decidable (_ ∧ _))

/-- Rows whose operators can be told from one another, from numbers, from blanks and from
parentheses. -/
structure Suitable (rows : List OperatorRow) : Prop where
  /-- No operator is empty. -/
  nonempty : ∀ row ∈ rows, row.symbol.toList ≠ []
  /-- No operator contains a digit, a blank or a parenthesis. -/
  clean : ∀ row ∈ rows, ∀ c ∈ row.symbol.toList,
    isDigit c = false ∧ ¬ IsBlank c ∧ c ≠ '(' ∧ c ≠ ')'
  /-- Of two operators before operands, and of two operators between or after them, neither begins
  with the other. -/
  apart : rows.Pairwise fun first second ↦
    (first.fixity = .before ↔ second.fixity = .before) → first.Apart second

/-! ### Trees -/

/-- An expression with operators over whole numbers. -/
inductive OperatorTree where
  /-- A number. -/
  | number (value : Nat)
  /-- A tree in parentheses. -/
  | brackets (inner : OperatorTree)
  /-- Operands with an operator that groups from the left between them. -/
  | chain (symbol : String) (first : OperatorTree) (rest : List OperatorTree)
  /-- Two operands with an operator between them. -/
  | pair (symbol : String) (first second : OperatorTree)
  /-- An operator before its operand. -/
  | before (symbol : String) (operand : OperatorTree)
  /-- An operator once or several times after its operand. -/
  | after (symbol : String) (operand : OperatorTree) (more : Nat)

namespace OperatorTree

/-- A tree is layered by some rows, up to the given level. Level zero holds atoms, and a row holds
the applications of the level after its position. -/
inductive Layered (rows : List OperatorRow) : Nat → OperatorTree → Prop
  | number {value : Nat} (hvalue : fitsInt64 value = true) : Layered rows 0 (.number value)
  | brackets {inner : OperatorTree} (hinner : Layered rows rows.length inner) :
    Layered rows 0 (.brackets inner)
  | tighter {level : Nat} {tree : OperatorTree} (hlevel : level < rows.length)
    (htree : Layered rows level tree) : Layered rows (level + 1) tree
  | left {level : Nat} {symbol : String} {first : OperatorTree} {rest : List OperatorTree}
    (hrow : rows[level]? = some ⟨symbol, .between .left⟩) (hfirst : Layered rows level first)
    (hmore : rest ≠ []) (hrest : ∀ operand ∈ rest, Layered rows level operand) :
    Layered rows (level + 1) (.chain symbol first rest)
  | right {level : Nat} {symbol : String} {first second : OperatorTree}
    (hrow : rows[level]? = some ⟨symbol, .between .right⟩) (hfirst : Layered rows level first)
    (hsecond : Layered rows (level + 1) second) :
    Layered rows (level + 1) (.pair symbol first second)
  | none {level : Nat} {symbol : String} {first second : OperatorTree}
    (hrow : rows[level]? = some ⟨symbol, .between .none⟩) (hfirst : Layered rows level first)
    (hsecond : Layered rows level second) : Layered rows (level + 1) (.pair symbol first second)
  | before {level : Nat} {symbol : String} {operand : OperatorTree}
    (hrow : rows[level]? = some ⟨symbol, .before⟩) (hoperand : Layered rows (level + 1) operand) :
    Layered rows (level + 1) (.before symbol operand)
  | after {level : Nat} {symbol : String} {operand : OperatorTree} {more : Nat}
    (hrow : rows[level]? = some ⟨symbol, .after⟩) (hoperand : Layered rows level operand) :
    Layered rows (level + 1) (.after symbol operand more)

mutual

/-- The token for which a tree stands: a number, or one group for each application. -/
def token : OperatorTree → Token
  | .number value => .int (Int64.ofNat value)
  | .brackets inner => inner.token
  | .chain symbol first rest => .group (first.token :: roundTokens symbol rest) []
  | .pair symbol first second => .group [first.token, .str symbol, second.token] []
  | .before symbol operand => .group [.str symbol, operand.token] []
  | .after symbol operand more =>
    .group (operand.token :: List.replicate (more + 1) (.str symbol)) []

/-- The tokens of operands with an operator before each of them. -/
def roundTokens (symbol : String) : List OperatorTree → List Token
  | [] => []
  | operand :: rest => .str symbol :: operand.token :: roundTokens symbol rest

end

mutual

/-- The lexemes of a tree: numbers, operators and parentheses. -/
def lexemes : OperatorTree → List (List Char)
  | .number value => [Nat.toDigits 10 value]
  | .brackets inner => ['('] :: (inner.lexemes ++ [[')']])
  | .chain symbol first rest => first.lexemes ++ roundLexemes symbol rest
  | .pair symbol first second => first.lexemes ++ symbol.toList :: second.lexemes
  | .before symbol operand => symbol.toList :: operand.lexemes
  | .after symbol operand more => operand.lexemes ++ List.replicate (more + 1) symbol.toList

/-- The lexemes of operands with an operator before each of them. -/
def roundLexemes (symbol : String) : List OperatorTree → List (List Char)
  | [] => []
  | operand :: rest => symbol.toList :: (operand.lexemes ++ roundLexemes symbol rest)

end

end OperatorTree

/-! ### Writing -/

/-- Lexemes are written one after another with any blanks before each of them. -/
inductive Renders : List (List Char) → List Char → Prop
  | nil : Renders [] []
  | cons {lexeme blanks chars : List Char} {rest : List (List Char)}
    (hblanks : ∀ c ∈ blanks, IsBlank c) (hrest : Renders rest chars) :
    Renders (lexeme :: rest) (blanks ++ (lexeme ++ chars))

/-- What is written of a lexeme and others after it. -/
theorem Renders.exists_cons {lexeme chars : List Char} {rest : List (List Char)}
    (hrenders : Renders (lexeme :: rest) chars) :
    ∃ blanks after, chars = blanks ++ lexeme ++ after ∧ (∀ c ∈ blanks, IsBlank c) ∧
      Renders rest after := by
  cases hrenders with
  | @cons _ blanks after _ hblanks hrest => exact ⟨blanks, after, by simp, hblanks, hrest⟩

/-- What is written of two lists of lexemes is what is written of each of them. -/
theorem Renders.exists_append {first second : List (List Char)} :
    ∀ {chars : List Char}, Renders (first ++ second) chars →
      ∃ before after, chars = before ++ after ∧ Renders first before ∧ Renders second after := by
  induction first with
  | nil => exact fun hrenders ↦ ⟨[], _, rfl, .nil, hrenders⟩
  | cons lexeme rest ih =>
    intro chars hrenders
    cases hrenders with
    | @cons _ blanks chars _ hblanks hrest =>
      obtain ⟨before, after, rfl, hbefore, hafter⟩ := ih hrest
      exact ⟨blanks ++ (lexeme ++ before), after, by simp, .cons hblanks hbefore, hafter⟩

/-- Lexemes can be written with the same blanks before each of them. -/
theorem renders_flatMap {blanks : List Char} (hblanks : ∀ c ∈ blanks, IsBlank c)
    (lexemes : List (List Char)) :
    Renders lexemes (lexemes.flatMap fun lexeme ↦ blanks ++ lexeme) := by
  induction lexemes with
  | nil => exact .nil
  | cons lexeme rest ih =>
    rw [List.flatMap_cons, List.append_assoc]
    exact .cons hblanks ih

/-- After blanks a text goes on in a given way. -/
def AfterBlanks (chars : List Char) (goes : List Char → Prop) : Prop :=
  ∃ blanks body, chars = blanks ++ body ∧ (∀ c ∈ blanks, IsBlank c) ∧ goes body

/-- A weaker statement of what comes after blanks. -/
theorem AfterBlanks.imp {chars : List Char} {goes weak : List Char → Prop}
    (hchars : AfterBlanks chars goes) (himp : ∀ body, goes body → weak body) :
    AfterBlanks chars weak := by
  obtain ⟨blanks, body, rfl, hblanks, hbody⟩ := hchars
  exact ⟨blanks, body, rfl, hblanks, himp body hbody⟩

/-- After blanks a text starts with a digit, with an opening parenthesis, or with an operator before
operands of one of the levels up to the given one. -/
def Opens (rows : List OperatorRow) (level : Nat) (chars : List Char) : Prop :=
  AfterBlanks chars fun body ↦
    (∃ c ∈ body.head?, isDigit c = true ∨ c = '(') ∨
      ∃ index row, index < level ∧ rows[index]? = some row ∧ row.fixity = .before ∧
        row.symbol.toList <+: body

/-- After blanks a text ends, or it goes on with a closing parenthesis or with an operator between
or after operands that is looser than the given level. -/
def Closes (rows : List OperatorRow) (level : Nat) (chars : List Char) : Prop :=
  AfterBlanks chars fun body ↦
    (∀ c ∈ body.head?, c = ')') ∨
      ∃ index row, level ≤ index ∧ rows[index]? = some row ∧ row.fixity ≠ .before ∧
        row.symbol.toList <+: body

/-- After blanks a text goes on with something else than an operator. -/
def Avoids (symbol : String) (chars : List Char) : Prop :=
  AfterBlanks chars fun body ↦ (∀ c ∈ body.head?, ¬ IsBlank c) ∧ ¬ symbol.toList <+: body

/-! ### Beginnings and ends -/

variable {rows : List OperatorRow} {row : OperatorRow} {level : Nat} {chars tail : List Char}

theorem Opens.mono {looser : Nat} (hopens : Opens rows level chars) (hlevel : level ≤ looser) :
    Opens rows looser chars := by
  refine hopens.imp fun body hbody ↦ hbody.imp_right ?_
  rintro ⟨index, row, hindex, hrow⟩
  exact ⟨index, row, Nat.lt_of_lt_of_le hindex hlevel, hrow⟩

/-- What closes a level closes all tighter ones. -/
theorem Closes.mono {tighter : Nat} (hcloses : Closes rows level chars) (hlevel : tighter ≤ level) :
    Closes rows tighter chars := by
  refine hcloses.imp fun body hbody ↦ hbody.imp_right ?_
  rintro ⟨index, row, hindex, hrow⟩
  exact ⟨index, row, Nat.le_trans hlevel hindex, hrow⟩

/-- An operator between or after operands closes its level. -/
theorem closes_symbol {lexemes : List (List Char)} (hrow : rows[level]? = some row)
    (hfixity : row.fixity ≠ .before) (hrenders : Renders (row.symbol.toList :: lexemes) chars) :
    Closes rows level (chars ++ tail) := by
  cases hrenders with
  | @cons _ blanks chars _ hblanks _ =>
    refine ⟨blanks, row.symbol.toList ++ (chars ++ tail), by simp, hblanks, Or.inr ?_⟩
    exact ⟨level, row, Nat.le_refl level, hrow, hfixity, List.prefix_append _ _⟩

theorem closes_parenthesis {lexemes : List (List Char)}
    (hrenders : Renders ([')'] :: lexemes) chars) :
    Closes rows level (chars ++ tail) := by
  cases hrenders with
  | @cons _ blanks chars _ hblanks _ =>
    exact ⟨blanks, ')' :: (chars ++ tail), by simp, hblanks, Or.inl (by simp)⟩

/-- Blanks at the end of a text close every level. -/
theorem closes_blanks (hblanks : ∀ c ∈ chars, IsBlank c) : Closes rows level chars :=
  ⟨chars, [], by simp, hblanks, Or.inl (by simp)⟩

theorem not_isBlank_of_isDigit {c : Char} (hdigit : isDigit c = true) : ¬ IsBlank c := by
  have hcodes : ∀ code < 58, 48 ≤ code → CharSet.blanks.ascii.getLsbD code = false := by decide
  simp only [isDigit, Bool.and_eq_true, decide_eq_true_eq] at hdigit
  have hlow : 48 ≤ c.toNat := hdigit.1
  have hhigh : c.toNat ≤ 57 := hdigit.2
  rw [IsBlank, CharSet.contains, if_pos (by omega), hcodes _ (by omega) hlow]
  exact Bool.false_ne_true

theorem OperatorTree.Layered.opens {tree : OperatorTree} (htree : tree.Layered rows level) :
    ∀ {chars tail : List Char}, Renders tree.lexemes chars → Opens rows level (chars ++ tail) := by
  have hfirst {level : Nat} {first rest : List (List Char)}
      (ih : ∀ {chars tail : List Char}, Renders first chars → Opens rows level (chars ++ tail))
      {chars tail : List Char} (hrenders : Renders (first ++ rest) chars) :
      Opens rows (level + 1) (chars ++ tail) := by
    obtain ⟨before, after, rfl, hbefore, -⟩ := hrenders.exists_append
    rw [List.append_assoc]
    exact (ih hbefore).mono (Nat.le_succ level)
  induction htree with
  | @number value hvalue =>
    intro chars tail hrenders
    rw [lexemes] at hrenders
    cases hrenders with
    | @cons _ blanks chars _ hblanks _ =>
      have hnonempty := Nat.toDigits_ne_nil (n := value) (b := 10)
      refine ⟨blanks, Nat.toDigits 10 value ++ (chars ++ tail), by simp, hblanks, Or.inl ?_⟩
      cases hdigits : Nat.toDigits 10 value with
      | nil => exact absurd hdigits hnonempty
      | cons c rest =>
        exact ⟨c, rfl, Or.inl (isDigit_of_mem_toDigits (hdigits ▸ List.mem_cons_self))⟩
  | brackets hinner ih =>
    intro chars tail hrenders
    rw [lexemes] at hrenders
    cases hrenders with
    | @cons _ blanks chars _ hblanks _ =>
      exact ⟨blanks, '(' :: (chars ++ tail), by simp, hblanks, Or.inl ⟨'(', rfl, Or.inr rfl⟩⟩
  | tighter hlevel htree ih => exact fun hrenders ↦ (ih hrenders).mono (Nat.le_succ _)
  | left hrow _ hmore hrest ih ihrest =>
    intro chars tail hrenders
    rw [lexemes] at hrenders
    exact hfirst ih hrenders
  | right hrow _ hsecond ih ihsecond =>
    intro chars tail hrenders
    rw [lexemes] at hrenders
    exact hfirst ih hrenders
  | none hrow _ hsecond ih ihsecond =>
    intro chars tail hrenders
    rw [lexemes] at hrenders
    exact hfirst ih hrenders
  | @before level symbol operand hrow hoperand ih =>
    intro chars tail hrenders
    rw [lexemes] at hrenders
    cases hrenders with
    | @cons _ blanks chars _ hblanks _ =>
      refine ⟨blanks, symbol.toList ++ (chars ++ tail), by simp, hblanks, Or.inr ?_⟩
      exact ⟨level, _, Nat.lt_succ_self level, hrow, rfl, List.prefix_append _ _⟩
  | after hrow hoperand ih =>
    intro chars tail hrenders
    rw [lexemes] at hrenders
    exact hfirst ih hrenders

namespace Suitable

variable (hsuitable : Suitable rows)

include hsuitable

/-- Operators of different rows that stand on the same side are apart. -/
theorem apart_of_ne {index other : Nat} {first second : OperatorRow}
    (hfirst : rows[index]? = some first) (hsecond : rows[other]? = some second)
    (hne : index ≠ other) (hside : first.fixity = .before ↔ second.fixity = .before) :
    first.Apart second := by
  obtain ⟨hindex, rfl⟩ := List.getElem?_eq_some_iff.mp hfirst
  obtain ⟨hother, rfl⟩ := List.getElem?_eq_some_iff.mp hsecond
  have hpairs := List.pairwise_iff_getElem.mp hsuitable.apart
  rcases Nat.lt_or_gt_of_ne hne with hless | hmore
  · exact hpairs index other hindex hother hless hside
  · exact (hpairs other index hother hindex hmore hside.symm).symm

/-- At the place of an operator no other one begins that stands on the same side. -/
theorem not_prefix {index other : Nat} {first second : OperatorRow}
    (hfirst : rows[index]? = some first) (hsecond : rows[other]? = some second)
    (hne : index ≠ other) (hside : first.fixity = .before ↔ second.fixity = .before)
    {body : List Char} (hbegins : second.symbol.toList <+: body) :
    ¬ first.symbol.toList <+: body := by
  intro hother
  have hapart := hsuitable.apart_of_ne hfirst hsecond hne hside
  exact (List.prefix_or_prefix_of_prefix hother hbegins).elim hapart.1 hapart.2

theorem exists_head {row : OperatorRow} (hrow : row ∈ rows) :
    ∃ c rest, row.symbol.toList = c :: rest ∧ isDigit c = false ∧ ¬ IsBlank c ∧
      c ≠ '(' ∧ c ≠ ')' := by
  have hclean := hsuitable.clean row hrow
  cases hsymbol : row.symbol.toList with
  | nil => exact absurd hsymbol (hsuitable.nonempty row hrow)
  | cons c rest => exact ⟨c, rest, rfl, hclean c (hsymbol ▸ List.mem_cons_self)⟩

/-- What begins with an operator begins with its first character. -/
theorem head_of_prefix {row : OperatorRow} (hrow : row ∈ rows) {body : List Char}
    (hbegins : row.symbol.toList <+: body) :
    ∃ c ∈ body.head?, isDigit c = false ∧ ¬ IsBlank c ∧ c ≠ '(' ∧ c ≠ ')' := by
  obtain ⟨c, rest, hsymbol, hclean⟩ := hsuitable.exists_head hrow
  obtain ⟨more, rfl⟩ := hbegins
  exact ⟨c, by rw [hsymbol]; rfl, hclean⟩

/-- What opens a level avoids the operator before operands of the level. -/
theorem avoids_of_opens (hrow : rows[level]? = some row) (hbefore : row.fixity = .before)
    (hopens : Opens rows level chars) : Avoids row.symbol chars := by
  refine hopens.imp fun body hbody ↦ ?_
  rcases hbody with ⟨c, hc, hatom⟩ | ⟨index, other, hindex, hother, hfixity, hbegins⟩
  · refine ⟨fun other hother ↦ ?_, fun hbegins ↦ ?_⟩
    · obtain rfl := Option.some.inj (hother.symm.trans hc)
      exact hatom.elim not_isBlank_of_isDigit fun hopening ↦ hopening ▸ by decide
    · obtain ⟨other, hother, hdigit, -, hopening, -⟩ :=
        hsuitable.head_of_prefix (List.mem_of_getElem? hrow) hbegins
      obtain rfl := Option.some.inj (hother.symm.trans hc)
      exact hatom.elim (Bool.eq_false_iff.mp hdigit) hopening
  · refine ⟨fun c hc ↦ ?_, ?_⟩
    · obtain ⟨head, hhead, -, hblank, -⟩ :=
        hsuitable.head_of_prefix (List.mem_of_getElem? hother) hbegins
      exact Option.some.inj (hhead.symm.trans hc) ▸ hblank
    · exact hsuitable.not_prefix hrow hother (Nat.ne_of_gt hindex)
        (by simp [hbefore, hfixity]) hbegins

/-- What closes the level after a row avoids the operator of the row, if it stands between or after
operands. -/
theorem avoids_of_closes (hrow : rows[level]? = some row) (hafter : row.fixity ≠ .before)
    (hcloses : Closes rows (level + 1) chars) : Avoids row.symbol chars := by
  refine hcloses.imp fun body hbody ↦ ?_
  rcases hbody with hend | ⟨index, other, hindex, hother, hfixity, hbegins⟩
  · refine ⟨fun c hc ↦ ?_, fun hbegins ↦ ?_⟩
    · exact hend c hc ▸ by decide
    · obtain ⟨c, hc, -, -, -, hclosing⟩ :=
        hsuitable.head_of_prefix (List.mem_of_getElem? hrow) hbegins
      exact hclosing (hend c hc)
  · refine ⟨fun c hc ↦ ?_, ?_⟩
    · obtain ⟨head, hhead, -, hblank, -⟩ :=
        hsuitable.head_of_prefix (List.mem_of_getElem? hother) hbegins
      exact Option.some.inj (hhead.symm.trans hc) ▸ hblank
    · exact hsuitable.not_prefix hrow hother (Nat.ne_of_lt hindex)
        (by simp [hafter, hfixity]) hbegins

/-- What closes a level does not start with a digit. -/
theorem not_isDigit_of_closes (hcloses : Closes rows level chars) :
    ∀ c ∈ chars.head?, isDigit c = false := by
  obtain ⟨blanks, body, rfl, hblanks, hbody⟩ := hcloses
  intro c hc
  cases blanks with
  | cons blank rest =>
    obtain rfl := Option.some.inj hc
    refine Bool.eq_false_iff.mpr fun hdigit ↦ ?_
    exact not_isBlank_of_isDigit hdigit (hblanks blank List.mem_cons_self)
  | nil =>
    rcases hbody with hend | ⟨index, other, hindex, hother, hfixity, hbegins⟩
    · exact hend c hc ▸ by decide
    · obtain ⟨head, hhead, hdigit, -⟩ :=
        hsuitable.head_of_prefix (List.mem_of_getElem? hother) hbegins
      exact Option.some.inj (hhead.symm.trans hc) ▸ hdigit

end Suitable

end Packrat
