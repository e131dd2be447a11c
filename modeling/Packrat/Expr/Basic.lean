import Packrat.Action
import Packrat.Terminal.Basic
import Packrat.Terminal.Regex
import Packrat.Text.Blank

/-!
# Parsing expressions

A parsing expression says what a text looks like. Every expression has an identity: wherever one
expression is used several times it is one thing, compiled once and remembered once, while two
expressions that merely look alike are two things. Identities are drawn from a supply (`Build`) by
the functions that make expressions, so an identity always belongs to a single expression.

Joining expressions flattens: a sequence or a choice on the left takes the right operand as a
further member, and an action goes inside a name and joins the actions that are there.
-/

set_option autoImplicit false
set_option relaxedAutoImplicit false

namespace Packrat

/-- How a list of separated items is matched. -/
structure ListForm where
  /-- The least number of items. -/
  least : Nat := 1
  /-- The greatest number of items. -/
  most : Option Nat := none
  /-- Whether one separator may follow the last item. -/
  trailing : Bool := false
  /-- Whether the tokens of separators stay in the results. -/
  keepSeparators : Bool := false
  /-- Whether items and separators are joined into one string. -/
  combine : Bool := false
deriving DecidableEq, Repr

/-- The same list with its items and separators joined into one string. -/
def ListForm.combined (form : ListForm) : ListForm :=
  { form with combine := true, keepSeparators := true }

mutual

/-- A parsing expression: an identity and a shape. -/
inductive Expr where
  /-- The expression of the given identity and shape. -/
  | mk (identity : Nat) (shape : Shape)

/-- What an expression is made of. -/
inductive Shape where
  /-- Matches nothing and always succeeds. -/
  | empty
  /-- Succeeds only at the end of the text. -/
  | textEnd
  /-- A terminal. -/
  | terminal (terminal : Terminal)
  /-- A regular expression, as a pattern for an engine. -/
  | regex (engine : RegexEngine) (pattern : String)
  /-- All parts in order; a failure in a part from the commit point on is fatal. -/
  | sequence (parts : List Expr) (commit : Option Nat)
  /-- The first alternative that matches. -/
  | choice (alternatives : List Expr)
  /-- The child or nothing; a default token stands for nothing. -/
  | optional (child : Expr) (default : Option Token)
  /-- The child several times. -/
  | repetition (child : Expr) (least : Nat) (most : Option Nat)
  /-- Items with separators between them. -/
  | delimited (item separator : Expr) (form : ListForm)
  /-- Whether the child would match here, or would not. -/
  | lookahead (child : Expr) (negative : Bool)
  /-- The child without its results. -/
  | suppress (child : Expr)
  /-- The child's results as one token. -/
  | group (child : Expr)
  /-- The child's results joined into one string, without blanks inside. -/
  | combine (child : Expr) (joiner : String)
  /-- A rule by name. -/
  | rule (name : String)
  /-- The child's results under a name. -/
  | named (child : Expr) (name : String) (accumulate : Bool)
  /-- The child with actions. -/
  | action (child : Expr) (actions : List Action)
  /-- The child with a label for failures at its start. -/
  | labeled (child : Expr) (label : String)
  /-- The child with another set of skipped characters; without a set nothing is skipped. -/
  | blanks (child : Expr) (set : Option CharSet)

end

instance : Inhabited Expr := ⟨⟨0, .empty⟩⟩

/-- Computations that draw fresh identities from a supply. -/
abbrev Build := StateM Nat

namespace Expr

def identity : Expr → Nat
  | ⟨identity, _⟩ => identity

def shape : Expr → Shape
  | ⟨_, shape⟩ => shape

def ofShape (shape : Shape) : Build Expr :=
  modifyGet fun next ↦ (⟨next, shape⟩, next + 1)

/-! ### Terminals -/

/-- The expression that matches nothing and succeeds. -/
def empty : Build Expr := ofShape .empty

/-- The expression that succeeds at the end of the text. -/
def textEnd : Build Expr := ofShape .textEnd

def literal (content : String) : Build Expr := ofShape (.terminal (.literal content false))

def caselessLiteral (content : String) : Build Expr := ofShape (.terminal (.literal content true))

/-- A string that is not part of a longer identifier over the given characters. -/
def keywordWith (content : String) (identifierChars : CharSet) (caseless : Bool) : Build Expr :=
  ofShape (.terminal (.keyword content caseless identifierChars))

/-- A string that is not part of a longer identifier. -/
def keyword (content : String) : Build Expr := keywordWith content .identifierChars false

/-- A string in any case that is not part of a longer identifier. -/
def caselessKeyword (content : String) : Build Expr := keywordWith content .identifierChars true

def word (form : Word) : Build Expr := ofShape (.terminal (.word form))

/-- One of several strings, longer ones before those that begin them. -/
def oneOf (options : List (List Char)) (caseless : Bool) : Build Expr :=
  ofShape (.terminal (.oneOf (Options.ofList caseless options) caseless))

def oneOfWords (options : String) (caseless : Bool) : Build Expr :=
  oneOf (words options.toList) caseless

def quoted (form : Quoted) : Build Expr := ofShape (.terminal (.quoted form))

/-- A string between two quotes with escapes, returned as it stands in the text: a backslash escapes
a character and a doubled quote stands for the quote. -/
def rawQuoted (quote : Char) : Build Expr :=
  quoted { Quoted.ofQuote [quote] with
    escape := some '\\', escapedQuote := some [quote, quote], keepQuotes := true }

def numeral (kind : Numeral) : Build Expr := ofShape (.terminal (.numeral kind))

/-- A regular expression at the current offset. -/
def regex (engine : RegexEngine) (pattern : String) : Build Expr := ofShape (.regex engine pattern)

def rule (name : String) : Build Expr := ofShape (.rule name)

/-! ### Combinations -/

def sequence (parts : List Expr) : Build Expr := ofShape (.sequence parts none)

/-- All parts in order; after the given number of parts a failure is fatal. -/
def committed (parts : List Expr) (commit : Nat) : Build Expr :=
  ofShape (.sequence parts (if commit < parts.length then some commit else none))

def choice (alternatives : List Expr) : Build Expr := ofShape (.choice alternatives)

/-- The parts of an expression read as a sequence, and its commit point. -/
def parts (expr : Expr) : List Expr × Option Nat :=
  match expr.shape with
  | .sequence parts commit => (parts, commit)
  | _ => ([expr], none)

/-- The alternatives of an expression read as a choice. -/
def alternatives (expr : Expr) : List Expr :=
  match expr.shape with
  | .choice alternatives => alternatives
  | _ => [expr]

def andThen (first second : Expr) : Build Expr :=
  ofShape (.sequence (first.parts.1 ++ [second]) first.parts.2)

/-- One expression after another, with a commit point between them unless there is one before. -/
def andCommit (first second : Expr) : Build Expr :=
  ofShape (.sequence (first.parts.1 ++ [second])
    (some (first.parts.2.getD first.parts.1.length)))

/-- Either of two expressions, the first preferred. -/
def orElse (first second : Expr) : Build Expr := ofShape (.choice (first.alternatives ++ [second]))

def optional (expr : Expr) : Build Expr := ofShape (.optional expr none)

/-- An expression, or a token that stands for its absence. -/
def optionalOr (expr : Expr) (default : Token) : Build Expr :=
  ofShape (.optional expr (some default))

/-- An expression a number of times between two bounds, or from a bound on. -/
def repeated (expr : Expr) (least : Nat) (most : Option Nat) : Build Expr :=
  ofShape (.repetition expr least most)

def zeroOrMore (expr : Expr) : Build Expr := expr.repeated 0 none

def oneOrMore (expr : Expr) : Build Expr := expr.repeated 1 none

def times (expr : Expr) (count : Nat) : Build Expr := expr.repeated count (some count)

def followedBy (expr : Expr) : Build Expr := ofShape (.lookahead expr false)

def notFollowedBy (expr : Expr) : Build Expr := ofShape (.lookahead expr true)

def suppress (expr : Expr) : Build Expr := ofShape (.suppress expr)

/-- An expression with its results as one token. -/
def group (expr : Expr) : Build Expr := ofShape (.group expr)

/-- An expression with its results joined into one string around a joiner. -/
def combineWith (expr : Expr) (joiner : String) : Build Expr := ofShape (.combine expr joiner)

/-- An expression with its results joined into one string. -/
def combine (expr : Expr) : Build Expr := expr.combineWith ""

def delimitedWith (item separator : Expr) (form : ListForm) : Build Expr := do
  let list ← ofShape (.delimited item separator form)
  if form.combine then list.combine else pure list

/-- One or more items with separators between them. -/
def delimited (item separator : Expr) : Build Expr := item.delimitedWith separator {}

/-- An expression with its results under a name, which may be a list name. -/
def withName (expr : Expr) (name : String) (accumulate : Bool) : Build Expr :=
  ofShape (.named expr name accumulate)

/-- An expression with its results under a name; a star at the end makes it a list name. -/
def named (expr : Expr) (name : String) : Build Expr :=
  match name.toList.getLast? with
  | some '*' => expr.withName (String.ofList name.toList.dropLast) true
  | _ => expr.withName name false

/-- An expression with an action. The action goes inside names and after earlier actions. -/
def act (expr : Expr) (action : Action) : Build Expr :=
  match expr with
  | ⟨_, .named child name accumulate⟩ => do
    let inner ← child.act action
    inner.withName name accumulate
  | ⟨_, .action child actions⟩ => ofShape (.action child (actions ++ [action]))
  | other => ofShape (.action other [action])

/-- An expression with a label for failures at its start. -/
def labeled (expr : Expr) (label : String) : Build Expr := ofShape (.labeled expr label)

/-- An expression with another set of skipped characters. -/
def withBlanks (expr : Expr) (set : CharSet) : Build Expr := ofShape (.blanks expr (some set))

/-- An expression in which nothing is skipped. -/
def withoutBlanks (expr : Expr) : Build Expr := ofShape (.blanks expr none)

end Expr

end Packrat
