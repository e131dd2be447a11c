import Packrat.Grammar.Draft
import Packrat.Matching.Matcher

/-!
# Reading expressions directly

A draft can be evaluated as it stands, without compiling it. The characters skipped around an
expression are passed down as an environment: an override replaces them for what is inside it, the
parts of something combined have none, and the body of a rule starts with the default of the
grammar. Nothing is shared; an expression that is used twice is read twice.

The room bounds how deep a reading goes. Overrides do not count, and the use of a rule counts as one
expression around its body.
-/

set_option autoImplicit false
set_option relaxedAutoImplicit false

namespace Packrat

/-- The characters skipped inside an override; an empty set skips nothing. -/
def overriding (set : Option CharSet) : Option CharSet := set.filter fun set ↦ !set.isEmpty

/-- The expression inside all overrides, and the characters skipped around it: those of the
innermost one. -/
def Expr.innermost (skip : Option CharSet) : Expr → Option CharSet × Expr
  | ⟨_, .blanks child set⟩ => child.innermost (overriding set)
  | expr => (skip, expr)

/-- A terminal that is the empty string matches nothing, without skipping anything. -/
def Terminal.IsEmptyLiteral (terminal : Terminal) : Prop :=
  terminal = .literal "" true ∨ terminal = .literal "" false

instance (terminal : Terminal) : Decidable terminal.IsEmptyLiteral :=
  inferInstanceAs (Decidable (_ ∨ _))

open MatchMonad

variable {m : Type → Type} [MatchMonad m]

/-- The matcher of a shape with the given characters skipped around it, given how expressions and
rules are read. Runs of actions are noted under the identity of the expression. -/
def Shape.matcher (text : Text) (read : Option CharSet → Expr → Matcher m)
    (rule : String → Matcher m) (skip : Option CharSet) (identity : Nat) : Shape → Matcher m
  | .empty => Matcher.nothing
  | .textEnd => Matcher.textEnd text skip
  | .terminal form =>
    if form.IsEmptyLiteral then Matcher.nothing
    else Matcher.scanned text skip ("Expected " ++ form.describe) form.scan
  | .regex engine pattern =>
    match engine.compile? (Compile.anchored pattern) with
    | some compiled =>
      Matcher.scanned text skip ("Expected " ++ (Shape.regex engine pattern).display)
        (Matcher.scanRegex compiled)
    | none => fun _ ↦ halt (.error (.grammar (.invalidRegex pattern)))
  | .sequence parts commit => Matcher.sequence (parts.map (read skip)) commit
  | .choice alternatives => Matcher.choice (alternatives.map (read skip))
  | .optional child default => Matcher.optional (read skip child) default
  | .repetition child least most =>
    Matcher.repetition text (read skip child) least most (Shape.repetition child least most).display
  | .delimited item separator form =>
    Matcher.delimited text (read skip item) (read skip separator) form
      (Shape.delimited item separator form).display
  | .lookahead child false => Matcher.followedBy (read skip child)
  | .lookahead child true =>
    Matcher.notFollowedBy (read skip child) ("Found unwanted token, " ++ child.display)
  | .suppress child => Matcher.suppress (read skip child)
  | .group child => Matcher.group (read skip child)
  | .combine child joiner => Matcher.combine text skip joiner (read none child)
  | .rule name => rule name
  | .named child name accumulate => Matcher.named name accumulate (read skip child)
  | .action child actions => Matcher.acting text skip identity actions (read skip child)
  | .labeled child label => Matcher.labeled text skip ("Expected " ++ label) (read skip child)
  | .blanks child set => read (overriding set) child

namespace Draft

def body? (draft : Draft) (name : String) : Option Expr :=
  (draft.ruleNames.idxOf? name).bind fun rule ↦ (draft.rules.map Prod.snd)[rule]?

/-- Reads a rule, given how expressions are read: its body, with the default of the grammar. -/
def readRule (draft : Draft) (read : Option CharSet → Expr → Matcher m) (name : String) :
    Matcher m :=
  match draft.body? name with
  | some body => read draft.config.skip body
  | none => fun _ ↦ halt (.error (.grammar (Compile.undefinedRule draft.ruleNames name)))

/-- Reads an expression of a draft at an offset, with the given characters skipped around it and the
given room. -/
def reading (draft : Draft) (text : Text) : Nat → Option CharSet → Expr → Matcher m
  | 0, _, _, offset => halt (.error (.recursionLimit offset draft.config.maxDepth))
  | room + 1, skip, expr, offset =>
    let inside := expr.innermost skip
    inside.2.shape.matcher text (draft.reading text room)
      (draft.readRule (draft.reading text room)) inside.1 inside.2.identity offset

end Draft

end Packrat
