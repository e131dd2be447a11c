import Packrat.Expr.Basic

/-!
# Expressions as text

Messages show an expression as a short text: sequences and choices in braces, optional parts in
brackets, rules and labels by their names. Names, actions, suppression and skipped characters do not
show.
-/

set_option autoImplicit false
set_option relaxedAutoImplicit false

namespace Packrat

mutual

def Expr.display : Expr → String
  | ⟨_, shape⟩ => shape.display

def Shape.display : Shape → String
  | .empty => "Empty"
  | .textEnd => "end of text"
  | .terminal terminal => terminal.describe
  | .regex _ pattern => "Re:(" ++ quoteString pattern ++ ")"
  | .sequence parts commit => "\x7b" ++ displayParts commit 0 parts ++ "\x7d"
  | .choice alternatives => "\x7b" ++ Terminal.barred (displayAll alternatives) ++ "\x7d"
  | .optional child _ => "[" ++ child.display ++ "]"
  | .repetition child least most =>
    match least, most with
    | 0, none => "[" ++ child.display ++ "]..."
    | 1, none => "\x7b" ++ child.display ++ "\x7d..."
    | least, none => child.display ++ "\x7b" ++ toString least ++ ",...\x7d"
    | least, some most =>
      child.display ++ "\x7b" ++ toString least ++ "," ++ toString most ++ "\x7d"
  | .delimited item separator _ =>
    item.display ++ " [" ++ separator.display ++ " " ++ item.display ++ "]..."
  | .lookahead child negative =>
    if negative then "~" ++ child.display else "FollowedBy:(" ++ child.display ++ ")"
  | .suppress child => child.display
  | .group child => "Group:(" ++ child.display ++ ")"
  | .combine child _ => "Combine:(" ++ child.display ++ ")"
  | .rule name => name
  | .named child _ _ => child.display
  | .action child _ => child.display
  | .labeled _ label => label
  | .blanks child _ => child.display

/-- The parts of a sequence from the given place on, with a dash at the commit point. -/
def displayParts (commit : Option Nat) (index : Nat) : List Expr → String
  | [] => ""
  | part :: rest =>
    (if index = 0 then "" else if commit = some index then " - " else " ") ++ part.display ++
      displayParts commit (index + 1) rest

def displayAll : List Expr → List String
  | [] => []
  | expr :: rest => expr.display :: displayAll rest

end

def Expr.describe (expr : Expr) : String := "Expr(" ++ expr.display ++ ")"

end Packrat
