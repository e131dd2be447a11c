import Packrat.Regex.Category

/-!
# Regular expressions

A `Regex` describes matches with an order of preference: the earlier branch of an alternation comes
first, a greedy repetition prefers one more iteration and a lazy one prefers to stop. Repetitions
and alternations are built by `Regex.repeated` and `Regex.anyOf`, which leave out what cannot
matter: the further iterations of something that takes no character, and the choice between single
characters.
-/

set_option autoImplicit false
set_option relaxedAutoImplicit false

namespace Packrat

/-- A condition on the characters around a place. The conditions on lines go by newlines, or also by
carriage returns, where a return with its newline ends one line. The conditions on words go by all
word characters or by those of ASCII. -/
inductive Look where
  /-- The place is the start of the text. -/
  | textStart
  /-- The place is the end of the text. -/
  | textEnd
  /-- The place is the start of a line. -/
  | lineStart (returns : Bool)
  /-- The place is the end of a line. -/
  | lineEnd (returns : Bool)
  /-- Exactly one of the characters around the place is a word character. -/
  | wordBoundary (ascii : Bool)
  /-- Both of the characters around the place are word characters, or neither is. -/
  | noWordBoundary (ascii : Bool)
  /-- A word starts at the place. -/
  | wordStart (ascii : Bool)
  /-- A word ends at the place. -/
  | wordEnd (ascii : Bool)
  /-- No word character comes before the place. -/
  | wordStartHalf (ascii : Bool)
  /-- No word character comes after the place. -/
  | wordEndHalf (ascii : Bool)
deriving DecidableEq, Repr

/-- Whether a missing or present character is a word character. -/
def isWordAt (ascii : Bool) (c : Option Char) : Bool :=
  c.any (if ascii then isAsciiWordChar else isWordChar)

/-- Whether a condition holds between two characters; a missing one is the end of the text. -/
def Look.holds (look : Look) (before after : Option Char) : Bool :=
  match look with
  | .textStart => before.isNone
  | .textEnd => after.isNone
  | .lineStart returns =>
    before.isNone || before == some '\n' ||
      (returns && before == some '\r' && after != some '\n')
  | .lineEnd returns =>
    after.isNone || (returns && after == some '\r') ||
      (after == some '\n' && !(returns && before == some '\r'))
  | .wordBoundary ascii => isWordAt ascii before != isWordAt ascii after
  | .noWordBoundary ascii => isWordAt ascii before == isWordAt ascii after
  | .wordStart ascii => !isWordAt ascii before && isWordAt ascii after
  | .wordEnd ascii => isWordAt ascii before && !isWordAt ascii after
  | .wordStartHalf ascii => !isWordAt ascii before
  | .wordEndHalf ascii => !isWordAt ascii after

/-- A regular expression. -/
inductive Regex where
  /-- The empty match. -/
  | empty
  /-- One character of a class. -/
  | char (accepted : CharClass)
  /-- The empty match where a condition holds. -/
  | look (condition : Look)
  /-- One match after the other. -/
  | cat (first second : Regex)
  /-- A match of either one, the first preferred. -/
  | alt (first second : Regex)
  /-- A number of matches in a row, between two bounds or from a bound on. -/
  | repetition (inner : Regex) (least : Nat) (most : Option Nat) (greedy : Bool)
  /-- A match whose place is of interest. -/
  | group (inner : Regex)
deriving DecidableEq, Repr

namespace Regex

/-- Whether every match takes at least one character. -/
def consumes : Regex → Bool
  | .empty => false
  | .char _ => true
  | .look _ => false
  | .cat first second => first.consumes || second.consumes
  | .alt first second => first.consumes && second.consumes
  | .repetition inner least _ _ => 0 < least && inner.consumes
  | .group inner => inner.consumes

/-- Whether no match takes a character. -/
def isHollow : Regex → Bool
  | .empty => true
  | .char _ => false
  | .look _ => true
  | .cat first second => first.isHollow && second.isHollow
  | .alt first second => first.isHollow && second.isHollow
  | .repetition inner _ _ _ => inner.isHollow
  | .group inner => inner.isHollow

/-- A number of matches in a row. After a match that takes no character another one of the same kind
adds nothing. -/
def repeated (r : Regex) (least : Nat) (most : Option Nat) (greedy : Bool) : Regex :=
  let least := if r.isHollow then min least 1 else least
  let most := if r.isHollow then some (min (most.getD 1) 1) else most
  if least = 0 ∧ most = some 0 then .empty
  else if least = 1 ∧ most = some 1 then r
  else .repetition r least most greedy

/-- The class of an expression that is a single character. -/
def char? : Regex → Option CharClass
  | .char accepted => some accepted
  | _ => none

/-- One of several expressions, the earlier ones preferred. One character from any of several
classes is one character from their union. -/
def anyOf (first : Regex) (others : List Regex) : Regex :=
  match (first :: others).mapM char? with
  | some classes => .char (classes.foldr .union .empty)
  | none => others.foldl .alt first

/-- Several expressions one after the other. -/
def inRow : List Regex → Regex
  | [] => .empty
  | first :: rest => rest.foldl .cat first

end Regex

end Packrat
