import Packrat.Results.Value

/-!
# Tokens

A match produces tokens: scalars, and groups that nest the tokens and names of an inner match. A
name is a view on ranges of the tokens beside it, not a copy of them.
-/

set_option autoImplicit false
set_option relaxedAutoImplicit false

namespace Packrat

/-- A range of token positions. -/
structure Span where
  /-- The first position. -/
  start : Nat
  /-- The position after the last one. -/
  stop : Nat
deriving DecidableEq, Repr

def Span.shift (span : Span) (distance : Nat) : Span :=
  ⟨span.start + distance, span.stop + distance⟩

/-- The elements of a list in a range; none when the range does not fit the list. -/
def Span.slice? {α : Type} (span : Span) (items : List α) : Option (List α) :=
  if span.start ≤ span.stop ∧ span.stop ≤ items.length then
    some ((items.drop span.start).take (span.stop - span.start))
  else none

/-- A name with the ranges it stands for. -/
structure Slot where
  /-- The name. -/
  name : String
  /-- The ranges recorded under it, in order. -/
  spans : List Span
  /-- Whether the name collects one range for each match instead of keeping the last. -/
  accumulate : Bool
deriving DecidableEq, Repr

/-- A result token. -/
inductive Token where
  /-- A piece of text. -/
  | str (content : String)
  /-- A 64-bit whole number. -/
  | int (number : Int64)
  /-- A floating-point number. -/
  | float (number : Float)
  /-- A truth value. -/
  | bool (truth : Bool)
  /-- The tokens and names of an inner match. -/
  | group (tokens : List Token) (names : List Slot)

namespace Token

instance : Inhabited Token := ⟨.str ""⟩

mutual

/-- Equality of tokens; floats are compared as numbers. -/
def same : Token → Token → Bool
  | .str first, .str second => first == second
  | .int first, .int second => first == second
  | .float first, .float second => first == second
  | .bool first, .bool second => first == second
  | .group first firstNames, .group second secondNames =>
    sameAll first second && firstNames == secondNames
  | _, _ => false

def sameAll : List Token → List Token → Bool
  | [], [] => true
  | first :: firsts, second :: seconds => first.same second && sameAll firsts seconds
  | _, _ => false

end

mutual

/-- The value of a token; a group becomes a list. -/
def toValue : Token → Value
  | .str content => .str content
  | .int number => .int number
  | .float number => .float number
  | .bool truth => .bool truth
  | .group tokens _ => .list (toValues tokens)

def toValues : List Token → List Value
  | [] => []
  | token :: rest => token.toValue :: toValues rest

end

mutual

/-- The scalar tokens inside a token, in order. -/
def scalars : Token → List Token
  | .group tokens _ => scalarsOf tokens
  | token => [token]

/-- The scalar tokens of a list, in order, descending into groups. -/
def scalarsOf : List Token → List Token
  | [] => []
  | token :: rest => token.scalars ++ scalarsOf rest

end

mutual

/-- The plain text of a token; a group's is that of its scalars, joined. -/
def text : Token → List Char
  | .str content => content.toList
  | .int number => integerText number.toInt
  | .float number => floatText number
  | .bool truth => if truth then ['t', 'r', 'u', 'e'] else ['f', 'a', 'l', 's', 'e']
  | .group tokens _ => textOf tokens

def textOf : List Token → List Char
  | [] => []
  | token :: rest => token.text ++ textOf rest

end

def str? : Token → Option String
  | .str content => some content
  | _ => none

def int? : Token → Option Int64
  | .int number => some number
  | _ => none

/-- The number of a numeric token as a float. -/
def float? : Token → Option Float
  | .float number => some number
  | .int number => some number.toFloat
  | _ => none

def render (token : Token) : String := token.toValue.render

end Token

end Packrat
