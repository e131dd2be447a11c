import Packrat.Text.CategoryTable
import Packrat.Text.PropertyTable
import Packrat.Text.Ranges

/-!
# What kind of character it is

`category` finds the general category of a character in the table of runs. The properties that other
modules ask for are made from it: whether a character has case, whether case ignores it, whether it
extends the character before it, and whether it can be shown by itself.
-/

set_option autoImplicit false
set_option relaxedAutoImplicit false

namespace Packrat

/-- The place of the last run that starts at or before a code, found by halving the places from
`low` up to, but not including, `high` the given number of times. -/
def runPlace (code : Nat) : Nat → Nat → Nat → Nat
  | 0, low, _ => low
  | halvings + 1, low, high =>
    let middle := (low + high) / 2
    if categoryRuns[middle]?.any (·.1 ≤ code) then runPlace code halvings middle high
    else runPlace code halvings low middle

/-- The general category of a character. There are fewer than 2 ^ 13 runs, so that thirteen halvings
leave a single one. -/
def category (c : Char) : GeneralCategory :=
  (categoryRuns[runPlace c.toNat 13 0 categoryRuns.size]?.map (·.2)).getD .cn

/-- Whether a character has case: it is, or has, an upper, a lower or a title case. -/
def isCased (c : Char) : Bool :=
  match category c with
  | .lu | .ll | .lt => true
  | _ => inRanges otherLowercaseRanges c || inRanges otherUppercaseRanges c

/-- Whether case passes over a character: marks, modifiers, format characters and the punctuation
inside words. -/
def isCaseIgnorable (c : Char) : Bool :=
  match category c with
  | .mn | .me | .cf | .lm | .sk => true
  | _ => inRanges innerPunctuationRanges c

/-- Whether a character extends the one before it instead of standing by itself. -/
def isExtender (c : Char) : Bool :=
  match category c with
  | .mn | .me => true
  | _ => inRanges otherExtenderRanges c

/-- Whether a character can be shown by itself: it is neither a control, a separator other than the
space, a format character nor a code without a character, it does not extend the character before
it, and it has a shape. -/
def isShown (c : Char) : Bool :=
  if c.toNat < 128 then ' ' ≤ c && c ≤ '~'
  else
    match category c with
    | .cc | .cf | .cs | .co | .cn | .zs | .zl | .zp => false
    | _ => !isExtender c && !inRanges fillerRanges c

end Packrat
