import Packrat.Regex.Basic
import Packrat.Regex.Folding
import Packrat.Text.Blank

/-!
# Switches of patterns

A group of a pattern can set switches. They decide which characters a literal and the members of a
class stand for, which conditions the anchors are, and whether blanks and comments in the pattern
are passed over. Without the characters beyond ASCII, whatever could match a part of a character is
refused.
-/

set_option autoImplicit false
set_option relaxedAutoImplicit false

namespace Packrat

namespace Regex

/-- The switches that a group can set. -/
structure Switches where
  /-- Letters match in either case. -/
  ignoreCase : Bool := false
  /-- Line conditions hold at every line. -/
  multiLine : Bool := false
  /-- The dot accepts a newline. -/
  dotNewline : Bool := false
  /-- Carriage returns end lines, too. -/
  returns : Bool := false
  /-- Repetitions are lazy unless marked. -/
  swapGreed : Bool := false
  /-- Classes hold characters beyond ASCII. -/
  wide : Bool := true
  /-- Blanks and comments in the pattern are passed over. -/
  verbose : Bool := false
deriving DecidableEq, Repr

namespace Switches

/-- Sets or clears a switch by its letter. -/
def set? (switches : Switches) (value : Bool) : Char → Option Switches
  | 'i' => some { switches with ignoreCase := value }
  | 'm' => some { switches with multiLine := value }
  | 's' => some { switches with dotNewline := value }
  | 'R' => some { switches with returns := value }
  | 'U' => some { switches with swapGreed := value }
  | 'u' => some { switches with wide := value }
  | 'x' => some { switches with verbose := value }
  | _ => none

/-! ### Blanks and comments -/

/-- Passes over the blanks and comments of a verbose pattern. -/
def skip (switches : Switches) (chars : List Char) : List Char :=
  if switches.verbose then go chars.length chars else chars
where
  /-- Passes over one blank or comment at a time. -/
  go : Nat → List Char → List Char
    | 0, chars => chars
    | _, [] => []
    | steps + 1, c :: rest =>
      if isBlank c then go steps rest
      else if c = '#' then go steps ((rest.dropWhile (· ≠ '\n')).drop 1)
      else c :: rest

/-- The next character of a pattern. In a verbose pattern the blanks before it do not count, nor
does the mark of a comment with the blanks after it, as long as something follows. -/
def peek (switches : Switches) (chars : List Char) : Option Char :=
  if switches.verbose then
    match chars.dropWhile isBlank with
    | '#' :: rest => (rest.dropWhile isBlank).head?.or chars.head?
    | rest => rest.head?.or chars.head?
  else chars.head?

/-! ### Characters and classes -/

/-- Adds to a class what differs from its members only in case, when case is ignored. -/
def fold (switches : Switches) (accepted : CharClass) : CharClass :=
  if !switches.ignoreCase then accepted
  else if switches.wide then accepted.folded
  else accepted.asciiFolded

/-- The characters that a literal stands for. A byte that is not a character by itself is refused;
`coded` tells that the literal is written as the code of a byte. -/
def literal? (switches : Switches) (c : Char) (coded : Bool) : Option CharClass :=
  if !switches.wide && coded && 128 ≤ c.toNat then none
  else some (switches.fold (.single c))

/-- The characters from one to another as members of a class. -/
def members? (switches : Switches) (first last : Char) : Option CharClass :=
  if !switches.wide && 128 ≤ last.toNat then none
  else some (switches.fold (.range first last))

def negate? (switches : Switches) (negated : Bool) (accepted : CharClass) : Option CharClass :=
  let found := if negated then accepted.complement else accepted
  if switches.wide || found.isAscii then some found else none

/-- The class that the dot stands for. -/
def dot? (switches : Switches) : Option CharClass :=
  if !switches.wide then none
  else if switches.dotNewline then some CharClass.empty.complement
  else if switches.returns then some ((CharClass.single '\n').union (.single '\r')).complement
  else some (CharClass.single '\n').complement

/-- The condition that the circumflex stands for. -/
def startLook (switches : Switches) : Look :=
  if switches.multiLine then .lineStart switches.returns else .textStart

/-- The condition that the dollar sign stands for. -/
def endLook (switches : Switches) : Look :=
  if switches.multiLine then .lineEnd switches.returns else .textEnd

end Switches

end Regex

end Packrat
