import Packrat.Text.Basic

/-!
# Lines and columns

A line ends at a newline, at a carriage return followed by a newline, or at a lone carriage return.
`LineIndex` keeps the byte offset at which each line starts. Lines and columns shown to people count
from one, and columns count characters, so that a place after a wide character is still the right
one. An offset inside a character counts that character as passed.
-/

set_option autoImplicit false
set_option relaxedAutoImplicit false

namespace Packrat

/-- A line and a column, both counted from one. -/
structure LineCol where
  /-- The number of the line. -/
  line : Nat
  /-- The number of the column, in characters. -/
  column : Nat
deriving DecidableEq, Repr

/-- A line and a column as they are written for people. -/
def LineCol.render (place : LineCol) : String :=
  "line:" ++ toString place.line ++ ", col:" ++ toString place.column

/-- The offsets just after each line terminator of a run of characters that starts at `offset`. -/
def lineBreaks (offset : Nat) : List Char → List Nat
  | [] => []
  | '\r' :: '\n' :: rest => (offset + 2) :: lineBreaks (offset + 2) rest
  | c :: rest =>
    if c = '\n' ∨ c = '\r' then (offset + 1) :: lineBreaks (offset + 1) rest
    else lineBreaks (offset + c.utf8Size) rest

/-- A text with the offsets at which its lines start. -/
structure LineIndex where
  /-- The text whose lines these are. -/
  text : Text
  /-- Where each line starts. -/
  starts : List Nat

namespace LineIndex

/-- The line index of a text; the first line starts at zero. -/
def ofText (text : Text) : LineIndex := ⟨text, 0 :: lineBreaks 0 text.chars⟩

def count (index : LineIndex) : Nat := index.starts.length

/-- Where a line, counted from zero, starts. -/
def start? (index : LineIndex) (line : Nat) : Option Nat := index.starts[line]?

/-- Looks for a number among increasing ones from the place `low` on and before the place `high`, in
at most the given number of halvings. Gives the place that holds the number, or else as an error the
place at which it could be inserted. -/
def binarySearch (numbers : List Nat) (wanted : Nat) : Nat → Nat → Nat → Except Nat Nat
  | 0, low, _ => .error low
  | left + 1, low, high =>
    if low < high then
      let middle := (low + high) / 2
      let found := numbers.getD middle 0
      if found = wanted then .ok middle
      else if found < wanted then binarySearch numbers wanted left (middle + 1) high
      else binarySearch numbers wanted left low middle
    else .error low

/-- The line, counted from zero, that holds an offset; an offset past the end belongs to the last
line. -/
def lineOf (index : LineIndex) (offset : Nat) : Nat :=
  let place := min offset index.text.size
  match binarySearch index.starts place index.count 0 index.count with
  | .ok line => line
  | .error line => line - 1

/-- The number of characters that begin before `offset`, among those that follow one another from
`start` on. -/
def charsBefore (start offset : Nat) : List Char → Nat
  | [] => 0
  | c :: rest => if start < offset then charsBefore (start + c.utf8Size) offset rest + 1 else 0

/-- The line and column of an offset; an offset past the end stands at the end. -/
def lineCol (index : LineIndex) (offset : Nat) : LineCol :=
  let place := min offset index.text.size
  let line := index.lineOf place
  let start := (index.start? line).getD 0
  ⟨line + 1, charsBefore start place (index.text.rest start) + 1⟩

def isTerminator (c : Char) : Bool := c == '\n' || c == '\r'

/-- A line without the terminators at its end. -/
def trimTerminators (line : List Char) : List Char :=
  (line.reverse.dropWhile isTerminator).reverse

/-- The line that holds an offset, without its terminator. -/
def lineText (index : LineIndex) (offset : Nat) : List Char :=
  let line := index.lineOf offset
  let start := (index.start? line).getD 0
  let stop := (index.start? (line + 1)).getD index.text.size
  trimTerminators (index.text.slice start stop)

end LineIndex

end Packrat
