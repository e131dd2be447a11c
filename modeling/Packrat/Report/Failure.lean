import Packrat.Text.Blank
import Packrat.Text.Excerpt
import Packrat.Text.Lines

/-!
# Reports of failures

A report tells people where a text stopped matching: the offset, the line and the column, what was
expected, what was found there, and the line itself with a marker or a caret at the place.
-/

set_option autoImplicit false
set_option relaxedAutoImplicit false

namespace Packrat

/-- A line with a marker before the character in the given column, counted from one. -/
def markLine (line : List Char) (column : Nat) (marker : List Char) : List Char :=
  line.take (column - 1) ++ marker ++ line.drop (column - 1)

/-- A line with a caret under the given column; tabs before it are kept so that it lines up. -/
def caretLine (line : List Char) (column : Nat) : List Char :=
  let echoed := (line.take (column - 1)).map fun c ↦ if c = '\t' then '\t' else ' '
  echoed ++ List.replicate (column - 1 - echoed.length) ' ' ++ ['^']

/-- The greatest number of characters that an excerpt shows. -/
def excerptLength : Nat := 16

/-- What stands at the head of a text: its first word, or its first characters if it starts with
blanks, between quotes. -/
def excerpt (chars : List Char) : String :=
  if chars.isEmpty then "end of text"
  else
    let word := chars.takeWhile fun c ↦ !isBlank c
    String.ofList (quote ((if word.isEmpty then chars else word).take excerptLength))

/-- A report of a failure. -/
structure FailureReport where
  /-- The byte offset of the failure. -/
  offset : Nat
  /-- Its line and column. -/
  place : LineCol
  /-- What was expected. -/
  message : String
  /-- What was found. -/
  found : String
  /-- The line that holds the failure. -/
  lineText : List Char
  /-- Whether the failure came after a commit point. -/
  fatal : Bool
deriving DecidableEq, Repr

namespace FailureReport

/-- The report of a failure at an offset of a text; an offset past the end is the end. -/
def ofText (text : Text) (offset : Nat) (message : String) (fatal : Bool) : FailureReport :=
  let offset := min offset text.size
  let index := LineIndex.ofText text
  { offset := offset
    place := index.lineCol offset
    message := message
    found := excerpt (text.rest offset)
    lineText := index.lineText offset
    fatal := fatal }

def render (report : FailureReport) : String :=
  report.message ++ ", found " ++ report.found ++ " (at char " ++
    toString report.offset ++ "), (" ++ report.place.render ++ ")"

/-- The line of the failure with a marker at its column. -/
def markedLine (report : FailureReport) : String :=
  String.ofList (markLine report.lineText report.place.column ['>', '!', '<'])

/-- The line of the failure, a caret under its column, and the report on one line. -/
def explain (report : FailureReport) : String :=
  String.ofList report.lineText ++ "\n" ++
    String.ofList (caretLine report.lineText report.place.column) ++ "\n" ++ report.render

end FailureReport

end Packrat
