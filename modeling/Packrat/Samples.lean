import Packrat.Results.Dump
import Packrat.Session

/-!
# Samples

A grammar is tried on samples, one on each line of a text. Blank lines and comments are passed over.
A sample passes when it parses, or, where failures are expected, when it does not.
-/

set_option autoImplicit false
set_option relaxedAutoImplicit false

namespace Packrat

/-- How samples are tried. -/
structure SampleOptions where
  /-- Whether the whole of a sample has to match. -/
  whole : Bool := true
  /-- The character with which comments start. -/
  comment : Option Char := some '#'
  /-- Whether samples are expected to fail. -/
  failing : Bool := false
deriving DecidableEq, Repr

/-- A sample and how it went. -/
structure Sample where
  /-- The line. -/
  input : List Char
  /-- What parsing it gave. -/
  outcome : Except ParseError Results
  /-- Whether that was expected. -/
  passed : Bool

namespace Sample

/-- What parsing the sample gave, as text. -/
def outcomeText (sample : Sample) : String :=
  match sample.outcome with
  | .ok results => results.dump
  | .error (.mismatch report) =>
    (if report.lineText = sample.input then "" else String.ofList report.lineText ++ "\n") ++
      String.ofList (caretLine report.lineText report.place.column) ++ "\nParseFailure: " ++
      report.render
  | .error error => "Error: " ++ error.message

/-- The sample, what it gave, and a remark if that was not expected. -/
def report (sample : Sample) : String :=
  String.ofList sample.input ++ "\n" ++ sample.outcomeText ++
    (if sample.passed then ""
    else if sample.outcome.isOk then "\nFAIL: expected a failure"
    else "\nFAIL")

end Sample

/-- The samples of a text and how they went. -/
structure SampleRun where
  /-- The samples in order. -/
  samples : List Sample

namespace SampleRun

/-- The lines that are samples, without the blanks around them. -/
def sampleLines (options : SampleOptions) (chars : List Char) : List (List Char) :=
  ((lines chars).map trimBlanks).filter fun line ↦
    !line.isEmpty && !options.comment.any fun c ↦ line.head? == some c

def tryLine (grammar : Grammar) (options : SampleOptions) (line : List Char) : Sample :=
  let outcome := grammar.parse (.ofChars line) options.whole
  { input := line, outcome := outcome, passed := outcome.isOk != options.failing }

def ofText (grammar : Grammar) (options : SampleOptions) (chars : List Char) : SampleRun :=
  ⟨(sampleLines options chars).map (tryLine grammar options)⟩

def allPassed (run : SampleRun) : Bool := run.samples.all Sample.passed

def failures (run : SampleRun) : List Sample := run.samples.filter fun sample ↦ !sample.passed

def render (run : SampleRun) : String :=
  String.join (run.samples.map fun sample ↦ sample.report ++ "\n\n")

/-- What to complain about when not every sample passed. -/
def complaint? (run : SampleRun) : Option String :=
  if run.allPassed then none
  else
    some (toString run.failures.length ++ " test case(s) failed:\n\n" ++
      "\n\n".intercalate (run.failures.map Sample.report))

end SampleRun

end Packrat
