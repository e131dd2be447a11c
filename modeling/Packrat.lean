import Packrat.Text.CharSet
import Packrat.Text.Lines
import Packrat.Text.Blank
import Packrat.Text.Lowercase
import Packrat.Text.Excerpt
import Packrat.Decimal.Shortest
import Packrat.Decimal.Reading
import Packrat.Results.Dump
import Packrat.Regex.Parser
import Packrat.Terminal.Word
import Packrat.Terminal.Quoted
import Packrat.Terminal.Numeral
import Packrat.Terminal.Options
import Packrat.Terminal.Basic
import Packrat.Expr.Display
import Packrat.OperatorTable
import Packrat.Report.Error
import Packrat.Report.Suggestion
import Packrat.Grammar.Draft
import Packrat.Matching.Trace
import Packrat.Matching.Engine
import Packrat.Matching.Reading
import Packrat.Samples
import Packrat.Proofs.Grammar.Building
import Packrat.Proofs.Grammar.Arena
import Packrat.Proofs.Grammar.Nullability
import Packrat.Proofs.Grammar.Walks
import Packrat.Proofs.Grammar.Circles
import Packrat.Proofs.Grammar.LeftCalls
import Packrat.Proofs.Grammar.Lowering
import Packrat.Proofs.Grammar.Compiling
import Packrat.Proofs.Grammar.Orders
import Packrat.Proofs.Grammar.Copies
import Packrat.Proofs.Grammar.Twins
import Packrat.Proofs.Grammar.Descending
import Packrat.Proofs.Grammar.Joins
import Packrat.Proofs.Grammar.Entries
import Packrat.Proofs.Grammar.WrittenLists
import Packrat.Proofs.Grammar.LeftRecursion
import Packrat.Proofs.Matching.Correspondence
import Packrat.Proofs.Matching.Room
import Packrat.Proofs.Matching.Events
import Packrat.Proofs.Matching.Uncached
import Packrat.Proofs.Matching.Visits
import Packrat.Proofs.Matching.Deepening
import Packrat.Proofs.Matching.Memory
import Packrat.Proofs.Matching.Memoization
import Packrat.Proofs.Matching.Progress
import Packrat.Proofs.Matching.Yields
import Packrat.Proofs.Matching.Outcomes
import Packrat.Proofs.Matching.Guarded
import Packrat.Proofs.Matching.Accounts
import Packrat.Proofs.Matching.Readings
import Packrat.Proofs.Matching.Steps
import Packrat.Proofs.Matching.Reads
import Packrat.Proofs.Matching.Takes
import Packrat.Proofs.Terminal.Options
import Packrat.Proofs.Terminal.Quoted
import Packrat.Proofs.Terminal.Newlines
import Packrat.Proofs.Text.Places
import Packrat.Proofs.Text.Lines
import Packrat.Proofs.Terminal.Numerals
import Packrat.Proofs.Report.Markers
import Packrat.Proofs.Matching.Assurance
import Packrat.Proofs.Matching.Maintenance
import Packrat.Proofs.Matching.Tallies
import Packrat.Proofs.Matching.Endings
import Packrat.Proofs.Results.Uniform
import Packrat.Proofs.Matching.Kinds
import Packrat.Proofs.Matching.Agreement
import Packrat.Proofs.Matching.Rounds
import Packrat.Proofs.Matching.Unrolling
import Packrat.Proofs.Matching.Separated
import Packrat.Proofs.Matching.WrittenLists
import Packrat.Proofs.Matching.Items
import Packrat.Proofs.Matching.Emptiness
import Packrat.Proofs.Matching.Courses
import Packrat.Proofs.Matching.Flattening
import Packrat.Proofs.Matching.Contexts
import Packrat.Proofs.Session.Requests
import Packrat.Proofs.Session.Transparency
import Packrat.Proofs.Session.Depths
import Packrat.Proofs.Session.Guarantees
import Packrat.Proofs.Session.Failures
import Packrat.Proofs.Session.Meaning
import Packrat.Proofs.Operators.Trees
import Packrat.Proofs.Operators.Tables
import Packrat.Proofs.Operators.Parsing
import Packrat.Proofs.Session.Promises
import Packrat.Proofs.Session.Offsets
import Packrat.Proofs.Results.Names
import Packrat.Proofs.Session.Naming
import Packrat.Proofs.Results.Joined
import Packrat.Proofs.Results.Collected
import Packrat.Proofs.Session.Tallies
import Packrat.Proofs.Session.Verbatim
import Packrat.Proofs.Session.Reordering
import Packrat.Proofs.Session.Labels
import Packrat.Proofs.Session.Scanning
import Packrat.Proofs.Session.Spans
import Packrat.Proofs.Session.Collecting
import Packrat.Proofs.Session.Combined
import Packrat.Proofs.Matching.Regrouping
import Packrat.Proofs.Session.Terminals
import Packrat.Proofs.Grammar.Calls
import Packrat.Proofs.Results.Rendering
import Packrat.Proofs.Session.Doubles
import Packrat.Proofs.Session.Anchors
import Packrat.Proofs.Text.CharSets
import Packrat.Proofs.Report.Distances
