import Packrat.Regex.Basic

/-!
# Programs of regular expressions

A program is a table of instructions that refer to one another by their places. An instruction takes
a character, checks a condition, goes on in two ways of which the first is preferred, or accepts. A
regular expression is written into a table from its end to its start, so that it is always known
where a match goes on. A repetition with bounds is written as copies of what it repeats.
-/

set_option autoImplicit false
set_option relaxedAutoImplicit false

namespace Packrat

/-- One step of a program. -/
inductive Instruction where
  /-- Takes one character of a class. -/
  | char (accepted : CharClass) (next : Nat)
  /-- Goes on where a condition holds. -/
  | look (condition : Look) (next : Nat)
  /-- Goes on in either of two ways, the first preferred. -/
  | fork (first second : Nat)
  /-- Accepts. -/
  | accept
deriving DecidableEq, Repr

/-- A table of instructions with the place at which it starts. -/
structure Program where
  /-- The instructions. -/
  instructions : Array Instruction
  /-- The place of the first instruction. -/
  start : Nat
deriving DecidableEq, Repr

/-- The instruction at a place; outside the table there is none that goes on. -/
def Program.instruction? (program : Program) (place : Nat) : Option Instruction :=
  program.instructions[place]?

/-- Computations that add to a table of instructions. -/
abbrev Writing := StateM (Array Instruction)

namespace Writing

/-- Adds an instruction and gives its place. -/
def write (instruction : Instruction) : Writing Nat :=
  modifyGet fun table ↦ (table.size, table.push instruction)

/-- The choice between going on with an expression and leaving it. -/
def choice (greedy : Bool) (inside after : Nat) : Instruction :=
  if greedy then .fork inside after else .fork after inside

/-- Writes the same a number of times, each time in front of what has been written. `body` is given
the place at which a match goes on. -/
def copies (count : Nat) (body : Nat → Writing Nat) (next : Nat) : Writing Nat :=
  (List.replicate count ()).foldlM (fun place _ ↦ body place) next

/-- Writes a loop. `body` writes what is repeated, given the place at which an iteration ends: there
the loop is entered again or left. Gives the place of the body and that of the choice. -/
def loop (greedy : Bool) (next : Nat) (body : Nat → Writing Nat) : Writing (Nat × Nat) := do
  let turn ← write .accept
  let inside ← body turn
  modify (·.setIfInBounds turn (choice greedy inside next))
  pure (inside, turn)

/-- Writes an expression after which a match goes on at the given place, and gives the place at
which the expression starts. A repetition of any number of matches that can be empty is entered
through a choice of its own. -/
def regex (next : Nat) : Regex → Writing Nat
  | .empty => pure next
  | .char accepted => write (.char accepted next)
  | .look condition => write (.look condition next)
  | .cat first second => do
    let middle ← regex next second
    regex middle first
  | .alt first second => do
    let other ← regex next second
    let preferred ← regex next first
    write (.fork preferred other)
  | .repetition inner least (some most) greedy => do
    let optional ← copies (most - least)
      (fun place ↦ do
        let inside ← regex place inner
        write (choice greedy inside next)) next
    copies least (fun place ↦ regex place inner) optional
  | .repetition inner least none greedy => do
    let (inside, turn) ← loop greedy next fun turn ↦ regex turn inner
    if 0 < least then copies (least - 1) (fun place ↦ regex place inner) inside
    else if inner.consumes then pure turn
    else write (choice greedy inside next)
  | .group inner => regex next inner

end Writing

def Regex.program (r : Regex) : Program :=
  let (start, table) := (do
    let last ← Writing.write .accept
    Writing.regex last r).run #[]
  ⟨table, start⟩

end Packrat
