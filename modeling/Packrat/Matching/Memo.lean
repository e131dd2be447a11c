import Packrat.Grammar.Node
import Packrat.Matching.Basic
import Std.Data.HashMap

/-!
# What is remembered

Outcomes are remembered by node and offset. Those of nodes with actions are pinned: they stay for as
long as the text does, so that an action runs once at each offset. All others are forgotten together
when there are too many of them.
-/

set_option autoImplicit false
set_option relaxedAutoImplicit false

namespace Packrat

/-- A remembered outcome, with the furthest failure recorded while it was found. -/
structure Remembered where
  /-- The outcome. -/
  outcome : Except Failure Match
  /-- The furthest failure recorded on the way. -/
  furthest : Option Failure

/-- Outcomes by node and offset. -/
structure Memo where
  /-- The outcomes that may be forgotten. -/
  entries : Std.HashMap (NodeId × Nat) Remembered := {}
  /-- The outcomes that are kept. -/
  pinned : Std.HashMap (NodeId × Nat) Remembered := {}

namespace Memo

/-- The outcome remembered for a node at an offset. -/
def find? (memo : Memo) (id : NodeId) (offset : Nat) : Option Remembered :=
  (memo.pinned[(id, offset)]?).or memo.entries[(id, offset)]?

/-- Remembers an outcome for good. -/
def pin (memo : Memo) (id : NodeId) (offset : Nat) (found : Remembered) : Memo :=
  { memo with pinned := memo.pinned.insert (id, offset) found }

def isFull (memo : Memo) (capacity : Nat) : Bool := capacity ≤ memo.entries.size

/-- Forgets the outcomes that may be forgotten. -/
def forget (memo : Memo) : Memo := { memo with entries := {} }

/-- Remembers an outcome that may be forgotten. -/
def store (memo : Memo) (id : NodeId) (offset : Nat) (found : Remembered) : Memo :=
  { memo with entries := memo.entries.insert (id, offset) found }

def size (memo : Memo) : Nat := memo.entries.size + memo.pinned.size

end Memo

/-- What is counted during evaluations. -/
structure Counters where
  /-- Outcomes that were remembered. -/
  hits : Nat := 0
  /-- Outcomes that were looked up in vain. -/
  misses : Nat := 0
  /-- How often outcomes were forgotten. -/
  evictions : Nat := 0
  /-- Evaluations of nodes. -/
  evaluations : Nat := 0
deriving DecidableEq, Repr

end Packrat
