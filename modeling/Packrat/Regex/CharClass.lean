/-!
# Character classes of patterns

A `CharClass` is the set of characters that one place of a pattern accepts. It is given by inclusive
ranges of codes in increasing order with gaps between them, so that two classes with the same
members are the same. The set operations keep this form: `insertRange` joins a range with those that
it meets, and a complement consists of the gaps.
-/

set_option autoImplicit false
set_option relaxedAutoImplicit false

namespace Packrat

/-- A set of characters in a pattern. -/
structure CharClass where
  /-- Inclusive ranges of codes, in increasing order with gaps between them. -/
  ranges : List (Nat × Nat)
deriving DecidableEq, Repr

namespace CharClass

def lastCode : Nat := 0x10FFFF

/-- Adds a range to ranges in increasing order. It is joined with every range that it overlaps or
touches. -/
def insertRange (first last : Nat) : List (Nat × Nat) → List (Nat × Nat)
  | [] => [(first, last)]
  | (low, high) :: rest =>
    if last + 1 < low then (first, last) :: (low, high) :: rest
    else if high + 1 < first then (low, high) :: insertRange first last rest
    else insertRange (min first low) (max last high) rest

/-- The gaps between ranges in increasing order, from a code on. -/
def gapsFrom (first : Nat) : List (Nat × Nat) → List (Nat × Nat)
  | [] => if first ≤ lastCode then [(first, lastCode)] else []
  | (low, high) :: rest =>
    if first < low then (first, low - 1) :: gapsFrom (high + 1) rest else gapsFrom (high + 1) rest

def empty : CharClass := ⟨[]⟩

/-- The class of the codes in any of the given ranges. -/
def ofRanges (ranges : List (Nat × Nat)) : CharClass :=
  ⟨ranges.foldr (fun range found ↦ insertRange range.1 range.2 found) []⟩

def ofCodes (codes : List Nat) : CharClass := ofRanges (codes.map fun code ↦ (code, code))

/-- The class of the characters from one to another. -/
def range (first last : Char) : CharClass := ⟨[(first.toNat, last.toNat)]⟩

def single (c : Char) : CharClass := range c c

def ascii : CharClass := ⟨[(0, 127)]⟩

def containsCode (accepted : CharClass) (code : Nat) : Bool :=
  accepted.ranges.any fun range ↦ range.1 ≤ code && code ≤ range.2

def contains (accepted : CharClass) (c : Char) : Bool := accepted.containsCode c.toNat

def union (first second : CharClass) : CharClass :=
  ⟨first.ranges.foldr (fun range found ↦ insertRange range.1 range.2 found) second.ranges⟩

def complement (inner : CharClass) : CharClass := ⟨gapsFrom 0 inner.ranges⟩

def intersection (first second : CharClass) : CharClass :=
  (first.complement.union second.complement).complement

/-- The characters of the first class that are not in the second. -/
def difference (first second : CharClass) : CharClass := first.intersection second.complement

/-- The characters that are in exactly one of two classes. -/
def symmetricDifference (first second : CharClass) : CharClass :=
  (first.difference second).union (second.difference first)

/-- Whether a class holds characters of ASCII only. -/
def isAscii (accepted : CharClass) : Bool := accepted.ranges.all (·.2 < 128)

/-- The only code of a class, when it has just one. -/
def only? (accepted : CharClass) : Option Nat :=
  match accepted.ranges with
  | [(first, last)] => if first = last then some first else none
  | _ => none

end CharClass

end Packrat
